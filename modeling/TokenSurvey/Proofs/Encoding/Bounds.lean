import TokenSurvey.Encoding.Models
import TokenSurvey.Proofs.Tokens.Tokenizer

/-! Every encoding counts nothing for the empty text alone, and no more tokens than bytes. -/
namespace TokenSurvey

open Tokens (Tokenizer)

namespace Encoding

theorem covers_of_tokenizer? {e : Encoding} {t : Tokenizer} (h : e.tokenizer? = some t) :
    t.splitting.Covers := by
  cases e with
  | cl100k =>
    obtain rfl := Option.some.inj h
    exact Tokens.Splitting.covers_cl100k
  | o200k =>
    obtain rfl := Option.some.inj h
    exact Tokens.Splitting.covers_o200k
  | p50k | p50kEdit | r50k =>
    obtain rfl := Option.some.inj h
    exact Tokens.Splitting.covers_p50k
  | heuristic => cases h

theorem heuristicCount_le (text : String) : heuristicCount text ≤ text.utf8ByteSize := by
  rw [heuristicCount]
  omega

theorem heuristicCount_eq_zero_iff (text : String) : heuristicCount text = 0 ↔ text = "" := by
  rw [← String.utf8ByteSize_eq_zero_iff, heuristicCount]
  omega

theorem count_le (e : Encoding) (text : String) : e.count text ≤ text.utf8ByteSize := by
  rw [count]
  split
  · exact Tokenizer.count_le (covers_of_tokenizer? ‹_›) text
  · exact heuristicCount_le text

theorem count_eq_zero_iff (e : Encoding) (text : String) : e.count text = 0 ↔ text = "" := by
  rw [count]
  split
  · exact Tokenizer.count_eq_zero_iff (covers_of_tokenizer? ‹_›) text
  · exact heuristicCount_eq_zero_iff text

theorem count_pos (e : Encoding) {text : String} (h : text.utf8ByteSize ≠ 0) :
    1 ≤ e.count text := by
  apply Nat.pos_of_ne_zero
  intro none
  exact h (String.utf8ByteSize_eq_zero_iff.mpr ((e.count_eq_zero_iff text).mp none))

end Encoding
end TokenSurvey
