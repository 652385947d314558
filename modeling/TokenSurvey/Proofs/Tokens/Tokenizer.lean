import TokenSurvey.Proofs.Tokens.Merging
import TokenSurvey.Proofs.Tokens.Splitting
import TokenSurvey.Tokens.Tokenizer

/-! The tokens of a text are those of its pieces; where the splitting passes over nothing, they spell
the whole text, so that there are no more of them than bytes. -/
namespace TokenSurvey.Tokens

theorem length_encodeText (text : String) :
    (encodeText text.toList).length = text.utf8ByteSize := by
  have whole : (encodeText text.toList).toByteArray = text.toByteArray := String.utf8Encode_toList
  rw [← String.size_toByteArray, ← whole, List.size_toByteArray]

theorem encodeText_append (s t : List Char) : encodeText (s ++ t) = encodeText s ++ encodeText t :=
  List.flatMap_append

theorem encodeText_ne_nil {s : List Char} (h : s ≠ []) : encodeText s ≠ [] := by
  obtain ⟨c, s, rfl⟩ := List.exists_cons_of_ne_nil h
  exact List.append_ne_nil_of_left_ne_nil String.utf8EncodeChar_ne_nil (encodeText s)

namespace Tokenizer

variable {t : Tokenizer}

def tokens (t : Tokenizer) (text : String) : List Bytes :=
  (t.splitting.pieces text.toList).flatMap fun piece => pieceTokens t.vocabulary (encodeText piece)

theorem count_eq (t : Tokenizer) (text : String) : t.count text = (t.tokens text).length := by
  rw [count, tokens]
  induction t.splitting.pieces text.toList with
  | nil => rfl
  | cons piece pieces ih =>
    rw [List.foldr_cons, List.flatMap_cons, List.length_append, ih, pieceCount_eq]

theorem spells_flatMap (v : Vocabulary) (pieces : List (List Char))
    (h : ∀ piece ∈ pieces, piece ≠ []) :
    Spells v (encodeText pieces.flatten)
      (pieces.flatMap fun piece => pieceTokens v (encodeText piece)) := by
  induction pieces with
  | nil => exact .nil
  | cons piece pieces ih =>
    rw [List.flatten_cons, List.flatMap_cons, encodeText_append]
    have first := spells_pieceTokens (v := v) (encodeText_ne_nil (h piece (by simp)))
    exact first.append (ih fun other hother => h other (by simp [hother]))

theorem spells_tokens (h : t.splitting.Covers) (text : String) :
    Spells t.vocabulary (encodeText text.toList) (t.tokens text) := by
  have spells := spells_flatMap t.vocabulary (t.splitting.pieces text.toList)
    fun piece => Pattern.ne_nil_of_mem_pieces
  rwa [h.flatten_pieces] at spells

theorem count_le (h : t.splitting.Covers) (text : String) : t.count text ≤ text.utf8ByteSize := by
  rw [count_eq, ← length_encodeText]
  exact (spells_tokens h text).length_le

theorem count_eq_zero_iff (h : t.splitting.Covers) (text : String) :
    t.count text = 0 ↔ text = "" := by
  rw [count_eq, List.length_eq_zero_iff, (spells_tokens h text).eq_nil_iff,
    ← List.length_eq_zero_iff, length_encodeText, String.utf8ByteSize_eq_zero_iff]

end Tokenizer
end TokenSurvey.Tokens
