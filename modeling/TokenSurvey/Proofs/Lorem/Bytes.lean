import TokenSurvey.Proofs.Lorem.Words
import TokenSurvey.Proofs.Tokens.Tokenizer

/-! Each character of a text is a single byte, so that a text has as many bytes as characters. -/
namespace TokenSurvey.Lorem

open TokenSurvey.Random (Source)
open Tokens (encodeText length_encodeText)

variable {n : Nat} {s : Source} {c : Char}

theorem utf8Size_of_mem_corpus {w : String} (hw : w ∈ corpus) (hc : c ∈ w.toList) :
    c.utf8Size = 1 := by
  have all : corpus.all (fun w => w.toList.all fun c => c.utf8Size == 1) = true := by decide +kernel
  exact eq_of_beq (List.all_eq_true.mp (List.all_eq_true.mp all w hw) c hc)

theorem utf8Size_of_mem_chunk (h : c ∈ (chunk s).1) : c.utf8Size = 1 := by
  obtain rfl | h := List.mem_cons.mp h
  · decide
  · exact utf8Size_of_mem_corpus (List.getElem_mem _) h

theorem utf8Size_of_mem_run (h : c ∈ (run n s).1) : c.utf8Size = 1 := by
  fun_induction run n s with
  | case1 => cases h
  | case2 n s _ next rest ih =>
    obtain h | h := List.mem_append.mp h
    · exact utf8Size_of_mem_chunk (List.mem_of_mem_take h)
    · exact ih h

theorem utf8ByteSize_eq_length {text : String} (h : ∀ c ∈ text.toList, c.utf8Size = 1) :
    text.utf8ByteSize = text.length := by
  rw [← length_encodeText, ← String.length_toList]
  generalize text.toList = t at h
  induction t with
  | nil => rfl
  | cons c t ih =>
    have single : (String.utf8EncodeChar c).length = 1 := by
      rw [String.length_utf8EncodeChar, h c (by simp)]
    rw [encodeText, List.flatMap_cons, List.length_append, single, List.length_cons, Nat.add_comm]
    exact congrArg (· + 1) (ih fun d hd => h d (by simp [hd]))

theorem utf8ByteSize_text (hn : n ≠ 0) (s : Source) : (text n s).1.utf8ByteSize = n := by
  rw [utf8ByteSize_eq_length, length_text hn]
  intro c hc
  rw [toList_text] at hc
  exact utf8Size_of_mem_run (List.mem_of_mem_tail hc)

end TokenSurvey.Lorem
