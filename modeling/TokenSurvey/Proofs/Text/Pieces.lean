import TokenSurvey.Text.Pieces
import TokenSurvey.Unicode.Class

/-! Texts in pieces, and pieces without the white space around them. -/
namespace TokenSurvey

theorem Text.pieces_eq_splitOn (separator : Char) (s : List Char) :
    pieces separator s = s.splitOn separator := by
  induction s with
  | nil => rw [pieces, List.splitOn_nil]
  | cons c s ih =>
    rw [pieces, ih, List.splitOn_cons_eq_if_modifyHead]
    cases h : s.splitOn separator with
    | nil => exact absurd h (List.splitOn_ne_nil separator s)
    | cons first others => simp

namespace Unicode

variable {a b s : List Char}

theorem trimLeft_append (h : ∀ c ∈ a, isSpace c) (s : List Char) : trimLeft (a ++ s) = trimLeft s :=
  List.dropWhile_append_of_pos h

theorem trimLeft_of_visible (h : ∀ c ∈ s, isSpace c = false) : trimLeft s = s := by
  cases s with
  | nil => rfl
  | cons c s => simp [trimLeft, h c List.mem_cons_self]

/-- White space around a text without any is taken away. -/
theorem trim_padded (ha : ∀ c ∈ a, isSpace c) (hs : ∀ c ∈ s, isSpace c = false)
    (hb : ∀ c ∈ b, isSpace c) : trim (a ++ s ++ b) = s := by
  have right : ∀ c ∈ b.reverse, isSpace c := by simpa using hb
  have middle : ∀ c ∈ s.reverse, isSpace c = false := by simpa using hs
  rw [trim, List.append_assoc, trimLeft_append ha]
  cases s with
  | nil =>
    have nothing : trimLeft b = [] := by simpa [trimLeft] using trimLeft_append hb []
    rw [List.nil_append, nothing]
    rfl
  | cons c s =>
    have left : trimLeft (c :: s ++ b) = c :: s ++ b := by
      simp [trimLeft, hs c List.mem_cons_self]
    rw [left, List.reverse_append, trimLeft_append right, trimLeft_of_visible middle,
      List.reverse_reverse]

end Unicode
end TokenSurvey
