import TokenSurvey.Proofs.Tokens.Matching
import TokenSurvey.Tokens.Splitting

/-! The splittings of all encodings pass over no character: whatever is neither space nor letter nor
number is a mark, and for each of the four kinds there is a part that takes it alone. -/
namespace TokenSurvey.Tokens.Splitting

open Pattern Unicode

variable {c : Char} {rest : List Char}

theorem kinds (c : Char) : isSpace c ∨ isLetter c ∨ isNumber c ∨ isMark c := by
  cases hs : isSpace c with
  | true => exact .inl rfl
  | false =>
    cases hl : isLetter c with
    | true => exact .inr (.inl rfl)
    | false =>
      cases hn : isNumber c with
      | true => exact .inr (.inr (.inl rfl))
      | false => exact .inr (.inr (.inr (by simp [isMark, hs, hl, hn])))

/-- A letter may stand among the capitals of a word or among its small letters. -/
theorem isCapital_or_isSmall (h : isLetter c) : isCapital c ∨ isSmall c := by
  rw [isLetter] at h
  split at h
  · next upper => exact .inl (by simp [isCapital, upper])
  · next lower => exact .inr (by simp [isSmall, lower])
  · next uncased => exact .inr (by simp [isSmall, uncased])
  · cases h

/-- What may stand in front may be missing. -/
theorem takes_led (lead : Pattern) {p : Char → Bool} (h : p c) :
    Takes (seq (optional lead) (several p)) [c] rest :=
  .seq .absent (takes_several h)

theorem takes_marks (lead : Pattern) (p : Char → Bool) (h : isMark c) :
    Takes (seq (optional lead) (seq (several isMark) (many p))) [c] rest :=
  .seq .absent (.seq (takes_several h) (.many nofun))

theorem takes_upToThreeNumbers (h : isNumber c) : Takes upToThreeNumbers [c] rest :=
  .seq (.one h) .absent

theorem takes_casedWord_small (h : isSmall c) :
    Takes (casedWord (many isCapital) (several isSmall)) [c] rest :=
  .seq .absent (.seq (.many (t := []) nofun) (.seq (takes_several h) .absent))

theorem takes_casedWord_capital (h : isCapital c) :
    Takes (casedWord (several isCapital) (many isSmall)) [c] rest :=
  .seq .absent (.seq (takes_several h) (.seq (.many (t := []) nofun) .absent))

theorem covers_cl100k : cl100k.Covers where
  fewest_pos := by decide
  takes_first c rest := by
    obtain h | h | h | h := kinds c
    · exact takes_choice (by simp [spaces]) (takes_several h)
    · exact takes_choice (by simp) (takes_led (one leadsWord) h)
    · exact takes_choice (by simp) (takes_upToThreeNumbers h)
    · exact takes_choice (by simp) (takes_marks (literal ' ') isBreak h)

theorem covers_o200k : o200k.Covers where
  fewest_pos := by decide
  takes_first c rest := by
    obtain h | h | h | h := kinds c
    · exact takes_choice (by simp [spaces]) (takes_several h)
    · obtain h | h := isCapital_or_isSmall h
      · exact takes_choice (by simp) (takes_casedWord_capital h)
      · exact takes_choice (by simp) (takes_casedWord_small h)
    · exact takes_choice (by simp) (takes_upToThreeNumbers h)
    · exact takes_choice (by simp) (takes_marks (literal ' ') (fun c => isBreak c || c = '/') h)

theorem covers_p50k : p50k.Covers where
  fewest_pos := by decide
  takes_first c rest := by
    obtain h | h | h | h := kinds c
    · exact takes_choice (by simp) (takes_several h)
    · exact takes_choice (by simp) (takes_led (literal ' ') h)
    · exact takes_choice (by simp) (takes_led (literal ' ') h)
    · exact takes_choice (by simp) (takes_led (literal ' ') h)

end TokenSurvey.Tokens.Splitting
