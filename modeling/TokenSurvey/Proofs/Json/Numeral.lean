import TokenSurvey.Json.Float
import TokenSurvey.Proofs.Json.Grammar

/-! A text is read as a number if and only if the number can be written as that text. -/
namespace TokenSurvey.Json

open Lexeme
open Text (Gapped)

theorem digitChar_eq_ofNat (d : Fin 10) : Nat.digitChar d.val = Char.ofNat (d.val + 48) := by
  revert d
  decide

theorem digit?_digitChar (d : Fin 10) : digit? (some (Nat.digitChar d.val)) = some d := by
  revert d
  decide

theorem eq_digitChar_of_digit? {c : Option Char} {d : Fin 10} (h : digit? c = some d) :
    c = some (Nat.digitChar d.val) := by
  cases c with
  | none => simp [digit?] at h
  | some c =>
    rw [digit?] at h
    split at h
    · next range =>
      obtain rfl := Option.some.inj h
      rw [digitChar_eq_ofNat]
      simp only [Nat.sub_add_cancel range.1, Char.ofNat_toNat]
    · cases h

/-- A text begins with no digit. -/
def NoDigit (s : Gapped) : Prop := ∀ c ∈ s.head?, digit? c = none

theorem noDigit_nil : NoDigit [] := by simp [NoDigit]

/-- Digits are read up to what is none. -/
theorem readDigits_append (ds : List (Fin 10)) {rest : Gapped} (h : NoDigit rest) :
    readDigits (digits ds ++ rest) = (ds, rest) := by
  induction ds with
  | nil =>
    cases rest with
    | nil => rfl
    | cons c rest => simp [digits, readDigits, h c rfl]
  | cons d ds ih =>
    rw [digits, List.map_cons, List.cons_append, readDigits, digit?_digitChar, ← digits, ih]

theorem readDigits_eq_iff {s rest : Gapped} {ds : List (Fin 10)} :
    readDigits s = (ds, rest) ↔ s = digits ds ++ rest ∧ NoDigit rest := by
  constructor
  · intro h
    fun_induction readDigits s generalizing ds with
    | case1 =>
      obtain ⟨rfl, rfl⟩ := Prod.mk.inj h
      exact ⟨rfl, noDigit_nil⟩
    | case2 c s d hd ih =>
      obtain ⟨rfl, rfl⟩ := Prod.mk.inj h
      obtain ⟨hs, stop⟩ := ih rfl
      exact ⟨congrArg₂ List.cons (eq_digitChar_of_digit? hd) hs, stop⟩
    | case3 c s hc =>
      obtain ⟨rfl, rfl⟩ := Prod.mk.inj h
      exact ⟨rfl, by simpa [NoDigit] using hc⟩
  · rintro ⟨rfl, stop⟩
    exact readDigits_append ds stop

theorem digitsOf_eq (n : Nat) : (digitsOf n).map some = digits (digitValues n) := by
  induction n using digitValues.induct with
  | case1 n h =>
    rw [digitValues, dif_pos h, digitsOf, Nat.toDigits_of_lt_base h]
    rfl
  | case2 n h ih =>
    rw [digitsOf] at ih
    rw [digitValues, dif_neg h, digitsOf, Nat.toDigits_of_base_le (by decide) (by omega),
      List.map_append, ih]
    simp [digits]

theorem ofDigits_digitValues (n : Nat) : ofDigits (digitValues n) = n := by
  induction n using digitValues.induct with
  | case1 n h => simp [digitValues, h, ofDigits]
  | case2 n h ih =>
    rw [ofDigits] at ih
    rw [digitValues, dif_neg h, ofDigits, List.foldl_append, ih]
    simp only [List.foldl_cons, List.foldl_nil]
    omega

/-- Only zero begins with the digit zero. -/
theorem digitValues_eq_cons (n : Nat) :
    ∃ d ds, digitValues n = d :: ds ∧ (d.val = 0 → n = 0) := by
  induction n using digitValues.induct with
  | case1 n h => exact ⟨⟨n, h⟩, [], by rw [digitValues, dif_pos h], id⟩
  | case2 n h ih =>
    obtain ⟨d, ds, heq, hzero⟩ := ih
    refine ⟨d, ds ++ [⟨n % 10, Nat.mod_lt n (by decide)⟩], ?_, ?_⟩
    · rw [digitValues, dif_neg h, heq, List.cons_append]
    · intro hd
      have := hzero hd
      omega

theorem whole?_digitValues (n : Nat) : whole? (digitValues n) = some n := by
  obtain ⟨d, ds, heq, hzero⟩ := digitValues_eq_cons n
  have value := ofDigits_digitValues n
  rw [heq] at value ⊢
  cases ds with
  | nil => simpa [whole?, ofDigits] using value
  | cons e ds =>
    have hd : d.val ≠ 0 := by
      intro hd
      rw [hzero hd] at heq
      simp [digitValues] at heq
    rw [whole?, if_neg hd, value]
    simp

/-- Digits whose first is not zero are those of the number that they make. -/
theorem digitValues_ofDigits {d : Fin 10} (hd : d.val ≠ 0) (ds : List (Fin 10)) :
    0 < ofDigits (d :: ds) ∧ digitValues (ofDigits (d :: ds)) = d :: ds := by
  induction ds using List.reverseRecOn with
  | nil =>
    have value : ofDigits [d] = d.val := by simp [ofDigits]
    rw [value, digitValues, dif_pos d.isLt]
    exact ⟨by omega, rfl⟩
  | append_singleton ds e ih =>
    have value : ofDigits (d :: (ds ++ [e])) = ofDigits (d :: ds) * 10 + e.val := by
      simp [ofDigits, List.foldl_append]
    obtain ⟨positive, digits⟩ := ih
    have whole : (ofDigits (d :: ds) * 10 + e.val) / 10 = ofDigits (d :: ds) := by omega
    have last : (ofDigits (d :: ds) * 10 + e.val) % 10 = e.val := by omega
    rw [value, digitValues, dif_neg (by omega)]
    simp only [whole, last, digits]
    exact ⟨by omega, rfl⟩

/-- A whole part has one row of digits. -/
theorem whole?_eq_some_iff {ds : List (Fin 10)} {n : Nat} :
    whole? ds = some n ↔ ds = digitValues n := by
  constructor
  · intro h
    match ds with
    | [] => cases h
    | [d] =>
      obtain rfl := Option.some.inj h
      rw [digitValues, dif_pos d.isLt]
    | d :: e :: ds =>
      simp only [whole?] at h
      split at h
      · cases h
      · next hd =>
        obtain rfl := Option.some.inj h
        exact (digitValues_ofDigits hd _).2.symm
  · rintro rfl
    exact whole?_digitValues n

theorem noDigit_of_power {s : Gapped} {e : Option Int} (h : Power s e) : NoDigit s := by
  cases h with
  | none => exact noDigit_nil
  | some mark _ =>
    rcases mark with rfl | rfl <;> simp [NoDigit, digit?]

theorem noDigit_fraction (ds : List (Fin 10)) {rest : Gapped} (h : NoDigit rest) :
    NoDigit (fractionText ds ++ rest) := by
  rw [fractionText]
  split
  · exact h
  · simp [NoDigit, digit?]

theorem eq_of_readFraction {s rest : Gapped} {ds : List (Fin 10)}
    (h : readFraction s = some (ds, rest)) : s = fractionText ds ++ rest := by
  rw [readFraction.eq_def] at h
  split at h
  · next s =>
    split at h
    · cases h
    · next some =>
      obtain ⟨hs, -⟩ := readDigits_eq_iff.mp (Option.some.inj h)
      have read := Option.some.inj h
      rw [read] at some
      rw [fractionText, if_neg some, hs]
      rfl
  · obtain ⟨rfl, rfl⟩ := Prod.mk.inj (Option.some.inj h)
    rfl

theorem readFraction_of_power {power : Gapped} {e : Option Int} (h : Power power e)
    (ds : List (Fin 10)) : readFraction (fractionText ds ++ power) = some (ds, power) := by
  rw [fractionText]
  split
  · next none =>
    subst none
    cases h with
    | none => rfl
    | some mark _ =>
      rcases mark with rfl | rfl <;> rfl
  · next some =>
    rw [List.cons_append, readFraction, readDigits_append ds (noDigit_of_power h), if_neg some]

theorem power?_eq_some_iff {s : Gapped} {n : Nat} :
    power? s = some n ↔ ∃ ds ≠ [], s = digits ds ∧ ofDigits ds = n := by
  rw [power?]
  constructor
  · intro h
    split at h
    · next d ds hs =>
      obtain ⟨rfl, -⟩ := readDigits_eq_iff.mp hs
      exact ⟨d :: ds, by simp, by simp, Option.some.inj h⟩
    · cases h
  · rintro ⟨ds, some, rfl, rfl⟩
    obtain ⟨d, ds, rfl⟩ := List.exists_cons_of_ne_nil some
    have read := readDigits_append (d :: ds) noDigit_nil
    rw [List.append_nil] at read
    rw [read]

theorem digitChar_ne_sign (d : Fin 10) : Nat.digitChar d.val ≠ '-' ∧ Nat.digitChar d.val ≠ '+' := by
  revert d
  decide

theorem exponent?_eq_some_iff {s : Gapped} {e : Option Int} :
    exponent? s = some e ↔ Power s e := by
  constructor
  · intro h
    fun_cases exponent? s
    case case1 =>
      obtain rfl := Option.some.inj h
      exact .none
    case case8 => simp [exponent?] at h
    all_goals
      simp only [exponent?] at h
      obtain ⟨k, hk, rfl⟩ := Option.map_eq_some_iff.mp h
      obtain ⟨n, hn, hk⟩ := Option.bind_eq_some_iff.mp hk
      obtain rfl := Option.some.inj hk
      obtain ⟨ds, some, rfl, rfl⟩ := power?_eq_some_iff.mp hn
    · exact .some (by simp) (.minus some)
    · exact .some (by simp) (.plus some)
    · exact .some (by simp) (.plain some)
    · exact .some (by simp) (.minus some)
    · exact .some (by simp) (.plus some)
    · exact .some (by simp) (.plain some)
  · intro h
    cases h with
    | none => rfl
    | some mark h =>
      have value {ds : List (Fin 10)} (some : ds ≠ []) : power? (digits ds) = .some (ofDigits ds) :=
        power?_eq_some_iff.mpr ⟨ds, some, rfl, rfl⟩
      rcases mark with rfl | rfl
      all_goals
        cases h with
        | plus some | minus some => simp [exponent?, value some]
        | plain some =>
          obtain ⟨d, ds, rfl⟩ := List.exists_cons_of_ne_nil some
          have sign := digitChar_ne_sign d
          simp only [exponent?]
          split
          · next heq => exact absurd (Option.some.inj (List.cons.inj heq).1) sign.1
          · next heq => exact absurd (Option.some.inj (List.cons.inj heq).1) sign.2
          · rw [value some]
            rfl

theorem unsigned?_eq_some_iff {negative : Bool} {s : Gapped} {n : Number} :
    unsigned? negative s = some n ↔ n.negative = negative ∧ s ∈ unsigned n := by
  simp only [unsigned?, Option.bind_eq_bind, Option.bind_eq_some_iff, Option.pure_def,
    whole?_eq_some_iff, exponent?_eq_some_iff]
  constructor
  · rintro ⟨whole, hwhole, ⟨fraction, rest⟩, hfraction, exponent, hexponent, h⟩
    obtain rfl := Option.some.inj h
    have read : readDigits s = (digitValues whole, (readDigits s).2) := Prod.ext hwhole rfl
    have hs := (readDigits_eq_iff.mp read).1
    rw [eq_of_readFraction hfraction, ← digitsOf_eq] at hs
    exact ⟨rfl, rest, hexponent, hs⟩
  · rintro ⟨rfl, power, hpower, rfl⟩
    have read := readDigits_append (digitValues n.whole)
      (noDigit_fraction n.fraction (noDigit_of_power hpower))
    rw [digitsOf_eq, read]
    exact ⟨_, rfl, _, readFraction_of_power hpower _, _, hpower, rfl⟩

theorem exists_eq_digit {n : Number} {s : Gapped} (h : s ∈ unsigned n) :
    ∃ (d : Fin 10) (rest : Gapped), s = some (Nat.digitChar d.val) :: rest := by
  obtain ⟨power, -, rfl⟩ := h
  obtain ⟨d, ds, heq, -⟩ := digitValues_eq_cons n.whole
  rw [digitsOf_eq, heq]
  exact ⟨d, _, rfl⟩

theorem number?_eq_some_iff {s : Gapped} {n : Number} : number? s = some n ↔ s ∈ numbers n := by
  constructor
  · intro h
    fun_cases number? s
    · obtain ⟨negative, hu⟩ := unsigned?_eq_some_iff.mp h
      exact ⟨_, hu, by rw [negative]; rfl⟩
    · next plain =>
      rw [number?.eq_2 _ plain] at h
      obtain ⟨negative, hu⟩ := unsigned?_eq_some_iff.mp h
      exact ⟨_, hu, by rw [negative]; rfl⟩
  · rintro ⟨u, hu, rfl⟩
    cases negative : n.negative with
    | true => exact unsigned?_eq_some_iff.mpr ⟨negative, hu⟩
    | false =>
      have read := unsigned?_eq_some_iff.mpr ⟨negative, hu⟩
      obtain ⟨d, rest, rfl⟩ := exists_eq_digit hu
      have sign := digitChar_ne_sign d
      simpa [number?, sign] using read

theorem isNumeral_of_mem_digits {ds : List (Fin 10)} {c : Option Char} (h : c ∈ digits ds) :
    isNumeral c = true := by
  obtain ⟨d, -, rfl⟩ := List.mem_map.mp h
  rw [isNumeral, digit?_digitChar]
  rfl

theorem isNumeral_of_power {s : Gapped} {e : Option Int} (h : Power s e) :
    ∀ c ∈ s, isNumeral c = true := by
  cases h with
  | none => simp
  | some mark h =>
    refine List.forall_mem_cons.mpr ⟨?_, ?_⟩
    · rcases mark with rfl | rfl <;> rfl
    · cases h with
      | plain => exact fun c => isNumeral_of_mem_digits
      | plus | minus =>
        exact List.forall_mem_cons.mpr ⟨by decide, fun c => isNumeral_of_mem_digits⟩

theorem isNumeral_of_mem_unsigned {n : Number} {s : Gapped} (h : s ∈ unsigned n) :
    ∀ c ∈ s, isNumeral c = true := by
  obtain ⟨power, hpower, rfl⟩ := h
  rw [digitsOf_eq, fractionText]
  simp only [List.forall_mem_append]
  refine ⟨fun c => isNumeral_of_mem_digits, ?_, isNumeral_of_power hpower⟩
  split
  · simp
  · exact List.forall_mem_cons.mpr ⟨by decide, fun c => isNumeral_of_mem_digits⟩

/-- A number is written in characters of numbers, at least one. -/
theorem exists_eq_cons_of_mem_numbers {n : Number} {s : Gapped} (h : s ∈ numbers n) :
    ∃ c t, s = c :: t ∧ isNumeral c = true ∧ ∀ d ∈ t, isNumeral d = true := by
  obtain ⟨u, hu, rfl⟩ := h
  have all := isNumeral_of_mem_unsigned hu
  split
  · exact ⟨_, u, rfl, by decide, all⟩
  · obtain ⟨d, rest, rfl⟩ := exists_eq_digit hu
    exact ⟨_, rest, rfl, List.forall_mem_cons.mp all⟩

theorem power_exponentText (e : Option Int) : Power ((Number.exponentText e).map some) e := by
  cases e with
  | none => exact .none
  | some e =>
    obtain ⟨d, ds, heq, -⟩ := digitValues_eq_cons e.natAbs
    have some : digitValues e.natAbs ≠ [] := by simp [heq]
    have value := ofDigits_digitValues e.natAbs
    rw [Number.exponentText, List.map_cons, List.map_cons, digitsOf_eq]
    refine .some (by simp) ?_
    by_cases he : e < 0
    · have signed := Signed.minus some
      have size : -(e.natAbs : Int) = e := by omega
      rw [value, size] at signed
      rwa [if_pos he]
    · have signed := Signed.plus some
      have size : (e.natAbs : Int) = e := by omega
      rw [value, size] at signed
      rwa [if_neg he]

theorem show_mem_numbers (n : Number) : n.show.map some ∈ numbers n := by
  refine ⟨_, ⟨_, power_exponentText n.exponent, rfl⟩, ?_⟩
  rw [Number.show, fractionText, digits]
  split <;> split <;> simp

end TokenSurvey.Json
