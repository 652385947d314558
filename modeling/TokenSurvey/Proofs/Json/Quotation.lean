import TokenSurvey.Proofs.Json.Grammar

/-! A text in quotes is read piece by piece, and its pieces make the text that is written so. -/
namespace TokenSurvey.Json

open Lexeme
open Text (Gapped)

theorem hexDigit?_of_hex {c : Option Char} {d : Nat} (h : Hex c d) : hexDigit? c = some d := by
  have lower : ∀ d : Fin 16, hexDigit? (some (Nat.digitChar d.val)) = some d.val := by decide
  have upper : ∀ d : Fin 16, hexDigit? (some (Nat.digitChar d.val).toUpper) = some d.val := by decide
  cases h with
  | lower hd => exact lower ⟨_, hd⟩
  | upper hd => exact upper ⟨_, hd⟩

theorem hexDigit?_eq_some_iff {c : Option Char} {d : Nat} : hexDigit? c = some d ↔ Hex c d := by
  refine ⟨fun h => ?_, hexDigit?_of_hex⟩
  have digit : ∀ d : Fin 10, Char.ofNat (d.val + 48) = Nat.digitChar d.val := by decide
  have lower : ∀ d : Fin 6, Char.ofNat (d.val + 97) = Nat.digitChar (d.val + 10) := by decide
  have upper : ∀ d : Fin 6, Char.ofNat (d.val + 65) = (Nat.digitChar (d.val + 10)).toUpper := by
    decide
  cases c with
  | none => cases h
  | some c =>
    rw [hexDigit?] at h
    split at h
    · next range =>
      obtain ⟨low, high⟩ : 48 ≤ c.toNat ∧ c.toNat ≤ 57 := Char.isDigit_iff_toNat.mp range
      obtain ⟨k, hk⟩ := Nat.exists_eq_add_of_le' low
      have name := digit ⟨k, by omega⟩
      rw [← hk, Char.ofNat_toNat] at name
      obtain rfl : k = d := by simpa [hk] using h
      exact name ▸ Hex.lower (by omega)
    split at h
    · next range =>
      obtain ⟨low, high⟩ : 97 ≤ c.toNat ∧ c.toNat ≤ 102 := range
      obtain ⟨k, hk⟩ := Nat.exists_eq_add_of_le' low
      have name := lower ⟨k, by omega⟩
      rw [← hk, Char.ofNat_toNat] at name
      obtain rfl : k + 10 = d := by simpa [hk] using h
      exact name ▸ Hex.lower (by omega)
    split at h
    · next range =>
      obtain ⟨low, high⟩ : 65 ≤ c.toNat ∧ c.toNat ≤ 70 := range
      obtain ⟨k, hk⟩ := Nat.exists_eq_add_of_le' low
      have name := upper ⟨k, by omega⟩
      rw [← hk, Char.ofNat_toNat] at name
      obtain rfl : k + 10 = d := by simpa [hk] using h
      exact name ▸ Hex.upper (by omega)
    · cases h

theorem unit?_eq_some_iff {a b c d : Option Char} {code : Nat} :
    unit? a b c d = some code ↔ UnitEscape [some '\\', some 'u', a, b, c, d] code := by
  simp only [unit?, Option.bind_eq_bind, Option.bind_eq_some_iff, Option.pure_def,
    hexDigit?_eq_some_iff]
  constructor
  · rintro ⟨i, hi, j, hj, k, hk, l, hl, h⟩
    obtain rfl := Option.some.inj h
    exact .mk hi hj hk hl
  · rintro ⟨hi, hj, hk, hl⟩
    exact ⟨_, hi, _, hj, _, hk, _, hl, rfl⟩

theorem simpleEscape?_eq_some_iff {e : Option Char} {c : Char} :
    simpleEscape? e = some c ↔ ∃ letter, e = some letter ∧ (letter, c) ∈ letters := by
  constructor
  · intro h
    fun_cases simpleEscape? e <;> simp_all [simpleEscape?, letters, eq_comm]
  · rintro ⟨letter, rfl, h⟩
    simp only [letters, List.mem_cons, Prod.mk.injEq, List.not_mem_nil, or_false] at h
    rcases h with ⟨rfl, rfl⟩ | ⟨rfl, rfl⟩ | ⟨rfl, rfl⟩ | ⟨rfl, rfl⟩ | ⟨rfl, rfl⟩ | ⟨rfl, rfl⟩ |
      ⟨rfl, rfl⟩ | ⟨rfl, rfl⟩ <;> rfl

/-- The pieces that a text is made of. -/
inductive Spells : Gapped → List Piece → Prop
  | nil : Spells [] []
  | char {c : Option Char} {s : Gapped} {ps : List Piece} : c ≠ some '"' → c ≠ some '\\' →
      (∀ d ∈ c, 0x20 ≤ d.toNat) → Spells s ps → Spells (c :: s) (.char c :: ps)
  | letter {e c : Char} {s : Gapped} {ps : List Piece} : (e, c) ∈ letters → Spells s ps →
      Spells (some '\\' :: some e :: s) (.char (some c) :: ps)
  | unit {u s : Gapped} {code : Nat} {ps : List Piece} : UnitEscape u code → Spells s ps →
      Spells (u ++ s) (.unit code :: ps)

theorem putPiece_eq_some_iff {p : Option Piece} {r : Option (List Piece × Gapped)}
    {ps : List Piece} {rest : Gapped} : putPiece p r = some (ps, rest) ↔
      ∃ q qs, p = some q ∧ r = some (qs, rest) ∧ ps = q :: qs := by
  cases p <;> cases r <;> simp [putPiece, Prod.ext_iff, and_comm, eq_comm]

theorem readPieces_eq_some_iff {s rest : Gapped} {ps : List Piece} :
    readPieces s = some (ps, rest) ↔ ∃ u, Spells u ps ∧ s = u ++ some '"' :: rest := by
  constructor
  · intro h
    fun_induction readPieces s generalizing ps with
    | case1 => cases h
    | case2 s =>
      obtain ⟨rfl, rfl⟩ := Prod.mk.inj (Option.some.inj h)
      exact ⟨[], .nil, rfl⟩
    | case3 a b c d s ih =>
      obtain ⟨q, qs, hq, hs, rfl⟩ := putPiece_eq_some_iff.mp h
      obtain ⟨code, hcode, rfl⟩ := Option.map_eq_some_iff.mp hq
      obtain ⟨u, hu, rfl⟩ := ih hs
      exact ⟨_, .unit (unit?_eq_some_iff.mp hcode) hu, rfl⟩
    | case4 e s plain ih =>
      obtain ⟨q, qs, hq, hs, rfl⟩ := putPiece_eq_some_iff.mp h
      obtain ⟨c, hc, rfl⟩ := Option.map_eq_some_iff.mp hq
      obtain ⟨letter, rfl, hletter⟩ := simpleEscape?_eq_some_iff.mp hc
      obtain ⟨u, hu, rfl⟩ := ih hs
      exact ⟨_, .letter hletter hu, rfl⟩
    | case5 c s quote unit escape ih =>
      obtain ⟨q, qs, hq, hs, rfl⟩ := putPiece_eq_some_iff.mp h
      split at hq
      · cases hq
      · next control =>
        obtain rfl := Option.some.inj hq
        obtain ⟨u, hu, rfl⟩ := ih hs
        have backslash : c ≠ some '\\' := by
          intro h
          obtain ⟨e, t, ht⟩ := List.exists_cons_of_ne_nil
            (List.append_ne_nil_of_right_ne_nil u (List.cons_ne_nil (some '"') rest))
          exact escape e t h ht
        refine ⟨_, .char quote backslash ?_ hu, rfl⟩
        intro d hd
        obtain rfl := Option.mem_def.mp hd
        simpa using control
  · rintro ⟨u, hu, rfl⟩
    induction hu with
    | nil => rfl
    | @char c s ps quote backslash control hs ih =>
      have plain : ¬ c.elim false (·.toNat < 0x20) := by
        cases c with
        | none => simp
        | some d => simpa using control d rfl
      rw [List.cons_append, readPieces, ih, if_neg plain]
      · rfl
      all_goals simp_all
    | @letter e c s ps h hs ih =>
      have escape := simpleEscape?_eq_some_iff.mpr ⟨e, rfl, h⟩
      rw [List.cons_append, List.cons_append, readPieces, ih, escape]
      · rfl
      · intro _ _ _ _ _ he
        cases he
        cases escape
    | unit hu hs ih =>
      obtain ⟨ha, hb, hc, hd⟩ := hu
      have unit := unit?_eq_some_iff.mpr (.mk ha hb hc hd)
      simp only [List.cons_append, List.nil_append, readPieces, ih, unit]
      rfl

theorem high_iff {code : Nat} : isHigh code = true ↔ High code := by simp [isHigh, High]

theorem low_iff {code : Nat} : isLow code = true ↔ Low code := by simp [isLow, Low]

/-- An escape tells its unit. -/
theorem UnitEscape.unique {u v s t : Gapped} {i j : Nat} (hu : UnitEscape u i) (hv : UnitEscape v j)
    (h : u ++ s = v ++ t) : i = j := by
  obtain ⟨ha, hb, hc, hd⟩ := hu
  obtain ⟨ha', hb', hc', hd'⟩ := hv
  simp only [List.cons_append, List.nil_append, List.cons.injEq, true_and] at h
  obtain ⟨rfl, rfl, rfl, rfl, -⟩ := h
  have first := unit?_eq_some_iff.mpr (.mk ha hb hc hd)
  have second := unit?_eq_some_iff.mpr (.mk ha' hb' hc' hd')
  exact Option.some.inj (first.symm.trans second)

/-- Only a piece that is a low unit is written as one. -/
theorem Spells.head_of_unitEscape {s v : Gapped} {ps : List Piece} {low : Nat} (h : Spells s ps)
    (hv : UnitEscape v low) (hs : v <+: s) : ∃ qs, ps = .unit low :: qs := by
  obtain ⟨t, rfl⟩ := hs
  generalize hs : v ++ t = s at h
  cases h with
  | nil =>
    obtain ⟨ha, hb, hc, hd⟩ := hv
    cases hs
  | char _ backslash =>
    obtain ⟨ha, hb, hc, hd⟩ := hv
    obtain ⟨rfl, -⟩ := List.cons.inj hs
    exact absurd rfl backslash
  | letter h =>
    obtain ⟨ha, hb, hc, hd⟩ := hv
    obtain ⟨-, hs⟩ := List.cons.inj hs
    obtain ⟨h', -⟩ := List.cons.inj hs
    obtain rfl := Option.some.inj h'
    simp [letters] at h
  | unit hu hs' =>
    exact ⟨_, by rw [hv.unique hu hs]⟩

/-- A unit that makes no pair with what follows stands for itself. -/
theorem Quotes.ofUnit {u s t : Gapped} {ps : List Piece} {code : Nat} (hu : UnitEscape u code)
    (hs : Spells s ps) (apart : High code → ∀ low qs, ps = .unit low :: qs → ¬ Low low)
    (h : Quotes s t) : Quotes (u ++ s) (ofUnit code :: t) := by
  rw [Lexeme.ofUnit]
  split
  · next surrogate =>
    rw [Bool.or_eq_true, high_iff, low_iff] at surrogate
    refine .alone hu surrogate (fun high v low hv hlow before => ?_) h
    obtain ⟨qs, hqs⟩ := hs.head_of_unitEscape hv before
    exact apart high low qs hqs hlow
  · next plain =>
    rw [Bool.or_eq_true, high_iff, low_iff, not_or] at plain
    exact .unit hu plain.1 plain.2 h

theorem quotes_of_spells {s : Gapped} {ps : List Piece} (h : Spells s ps) :
    Quotes s (joinUnits ps) := by
  fun_induction joinUnits ps generalizing s with
  | case1 =>
    cases h
    exact .nil
  | case2 c ps ih =>
    cases h with
    | char quote backslash control hs =>
      cases c with
      | none => exact .gap (ih hs)
      | some c =>
        exact .plain (fun h => quote (congrArg some h)) (fun h => backslash (congrArg some h))
          (control c rfl) (ih hs)
    | letter hc hs => exact .letter hc (ih hs)
  | case3 high low ps hpair ih =>
    cases h with
    | unit hu hs =>
      cases hs with
      | unit hv hs =>
        simp only [Bool.and_eq_true, high_iff, low_iff] at hpair
        exact .pair hu hv hpair.1 hpair.2 (ih hs)
  | case4 high low ps hpair ih =>
    cases h with
    | unit hu hs =>
      simp only [Bool.and_eq_true, high_iff, low_iff, not_and] at hpair
      refine .ofUnit hu hs (fun hhigh l qs heq => ?_) (ih hs)
      obtain ⟨rfl, rfl⟩ : low = l ∧ ps = qs := by simpa using heq
      exact hpair hhigh
  | case5 code ps hnext ih =>
    cases h with
    | unit hu hs =>
      exact .ofUnit hu hs (fun _ l qs heq => absurd heq (hnext l qs)) (ih hs)

theorem joinUnits_unit {code : Nat} {ps : List Piece}
    (apart : High code → ∀ low qs, ps = .unit low :: qs → ¬ Low low) :
    joinUnits (.unit code :: ps) = ofUnit code :: joinUnits ps := by
  cases ps with
  | nil => rfl
  | cons p ps =>
    cases p with
    | char c => rfl
    | unit low =>
      have none : (isHigh code && isLow low) = false := by
        rw [Bool.and_eq_false_imp, high_iff]
        exact fun high => Bool.eq_false_iff.mpr fun h => apart high low ps rfl (low_iff.mp h)
      rw [joinUnits, none]
      rfl

theorem exists_spells {s t : Gapped} (h : Quotes s t) : ∃ ps, Spells s ps ∧ joinUnits ps = t := by
  induction h with
  | nil => exact ⟨[], .nil, rfl⟩
  | gap h ih =>
    obtain ⟨ps, hs, rfl⟩ := ih
    exact ⟨_, .char (by simp) (by simp) (by simp) hs, rfl⟩
  | plain quote backslash control h ih =>
    obtain ⟨ps, hs, rfl⟩ := ih
    exact ⟨_, .char (by simpa using quote) (by simpa using backslash) (by simpa using control) hs,
      rfl⟩
  | letter hc h ih =>
    obtain ⟨ps, hs, rfl⟩ := ih
    exact ⟨_, .letter hc hs, rfl⟩
  | unit hu high low h ih =>
    obtain ⟨ps, hs, rfl⟩ := ih
    refine ⟨_, .unit hu hs, ?_⟩
    rw [joinUnits_unit (fun h => absurd h high), ofUnit, if_neg]
    rw [Bool.or_eq_true, high_iff, low_iff, not_or]
    exact ⟨high, low⟩
  | pair hu hv high low h ih =>
    obtain ⟨ps, hs, rfl⟩ := ih
    refine ⟨_, .unit hu (.unit hv hs), ?_⟩
    rw [joinUnits, high_iff.mpr high, low_iff.mpr low]
    rfl
  | alone hu surrogate apart h ih =>
    obtain ⟨ps, hs, rfl⟩ := ih
    refine ⟨_, .unit hu hs, ?_⟩
    rw [joinUnits_unit, ofUnit, if_pos]
    · rw [Bool.or_eq_true, high_iff, low_iff]
      exact surrogate
    · rintro high low qs rfl hlow
      cases hs with
      | unit hv hs => exact apart high _ low hv hlow ⟨_, rfl⟩

/-- Controls that have no escape of one letter. -/
def isCoded (c : Char) : Bool :=
  c.toNat < 0x20 && c ≠ '\x08' && c ≠ '\x0c' && c ≠ '\n' && c ≠ '\r' && c ≠ '\t'

/-- What the reader makes of one character as it is written. -/
def pieceOf : Option Char → Piece
  | none => .unit 0xD800
  | some c => if isCoded c then .unit c.toNat else .char (some c)

theorem unitEscape_none :
    UnitEscape [some '\\', some 'u', some 'd', some '8', some '0', some '0'] 0xD800 :=
  unit?_eq_some_iff.mp rfl

/-- A control is written with two digits. -/
theorem unitEscape_hexDigits {n : Nat} (h : n < 256) :
    UnitEscape ([some '\\', some 'u', some '0', some '0'] ++ (hexDigits n).map some) n := by
  have escape := UnitEscape.mk (.lower (d := 0) (by decide)) (.lower (d := 0) (by decide))
    (.lower (d := n / 16) (by omega)) (.lower (d := n % 16) (by omega))
  have code : 0 * 0x1000 + 0 * 0x100 + n / 16 * 0x10 + n % 16 = n := by omega
  rwa [code] at escape

theorem spells_escaped (c : Option Char) {s : Gapped} {ps : List Piece} (h : Spells s ps) :
    Spells ((escaped c).map some ++ s) (pieceOf c :: ps) := by
  cases c with
  | none => exact .unit unitEscape_none h
  | some c =>
    rw [escaped]
    iterate 7
      split
      · subst c
        exact .letter (by decide) h
    split
    · next quote backslash b f n r t control =>
      have coded : isCoded c = true := by simp [isCoded, control, b, f, n, r, t]
      rw [pieceOf, if_pos coded, List.map_append]
      exact .unit (unitEscape_hexDigits (by omega)) h
    · next quote backslash b f n r t control =>
      have plain : isCoded c = false := by simp [isCoded, control]
      rw [pieceOf, plain]
      refine .char ?_ ?_ ?_ h <;> simp_all

theorem spells_flatMap_escaped (t : Gapped) :
    Spells ((t.flatMap escaped).map some) (t.map pieceOf) := by
  induction t with
  | nil => exact .nil
  | cons c t ih =>
    rw [List.flatMap_cons, List.map_append]
    exact spells_escaped c ih

theorem code_lt_of_coded {c : Char} (h : isCoded c = true) : c.toNat < 0x20 := by
  simp only [isCoded, Bool.and_eq_true, decide_eq_true_eq] at h
  exact h.1.1.1.1.1

theorem ofUnit_of_coded {c : Char} (h : isCoded c = true) : ofUnit c.toNat = some c := by
  have control := code_lt_of_coded h
  have high : isHigh c.toNat = false := by simp [isHigh]; omega
  have low : isLow c.toNat = false := by simp [isLow]; omega
  rw [ofUnit, high, low]
  simp

/-- No unit that is written is the second of a pair. -/
theorem isLow_of_pieceOf {c : Option Char} {code : Nat} (h : pieceOf c = .unit code) :
    isLow code = false := by
  cases c with
  | none =>
    obtain rfl := Piece.unit.inj h
    rfl
  | some c =>
    rw [pieceOf] at h
    split at h
    · next coded =>
      obtain rfl := Piece.unit.inj h
      have control := code_lt_of_coded coded
      simp [isLow]
      omega
    · cases h

theorem joinUnits_unit_pieces (code : Nat) (t : Gapped) :
    joinUnits (.unit code :: t.map pieceOf) = ofUnit code :: joinUnits (t.map pieceOf) := by
  refine joinUnits_unit fun _ low qs h hlow => ?_
  cases t with
  | nil => cases h
  | cons c t =>
    have unit := isLow_of_pieceOf (List.cons.inj h).1
    rw [low_iff.mpr hlow] at unit
    cases unit

theorem joinUnits_pieces (t : Gapped) : joinUnits (t.map pieceOf) = t := by
  induction t with
  | nil => rfl
  | cons c t ih =>
    rw [List.map_cons]
    cases c with
    | none =>
      rw [pieceOf, joinUnits_unit_pieces, ih]
      rfl
    | some c =>
      rw [pieceOf]
      split
      · next coded => rw [joinUnits_unit_pieces, ofUnit_of_coded coded, ih]
      · rw [joinUnits, ih]

/-- Escapes are written as the grammar has them. -/
theorem quotes_escaped (t : Gapped) : Quotes ((t.flatMap escaped).map some) t := by
  have quotes := quotes_of_spells (spells_flatMap_escaped t)
  rwa [joinUnits_pieces] at quotes

theorem quoted_mem_quotations (t : Gapped) : (quoted t).map some ∈ quotations t :=
  ⟨_, quotes_escaped t, by simp [quoted]⟩

end TokenSurvey.Json
