import TokenSurvey.Text.Utf8
import TokenSurvey.Tokens.Tokenizer

/-! The bytes of a text read back as its characters, without a gap. -/
namespace TokenSurvey.Text

open Tokens (encodeText)

variable {b : Nat} {p : Pending} {bs : List UInt8}

theorem decodeFrom_cons (state : Option Pending) (b : UInt8) (bs : List UInt8) :
    decodeFrom state (b :: bs) =
      (nextByte state b.toNat).1 ++ decodeFrom (nextByte state b.toNat).2 bs := by
  cases state <;> rfl

theorem toNat_ofByte (hb : b < 256) : (UInt8.ofNat b).toNat = b := by
  rw [UInt8.toNat_ofNat']
  exact Nat.mod_eq_of_lt hb

theorem decodeFrom_plain (h : b < 0x80) :
    decodeFrom none (UInt8.ofNat b :: bs) = some (Char.ofNat b) :: decodeFrom none bs := by
  rw [decodeFrom_cons, toNat_ofByte (by omega), nextByte, openByte, if_pos h]
  rfl

/-- A byte that opens a character. -/
theorem decodeFrom_first (hb : b < 256) (h : 0x80 ≤ b) (hp : Pending.ofByte? b = some p) :
    decodeFrom none (UInt8.ofNat b :: bs) = decodeFrom (some p) bs := by
  rw [decodeFrom_cons, toNat_ofByte hb, nextByte, openByte, if_neg (by omega), hp]
  rfl

/-- A byte that continues one. -/
theorem decodeFrom_next (hb : b < 256) (h : p.low ≤ b ∧ b ≤ p.high) (more : p.missing ≠ 1) :
    decodeFrom (some p) (UInt8.ofNat b :: bs) =
      decodeFrom (some { code := p.code * 64 + (b - 0x80), missing := p.missing - 1 }) bs := by
  rw [decodeFrom_cons, toNat_ofByte hb, nextByte, if_pos h, if_neg more]
  rfl

/-- The byte that completes one. -/
theorem decodeFrom_last (hb : b < 256) (h : p.low ≤ b ∧ b ≤ p.high) (last : p.missing = 1) :
    decodeFrom (some p) (UInt8.ofNat b :: bs) =
      some (Char.ofNat (p.code * 64 + (b - 0x80))) :: decodeFrom none bs := by
  rw [decodeFrom_cons, toNat_ofByte hb, nextByte, if_pos h, if_pos last]
  rfl

/-- Of a character in two bytes the first gives the bits above the last six. -/
theorem ofByte?_two {v : Nat} (low : 0x80 ≤ v) (high : v < 0x800) :
    Pending.ofByte? (v / 64 % 32 + 192) = some { code := v / 64, missing := 1 } := by
  have code : v / 64 % 32 + 192 - 0xC0 = v / 64 := by omega
  rw [Pending.ofByte?, if_pos (by omega), code]

/-- In three bytes, the second is bounded so that the form is not overlong and no surrogate. -/
theorem ofByte?_three {v : Nat} (low : 0x800 ≤ v) (high : v < 0x10000)
    (valid : v < 0xD800 ∨ 0xDFFF < v) :
    ∃ p, Pending.ofByte? (v / 4096 % 16 + 224) = some p ∧ p.code = v / 4096 ∧ p.missing = 2 ∧
      p.low ≤ v / 64 % 64 + 128 ∧ v / 64 % 64 + 128 ≤ p.high := by
  have code : v / 4096 % 16 + 224 - 0xE0 = v / 4096 := by omega
  rw [Pending.ofByte?, if_neg (by omega)]
  by_cases first : v / 4096 = 0
  · rw [if_pos (by omega)]
    exact ⟨_, rfl, first.symm, rfl, by simp only; omega, by simp only; omega⟩
  · rw [if_neg (by omega)]
    by_cases thirteenth : v / 4096 = 13
    · rw [if_pos (by omega)]
      exact ⟨_, rfl, thirteenth.symm, rfl, by simp only; omega, by simp only; omega⟩
    · rw [if_neg (by omega), if_pos (by omega), code]
      exact ⟨_, rfl, rfl, rfl, by simp only; omega, by simp only; omega⟩

/-- In four bytes, so that the form is not overlong and the code not too large. -/
theorem ofByte?_four {v : Nat} (low : 0x10000 ≤ v) (high : v < 0x110000) :
    ∃ p, Pending.ofByte? (v / 262144 % 8 + 240) = some p ∧ p.code = v / 262144 ∧ p.missing = 3 ∧
      p.low ≤ v / 4096 % 64 + 128 ∧ v / 4096 % 64 + 128 ≤ p.high := by
  have code : v / 262144 % 8 + 240 - 0xF0 = v / 262144 := by omega
  rw [Pending.ofByte?, if_neg (by omega), if_neg (by omega), if_neg (by omega), if_neg (by omega)]
  by_cases first : v / 262144 = 0
  · rw [if_pos (by omega)]
    exact ⟨_, rfl, first.symm, rfl, by simp only; omega, by simp only; omega⟩
  · rw [if_neg (by omega)]
    by_cases last : v / 262144 = 4
    · rw [if_neg (by omega), if_pos (by omega)]
      exact ⟨_, rfl, last.symm, rfl, by simp only; omega, by simp only; omega⟩
    · rw [if_pos (by omega), code]
      exact ⟨_, rfl, rfl, rfl, by simp only; omega, by simp only; omega⟩

theorem decodeFrom_utf8EncodeChar (c : Char) (bs : List UInt8) :
    decodeFrom none (String.utf8EncodeChar c ++ bs) = some c :: decodeFrom none bs := by
  have valid : c.toNat < 0xD800 ∨ (0xDFFF < c.toNat ∧ c.toNat < 0x110000) := c.valid
  have named : Char.ofNat c.toNat = c := Char.ofNat_toNat c
  have bits : c.val.toNat = c.toNat := rfl
  rw [String.utf8EncodeChar, bits]
  generalize c.toNat = v at valid named
  subst named
  split
  · exact decodeFrom_plain (by omega)
  split
  · have code : v / 64 * 64 + (v % 64 + 128 - 0x80) = v := by omega
    rw [List.cons_append, decodeFrom_first (by omega) (by omega) (ofByte?_two (by omega) (by omega)),
      List.cons_append, decodeFrom_last (by omega) (by simp only; omega) rfl, code]
    rfl
  split
  · obtain ⟨p, opened, code, missing, bounds⟩ :=
      ofByte?_three (by omega) (by omega) (valid.imp_right And.left)
    have code : (p.code * 64 + (v / 64 % 64 + 128 - 0x80)) * 64 + (v % 64 + 128 - 0x80) = v := by
      omega
    rw [List.cons_append, decodeFrom_first (by omega) (by omega) opened,
      List.cons_append, decodeFrom_next (by omega) bounds (by omega),
      List.cons_append, decodeFrom_last (by omega) (by simp only; omega) (by simp [missing]), code]
    rfl
  · obtain ⟨p, opened, code, missing, bounds⟩ := ofByte?_four (v := v) (by omega) (by omega)
    have code : ((p.code * 64 + (v / 4096 % 64 + 128 - 0x80)) * 64 +
        (v / 64 % 64 + 128 - 0x80)) * 64 + (v % 64 + 128 - 0x80) = v := by
      omega
    rw [List.cons_append, decodeFrom_first (by omega) (by omega) opened,
      List.cons_append, decodeFrom_next (by omega) bounds (by omega),
      List.cons_append, decodeFrom_next (by omega) (by simp only; omega) (by simp [missing]),
      List.cons_append, decodeFrom_last (by omega) (by simp only; omega) (by simp [missing]), code]
    rfl

theorem decode_encodeText (s : List Char) : decode (encodeText s) = s.map some := by
  rw [decode]
  induction s with
  | nil => rfl
  | cons c s ih =>
    rw [encodeText, List.flatMap_cons, decodeFrom_utf8EncodeChar, List.map_cons]
    exact congrArg _ ih

theorem strict?_decode_encodeText (s : String) : strict? (decode (encodeText s.toList)) = some s := by
  have read (t : List Char) : (t.map some).mapM id = some t := by
    induction t with
    | nil => rfl
    | cons c t ih => simp [ih]
  rw [decode_encodeText, strict?, read, Option.map_some, String.ofList_toList]

theorem lossy_decode_encodeText (s : String) : lossy (decode (encodeText s.toList)) = s := by
  rw [decode_encodeText, lossy, List.map_map]
  exact congrArg String.ofList (List.map_id _) |>.trans String.ofList_toList

end TokenSurvey.Text
