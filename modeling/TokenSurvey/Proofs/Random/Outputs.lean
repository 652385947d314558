import TokenSurvey.Random.Source

/-! Outputs by what is drawn from them: every share has an output that is accepted. -/
namespace TokenSurvey.Random

variable {n : Nat} {i : Fin n}

/-- The least output of a share. -/
def firstOutput (i : Fin n) : UInt64 := UInt64.ofNat ((i * UInt64.size + (n - 1)) / n)

/-- The source that says these outputs, with patience for all of them. -/
def Source.saying (outputs : List UInt64) : Source where
  tape := fun i => outputs.getD i 0
  patience := outputs.length

theorem le_acceptedBelow (n : Nat) : n ≤ acceptedBelow n := by
  rw [acceptedBelow, Nat.shiftLeft_eq]
  exact Nat.le_mul_of_pos_right n (Nat.two_pow_pos _)

/-- The product with the number of shares goes past the start of the share by less than one step. -/
theorem toNat_firstOutput_mul (hn : n ≤ UInt64.size) (i : Fin n) :
    ∃ rest < n, (firstOutput i).toNat * n = i * UInt64.size + rest := by
  have hpos : 0 < n := i.pos
  have parts := Nat.div_add_mod (i * UInt64.size + (n - 1)) n
  have small := Nat.mod_lt (i * UInt64.size + (n - 1)) hpos
  generalize hq : (i * UInt64.size + (n - 1)) / n = q at parts
  rw [Nat.mul_comm] at parts
  have inside : q < UInt64.size := by
    have most : (i : Nat) * UInt64.size ≤ (n - 1) * UInt64.size :=
      Nat.mul_le_mul_right _ (Nat.le_sub_one_of_lt i.isLt)
    have split : (n - 1) * UInt64.size + UInt64.size = UInt64.size * n := by
      rw [← Nat.succ_mul, Nat.succ_eq_add_one, Nat.sub_add_cancel hpos, Nat.mul_comm]
    have : q * n < UInt64.size * n := by omega
    exact Nat.lt_of_mul_lt_mul_right this
  have value : (firstOutput i).toNat = q := by
    rw [firstOutput, hq]
    exact UInt64.toNat_ofNat_of_lt inside
  refine ⟨q * n - i * UInt64.size, by omega, ?_⟩
  rw [value]
  omega

theorem share_firstOutput (hn : n ≤ UInt64.size) (h : 0 < n) (i : Fin n) :
    share n h (firstOutput i) = i := by
  obtain ⟨rest, hrest, product⟩ := toNat_firstOutput_mul hn i
  apply Fin.ext
  have low : rest < UInt64.size := Nat.lt_of_lt_of_le hrest hn
  change (firstOutput i).toNat * n / UInt64.size = i
  rw [product, Nat.mul_comm, Nat.mul_add_div (by decide), Nat.div_eq_of_lt low, Nat.add_zero]

theorem accepts_firstOutput (hn : n ≤ UInt64.size) (i : Fin n) :
    accepts n (firstOutput i) = true := by
  obtain ⟨rest, hrest, product⟩ := toNat_firstOutput_mul hn i
  have low : rest < UInt64.size := Nat.lt_of_lt_of_le hrest hn
  rw [accepts, decide_eq_true_iff, product, Nat.mul_comm, Nat.mul_add_mod, Nat.mod_eq_of_lt low]
  exact Nat.lt_of_lt_of_le hrest (le_acceptedBelow n)

/-- No patience is needed for an output that is accepted. -/
theorem drawFrom_of_accepts {h : 0 < n} {tape : Tape} {position : Nat}
    (ha : accepts n (tape position) = true) (patience : Nat) :
    drawFrom n h tape patience position = (share n h (tape position), position + 1) := by
  cases patience with
  | zero => rfl
  | succ patience => rw [drawFrom, if_pos ha]

theorem draw_of_accepts {h : 0 < n} {s : Source} (ha : accepts n (s.tape s.position) = true) :
    s.draw n h = (share n h (s.tape s.position), { s with position := s.position + 1 }) := by
  rw [Source.draw, drawFrom_of_accepts ha]

/-- A source that says the least output of a share next gives the share. -/
theorem draw_of_firstOutput (hn : n ≤ UInt64.size) {h : 0 < n} {s : Source}
    (next : s.tape s.position = firstOutput i) :
    s.draw n h = (i, { s with position := s.position + 1 }) := by
  have ha : accepts n (s.tape s.position) = true := by
    rw [next]
    exact accepts_firstOutput hn i
  rw [draw_of_accepts ha, next, share_firstOutput hn]

end TokenSurvey.Random
