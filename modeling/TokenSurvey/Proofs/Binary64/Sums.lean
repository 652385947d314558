import Mathlib.Data.List.Induction
import TokenSurvey.Proofs.Binary64.Operations

/-! Sums that are rounded after every term. However many terms there are, the sum stays below so many
times the greatest as there are steps to two octaves: from there on a term is no more than half a step,
and the sum stands still. -/
namespace TokenSurvey.Binary64

open Rounding (nearest binaryExponent_eq)

variable {s v : Rat} {e lo : Int} {vs : List Rat}

/-- The sum of quantities, rounded after every term. -/
def roundedSum (vs : List Rat) : Rat := vs.foldl (fun s v => rounded (s + v)) 0

@[simp] theorem roundedSum_nil : roundedSum [] = 0 := rfl

@[simp] theorem roundedSum_append_singleton (vs : List Rat) (v : Rat) :
    roundedSum (vs ++ [v]) = rounded (roundedSum vs + v) := by
  rw [roundedSum, List.foldl_append]
  rfl

theorem sum_append_singleton (xs : List Binary64) (x : Binary64) :
    sum (xs ++ [x]) = sum xs + x := by
  rw [sum, List.foldl_append]
  rfl

/-- Half a step more is a tie, and the number below is even. -/
theorem rounded_half_step_more (he : -1074 ≤ e) :
    rounded ((2 : Rat) ^ (e + 53) + (2 : Rat) ^ e) = (2 : Rat) ^ (e + 53) := by
  have unit : 0 < (2 : Rat) ^ e := zpow_pos two_pos e
  have octaves : (2 : Rat) ^ (e + 53) = 2 ^ 53 * (2 : Rat) ^ e := by
    rw [zpow_add₀ two_ne_zero, mul_comm]
    norm_num
  have exponent : Rounding.binaryExponent ((2 : Rat) ^ (e + 53) + (2 : Rat) ^ e) = e + 53 := by
    apply binaryExponent_eq
    · linarith
    · rw [zpow_add_one₀ two_ne_zero, octaves]
      linarith
  have step : stepOf ((2 : Rat) ^ (e + 53) + (2 : Rat) ^ e) = e + 1 := by
    rw [stepOf_eq_max, exponent]
    omega
  have steps : ((2 : Rat) ^ (e + 53) + (2 : Rat) ^ e) / (2 : Rat) ^ (e + 1) = 2 ^ 52 + 1 / 2 := by
    rw [octaves, zpow_add_one₀ two_ne_zero]
    field_simp
  have tie : nearest (2 ^ 52 + 1 / 2) = 2 ^ 52 := by decide +kernel
  rw [rounded, stepsOf, step, steps, tie, octaves, zpow_add_one₀ two_ne_zero]
  push_cast
  ring

theorem Spans.add_rounded (hs : Spans lo (e + 53) s) (hv : Spans lo e v) (hlo : -1074 ≤ lo)
    (he : -1074 ≤ e) : Spans lo (e + 53) (Binary64.rounded (s + v)) := by
  have sum := hs.add hv
  constructor
  · exact (sum.rounded hlo (by omega)).least
  · rw [← rounded_half_step_more he]
    exact rounded_le_rounded sum.nonneg (add_le_add hs.most hv.most)

theorem spans_roundedSum (h : ∀ v ∈ vs, Spans lo e v) (hlo : -1074 ≤ lo) (he : -1074 ≤ e) :
    Spans lo (e + 53) (roundedSum vs) := by
  induction vs using List.reverseRecOn with
  | nil => exact Spans.zero lo _
  | append_singleton vs v ih =>
    rw [List.forall_mem_append, List.forall_mem_singleton] at h
    obtain ⟨initial, last⟩ := h
    rw [roundedSum_append_singleton]
    exact (ih initial).add_rounded last hlo he

/-- Nothing is lost altogether: the sum is zero only if every term is. -/
theorem roundedSum_eq_zero_iff (h : ∀ v ∈ vs, Spans lo e v) (hlo : -1074 ≤ lo) (he : -1074 ≤ e) :
    roundedSum vs = 0 ↔ ∀ v ∈ vs, v = 0 := by
  induction vs using List.reverseRecOn with
  | nil => simp
  | append_singleton vs v ih =>
    rw [List.forall_mem_append, List.forall_mem_singleton] at h
    obtain ⟨initial, last⟩ := h
    have before := spans_roundedSum initial hlo he
    rw [roundedSum_append_singleton, (before.add last).rounded_eq_zero_iff hlo,
      add_eq_zero_iff_of_nonneg before.nonneg last.nonneg, ih initial, List.forall_mem_append,
      List.forall_mem_singleton]

theorem roundedSum_two_mul (h : ∀ v ∈ vs, Spans lo e v) (hlo : -1022 ≤ lo) (he : -1074 ≤ e) :
    roundedSum (vs.map (2 * ·)) = 2 * roundedSum vs := by
  induction vs using List.reverseRecOn with
  | nil => simp
  | append_singleton vs v ih =>
    rw [List.forall_mem_append, List.forall_mem_singleton] at h
    obtain ⟨initial, last⟩ := h
    have before := spans_roundedSum initial (by omega) he
    rw [List.map_append, List.map_singleton, roundedSum_append_singleton, ih initial, ← mul_add,
      rounded_two_mul ((before.add last).normal hlo), roundedSum_append_singleton]

/-- Whole numbers are added exactly as long as the sum is at most two octaves of steps. -/
theorem roundedSum_natCast {ns : List Nat} (h : ns.sum ≤ 2 * octaveSize) :
    roundedSum (ns.map (↑)) = (ns.sum : Rat) := by
  induction ns using List.reverseRecOn with
  | nil => simp
  | append_singleton ns n ih =>
    rw [List.sum_append, List.sum_singleton] at h ⊢
    rw [List.map_append, List.map_singleton, roundedSum_append_singleton, ih (by omega),
      ← Nat.cast_add, rounded_natCast h]

/-- A sum of numbers stands for the rounded sum of what they stand for. -/
theorem Stands.sum {α : Type} {f : α → Binary64} {g : α → Rat} {l : List α}
    (h : ∀ a ∈ l, Stands (f a) (g a)) (spans : ∀ a ∈ l, Spans lo e (g a)) (hlo : -1074 ≤ lo)
    (he : -1074 ≤ e) (hmax : e + 54 < 1023) :
    Stands (sum (l.map f)) (roundedSum (l.map g)) := by
  induction l using List.reverseRecOn with
  | nil => exact Stands.zero
  | append_singleton l a ih =>
    rw [List.forall_mem_append, List.forall_mem_singleton] at h spans
    obtain ⟨initial_stand, last_stands⟩ := h
    obtain ⟨initial, last⟩ := spans
    have before := spans_roundedSum (List.forall_mem_map.mpr initial) hlo he
    have within := (before.add last).lt (by omega)
    rw [List.map_append, List.map_append, List.map_singleton, List.map_singleton,
      sum_append_singleton, roundedSum_append_singleton]
    exact (ih initial_stand initial).add last_stands within

end TokenSurvey.Binary64
