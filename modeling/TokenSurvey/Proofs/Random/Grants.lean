import Mathlib.Data.Set.Card
import TokenSurvey.Proofs.Random.Outputs

/-! Draws with no bound on the refusals. One ends if an accepted output is left on the tape, and a
source that is patient enough draws the same. -/
namespace TokenSurvey.Random

/-- The next output that is accepted, read from a position on, and the position after it. -/
inductive Grants (n : Nat) (tape : Tape) : Nat → UInt64 → Nat → Prop
  | accepted {p : Nat} (ha : accepts n (tape p) = true) : Grants n tape p (tape p) (p + 1)
  | refused {p q : Nat} {v : UInt64} (hr : accepts n (tape p) = false)
      (later : Grants n tape (p + 1) v q) : Grants n tape p v q

/-- The next accepted outputs, one after another. -/
inductive GrantsAll (n : Nat) (tape : Tape) : Nat → List UInt64 → Nat → Prop
  | nil {p : Nat} : GrantsAll n tape p [] p
  | cons {p q r : Nat} {v : UInt64} {vs : List UInt64} (first : Grants n tape p v q)
      (others : GrantsAll n tape q vs r) : GrantsAll n tape p (v :: vs) r

/-- The positions of the accepted outputs from one position on. -/
def acceptedFrom (n : Nat) (tape : Tape) (p : Nat) : Set Nat :=
  {q | p ≤ q ∧ accepts n (tape q) = true}

variable {n p q r : Nat} {h : 0 < n} {tape : Tape} {v w : UInt64} {vs : List UInt64}

theorem Grants.lt (granted : Grants n tape p v q) : p < q := by
  induction granted with
  | accepted _ => exact Nat.lt_succ_self _
  | refused _ _ ih => exact Nat.lt_of_succ_lt ih

theorem Grants.exists_tape_eq (granted : Grants n tape p v q) : ∃ r, tape r = v := by
  induction granted with
  | accepted _ => exact ⟨_, rfl⟩
  | refused _ _ ih => exact ih

theorem Grants.unique (granted : Grants n tape p v q) (other : Grants n tape p w r) :
    v = w ∧ q = r := by
  induction granted with
  | accepted ha =>
    cases other with
    | accepted _ => exact ⟨rfl, rfl⟩
    | refused hr _ => simp [ha] at hr
  | refused hr _ ih =>
    cases other with
    | accepted ha => simp [ha] at hr
    | refused _ later => exact ih later

theorem acceptedFrom_of_accepts (ha : accepts n (tape p) = true) :
    acceptedFrom n tape p = insert p (acceptedFrom n tape (p + 1)) := by
  ext q
  constructor
  · rintro ⟨hpq, hq⟩
    by_cases here : q = p
    · exact Or.inl here
    · exact Or.inr ⟨by omega, hq⟩
  · rintro (rfl | ⟨hpq, hq⟩)
    · exact ⟨Nat.le_refl _, ha⟩
    · exact ⟨by omega, hq⟩

theorem acceptedFrom_of_refuses (hr : accepts n (tape p) = false) :
    acceptedFrom n tape p = acceptedFrom n tape (p + 1) := by
  ext q
  constructor
  · rintro ⟨hpq, hq⟩
    have elsewhere : q ≠ p := by
      rintro rfl
      simp [hr] at hq
    exact ⟨by omega, hq⟩
  · rintro ⟨hpq, hq⟩
    exact ⟨by omega, hq⟩

/-- A draw takes one accepted output from the tape, however many it refuses. -/
theorem Grants.encard_acceptedFrom (granted : Grants n tape p v q) :
    (acceptedFrom n tape p).encard = (acceptedFrom n tape q).encard + 1 := by
  induction granted with
  | @accepted p ha =>
    have past : p ∉ acceptedFrom n tape (p + 1) := fun found => Nat.not_succ_le_self p found.1
    rw [acceptedFrom_of_accepts ha, Set.encard_insert_of_notMem past]
  | refused hr _ ih => rw [acceptedFrom_of_refuses hr, ih]

theorem exists_grants (left : (acceptedFrom n tape p).Nonempty) : ∃ v q, Grants n tape p v q := by
  obtain ⟨r, hpr, hr⟩ := left
  obtain ⟨d, rfl⟩ := Nat.exists_eq_add_of_le hpr
  -- Induction on the distance to some accepted output; the draw may end before it.
  induction d generalizing p with
  | zero => exact ⟨_, _, .accepted hr⟩
  | succ d ih =>
    cases here : accepts n (tape p) with
    | true => exact ⟨_, _, .accepted here⟩
    | false =>
      have shift : p + (d + 1) = p + 1 + d := by omega
      rw [shift] at hr
      obtain ⟨v, q, later⟩ := ih (Nat.le_add_right ..) hr
      exact ⟨v, q, .refused here later⟩

/-- Patience for all that is read is enough. -/
theorem drawFrom_of_grants (granted : Grants n tape p v q) {patience : Nat}
    (patient : q ≤ p + patience + 1) :
    drawFrom n h tape patience p = (share n h v, q) := by
  induction granted generalizing patience with
  | accepted ha => exact drawFrom_of_accepts ha patience
  | @refused p q v hr later ih =>
    have := later.lt
    cases patience with
    | zero => omega
    | succ patience =>
      have refuses : ¬ accepts n (tape p) = true := by simp [hr]
      rw [drawFrom, if_neg refuses]
      exact ih (by omega)

theorem draw_of_grants {s : Source} (granted : Grants n s.tape s.position v q)
    (patient : q ≤ s.position + s.patience + 1) :
    s.draw n h = (share n h v, { s with position := q }) := by
  rw [Source.draw, drawFrom_of_grants granted patient]

/-- Outputs that are all accepted are granted as they stand on the tape. -/
theorem grantsAll_of_accepts (all : ∀ v ∈ vs, accepts n v = true)
    (said : ∀ j, (hj : j < vs.length) → tape (p + j) = vs[j]) :
    GrantsAll n tape p vs (p + vs.length) := by
  induction vs generalizing p with
  | nil => exact .nil
  | cons v vs ih =>
    have first : tape p = v := said 0 (Nat.zero_lt_succ _)
    have others : GrantsAll n tape (p + 1) vs (p + 1 + vs.length) := by
      apply ih (fun w hw => all w (List.mem_cons_of_mem v hw))
      intro j hj
      rw [Nat.add_assoc, Nat.add_comm 1]
      exact said (j + 1) (Nat.succ_lt_succ hj)
    have ha : accepts n (tape p) = true := by
      rw [first]
      exact all v List.mem_cons_self
    rw [List.length_cons, Nat.add_comm vs.length, ← Nat.add_assoc]
    exact .cons (first ▸ .accepted ha) others

theorem exists_grantsAll (all : ∀ v ∈ vs, accepts n v = true) :
    ∃ tape q, GrantsAll n tape 0 vs q := by
  refine ⟨(Source.saying vs).tape, _, grantsAll_of_accepts all ?_⟩
  intro j hj
  simp [Source.saying, hj]

end TokenSurvey.Random
