import Mathlib.Algebra.Order.Floor.Div
import Mathlib.GroupTheory.GroupAction.Ring
import TokenSurvey.Proofs.Lorem.Loop

/-! The loop of a text ends if enough accepted outputs are left on the tape. Each turn adds three
characters at least and fourteen at most, blank included; so many words are drawn and no more. -/
namespace TokenSurvey.Lorem

open TokenSurvey.Random

variable {a b m n p q : Nat} {tape : Tape} {i : Fin corpus.length}
  {has more places : List (Fin corpus.length)}

namespace Loop

theorem exists_of_mem (loop : Loop tape n has p more q) (hi : i ∈ more) :
    ∃ r, place (tape r) = i := by
  induction loop with
  | done _ => cases hi
  | word _ granted _ ih =>
    obtain rfl | later := List.mem_cons.mp hi
    · obtain ⟨r, rfl⟩ := granted.exists_tape_eq
      exact ⟨r, rfl⟩
    · exact ih later

/-- Each turn brings the end nearer by its weight, and the last one begins before the end. -/
theorem weights_bounds (loop : Loop tape n has p more q) (hn : n ≠ 0)
    (all : ∀ i ∈ more, a ≤ weight i ∧ weight i ≤ b) :
    n + 1 ≤ weights has + b * more.length ∧
      (more = [] ∨ weights has + a * more.length ≤ n + a) := by
  induction loop with
  | done enough => exact ⟨(le_length_phrase_iff hn).mp enough, Or.inl rfl⟩
  | @word has more p q r v short _ rest ih =>
    have := (length_phrase_lt_iff hn).mp short
    obtain ⟨above, below⟩ := all (place v) List.mem_cons_self
    obtain ⟨long, brief⟩ := ih fun i hi => all i (List.mem_cons_of_mem _ hi)
    rw [weights_append, weights_cons, weights_nil] at long brief
    rw [List.length_cons, Nat.mul_succ, Nat.mul_succ]
    refine ⟨by omega, Or.inr ?_⟩
    rcases brief with rfl | brief
    · rw [List.length_nil]
      omega
    · omega

theorem length_bounds (loop : Loop tape n [] p places q) (hn : n ≠ 0) (ha : 0 < a) (hb : 0 < b)
    (all : ∀ i ∈ places, a ≤ weight i ∧ weight i ≤ b) :
    (n + 1) ⌈/⌉ b ≤ places.length ∧ places.length ≤ (n + 1) ⌈/⌉ a := by
  obtain ⟨long, brief⟩ := loop.weights_bounds hn all
  rw [weights_nil, Nat.zero_add] at long brief
  constructor
  · rwa [ceilDiv_le_iff_le_mul hb]
  · rw [Nat.ceilDiv_eq_add_pred_div, Nat.le_div_iff_mul_le ha, Nat.mul_comm]
    rcases brief with rfl | brief
    · exact Nat.zero_le _
    · omega

end Loop

/-- Induction on the number of accepted outputs that the text may still need. -/
theorem exists_loop (hn : n ≠ 0) (enough : n + 1 ≤ weights has + 3 * m)
    (left : (m : ENat) ≤ (acceptedFrom corpus.length tape p).encard) :
    ∃ more q, Loop tape n has p more q := by
  induction m generalizing has p with
  | zero => exact ⟨[], p, .done ((le_length_phrase_iff hn).mpr enough)⟩
  | succ m ih =>
    by_cases short : (phrase has).length < n
    · have some_left : (acceptedFrom corpus.length tape p).Nonempty := by
        rw [← Set.encard_ne_zero]
        intro none_left
        simp [none_left] at left
      obtain ⟨v, q, granted⟩ := exists_grants some_left
      rw [granted.encard_acceptedFrom, Nat.cast_succ,
        ENat.add_le_add_iff_right ENat.one_ne_top] at left
      have := (weight_bounds (place v)).1
      have nearer : n + 1 ≤ weights (has ++ [place v]) + 3 * m := by
        rw [weights_append, weights_cons]
        omega
      obtain ⟨more, r, rest⟩ := ih nearer left
      exact ⟨_, r, .word short granted rest⟩
    · exact ⟨[], p, .done (Nat.le_of_not_lt short)⟩

theorem exists_loop_from_start (hn : n ≠ 0)
    (left : ((n + 1) ⌈/⌉ 3 : Nat) ≤ (acceptedFrom corpus.length tape p).encard) :
    ∃ places q, Loop tape n [] p places q := by
  have enough : n + 1 ≤ 3 * ((n + 1) ⌈/⌉ 3) := (ceilDiv_le_iff_le_mul (by decide)).mp le_rfl
  exact exists_loop hn (Nat.le_trans enough (Nat.le_add_left _ _)) left

/-- A tape that says one output of a place over and over has its word drawn as often as it takes. -/
theorem exists_loop_constant (hn : n ≠ 0) (i : Fin corpus.length) :
    ((n + 1) ⌈/⌉ 3 : Nat) ≤ (acceptedFrom corpus.length (fun _ => firstOutput i) 0).encard ∧
      ∃ places q, Loop (fun _ => firstOutput i) n [] 0 places q ∧
        places.length = (n + 1) ⌈/⌉ weight i := by
  have always : acceptedFrom corpus.length (fun _ => firstOutput i) 0 = Set.univ := by
    ext r
    exact iff_of_true ⟨Nat.zero_le r, accepts_firstOutput (by decide) i⟩ trivial
  have left : ((n + 1) ⌈/⌉ 3 : Nat) ≤
      (acceptedFrom corpus.length (fun _ => firstOutput i) 0).encard := by
    rw [always, Set.encard_univ, ENat.card_eq_top_of_infinite]
    exact le_top
  obtain ⟨places, q, loop⟩ := exists_loop_from_start hn left
  have same : ∀ j ∈ places, weight i ≤ weight j ∧ weight j ≤ weight i := by
    intro j hj
    obtain ⟨r, rfl⟩ := loop.exists_of_mem hj
    rw [place, share_firstOutput (by decide)]
    exact ⟨Nat.le_refl _, Nat.le_refl _⟩
  have positive : 0 < weight i := Nat.succ_pos _
  obtain ⟨least, most⟩ := loop.length_bounds hn positive positive same
  exact ⟨left, places, q, loop, Nat.le_antisymm most least⟩

theorem loop_ends {n : Nat} (hn : 1 ≤ n) :
    (∀ tape p, ((n + 1) ⌈/⌉ 3 : Nat) ≤ (acceptedFrom corpus.length tape p).encard →
      ∃! outcome : List (Fin corpus.length) × Nat, Loop tape n [] p outcome.1 outcome.2) ∧
    (∀ tape p places q, Loop tape n [] p places q →
      (n + 1) ⌈/⌉ 14 ≤ places.length ∧ places.length ≤ (n + 1) ⌈/⌉ 3 ∧
      ∀ patience, q ≤ p + patience → Serves ⟨tape, patience, p⟩ n places q) ∧
    (∃ tape, ((n + 1) ⌈/⌉ 3 : Nat) ≤ (acceptedFrom corpus.length tape 0).encard ∧
      ∃ places q, Loop tape n [] 0 places q ∧ places.length = (n + 1) ⌈/⌉ 14) ∧
    ∃ tape, ((n + 1) ⌈/⌉ 3 : Nat) ≤ (acceptedFrom corpus.length tape 0).encard ∧
      ∃ places q, Loop tape n [] 0 places q ∧ places.length = (n + 1) ⌈/⌉ 3 := by
  have hpos : n ≠ 0 := by omega
  refine ⟨?_, ?_, ?_, ?_⟩
  · intro tape p left
    obtain ⟨places, q, loop⟩ := exists_loop_from_start hpos left
    refine ⟨(places, q), loop, fun other loop' => ?_⟩
    obtain ⟨same, there⟩ := loop'.unique loop
    exact Prod.ext same there
  · intro tape p places q loop
    obtain ⟨least, most⟩ :=
      loop.length_bounds hpos (by decide) (by decide) fun i _ => weight_bounds i
    exact ⟨least, most, fun patience patient => loop.serves hpos patient⟩
  · -- Few words are drawn if each is the longest of the corpus.
    have longest : weight ⟨41, by decide⟩ = 14 := by decide +kernel
    have reached := exists_loop_constant hpos ⟨41, by decide⟩
    rw [longest] at reached
    exact ⟨_, reached⟩
  · -- Many, if each is one of the shortest.
    have shortest : weight ⟨9, by decide⟩ = 3 := by decide +kernel
    have reached := exists_loop_constant hpos ⟨9, by decide⟩
    rw [shortest] at reached
    exact ⟨_, reached⟩

/-- A tape on which every second output is refused. -/
theorem loop_ends_every_second :
    let tape : Tape := fun r => if r % 2 = 0 then 0xffffffffffffffff else 0
    accepts corpus.length (tape 0) = false ∧ 1 ≤ 8 ∧
    ((8 + 1) ⌈/⌉ 3 : Nat) ≤ (acceptedFrom corpus.length tape 0).encard ∧
    ∃ places q, Loop tape 8 [] 0 places q ∧ 1 ≤ places.length ∧ places.length ≤ 3 ∧
      Serves ⟨tape, q, 0⟩ 8 places q := by
  intro tape
  have refused : accepts corpus.length (tape 0) = false := by decide
  have left : ((8 + 1) ⌈/⌉ 3 : Nat) ≤ (acceptedFrom corpus.length tape 0).encard := by
    have three : (({1, 3, 5} : Finset Nat) : Set Nat) ⊆ acceptedFrom corpus.length tape 0 := by
      intro r hr
      have : r = 1 ∨ r = 3 ∨ r = 5 := by simpa using hr
      rcases this with rfl | rfl | rfl <;> exact ⟨Nat.zero_le _, by decide⟩
    have := Set.encard_le_encard three
    rwa [Set.encard_coe_eq_coe_finsetCard] at this
  obtain ⟨ends, bounds, -⟩ := loop_ends (show 1 ≤ 8 by decide)
  obtain ⟨⟨places, q⟩, loop, -⟩ := ends tape 0 left
  obtain ⟨least, most, served⟩ := bounds tape 0 places q loop
  exact ⟨refused, by decide, left, places, q, loop, least, most, served q (Nat.le_add_left q 0)⟩

end TokenSurvey.Lorem
