import TokenSurvey.Record

/-! Counts in ascending order. What a summary reads off them does not depend on the order in which
they came. -/
namespace TokenSurvey

namespace Statistics

variable {counts counts' : List Nat} {j k v w : Nat}

theorem ascending (counts : List Nat) : counts.mergeSort.Pairwise (· ≤ ·) := by
  have sorted := @List.pairwise_mergeSort Nat (fun a b => decide (a ≤ b)) (by grind) (by grind) counts
  simpa using sorted

/-- Two orders of the same counts become the same when they are sorted. -/
theorem mergeSort_congr (h : counts.Perm counts') : counts.mergeSort = counts'.mergeSort := by
  have same : counts.mergeSort.Perm counts'.mergeSort :=
    (List.mergeSort_perm ..).trans (h.trans (List.mergeSort_perm ..).symm)
  exact same.eq_of_pairwise (fun a b _ _ => Nat.le_antisymm) (ascending counts) (ascending counts')

/-- The count at place `k` in ascending order: of the counts below it there are at most `k`, and with
those equal to it more. -/
def AtPlace (counts : List Nat) (k v : Nat) : Prop :=
  v ∈ counts ∧ counts.countP (· < v) ≤ k ∧ k < counts.countP (· ≤ v)

instance (counts : List Nat) (k v : Nat) : Decidable (AtPlace counts k v) :=
  inferInstanceAs (Decidable (_ ∧ _ ∧ _))

theorem AtPlace.mono (hv : AtPlace counts j v) (hw : AtPlace counts k w) (h : j ≤ k) : v ≤ w := by
  obtain ⟨-, below, -⟩ := hv
  obtain ⟨-, -, upTo⟩ := hw
  by_cases hvw : v ≤ w
  · exact hvw
  · have fewer : counts.countP (· ≤ w) ≤ counts.countP (· < v) :=
      List.countP_mono_left fun x _ hx => by
        have := of_decide_eq_true hx
        exact decide_eq_true (by omega)
    omega

theorem AtPlace.unique (hv : AtPlace counts k v) (hw : AtPlace counts k w) : v = w :=
  Nat.le_antisymm (hv.mono hw (Nat.le_refl k)) (hw.mono hv (Nat.le_refl k))

/-- What stands before a count in ascending order is at most the count, and what stands after it at
least. -/
theorem atPlace_of_append {before after : List Nat}
    (sorted : (before ++ v :: after).Pairwise (· ≤ ·)) :
    AtPlace (before ++ v :: after) before.length v := by
  obtain ⟨-, later, earlier⟩ := List.pairwise_append.mp sorted
  have most : ∀ b ∈ before, b ≤ v := fun b hb => earlier b hb v List.mem_cons_self
  have least : ∀ a ∈ after, v ≤ a := (List.pairwise_cons.mp later).1
  refine ⟨List.mem_append_right before List.mem_cons_self, ?_, ?_⟩
  · have none_after : after.countP (· < v) = 0 :=
      List.countP_eq_zero.mpr fun a ha => by simpa using least a ha
    have some_before := List.countP_le_length (p := (· < v)) (l := before)
    rw [List.countP_append, List.countP_cons_of_neg (by simp), none_after]
    omega
  · have all_before : before.countP (· ≤ v) = before.length :=
      List.countP_eq_length.mpr fun b hb => decide_eq_true (most b hb)
    rw [List.countP_append, List.countP_cons_of_pos (by simp), all_before]
    omega

theorem atPlace_mergeSort (hk : k < counts.length) :
    AtPlace counts k (counts.mergeSort.getD k 0) := by
  have perm := List.mergeSort_perm counts fun a b => decide (a ≤ b)
  have inside : k < counts.mergeSort.length := by rwa [perm.length_eq]
  have divided : counts.mergeSort = counts.mergeSort.take k ++
      counts.mergeSort[k] :: counts.mergeSort.drop (k + 1) := by
    rw [← List.drop_eq_getElem_cons, List.take_append_drop]
  have sorted := ascending counts
  rw [divided] at sorted
  have place := atPlace_of_append sorted
  rw [← divided, List.length_take, Nat.min_eq_left (Nat.le_of_lt inside)] at place
  rw [List.getD_eq_getElem?_getD, List.getElem?_eq_getElem inside, Option.getD_some]
  exact ⟨perm.mem_iff.mp place.1, perm.countP_eq _ ▸ place.2.1, perm.countP_eq _ ▸ place.2.2⟩

theorem summarize_of_perm (h : counts.Perm counts') (characters : Nat) :
    summarize counts characters = summarize counts' characters := by
  have empty : counts = [] ↔ counts' = [] := by
    rw [← List.length_eq_zero_iff, ← List.length_eq_zero_iff, h.length_eq]
  rw [summarize, summarize, mergeSort_congr h]
  simp only [empty]

end Statistics

theorem summary_is_independent_of_order {counts counts' : List Nat} (h : counts.Perm counts') :
    (∀ characters, Statistics.summarize counts characters = Statistics.summarize counts' characters) ∧
    ∀ size provider model, Sample.summarize { size, provider, model, counts } =
      Sample.summarize { size, provider, model, counts := counts' } := by
  constructor
  · exact Statistics.summarize_of_perm h
  · intro size provider model
    rw [Sample.summarize, Sample.summarize, Record.ofCounts, Record.ofCounts]
    exact congrArg _ (Statistics.summarize_of_perm h size)

/-- Three counts, and the same counts as they come another way round. -/
theorem summary_is_independent_of_order_reversed :
    [5, 1, 3].Perm [3, 1, 5] ∧
      Statistics.summarize [5, 1, 3] 100 = Statistics.summarize [3, 1, 5] 100 ∧
      Statistics.summarize [5, 1, 3] 0 = Statistics.summarize [3, 1, 5] 0 := by
  have perm : [5, 1, 3].Perm [3, 1, 5] := by decide
  have same := (summary_is_independent_of_order perm).1
  exact ⟨perm, same 100, same 0⟩

end TokenSurvey
