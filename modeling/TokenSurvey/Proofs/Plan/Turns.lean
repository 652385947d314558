import TokenSurvey.Proofs.Plan.Schedule

/-! The queries of a plan that go to one provider: how many there are, and which of them is the one
for a given size, pair and trial. -/
namespace TokenSurvey

section Blocks

variable {α β : Type} {f : α → List β} {P : β → Bool} {Q : α → Bool} {n : Nat}

theorem take_flatMap_of_length {j : Nat} (hj : j ≤ n) {xs : List α}
    (h : ∀ x ∈ xs, (f x).length = n) {i : Nat} {x : α} (hx : xs[i]? = some x) :
    (xs.flatMap f).take (i * n + j) = (xs.take i).flatMap f ++ (f x).take j := by
  induction xs generalizing i with
  | nil => simp at hx
  | cons y xs ih =>
    have hy : (f y).length = n := h y (by simp)
    rw [List.flatMap_cons, List.take_append, hy]
    cases i with
    | zero =>
      obtain rfl : y = x := by simpa using hx
      have none : j - n = 0 := by omega
      simp [none]
    | succ i =>
      have whole : (i + 1) * n + j - n = i * n + j := by rw [Nat.succ_mul]; omega
      have full : (f y).length ≤ (i + 1) * n + j := by rw [hy, Nat.succ_mul]; omega
      rw [whole, ih (fun z hz => h z (by simp [hz])) (by simpa using hx),
        List.take_of_length_le full]
      simp

/-- Blocks that count in full or not at all. -/
theorem countP_flatMap_of_blocks (xs : List α)
    (h : ∀ x ∈ xs, (f x).countP P = if Q x then n else 0) :
    (xs.flatMap f).countP P = xs.countP Q * n := by
  induction xs with
  | nil => simp
  | cons x xs ih =>
    rw [List.flatMap_cons, List.countP_append, h x (by simp), ih fun y hy => h y (by simp [hy]),
      List.countP_cons]
    split <;> simp [Nat.succ_mul, Nat.add_comm]

end Blocks

namespace Plan

variable (p : Plan) (provider : Provider)

/-- How many models are listed for a provider, over all its groups. -/
def modelCount : Nat := ((p.groups.filter (·.1 = provider)).flatMap Prod.snd).length

/-- The queries that go to a provider, in order. -/
def queriesTo : List Query := p.queries.filter (·.provider = provider)

theorem countP_pairs : p.pairs.countP (·.1 = provider) = p.modelCount provider := by
  rw [pairs, modelCount]
  induction p.groups with
  | nil => rfl
  | cons group groups ih =>
    rw [List.flatMap_cons, List.countP_append, ih, List.countP_map]
    by_cases h : group.1 = provider <;> simp [h, Function.comp_def]

theorem countP_cellQueries {c : Cell} (h : c ∈ p.cells) :
    c.queries.countP (·.provider = provider) = if c.provider = provider then p.trials else 0 := by
  rw [Cell.queries, List.countP_map]
  by_cases hc : c.provider = provider <;> simp [hc, Function.comp_def, length_of_mem_cells h]

theorem countP_rowCells (row : Nat × List String) :
    (p.rowCells row).countP (·.provider = provider) = p.modelCount provider := by
  rw [rowCells, List.countP_map, ← countP_pairs]
  rfl

/-- The cells of whole rows that belong to a provider. -/
theorem countP_flatMap_rowCells (rows : List (Nat × List String)) :
    (rows.flatMap p.rowCells).countP (·.provider = provider) =
      rows.length * p.modelCount provider := by
  rw [countP_flatMap_of_blocks (Q := fun _ => true) (n := p.modelCount provider)]
  · simp
  · intro row hrow
    exact p.countP_rowCells provider row

/-- The queries of some cells that go to a provider. -/
theorem countP_flatMap_queries {cells : List Cell} (h : ∀ c ∈ cells, c ∈ p.cells) :
    (cells.flatMap Cell.queries).countP (·.provider = provider) =
      cells.countP (·.provider = provider) * p.trials := by
  apply countP_flatMap_of_blocks
  intro c hc
  simpa using p.countP_cellQueries provider (h c hc)

theorem length_queriesTo :
    (p.queriesTo provider).length = p.sizes.length * p.modelCount provider * p.trials := by
  rw [queriesTo, ← List.countP_eq_length_filter, queries,
    p.countP_flatMap_queries provider (fun c hc => hc), cells, countP_flatMap_rowCells, length_rows]

variable {p provider} {size i j k : Nat} {pair : Provider × String}

/-- How many queries a provider has had before trial `j` of its pair `k` at size `i`. -/
theorem countP_take_queries (hi : p.sizes[i]? = some size) (hk : p.pairs[k]? = some pair)
    (hj : j < p.trials) (hpair : pair.1 = provider) :
    (p.queries.take ((i * p.pairs.length + k) * p.trials + j)).countP (·.provider = provider) =
      (i * p.modelCount provider + (p.pairs.take k).countP (·.1 = provider)) * p.trials + j := by
  obtain ⟨texts, hb, hrow⟩ := getElem?_rows hi
  have hlength : i < p.rows.length := (List.getElem?_eq_some_iff.mp hrow).1
  have hwidth : k < p.pairs.length := (List.getElem?_eq_some_iff.mp hk).1
  have before : (p.cells.take (i * p.pairs.length + k)).countP (·.provider = provider) =
      i * p.modelCount provider + (p.pairs.take k).countP (·.1 = provider) := by
    rw [cells,
      take_flatMap_of_length (Nat.le_of_lt hwidth) (fun row _ => p.length_rowCells row) hrow,
      List.countP_append, countP_flatMap_rowCells, List.length_take_of_le (Nat.le_of_lt hlength),
      rowCells, ← List.map_take, List.countP_map]
    rfl
  have within : ((Cell.mk size texts pair.1 pair.2).queries.take j).countP
      (·.provider = provider) = j := by
    have : j ≤ texts.length := by rw [length_of_mem_batches (List.mem_of_getElem? hb)]; omega
    simp [Cell.queries, ← List.map_take, List.countP_map, Function.comp_def, hpair, this]
  rw [queries, take_flatMap_of_length (Nat.le_of_lt hj) (fun c => length_cellQueries)
      (getElem?_cells hrow hk),
    List.countP_append, within, p.countP_flatMap_queries provider fun c => List.mem_of_mem_take,
    before]

end Plan
end TokenSurvey
