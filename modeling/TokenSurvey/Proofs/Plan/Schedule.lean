import TokenSurvey.Plan
import TokenSurvey.Proofs.Lorem.Batches

/-! The schedule of a run: the texts that are drawn, the cells that are measured, and the queries
that are put, each with its place. -/
namespace TokenSurvey

open Dialogue
open TokenSurvey.Random (Source)

/-- What a counter is asked: to count a text for a model of a provider. -/
structure Query where
  provider : Provider
  model : String
  text : String
  deriving DecidableEq

/-- What one sample is measured on. -/
structure Cell where
  size : Nat
  texts : List String
  provider : Provider
  model : String

def Cell.queries (c : Cell) : List Query := c.texts.map (Query.mk c.provider c.model)

/-- Blocks of one length are laid out row by row. -/
theorem getElem?_flatMap_of_length {α β : Type} {f : α → List β} {n j : Nat} (hj : j < n)
    (xs : List α) (h : ∀ x ∈ xs, (f x).length = n) (i : Nat) :
    (xs.flatMap f)[i * n + j]? = xs[i]?.bind fun x => (f x)[j]? := by
  induction xs generalizing i with
  | nil => simp
  | cons x xs ih =>
    have hx : (f x).length = n := h x (by simp)
    rw [List.flatMap_cons]
    cases i with
    | zero => rw [List.getElem?_append_left (by omega)]; simp
    | succ i =>
      have place : (i + 1) * n + j - (f x).length = i * n + j := by rw [hx, Nat.succ_mul]; omega
      rw [List.getElem?_append_right (by rw [hx, Nat.succ_mul]; omega), place,
        ih (fun y hy => h y (by simp [hy])), List.getElem?_cons_succ]

theorem length_flatMap_of_length {α β : Type} {f : α → List β} {n : Nat} (xs : List α)
    (h : ∀ x ∈ xs, (f x).length = n) : (xs.flatMap f).length = xs.length * n := by
  induction xs with
  | nil => simp
  | cons x xs ih =>
    rw [List.flatMap_cons, List.length_append, h x (by simp), ih fun y hy => h y (by simp [hy]),
      List.length_cons, Nat.succ_mul, Nat.add_comm]

namespace Plan

variable (p : Plan)

/-- What a run asks of its plan. -/
def Valid : Prop := p.sizes ≠ [] ∧ 0 ∉ p.sizes ∧ p.trials ≠ 0

instance : Decidable p.Valid := inferInstanceAs (Decidable (_ ∧ _ ∧ _))

/-- The lengths of all texts in the order of drawing. -/
def lengths : List Nat := p.sizes.flatMap (List.replicate p.trials)

/-- All texts, drawn one after another from the one source that the seed makes. -/
def drawn : List String := answers Lorem.text p.lengths (.ofSeed (UInt64.ofNat p.seed))

/-- The same texts, size by size. -/
def batches : List (List String) :=
  answers (Lorem.batch p.trials) p.sizes (.ofSeed (UInt64.ofNat p.seed))

/-- Each size with its texts. -/
def rows : List (Nat × List String) := p.sizes.zip p.batches

/-- The cells of one size. -/
def rowCells (row : Nat × List String) : List Cell :=
  p.pairs.map fun (provider, model) => { size := row.1, texts := row.2, provider, model }

def cells : List Cell := p.rows.flatMap p.rowCells

/-- What a run asks, cell by cell. -/
def queries : List Query := p.cells.flatMap Cell.queries

theorem sampleCount_eq : p.sampleCount = p.sizes.length * p.pairs.length := by
  rw [sampleCount, pairs]
  congr 1
  induction p.groups with
  | nil => rfl
  | cons group groups ih => simp [ih]

@[simp] theorem length_batches : p.batches.length = p.sizes.length := length_answers ..

@[simp] theorem length_rows : p.rows.length = p.sizes.length := by
  rw [rows, List.length_zip, length_batches, Nat.min_self]

@[simp] theorem length_rowCells (row : Nat × List String) :
    (p.rowCells row).length = p.pairs.length := List.length_map ..

theorem flatten_batches : p.batches.flatten = p.drawn := by
  rw [drawn, lengths, answers_flatMap]
  rfl

theorem after_batches (s : Source) :
    after (Lorem.batch p.trials) p.sizes s = after Lorem.text p.lengths s := by
  rw [lengths, after_flatMap]
  rfl

variable {p} {size i j k : Nat} {pair : Provider × String} {texts : List String}

/-- The texts of a run are those that passages of its lengths draw from the source of its seed. -/
theorem mapM_passage_lengths (h : p.Valid) :
    (p.sizes.flatMap (List.replicate p.trials)).mapM Lorem.passage
      (Source.ofSeed (UInt64.ofNat p.seed)) =
        (.ok p.drawn, after Lorem.text p.lengths (.ofSeed (UInt64.ofNat p.seed))) := by
  apply Lorem.mapM_passage
  intro n hn
  obtain ⟨size, hsize, hn⟩ := List.mem_flatMap.mp hn
  obtain rfl := List.eq_of_mem_replicate hn
  exact ne_of_mem_of_not_mem hsize h.2.1

theorem length_of_mem_batches (h : texts ∈ p.batches) : texts.length = p.trials := by
  obtain ⟨n, -, s, rfl⟩ := exists_of_mem_answers h
  exact Lorem.length_batch p.trials n s

theorem getElem?_drawn (hj : j < p.trials) :
    p.drawn[i * p.trials + j]? = p.batches[i]?.bind fun texts => texts[j]? := by
  rw [← flatten_batches, ← List.flatMap_id]
  exact getElem?_flatMap_of_length hj p.batches (fun texts => length_of_mem_batches) i

/-- Every cell is in the row of its size. -/
theorem mem_rows_of_mem_cells {c : Cell} (h : c ∈ p.cells) : (c.size, c.texts) ∈ p.rows := by
  obtain ⟨row, hrow, hc⟩ := List.mem_flatMap.mp h
  obtain ⟨pair, -, rfl⟩ := List.mem_map.mp hc
  exact hrow

theorem length_of_mem_cells {c : Cell} (h : c ∈ p.cells) : c.texts.length = p.trials :=
  length_of_mem_batches (List.of_mem_zip (mem_rows_of_mem_cells h)).2

theorem length_cells : p.cells.length = p.sampleCount := by
  rw [cells, length_flatMap_of_length p.rows (fun row _ => p.length_rowCells row), sampleCount_eq,
    length_rows]

theorem length_cellQueries {c : Cell} (h : c ∈ p.cells) : c.queries.length = p.trials := by
  rw [Cell.queries, List.length_map, length_of_mem_cells h]

theorem length_queries : p.queries.length = p.sampleCount * p.trials := by
  rw [queries, length_flatMap_of_length p.cells (fun c => length_cellQueries), length_cells]

theorem getElem?_rows (hi : p.sizes[i]? = some size) :
    ∃ texts, p.batches[i]? = some texts ∧ p.rows[i]? = some (size, texts) := by
  have hlt : i < p.batches.length := by
    rw [length_batches]
    exact (List.getElem?_eq_some_iff.mp hi).1
  have hb : p.batches[i]? = some p.batches[i] := List.getElem?_eq_getElem hlt
  exact ⟨p.batches[i], hb, List.getElem?_zip_eq_some.mpr ⟨hi, hb⟩⟩

theorem getElem?_cells {row : Nat × List String} (hi : p.rows[i]? = some row)
    (hk : p.pairs[k]? = some pair) :
    p.cells[i * p.pairs.length + k]? = some ⟨row.1, row.2, pair.1, pair.2⟩ := by
  rw [cells, getElem?_flatMap_of_length (List.getElem?_eq_some_iff.mp hk).1 _
    (fun row _ => p.length_rowCells row), hi]
  simp [rowCells, hk]

/-- The query for trial `j` of pair `k` at size `i`, with the text of that trial. -/
theorem getElem?_queries (hi : p.sizes[i]? = some size) (hk : p.pairs[k]? = some pair)
    (hj : j < p.trials) :
    ∃ text, p.drawn[i * p.trials + j]? = some text ∧
      p.queries[(i * p.pairs.length + k) * p.trials + j]? = some ⟨pair.1, pair.2, text⟩ := by
  obtain ⟨texts, hb, hrow⟩ := getElem?_rows hi
  have hlt : j < texts.length := by
    rw [length_of_mem_batches (List.mem_of_getElem? hb)]
    exact hj
  refine ⟨texts[j], by simp [getElem?_drawn hj, hb, hlt], ?_⟩
  rw [queries, getElem?_flatMap_of_length hj p.cells (fun c => length_cellQueries),
    getElem?_cells hrow hk]
  simp [Cell.queries, hlt]

end Plan
end TokenSurvey
