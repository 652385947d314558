import Mathlib.Algebra.Ring.Nat
import TokenSurvey.Report.Table

/-! Where the cells of a table stand: every row keeps the places of its fields, and the header keeps
them up to its last title, which is one character wider than its field. -/
namespace TokenSurvey.Report.Table

variable {cells : Column → String} {c : Column} {k : Nat} {s : String}

/-- A record whose cells fit their fields and stay on one line. -/
structure Fits (r : Record) : Prop where
  width : ∀ c ∈ columns, (c.cell r).length ≤ c.width
  unbroken : ∀ c ∈ columns, '\n' ∉ (c.cell r).toList

/-- Where the field of the column at a place begins. -/
def start (k : Nat) : Nat := ((columns.take k).map fun c => c.width + 2).sum

/-- In its field of a line a text stands at the end, or at the beginning if the column is aligned to
the left; the rest of the field is blank. -/
def Column.Stands (c : Column) (line : String) (start : Nat) (s : String) : Prop :=
  let blanks := List.replicate (c.width - s.length) ' '
  (line.toList.drop start).take c.width =
    match c.alignment with
    | .left => s.toList ++ blanks
    | .right => blanks ++ s.toList

theorem toList_pad (c : Column) (s : String) :
    (c.pad s).toList = match c.alignment with
      | .left => s.toList ++ List.replicate (c.width - s.length) ' '
      | .right => List.replicate (c.width - s.length) ' ' ++ s.toList := by
  rw [Column.pad]
  cases c.alignment <;> simp

theorem length_pad (h : s.length ≤ c.width) : (c.pad s).toList.length = c.width := by
  rw [toList_pad]
  cases c.alignment <;> simp [String.length_toList, h]

theorem not_mem_pad (h : '\n' ∉ s.toList) : '\n' ∉ (c.pad s).toList := by
  rw [toList_pad]
  cases c.alignment <;> simp [h]

/-- Parts with a separator between them, from the part at a place on. -/
theorem drop_intercalate {α : Type} (separator : List α) {parts : List (List α)}
    (hk : k < parts.length) :
    (separator.intercalate parts).drop
        ((parts.take k).map fun part => part.length + separator.length).sum =
      separator.intercalate (parts.drop k) := by
  induction parts generalizing k with
  | nil => simp at hk
  | cons part parts ih =>
    cases k with
    | zero => simp
    | succ k =>
      have hk : k < parts.length := by simpa using hk
      have more : parts ≠ [] := List.ne_nil_of_length_pos (by omega)
      rw [List.intercalate_cons_of_ne_nil more, List.take_succ_cons, List.map_cons, List.sum_cons,
        ← List.length_append, List.drop_length_add_append, ih hk, List.drop_succ_cons]

theorem toList_row (cells : Column → String) :
    (row cells).toList = [' ', ' '].intercalate (columns.map fun c => (c.pad (cells c)).toList) := by
  rw [row, String.toList_intercalate, List.map_map]
  rfl

/-- Cells that fit do not shift what stands after them. -/
theorem drop_row (hk : k < columns.length)
    (fit : ∀ c ∈ columns.take k, (cells c).length ≤ c.width) :
    (row cells).toList.drop (start k) =
      [' ', ' '].intercalate ((columns.drop k).map fun c => (c.pad (cells c)).toList) := by
  have before : start k =
      (((columns.map fun c => (c.pad (cells c)).toList).take k).map
        fun part => part.length + [' ', ' '].length).sum := by
    rw [start, ← List.map_take, List.map_map]
    refine congrArg List.sum (List.map_congr_left fun c hc => ?_)
    rw [Function.comp_apply, length_pad (fit c hc)]
    rfl
  rw [toList_row, before, drop_intercalate _ (by simpa using hk), List.map_drop]

theorem take_intercalate {α : Type} (separator part : List α) (parts : List (List α)) :
    (separator.intercalate (part :: parts)).take part.length = part := by
  cases parts with
  | nil => simp
  | cons next parts => rw [List.intercalate_cons_cons, List.append_assoc, List.take_left]

theorem stands_of_fit (hc : columns[k]? = some c)
    (before : ∀ d ∈ columns.take k, (cells d).length ≤ d.width)
    (fit : (cells c).length ≤ c.width) : c.Stands (row cells) (start k) (cells c) := by
  obtain ⟨hk, rfl⟩ := List.getElem?_eq_some_iff.mp hc
  rw [Column.Stands, ← toList_pad, drop_row hk before, List.drop_eq_getElem_cons hk, List.map_cons]
  have field := take_intercalate [' ', ' '] (columns[k].pad (cells columns[k])).toList
    ((columns.drop (k + 1)).map fun c => (c.pad (cells c)).toList)
  rwa [length_pad fit] at field

/-- Only the last field can make a row longer than the others. -/
theorem length_row (fit : ∀ c ∈ columns.take 8, (cells c).length ≤ c.width) :
    (row cells).length = start 8 + max columns[8].width (cells columns[8]).length := by
  have last : (row cells).toList.drop (start 8) = (columns[8].pad (cells columns[8])).toList := by
    rw [drop_row (by decide) fit]
    exact List.intercalate_singleton
  have size : (columns[8].pad (cells columns[8])).toList.length =
      max columns[8].width (cells columns[8]).length := by
    rw [toList_pad]
    cases columns[8].alignment <;> simp [String.length_toList] <;> omega
  have wide : 0 < columns[8].width := by decide
  have := congrArg List.length last
  rw [List.length_drop, String.length_toList, size] at this
  omega

theorem mem_intercalate {α : Type} {a : α} {separator : List α} {parts : List (List α)}
    (h : a ∈ separator.intercalate parts) : a ∈ separator ∨ ∃ part ∈ parts, a ∈ part := by
  induction parts with
  | nil => simp at h
  | cons part parts ih =>
    cases parts with
    | nil => exact .inr ⟨part, by simp, by simpa using h⟩
    | cons next parts =>
      rw [List.intercalate_cons_cons, List.mem_append, List.mem_append] at h
      rcases h with (h | h) | h
      · exact .inr ⟨part, by simp, h⟩
      · exact .inl h
      · obtain h | ⟨other, hother, hmem⟩ := ih h
        · exact .inl h
        · exact .inr ⟨other, List.mem_cons_of_mem _ hother, hmem⟩

theorem not_mem_row (h : ∀ c ∈ columns, '\n' ∉ (cells c).toList) : '\n' ∉ (row cells).toList := by
  intro hmem
  rw [toList_row] at hmem
  obtain hmem | ⟨part, hpart, hmem⟩ := mem_intercalate hmem
  · simp at hmem
  · obtain ⟨c, hc, rfl⟩ := List.mem_map.mp hpart
    exact not_mem_pad (h c hc) hmem

/-- Lines that each end in a break are parts with breaks between them, the last one empty. -/
theorem flatMap_ended (lines : List (List Char)) :
    lines.flatMap (· ++ ['\n']) = ['\n'].intercalate (lines ++ [[]]) := by
  induction lines with
  | nil => rfl
  | cons l lines ih =>
    rw [List.flatMap_cons, ih, List.cons_append, List.intercalate_cons_of_ne_nil (by simp)]

theorem toList_render (records : List Record) :
    (render records).toList =
      ['\n'].intercalate ((header :: rule :: records.map line).map String.toList ++ [[]]) := by
  rw [render, String.toList_join, List.flatMap_map, ← flatMap_ended, List.flatMap_map]
  simp [String.toList_append]

theorem not_mem_lines {records : List Record} (fit : ∀ r ∈ records, Fits r) :
    ∀ l ∈ header :: rule :: records.map line, '\n' ∉ l.toList := by
  have titles : ∀ c ∈ columns, '\n' ∉ c.title.toList := by decide
  refine List.forall_mem_cons.mpr ⟨not_mem_row titles, List.forall_mem_cons.mpr ⟨?_, ?_⟩⟩
  · rw [rule, String.toList_ofList]
    exact fun hmem => absurd (List.eq_of_mem_replicate hmem) (by decide)
  · rintro l hl
    obtain ⟨r, hr, rfl⟩ := List.mem_map.mp hl
    exact not_mem_row (fit r hr).unbroken

/-- Lines are as many as records and two more. All fields but the last stand at the same places in the
header and in every row; the last title ends one character after its field, so that the header and
the rule are longer by that one character than every row. -/
theorem cells_stand_under_titles {records : List Record} (fit : ∀ r ∈ records, Fits r) :
    (render records).toList.splitOn '\n' =
        (header :: rule :: records.map line).map String.toList ++ [[]] ∧
    rule.toList = List.replicate header.length '-' ∧
    (∀ r ∈ records, header.length = (line r).length + 1) ∧
    ∀ k c, columns[k]? = some c →
      (∀ r ∈ records, c.Stands (line r) (start k) (c.cell r)) ∧
      (k < 8 → c.Stands header (start k) c.title) ∧
      (k = 8 → header.toList.drop (start k) = c.title.toList ∧ c.title.length = c.width + 1) := by
  have titles : ∀ c ∈ columns.take 8, c.title.length ≤ c.width := by decide
  have header_length : header.length = start 8 + 15 := length_row titles
  refine ⟨?_, String.toList_ofList, fun r hr => ?_, fun k c hc => ⟨fun r hr => ?_, fun hk => ?_, ?_⟩⟩
  · rw [toList_render]
    refine List.splitOn_intercalate '\n' (List.forall_mem_append.mpr ⟨?_, by simp⟩) (by simp)
    rw [List.forall_mem_map]
    exact not_mem_lines fit
  · have width := (fit r hr).width
    have row_length : (line r).length = start 8 + max columns[8].width (columns[8].cell r).length :=
      length_row fun c hc => width c (List.mem_of_mem_take hc)
    rw [header_length, row_length, Nat.max_eq_left (width columns[8] (List.getElem_mem _))]
    rfl
  · have width := (fit r hr).width
    exact stands_of_fit hc (fun d hd => width d (List.mem_of_mem_take hd))
      (width c (List.mem_of_getElem? hc))
  · have before : ∀ d ∈ columns.take k, d.title.length ≤ d.width := fun d hd =>
      titles d (List.take_subset_take_left columns (Nat.le_of_lt hk) hd)
    have among : c ∈ columns.take 8 :=
      List.mem_of_getElem? ((List.getElem?_take_of_lt hk).trans hc)
    exact stands_of_fit hc before (titles c among)
  · rintro rfl
    obtain rfl : columns[8] = c := Option.some.inj hc
    refine ⟨?_, rfl⟩
    rw [header, drop_row (by decide) titles]
    rfl

/-- Three counts on texts of a hundred characters. -/
def shortRow : Record :=
  { label := "100 chars", provider := .openAI, model := "gpt-4o",
    statistics :=
      { trials := 3, mean := ⟨0x4035555555555555⟩, p50 := ⟨0x4035000000000000⟩,
        p95 := ⟨0x4037000000000000⟩, stdev := ⟨0x3ff3f49c0b9ad4db⟩,
        perThousand := ⟨0x406aaaaaaaaaaaaa⟩ } }

theorem fits_shortRow : Fits shortRow := ⟨by decide +kernel, by decide +kernel⟩

theorem cells_stand_under_titles_short :
    (∀ r ∈ [shortRow], Fits r) ∧
    header.length = (line shortRow).length + 1 ∧
    columns[4].Stands (line shortRow) 63 "21.3" ∧
    columns[4].Stands header 63 "MeanTokens" := by
  have fit : ∀ r ∈ [shortRow], Fits r := List.forall_mem_singleton.mpr fits_shortRow
  obtain ⟨-, -, lengths, places⟩ := cells_stand_under_titles fit
  obtain ⟨rows, titles, -⟩ := places 4 columns[4] rfl
  have cell : columns[4].cell shortRow = "21.3" := by decide +kernel
  have mean := rows shortRow (List.mem_singleton_self _)
  rw [cell] at mean
  exact ⟨fit, lengths shortRow (List.mem_singleton_self _), mean, titles (by decide)⟩

/-- Not all lines of a table have the same length, though every cell fits. -/
theorem table_is_ragged :
    (∀ r ∈ [shortRow], Fits r) ∧
    (render [shortRow]).toList =
      ['\n'].intercalate ([header, rule, line shortRow].map String.toList ++ [[]]) ∧
    header.length = 115 ∧ (line shortRow).length = 114 ∧
    ¬ ∀ l ∈ [header, rule, line shortRow], l.length = header.length := by
  have title : header.length = 115 := by decide +kernel
  have row : (line shortRow).length = 114 := by decide +kernel
  refine ⟨List.forall_mem_singleton.mpr fits_shortRow, toList_render [shortRow], title, row, ?_⟩
  intro same
  have := same (line shortRow) (by simp)
  omega

end TokenSurvey.Report.Table
