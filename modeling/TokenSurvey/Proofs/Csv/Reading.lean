import TokenSurvey.Csv

/-! A reader of comma-separated values after RFC 4180, with a line feed at the end of a row. What is
written reads back, field by field. -/
namespace TokenSurvey.Csv

/-- Where a reader stands: before a field, in one without quotes, within quotes, or after a quote
that ends them unless another one follows. -/
inductive Place where
  | start
  | plain
  | quoted
  | quote
  deriving DecidableEq

/-- The rows that are complete, the fields of the next row, and what has been read of the next field. -/
structure Cursor where
  rows : List (List (List Char)) := []
  fields : List (List Char) := []
  field : List Char := []
  place : Place := .start

namespace Cursor

def put (c : Char) (place : Place) (s : Cursor) : Cursor := { s with field := s.field ++ [c], place }

def endField (s : Cursor) : Cursor := { rows := s.rows, fields := s.fields ++ [s.field] }

def endRow (s : Cursor) : Cursor := { rows := s.rows ++ [s.fields ++ [s.field]] }

/-- A quote opens a field or stands twice within quotes, and nothing else follows a closing one. -/
def step (s : Cursor) (c : Char) : Option Cursor :=
  match s.place with
  | .quoted => some (if c = '"' then { s with place := .quote } else s.put c .quoted)
  | .start =>
    if c = ',' then some s.endField
    else if c = '\n' then some s.endRow
    else if c = '"' then some { s with place := .quoted }
    else some (s.put c .plain)
  | .plain =>
    if c = ',' then some s.endField
    else if c = '\n' then some s.endRow
    else if c = '"' then none
    else some (s.put c .plain)
  | .quote =>
    if c = ',' then some s.endField
    else if c = '\n' then some s.endRow
    else if c = '"' then some (s.put c .quoted)
    else none

/-- The last row may lack its line feed, but quotes must be closed. -/
def finish (s : Cursor) : Option (List (List (List Char))) :=
  match s.place, s.fields with
  | .quoted, _ => none
  | .start, [] => some s.rows
  | _, _ => some s.endRow.rows

end Cursor

def read? (text : List Char) : Option (List (List (List Char))) :=
  (text.foldlM Cursor.step {}).bind Cursor.finish

variable (rows : List (List (List Char))) (fields : List (List Char)) {field : List Char}
  {place : Place}

/-- Within quotes every character stands for itself, and two quotes for one. -/
theorem foldlM_quotedStrokes (field before : List Char) :
    ((field.map quotedStroke).flatMap Stroke.chars).foldlM Cursor.step
        ⟨rows, fields, before, .quoted⟩ =
      some ⟨rows, fields, before ++ field, .quoted⟩ := by
  induction field generalizing before with
  | nil => simp
  | cons c field ih =>
    by_cases hc : c = '"'
    · subst hc
      simpa [quotedStroke, Stroke.chars, Cursor.step, Cursor.put] using ih (before ++ ['"'])
    · simpa [quotedStroke, Stroke.chars, Cursor.step, Cursor.put, hc] using ih (before ++ [c])

/-- Without quotes every character stands for itself if none calls for quotes. -/
theorem foldlM_plainStrokes (h : needsQuotes field = false) (hplace : place = .start ∨ place = .plain)
    (before : List Char) :
    ∃ place', (place' = .start ∨ place' = .plain) ∧
      ((field.map Stroke.char).flatMap Stroke.chars).foldlM Cursor.step
          ⟨rows, fields, before, place⟩ =
        some ⟨rows, fields, before ++ field, place'⟩ := by
  induction field generalizing before place with
  | nil => exact ⟨place, hplace, by simp⟩
  | cons c field ih =>
    simp only [needsQuotes, List.any_cons, Bool.or_eq_false_iff, decide_eq_false_iff_not] at h
    obtain ⟨⟨⟨⟨comma, quote⟩, -⟩, feed⟩, rest⟩ := h
    obtain ⟨place', hplace', read⟩ := ih rest (.inr rfl) (before ++ [c])
    refine ⟨place', hplace', ?_⟩
    rcases hplace with rfl | rfl <;>
      simpa [Stroke.chars, Cursor.step, Cursor.put, comma, quote, feed] using read

/-- A field is read as far as a separator can end it. -/
theorem foldlM_fieldStrokes (field : List Char) :
    ∃ place ≠ Place.quoted, ((fieldStrokes field).flatMap Stroke.chars).foldlM Cursor.step
      ⟨rows, fields, [], .start⟩ = some ⟨rows, fields, field, place⟩ := by
  rw [fieldStrokes]
  cases h : needsQuotes field with
  | false =>
    obtain ⟨place, hplace, read⟩ := foldlM_plainStrokes rows fields h (.inl rfl) []
    refine ⟨place, ?_, by simpa using read⟩
    rcases hplace with rfl | rfl <;> decide
  | true =>
    refine ⟨.quote, by decide, ?_⟩
    have read := foldlM_quotedStrokes rows fields field []
    simp [Stroke.chars, Cursor.step] at read ⊢
    rw [read]
    rfl

theorem step_comma (h : place ≠ .quoted) :
    Cursor.step ⟨rows, fields, field, place⟩ ',' = some ⟨rows, fields ++ [field], [], .start⟩ := by
  cases place with
  | quoted => exact (h rfl).elim
  | start | plain | quote => rfl

theorem step_feed (h : place ≠ .quoted) :
    Cursor.step ⟨rows, fields, field, place⟩ '\n' =
      some ⟨rows ++ [fields ++ [field]], [], [], .start⟩ := by
  cases place with
  | quoted => exact (h rfl).elim
  | start | plain | quote => rfl

theorem foldlM_rowStrokes {row : List (List Char)} (h : row ≠ []) :
    ((rowStrokes row).flatMap Stroke.chars).foldlM Cursor.step ⟨rows, fields, [], .start⟩ =
      some ⟨rows ++ [fields ++ row], [], [], .start⟩ := by
  induction row generalizing fields with
  | nil => exact (h rfl).elim
  | cons field row ih =>
    obtain ⟨place, hplace, read⟩ := foldlM_fieldStrokes rows fields field
    cases row with
    | nil =>
      rw [rowStrokes, List.flatMap_append, List.foldlM_append, read]
      simp [Stroke.chars, step_feed rows fields hplace]
    | cons next row =>
      have unfolded : rowStrokes (field :: next :: row) =
          fieldStrokes field ++ .char ',' :: rowStrokes (next :: row) := rfl
      have others := ih (fields ++ [field]) (by simp)
      rw [unfolded, List.flatMap_append, List.foldlM_append, read]
      simpa [Stroke.chars, step_comma rows fields hplace] using others

theorem foldlM_strokes {written : List (List (List Char))} (h : ∀ row ∈ written, row ≠ []) :
    (write written).foldlM Cursor.step ⟨rows, [], [], .start⟩ =
      some ⟨rows ++ written, [], [], .start⟩ := by
  induction written generalizing rows with
  | nil => simp [write, strokes]
  | cons row written ih =>
    have first := foldlM_rowStrokes rows [] (h row (by simp))
    have others := ih (rows ++ [row]) fun row hrow => h row (by simp [hrow])
    rw [write, strokes] at others ⊢
    rw [List.flatMap_cons, List.flatMap_append, List.foldlM_append, first]
    simpa using others

/-- Rows without fields apart, what is written reads back. -/
theorem read?_write (h : ∀ row ∈ rows, row ≠ []) : read? (write rows) = some rows := by
  rw [read?, foldlM_strokes [] h]
  rfl

/-- A comma, a line break and quotes within quotes, and a last row without its line feed. -/
example : read? ['"', ',', '\n', '"', '"', '"', ',', '\n', 'a', ',', ' ', 'b'] =
    some [[[',', '\n', '"'], []], [['a'], [' ', 'b']]] := by
  decide

example : read? ['a', '"', '\n'] = none := by decide

end TokenSurvey.Csv
