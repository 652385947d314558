import TokenSurvey.Export.Delivery

/-! The bytes that an export hands on are those of its text, whatever writes they are put in. -/
namespace TokenSurvey.Export

open Tokens (encodeText)

/-- Buffers hold everything that is put into them, in order. -/
theorem flatten_buffered (held : List UInt8) (room : Nat) (parcels : List (List UInt8)) :
    (buffered held room parcels).1.flatten ++ (buffered held room parcels).2 =
      held.reverse ++ parcels.flatten := by
  induction parcels generalizing held room with
  | nil => simp [buffered]
  | cons parcel parcels ih =>
    rw [buffered]
    split
    · simp [ih]
    · simp [ih]

theorem flatten_parcels (stroke : Csv.Stroke) :
    (parcels stroke).flatten = encodeText stroke.chars := by
  cases stroke with
  | char c =>
    have bytes (bs : List UInt8) : (bs.map fun b => [b]).flatten = bs := by
      induction bs with
      | nil => rfl
      | cons b bs ih => simp [ih]
    simp [parcels, bytes, encodeText, Csv.Stroke.chars]
  | quoteTwice => simp [parcels]

theorem bytes_sheet (records : List Record) :
    (sheet records).bytes = encodeText (Report.Sheet.render records).toList := by
  have strokes (ss : List Csv.Stroke) :
      (ss.flatMap parcels).flatten = encodeText (ss.flatMap Csv.Stroke.chars) := by
    induction ss with
    | nil => rfl
    | cons s ss ih => simp_all [flatten_parcels, encodeText]
  rw [Report.Sheet.render, String.toList_ofList, Csv.write, ← strokes, Delivery.bytes, sheet]
  simp [flatten_buffered]

theorem bytes_document (d : Report.Document) :
    (document d).bytes = encodeText (d.toJson.pretty 0) := by
  simp [Delivery.bytes, document, encodeText, List.flatMap_def]

end TokenSurvey.Export
