import TokenSurvey.Fault
import TokenSurvey.Json.Printer
import TokenSurvey.Report.Document
import TokenSurvey.Report.Sheet
import TokenSurvey.Storage.Disk
import TokenSurvey.Tokens.Tokenizer

/-! Handing a rendering on to a sink or a file, and what a failure on the way means. -/
namespace TokenSurvey.Export

open Storage (Disk Sink)
open Tokens (encodeText)

/-- A rendering in the writes that hand it on: some while it is made, some at its end. -/
structure Delivery where
  writes : List (List UInt8)
  last : List (List UInt8)
  fault : String → Fault

def Delivery.bytes (d : Delivery) : List UInt8 := (d.writes ++ d.last).flatten

/-- A failure while the content is made is the format's; one at the end is the device's. -/
def Delivery.send (d : Delivery) (s : Sink) : Except Fault Unit × Sink :=
  match s.writeAll d.writes with
  | (some failure, s) => (.error (d.fault failure.message), s)
  | (none, s) =>
    match s.writeAll d.last with
    | (some failure, s) => (.error (.io failure.message), s)
    | (none, s) =>
      match s.flush with
      | some failure => (.error (.io failure.message), s)
      | none => (.ok (), s)

/-- The file is created first; what it takes replaces what was there. -/
def Delivery.sendTo (d : Delivery) (name : String) (disk : Disk) : Except Fault Unit × Disk :=
  match disk.destination name with
  | .error obstacle => (.error (.io obstacle.message), disk)
  | .ok path =>
    let (outcome, sink) := d.send { toDevice := disk.device path }
    (outcome, disk.put path sink.accepted)

/-- The bytes that a sheet gathers before it hands them on. -/
def bufferSize : Nat := 8192

/-- The bytes of a stroke that a buffer may not part: single bytes, but two quotes together. -/
def parcels : Csv.Stroke → List (List UInt8)
  | .char c => (String.utf8EncodeChar c).map fun b => [b]
  | .quoteTwice => [encodeText Csv.Stroke.quoteTwice.chars]

/-- The buffers handed on, each when the next parcel does not fit, and what is left at the end;
what a buffer holds is given backwards, with the room that it has left. -/
def buffered (held : List UInt8) (room : Nat) :
    List (List UInt8) → List (List UInt8) × List UInt8
  | [] => ([], held.reverse)
  | parcel :: parcels =>
    if parcel.length ≤ room then buffered (parcel.reverse ++ held) (room - parcel.length) parcels
    else
      let (full, rest) := buffered parcel.reverse (bufferSize - parcel.length) parcels
      (held.reverse :: full, rest)

/-- A sheet goes through a buffer. -/
def sheet (records : List Record) : Delivery :=
  let strokes := Csv.strokes (Report.Sheet.rows records)
  let (full, rest) := buffered [] bufferSize (strokes.flatMap parcels)
  { writes := full, last := [rest], fault := .csv }

/-- A document is written in pieces as they are made. -/
def document (d : Report.Document) : Delivery :=
  { writes := (d.toJson.pretty 0).map fun c => String.utf8EncodeChar c, last := [], fault := .json }

end TokenSurvey.Export
