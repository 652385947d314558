/-! What takes bytes: a device that may be full, and whose flush may fail. -/
namespace TokenSurvey.Storage

/-- `room` is how many bytes the device takes, without bound if `none`. -/
structure Device where
  room : Option Nat := none
  flushFails : Bool := false

/-- A device in use; `writes` are the accepted ones, the latest first. -/
structure Sink extends Device where
  writes : List (List UInt8) := []

inductive SinkFault where
  | full
  | flush
  deriving DecidableEq

def SinkFault.message : SinkFault → String
  | full => "device full"
  | flush => "flush failed"

namespace Sink

def accepted (s : Sink) : List UInt8 := s.writes.reverse.flatten

/-- A write that does not fit fails whole. -/
def write (chunk : List UInt8) (s : Sink) : Except SinkFault Sink :=
  match s.room with
  | none => .ok { s with writes := chunk :: s.writes }
  | some room =>
    if chunk.length ≤ room then
      .ok { s with room := some (room - chunk.length), writes := chunk :: s.writes }
    else .error .full

/-- Writes until one fails; the device keeps what it had accepted. -/
def writeAll : List (List UInt8) → Sink → Option SinkFault × Sink
  | [], s => (none, s)
  | chunk :: chunks, s =>
    match s.write chunk with
    | .ok s => writeAll chunks s
    | .error fault => (some fault, s)

def flush (s : Sink) : Option SinkFault := if s.flushFails then some .flush else none

end Sink
end TokenSurvey.Storage
