import TokenSurvey.Proofs.Export.Rendering
import TokenSurvey.Proofs.Storage.Room

/-! What an export comes to on a device: it succeeds exactly when the device has taken all of its
text and is flushed. A failure names the stage that it struck. -/
namespace TokenSurvey.Export

open Storage (Device Sink SinkFault)
open Tokens (encodeText)

namespace Delivery

/-- How a delivery to a fresh device ends. -/
def outcome (d : Delivery) (device : Device) : Except Fault Unit :=
  (d.send { toDevice := device }).1

/-- What a fresh device takes of a delivery. -/
def taken (d : Delivery) (device : Device) : List UInt8 :=
  (d.send { toDevice := device }).2.accepted

variable {d : Delivery} {device : Device}

theorem bytes_eq (d : Delivery) : d.bytes = d.writes.flatten ++ d.last.flatten := by
  rw [bytes, List.flatten_append]

theorem length_bytes (d : Delivery) :
    d.bytes.length = d.writes.flatten.length + d.last.flatten.length := by
  rw [bytes_eq, List.length_append]

/-- What is taken and lost, and how it ends, is read off a delivery. -/
theorem outcome_taken_of_send {result : Except Fault Unit} {s : Sink}
    (h : d.send { toDevice := device } = (result, s)) :
    d.outcome device = result ∧ d.taken device = s.accepted := by
  rw [outcome, taken, h]
  exact ⟨rfl, rfl⟩

/-- Without room for the first writes the format's fault is met. -/
theorem outcome_taken_of_not_holds_writes (h : device.holds d.writes.flatten.length = false) :
    d.outcome device = .error (d.fault SinkFault.full.message) ∧
      d.taken device <+: d.bytes ∧ d.taken device ≠ d.bytes := by
  obtain ⟨t, taken, written, accepted, isPrefix, shorter⟩ :=
    Sink.writeAll_of_not_holds (s := { toDevice := device }) h
  have sent : d.send { toDevice := device } = (.error (d.fault SinkFault.full.message), t) := by
    rw [send, written]
  obtain ⟨outcome, kept⟩ := outcome_taken_of_send sent
  have kept : d.taken device = taken := kept.trans accepted
  refine ⟨outcome, ?_, ?_⟩
  · rw [kept, d.bytes_eq]
    exact isPrefix.trans (List.prefix_append ..)
  · intro whole
    rw [← kept, whole, length_bytes] at shorter
    omega

/-- With room for the first writes alone the device's fault is met. -/
theorem outcome_taken_of_not_holds_bytes (early : device.holds d.writes.flatten.length)
    (h : device.holds d.bytes.length = false) :
    d.outcome device = .error (.io SinkFault.full.message) ∧
      d.taken device <+: d.bytes ∧ d.taken device ≠ d.bytes := by
  obtain ⟨t, written, accepted, -, holds⟩ :=
    Sink.writeAll_of_holds (s := { toDevice := device }) early
  have room : t.holds d.last.flatten.length = false := by rw [holds, ← length_bytes, h]
  obtain ⟨u, taken, written', accepted', isPrefix, shorter⟩ := Sink.writeAll_of_not_holds room
  have sent : d.send { toDevice := device } = (.error (.io SinkFault.full.message), u) := by
    simp only [send, written, written']
  obtain ⟨outcome, kept⟩ := outcome_taken_of_send sent
  have kept : d.taken device = d.writes.flatten ++ taken := by
    rw [kept, accepted', accepted]
    rfl
  refine ⟨outcome, ?_, ?_⟩
  · rw [kept, d.bytes_eq]
    exact (List.prefix_append_right_inj _).mpr isPrefix
  · intro whole
    have length := congrArg List.length (kept.symm.trans whole)
    rw [List.length_append, length_bytes] at length
    omega

/-- With room for all bytes the flush decides. -/
theorem outcome_taken_of_holds_bytes (h : device.holds d.bytes.length) :
    d.outcome device =
        (if device.flushFails then .error (.io SinkFault.flush.message) else .ok ()) ∧
      d.taken device = d.bytes := by
  have early : device.holds d.writes.flatten.length :=
    Device.holds_of_le (by rw [length_bytes]; omega) h
  obtain ⟨t, written, accepted, flushFails, holds⟩ :=
    Sink.writeAll_of_holds (s := { toDevice := device }) early
  have room : t.holds d.last.flatten.length := by rw [holds, ← length_bytes, h]
  obtain ⟨u, written', accepted', flushFails', -⟩ := Sink.writeAll_of_holds room
  have flushed : u.flushFails = device.flushFails := flushFails'.trans flushFails
  have sent : d.send { toDevice := device } =
      (if device.flushFails then .error (.io SinkFault.flush.message) else .ok (), u) := by
    simp only [send, written, written', Sink.flush, flushed]
    cases device.flushFails <;> rfl
  obtain ⟨outcome, kept⟩ := outcome_taken_of_send sent
  refine ⟨outcome, ?_⟩
  rw [kept, accepted', accepted, d.bytes_eq]
  rfl

end Delivery

/-- What an export of a text comes to on every device, when `early` is handed on while the text is
made and `late` at its end. A failure on the way is the format's, and one at the end the device's. -/
structure Settles (d : Delivery) (format : String → Fault) (early late : List UInt8) : Prop where
  ok_iff (device : Device) : d.outcome device = .ok () ↔
    d.taken device = early ++ late ∧ device.flushFails = false
  taken_prefix (device : Device) : d.taken device <+: early ++ late
  fault (device : Device) (h : d.outcome device ≠ .ok ()) : d.outcome device =
    if device.holds early.length = false then .error (format SinkFault.full.message)
    else if device.holds (early ++ late).length = false then .error (.io SinkFault.full.message)
    else .error (.io SinkFault.flush.message)

theorem Delivery.settles (d : Delivery) : Settles d d.fault d.writes.flatten d.last.flatten := by
  suffices all : ∀ device, (d.outcome device = .ok () ↔
      d.taken device = d.bytes ∧ device.flushFails = false) ∧ d.taken device <+: d.bytes ∧
      (d.outcome device ≠ .ok () → d.outcome device =
        if device.holds d.writes.flatten.length = false then
          .error (d.fault SinkFault.full.message)
        else if device.holds d.bytes.length = false then .error (.io SinkFault.full.message)
        else .error (.io SinkFault.flush.message)) by
    rw [bytes_eq] at all
    exact ⟨fun device => (all device).1, fun device => (all device).2.1, fun device => (all device).2.2⟩
  intro device
  -- The two stages of a delivery fail one after the other, and the flush comes last.
  cases early : device.holds d.writes.flatten.length with
  | false =>
    obtain ⟨failed, isPrefix, short⟩ := outcome_taken_of_not_holds_writes early
    simp [failed, isPrefix, short]
  | true =>
    cases late : device.holds d.bytes.length with
    | false =>
      obtain ⟨failed, isPrefix, short⟩ := outcome_taken_of_not_holds_bytes early late
      simp [failed, isPrefix, short]
    | true =>
      obtain ⟨done, whole⟩ := outcome_taken_of_holds_bytes late
      cases flush : device.flushFails <;> simp [done, whole, flush]

section Buffers

/-- Two quotes are the longest parcel, so that a buffer is full but for one byte at most. -/
theorem buffered_lengths (held : List UInt8) (room : Nat) {ps : List (List UInt8)}
    (h : ∀ parcel ∈ ps, parcel.length ≤ 2) (hroom : held.length + room = bufferSize) :
    (∀ full ∈ (buffered held room ps).1, bufferSize - 1 ≤ full.length ∧ full.length ≤ bufferSize) ∧
      (buffered held room ps).2.length ≤ bufferSize := by
  induction ps generalizing held room with
  | nil => simp [buffered]; omega
  | cons parcel ps ih =>
    have hparcel : parcel.length ≤ 2 := h parcel (by simp)
    have others : ∀ p ∈ ps, p.length ≤ 2 := fun p hp => h p (by simp [hp])
    have size : bufferSize = 8192 := rfl
    rw [buffered]
    split
    · exact ih _ _ others (by simp; omega)
    · obtain ⟨fulls, rest⟩ := ih parcel.reverse (bufferSize - parcel.length) others
        (by simp; omega)
      refine ⟨?_, rest⟩
      intro full hfull
      rcases List.mem_cons.mp hfull with rfl | hfull
      · simp only [List.length_reverse]
        omega
      · exact fulls full hfull

theorem length_of_mem_parcels {stroke : Csv.Stroke} {parcel : List UInt8}
    (h : parcel ∈ parcels stroke) : parcel.length ≤ 2 := by
  cases stroke with
  | char c =>
    obtain ⟨b, -, rfl⟩ := List.mem_map.mp h
    simp
  | quoteTwice =>
    obtain rfl := List.mem_singleton.mp h
    decide

end Buffers

/-- However a document is divided into writes, all of them are made on the way; of a sheet all but
the last buffer is. -/
theorem exports_arrive_whole_or_fail (p : Plan) (r : Registry) (records : List Record)
    (time : Report.Timestamp) :
    let sheet := sheet records
    let d : Report.Document := .ofRun p r records time
    Settles sheet .csv sheet.writes.flatten sheet.last.flatten ∧
    sheet.writes.flatten ++ sheet.last.flatten = encodeText (Report.Sheet.render records).toList ∧
    (∀ full ∈ sheet.writes, bufferSize - 1 ≤ full.length ∧ full.length ≤ bufferSize) ∧
    sheet.last.flatten.length ≤ bufferSize ∧
    Settles (document d) .json (encodeText (d.toJson.pretty 0)) [] ∧
    ∀ pieces : List (List UInt8),
      Settles { writes := pieces, last := [], fault := .json } .json pieces.flatten [] := by
  intro sheet d
  have small : ∀ parcel ∈ (Csv.strokes (Report.Sheet.rows records)).flatMap parcels,
      parcel.length ≤ 2 := by
    intro parcel hparcel
    obtain ⟨stroke, -, hstroke⟩ := List.mem_flatMap.mp hparcel
    exact length_of_mem_parcels hstroke
  have buffers := buffered_lengths [] bufferSize small (Nat.zero_add _)
  have writes : ∀ full ∈ sheet.writes, bufferSize - 1 ≤ full.length ∧ full.length ≤ bufferSize := by
    simpa only [sheet, Export.sheet] using buffers.1
  refine ⟨sheet.settles, ?_, writes, ?_, ?_, fun pieces => Delivery.settles _⟩
  · rw [← bytes_sheet, Delivery.bytes_eq]
  · simpa [sheet, Export.sheet] using buffers.2
  · have all : (document d).writes.flatten = encodeText (d.toJson.pretty 0) := by
      rw [← bytes_document, Delivery.bytes]
      simp [document]
    rw [← all]
    exact (document d).settles

end TokenSurvey.Export
