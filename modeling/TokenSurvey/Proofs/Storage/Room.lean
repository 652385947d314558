import TokenSurvey.Storage.Sink

/-! What a device takes of the writes that it is given one after another: all of them if it has room
for their bytes together, and else only those that come first. -/
namespace TokenSurvey.Storage

/-- Whether a device has room for a number of bytes. -/
def Device.holds (d : Device) (count : Nat) : Bool := d.room.all (count ≤ ·)

theorem Device.holds_of_le {d : Device} {m n : Nat} (hmn : m ≤ n) (h : d.holds n) : d.holds m := by
  rw [holds, Option.all_eq_true] at h ⊢
  intro room hroom
  have := of_decide_eq_true (h room hroom)
  exact decide_eq_true (by omega)

namespace Sink

/-- The sink after a write that fits. -/
def taking (s : Sink) (chunk : List UInt8) : Sink :=
  { s with room := s.room.map (· - chunk.length), writes := chunk :: s.writes }

@[simp] theorem accepted_taking (s : Sink) (chunk : List UInt8) :
    (s.taking chunk).accepted = s.accepted ++ chunk := by
  simp [taking, accepted]

theorem write_eq (chunk : List UInt8) (s : Sink) :
    s.write chunk = if s.holds chunk.length then .ok (s.taking chunk) else .error .full := by
  obtain ⟨⟨room, flushFails⟩, writes⟩ := s
  cases room with
  | none => rfl
  | some room => simp [write, Device.holds, taking]

/-- A write that fits leaves room for what fits beside it. -/
theorem holds_taking {s : Sink} {chunk : List UInt8} (h : s.holds chunk.length) (count : Nat) :
    (s.taking chunk).holds count = s.holds (chunk.length + count) := by
  obtain ⟨⟨room, flushFails⟩, writes⟩ := s
  cases room with
  | none => rfl
  | some room =>
    have : chunk.length ≤ room := by simpa [Device.holds] using h
    simp only [taking, Device.holds, Option.map_some, Option.all_some, decide_eq_decide]
    omega

theorem writeAll_cons (chunk : List UInt8) (chunks : List (List UInt8)) (s : Sink) :
    s.writeAll (chunk :: chunks) =
      if s.holds chunk.length then (s.taking chunk).writeAll chunks else (some .full, s) := by
  rw [writeAll, write_eq]
  cases s.holds chunk.length <;> rfl

variable {chunks : List (List UInt8)} {s : Sink}

theorem writeAll_of_holds (h : s.holds chunks.flatten.length) :
    ∃ t, s.writeAll chunks = (none, t) ∧ t.accepted = s.accepted ++ chunks.flatten ∧
      t.flushFails = s.flushFails ∧
      ∀ count, t.holds count = s.holds (chunks.flatten.length + count) := by
  induction chunks generalizing s with
  | nil => exact ⟨s, rfl, by simp, rfl, by simp⟩
  | cons chunk chunks ih =>
    rw [List.flatten_cons, List.length_append] at h
    have first : s.holds chunk.length := Device.holds_of_le (by omega) h
    obtain ⟨t, written, accepted, flushFails, holds⟩ := ih (s := s.taking chunk)
      (by rw [holds_taking first, h])
    refine ⟨t, ?_, by simp [accepted], flushFails, ?_⟩
    · rw [writeAll_cons, if_pos first, written]
    · intro count
      rw [holds, holds_taking first, List.flatten_cons, List.length_append, Nat.add_assoc]

/-- Without room for all, some write fails, and what comes before it is kept. -/
theorem writeAll_of_not_holds (h : s.holds chunks.flatten.length = false) :
    ∃ t taken, s.writeAll chunks = (some .full, t) ∧ t.accepted = s.accepted ++ taken ∧
      taken <+: chunks.flatten ∧ taken.length < chunks.flatten.length := by
  induction chunks generalizing s with
  | nil =>
    have : s.holds 0 := by simp [Device.holds]
    simp [this] at h
  | cons chunk chunks ih =>
    rw [List.flatten_cons, List.length_append] at h ⊢
    cases first : s.holds chunk.length with
    | false =>
      have : 0 < chunk.length := by
        cases chunk with
        | nil => simp [Device.holds] at first
        | cons => simp
      exact ⟨s, [], by rw [writeAll_cons, first]; rfl, by simp, by simp, by simp; omega⟩
    | true =>
      obtain ⟨t, taken, written, accepted, isPrefix, shorter⟩ := ih (s := s.taking chunk)
        (by rw [holds_taking first, h])
      refine ⟨t, chunk ++ taken, ?_, by simp [accepted], ?_, by rw [List.length_append]; omega⟩
      · rw [writeAll_cons, if_pos first, written]
      · exact (List.prefix_append_right_inj chunk).mpr isPrefix

end Sink
end TokenSurvey.Storage
