import TokenSurvey.Tokens.Pattern

/-! What a pattern may take of a text, as a relation. A run finds one of these ways whenever there is
one, and a pattern that takes something of every text cuts texts into pieces without loss. -/
namespace TokenSurvey.Tokens.Pattern

/-- A pattern may take `t` from the front of `t ++ rest`. -/
inductive Takes : Pattern → List Char → List Char → Prop where
  | one {p : Char → Bool} {c : Char} {rest : List Char} (h : p c) : Takes (one p) [c] rest
  | many {p : Char → Bool} {t rest : List Char} (h : ∀ c ∈ t, p c) : Takes (many p) t rest
  | absent {q : Pattern} {rest : List Char} : Takes (optional q) [] rest
  | present {q : Pattern} {t rest : List Char} (h : Takes q t rest) : Takes (optional q) t rest
  | seq {q r : Pattern} {t u rest : List Char} (hq : Takes q t (u ++ rest)) (hr : Takes r u rest) :
      Takes (seq q r) (t ++ u) rest
  | left {q r : Pattern} {t rest : List Char} (h : Takes q t rest) : Takes (alt q r) t rest
  | right {q r : Pattern} {t rest : List Char} (h : Takes r t rest) : Takes (alt q r) t rest
  | notBefore {p : Char → Bool} {rest : List Char} (h : ∀ c ∈ rest.head?, p c = false) :
      Takes (notBefore p) [] rest

variable {p : Char → Bool} {q r : Pattern} {qs : List Pattern} {next : Next} {c : Char}
  {s t rest : List Char} {n m : Nat}

theorem takes_several (h : p c) : Takes (several p) [c] rest :=
  .seq (.one h) (.many nofun)

theorem takes_choice (hr : r ∈ q :: qs) (h : Takes r t rest) : Takes (choice q qs) t rest := by
  induction qs generalizing q with
  | nil =>
    obtain rfl : r = q := by simpa using hr
    exact h
  | cons q' qs ih =>
    obtain rfl | hr := List.mem_cons.mp hr
    · exact .left h
    · exact .right (ih hr)

/-- A run that ends has taken a front of the text, and what follows has gone on from the rest. -/
theorem takes_of_runMany (h : runMany p next s n = some m) :
    ∃ t rest, s = t ++ rest ∧ (∀ c ∈ t, p c) ∧ next rest (n + t.length) = some m := by
  induction s generalizing n with
  | nil => exact ⟨[], [], rfl, nofun, h⟩
  | cons c s ih =>
    rw [runMany] at h
    split at h
    · next hc =>
      obtain h | ⟨-, h⟩ := Option.or_eq_some_iff.mp h
      · obtain ⟨t, rest, rfl, ht, h⟩ := ih h
        refine ⟨c :: t, rest, rfl, ?_, ?_⟩
        · intro d hd
          obtain rfl | hd := List.mem_cons.mp hd
          · exact hc
          · exact ht d hd
        · rw [List.length_cons, Nat.add_comm t.length, ← Nat.add_assoc]
          exact h
      · exact ⟨[], c :: s, rfl, nofun, h⟩
    · exact ⟨[], c :: s, rfl, nofun, h⟩

theorem takes_of_run (h : q.run next s n = some m) :
    ∃ t rest, s = t ++ rest ∧ Takes q t rest ∧ next rest (n + t.length) = some m := by
  induction q generalizing next s n with
  | one p =>
    cases s with
    | nil => cases h
    | cons c s =>
      rw [run] at h
      split at h
      · exact ⟨[c], s, rfl, .one ‹_›, h⟩
      · cases h
  | many p =>
    obtain ⟨t, rest, hs, ht, h⟩ := takes_of_runMany h
    exact ⟨t, rest, hs, .many ht, h⟩
  | optional q ih =>
    obtain h | ⟨-, h⟩ := Option.or_eq_some_iff.mp h
    · obtain ⟨t, rest, hs, ht, h⟩ := ih h
      exact ⟨t, rest, hs, .present ht, h⟩
    · exact ⟨[], s, rfl, .absent, h⟩
  | seq q r ihq ihr =>
    obtain ⟨t, _, rfl, ht, h⟩ := ihq h
    obtain ⟨u, rest, rfl, hu, h⟩ := ihr h
    refine ⟨t ++ u, rest, (List.append_assoc ..).symm, .seq ht hu, ?_⟩
    rw [List.length_append, ← Nat.add_assoc]
    exact h
  | alt q r ihq ihr =>
    obtain h | ⟨-, h⟩ := Option.or_eq_some_iff.mp h
    · obtain ⟨t, rest, hs, ht, h⟩ := ihq h
      exact ⟨t, rest, hs, .left ht, h⟩
    · obtain ⟨t, rest, hs, ht, h⟩ := ihr h
      exact ⟨t, rest, hs, .right ht, h⟩
  | notBefore p =>
    cases s with
    | nil => exact ⟨[], [], rfl, .notBefore nofun, h⟩
    | cons c s =>
      rw [run] at h
      split at h
      · cases h
      · exact ⟨[], c :: s, rfl, .notBefore (by simpa using ‹¬ p c›), h⟩

theorem isSome_or_left {α : Type} {a b : Option α} (h : a.isSome) : (a.or b).isSome := by
  rw [Option.isSome_or, h, Bool.true_or]

theorem isSome_or_right {α : Type} {a b : Option α} (h : b.isSome) : (a.or b).isSome := by
  rw [Option.isSome_or, h, Bool.or_true]

theorem isSome_runMany (ht : ∀ c ∈ t, p c) (h : (next rest (n + t.length)).isSome) :
    (runMany p next (t ++ rest) n).isSome := by
  induction t generalizing n with
  | nil =>
    cases rest with
    | nil => exact h
    | cons c rest =>
      rw [List.nil_append, runMany]
      split
      · exact isSome_or_right h
      · exact h
  | cons c t ih =>
    rw [List.cons_append, runMany, if_pos (ht c (by simp))]
    refine isSome_or_left (ih (fun d hd => ht d (by simp [hd])) ?_)
    rwa [List.length_cons, Nat.add_comm t.length, ← Nat.add_assoc] at h

/-- If a pattern may take a front of a text and what follows can go on from the rest, a run ends. -/
theorem isSome_run (ht : Takes q t rest) (h : (next rest (n + t.length)).isSome) :
    (q.run next (t ++ rest) n).isSome := by
  induction ht generalizing next n with
  | one hc =>
    rw [List.singleton_append, run, if_pos hc]
    exact h
  | many hc => exact isSome_runMany hc h
  | absent => exact isSome_or_right h
  | present _ ih => exact isSome_or_left (ih h)
  | seq _ _ ihq ihr =>
    rw [List.append_assoc, run]
    apply ihq
    apply ihr
    rwa [List.length_append, ← Nat.add_assoc] at h
  | left _ ih => exact isSome_or_left (ih h)
  | right _ ih => exact isSome_or_right (ih h)
  | @notBefore p rest hp =>
    cases rest with
    | nil => exact h
    | cons c rest =>
      rw [List.nil_append, run, if_neg (by simpa using hp)]
      exact h

theorem takes_of_matchLength (h : q.matchLength s = some n) :
    ∃ t rest, s = t ++ rest ∧ t.length = n ∧ Takes q t rest := by
  obtain ⟨t, rest, hs, ht, h⟩ := takes_of_run h
  exact ⟨t, rest, hs, by simpa using h, ht⟩

theorem isSome_matchLength (h : Takes q t rest) : (q.matchLength (t ++ rest)).isSome :=
  isSome_run h rfl

/-- The fewest characters that a pattern takes. -/
def fewest : Pattern → Nat
  | one _ => 1
  | many _ | optional _ | notBefore _ => 0
  | seq q r => q.fewest + r.fewest
  | alt q r => min q.fewest r.fewest

theorem fewest_le_length (h : Takes q t rest) : q.fewest ≤ t.length := by
  induction h with
  | one => exact Nat.le_refl 1
  | many | absent | present | notBefore => exact Nat.zero_le _
  | seq _ _ ihq ihr =>
    rw [fewest, List.length_append]
    omega
  | left _ ih => exact Nat.le_trans (Nat.min_le_left ..) ih
  | right _ ih => exact Nat.le_trans (Nat.min_le_right ..) ih

/-- A pattern that never takes nothing, and may take the first character of any text. -/
structure Covers (q : Pattern) : Prop where
  fewest_pos : 0 < q.fewest
  takes_first : ∀ c rest, Takes q [c] rest

theorem Covers.matchLength_cons (h : q.Covers) (c : Char) (s : List Char) :
    ∃ n, q.matchLength (c :: s) = some (n + 1) := by
  obtain ⟨n, hn⟩ := Option.isSome_iff_exists.mp (isSome_matchLength (h.takes_first c s))
  obtain ⟨t, rest, -, rfl, ht⟩ := takes_of_matchLength hn
  have := h.fewest_pos
  have := fewest_le_length ht
  exact ⟨t.length - 1, by rw [Nat.sub_add_cancel (by omega)]; exact hn⟩

/-- Nothing of a text is passed over. -/
theorem Covers.flatten_pieces (h : q.Covers) (s : List Char) : (q.pieces s).flatten = s := by
  fun_induction q.pieces s with
  | case1 => rfl
  | case2 c s n _ ih => rw [List.flatten_cons, ih, List.cons_append, List.take_append_drop]
  | case3 c s none _ =>
    obtain ⟨n, hn⟩ := h.matchLength_cons c s
    exact (none n hn).elim

theorem ne_nil_of_mem_pieces {piece : List Char} (h : piece ∈ q.pieces s) : piece ≠ [] := by
  fun_induction q.pieces s with
  | case1 => cases h
  | case2 c s n _ ih =>
    obtain rfl | h := List.mem_cons.mp h
    · exact List.cons_ne_nil _ _
    · exact ih h
  | case3 c s _ ih => exact ih h

end TokenSurvey.Tokens.Pattern
