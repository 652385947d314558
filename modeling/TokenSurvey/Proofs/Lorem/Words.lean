import TokenSurvey.Proofs.Lorem.Batches

/-! A text is the beginning of the words that its source gives, joined by single blanks, and no word
is drawn for it that it does not need. -/
namespace TokenSurvey.Lorem

open TokenSurvey.Random (Source drawFrom)

/-- The source after some draws. -/
def ahead : Nat → Source → Source
  | 0, s => s
  | k + 1, s => ahead k (word s).2

/-- The words of a source are an endless sequence. -/
def nthWord (s : Source) (i : Nat) : String := (word (ahead i s)).1

/-- The first words, joined by single blanks. -/
def joined (k : Nat) (s : Source) : String := " ".intercalate ((List.range k).map (nthWord s))

/-- The first words, each with a blank in front of it. -/
def trail (k : Nat) (s : Source) : List Char :=
  ((List.range k).map (nthWord s)).flatMap fun w => ' ' :: w.toList

variable {i j k m n : Nat} {s : Source}

theorem ahead_add (i j : Nat) (s : Source) : ahead (i + j) s = ahead j (ahead i s) := by
  induction i generalizing s with
  | zero => rw [Nat.zero_add, ahead]
  | succ i ih => rw [Nat.succ_add, ahead, ahead, ih]

theorem trail_succ (k : Nat) (s : Source) :
    trail (k + 1) s = (chunk s).1 ++ trail k (word s).2 := by
  rw [trail, List.range_succ_eq_map, List.map_cons, List.flatMap_cons, List.map_map]
  rfl

theorem trail_add (i j : Nat) (s : Source) :
    trail (i + j) s = trail i s ++ trail j (ahead i s) := by
  induction i generalizing s with
  | zero => rw [Nat.zero_add]; rfl
  | succ i ih => rw [Nat.succ_add, trail_succ, trail_succ, ih, List.append_assoc, ahead]

/-- A blank stands in front of the joined words, if there are any. -/
theorem trail_eq_cons (k : Nat) (s : Source) :
    trail (k + 1) s = ' ' :: (joined (k + 1) s).toList := by
  induction k generalizing s with
  | zero => simp [trail, joined]
  | succ k ih =>
    have later : joined (k + 2) s =
        (word s).1 ++ " " ++ joined (k + 1) (word s).2 := by
      rw [joined, List.range_succ_eq_map, List.map_cons, List.map_map, joined]
      exact String.intercalate_cons_of_ne_nil (by simp)
    rw [trail_succ, ih, later]
    simp [chunk]

theorem toList_joined (k : Nat) (s : Source) : (joined k s).toList = (trail k s).tail := by
  cases k with
  | zero => rfl
  | succ k => rw [trail_eq_cons, List.tail_cons]

theorem length_joined_lt_iff (hn : n ≠ 0) :
    (joined k s).length < n ↔ (trail k s).length < n + 1 := by
  cases k with
  | zero =>
    have empty : (joined 0 s).length = 0 := rfl
    have bare : (trail 0 s).length = 0 := rfl
    omega
  | succ k =>
    rw [trail_eq_cons, List.length_cons, String.length_toList]
    omega

/-- What is cut from a source: chunks are drawn up to the first that makes them long enough. -/
theorem exists_run_eq (n : Nat) (s : Source) :
    ∃ k, run n s = ((trail k s).take n, ahead k s) ∧ n ≤ (trail k s).length ∧
      ∀ j < k, (trail j s).length < n := by
  fun_induction run n s with
  | case1 s => exact ⟨0, by simp [ahead], Nat.zero_le _, nofun⟩
  | case2 n s hn next rest ih =>
    obtain ⟨k, hrun, hlong, hshort⟩ := ih
    refine ⟨k + 1, ?_, ?_, ?_⟩
    · rw [trail_succ, List.take_append, ahead]
      exact congrArg (fun r => (next.1.take n ++ r.1, r.2)) hrun
    · rw [trail_succ, List.length_append]
      change n ≤ next.1.length + (trail k next.2).length
      omega
    · intro j hj
      cases j with
      | zero => exact Nat.pos_of_ne_zero hn
      | succ j =>
        have := hshort j (by omega)
        rw [trail_succ, List.length_append]
        change next.1.length + (trail j next.2).length < n
        omega

theorem toList_text (n : Nat) (s : Source) : (text n s).1.toList = (run (n + 1) s).1.tail :=
  String.toList_ofList

/-- A text is cut from the least number of words that are long enough. -/
theorem exists_text_eq (hn : n ≠ 0) (s : Source) :
    ∃ k, text n s = (String.ofList ((joined k s).toList.take n), ahead k s) ∧
      n ≤ (joined k s).length ∧ ∀ j < k, (joined j s).length < n := by
  obtain ⟨k, hrun, hlong, hshort⟩ := exists_run_eq (n + 1) s
  refine ⟨k, ?_, ?_, ?_⟩
  · have bare : ((trail k s).take (n + 1)).tail = (trail k s).tail.take n := by
      cases trail k s <;> simp
    rw [text, hrun, toList_joined, ← bare]
  · have := length_joined_lt_iff (k := k) (s := s) hn
    omega
  · intro j hj
    exact (length_joined_lt_iff hn).mpr (hshort j hj)

theorem length_text (hn : n ≠ 0) (s : Source) : (text n s).1.length = n := by
  obtain ⟨k, htext, hlong, -⟩ := exists_text_eq hn s
  rw [htext, String.length_ofList, List.length_take, String.length_toList]
  omega

/-- More words continue what there is. -/
theorem joined_prefix (h : i ≤ j) (s : Source) : (joined i s).toList <+: (joined j s).toList := by
  obtain ⟨d, rfl⟩ := Nat.exists_eq_add_of_le h
  rw [toList_joined, toList_joined, trail_add]
  cases i with
  | zero => exact List.nil_prefix
  | succ i =>
    rw [trail_eq_cons, List.cons_append, List.tail_cons, List.tail_cons]
    exact List.prefix_append _ _

theorem take_joined (h : i ≤ j) (hn : n ≤ (joined i s).length) :
    (joined j s).toList.take n = (joined i s).toList.take n := by
  obtain ⟨rest, hrest⟩ := joined_prefix h s
  rw [← hrest, List.take_append_of_le_length (by rwa [String.length_toList])]

/-- The least number of words that are long enough for a text is not greater for a shorter one. -/
theorem le_of_least (hmn : m ≤ n) (hi : ∀ k < i, (joined k s).length < m)
    (hj : n ≤ (joined j s).length) : i ≤ j := by
  by_cases h : i ≤ j
  · exact h
  · have := hi j (by omega)
    omega

/-- Any words that are long enough begin with the text. -/
theorem text_eq_take (hn : n ≠ 0) (hk : n ≤ (joined k s).length) :
    (text n s).1 = String.ofList ((joined k s).toList.take n) := by
  obtain ⟨least, htext, hlong, hshort⟩ := exists_text_eq hn s
  rw [htext, take_joined (le_of_least (Nat.le_refl n) hshort hk) hlong]

theorem position_lt_drawFrom (n : Nat) (h : 0 < n) (tape : Random.Tape) (patience position : Nat) :
    position < (drawFrom n h tape patience position).2 := by
  induction patience generalizing position with
  | zero => exact Nat.lt_succ_self position
  | succ patience ih =>
    rw [drawFrom]
    split
    · exact Nat.lt_succ_self position
    · exact Nat.lt_of_succ_lt (ih (position + 1))

theorem position_lt_word (s : Source) : s.position < (word s).2.position :=
  position_lt_drawFrom _ corpus_length_pos s.tape s.patience s.position

theorem position_le_ahead (k : Nat) (s : Source) : s.position ≤ (ahead k s).position := by
  induction k generalizing s with
  | zero => exact Nat.le_refl _
  | succ k ih => exact Nat.le_trans (Nat.le_of_lt (position_lt_word s)) (ih (word s).2)

theorem position_ahead_mono (h : i ≤ j) (s : Source) :
    (ahead i s).position ≤ (ahead j s).position := by
  obtain ⟨d, rfl⟩ := Nat.exists_eq_add_of_le h
  rw [ahead_add]
  exact position_le_ahead d (ahead i s)

end TokenSurvey.Lorem
