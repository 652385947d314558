import TokenSurvey.Proofs.Lorem.Words
import TokenSurvey.Proofs.Random.Outputs

/-! Which texts can be drawn: words of the corpus between single blanks, and at the end the beginning
of one more. -/
namespace TokenSurvey.Lorem

open TokenSurvey.Random (Source firstOutput draw_of_firstOutput)

/-- Divided at every blank, a text is words of the corpus and then the beginning of one. -/
def CutFromWords (t : String) : Prop :=
  ∃ whole part, t.toList.splitOn ' ' = whole ++ [part] ∧
    (∀ w ∈ whole, String.ofList w ∈ corpus) ∧ ∃ w ∈ corpus, part <+: w.toList

/-- A source that says these outputs gives the text and reads none after them, so that no draw runs
out of patience. -/
def Suffice (outputs : List UInt64) (n : Nat) (t : String) : Prop :=
  ∃ s, passage n (.saying outputs) = (.ok t, s) ∧ s.position ≤ outputs.length

/-- Words with a blank in front of each. -/
def spaced (ws : List (List Char)) : List Char := ws.flatMap (' ' :: ·)

variable {n : Nat} {s : Source} {ws : List (List Char)} {t : String}

theorem spaced_append (ws vs : List (List Char)) : spaced (ws ++ vs) = spaced ws ++ spaced vs :=
  List.flatMap_append

@[simp] theorem spaced_singleton (w : List Char) : spaced [w] = ' ' :: w := List.flatMap_singleton ..

/-- The first of the blanks apart, they stand between the words. -/
theorem spaced_eq_cons (h : ws ≠ []) : spaced ws = ' ' :: [' '].intercalate ws := by
  induction ws with
  | nil => exact absurd rfl h
  | cons w ws ih =>
    cases ws with
    | nil => simp [spaced]
    | cons v ws =>
      rw [← List.singleton_append, spaced_append, ih (List.cons_ne_nil v ws)]
      simp [List.intercalate]

theorem trail_eq_spaced (k : Nat) (s : Source) :
    trail k s = spaced ((List.range k).map fun i => (nthWord s i).toList) := by
  rw [trail, spaced, List.flatMap_map, List.flatMap_map]

theorem nthWord_mem_corpus (s : Source) (i : Nat) : nthWord s i ∈ corpus := List.getElem_mem _

theorem not_blank_of_mem_corpus {w : String} (hw : w ∈ corpus) : ' ' ∉ w.toList := by
  have all : corpus.all (fun w => !w.toList.contains ' ') = true := by decide +kernel
  simpa using List.all_eq_true.mp all w hw

/-- What is drawn ends inside the last word that is drawn for it. -/
theorem exists_spaced_eq (n : Nat) (s : Source) :
    ∃ whole part, (∀ w ∈ whole, String.ofList w ∈ corpus) ∧ (∃ w ∈ corpus, part <+: w.toList) ∧
      spaced (whole ++ [part]) = ' ' :: (text n s).1.toList := by
  obtain ⟨k, hrun, hlong, hshort⟩ := exists_run_eq (n + 1) s
  cases k with
  | zero => simp [trail] at hlong
  | succ k =>
    have short : (trail k s).length < n + 1 := hshort k (Nat.lt_succ_self k)
    obtain ⟨m, hm⟩ : ∃ m, n + 1 = (trail k s).length + (m + 1) :=
      ⟨n - (trail k s).length, by omega⟩
    let whole := (List.range k).map fun i => (nthWord s i).toList
    let part := (nthWord s k).toList.take m
    have cut : spaced (whole ++ [part]) = (run (n + 1) s).1 := by
      rw [hrun, trail_add k 1, hm, List.take_length_add_append, trail_eq_spaced, spaced_append]
      simp [trail, nthWord, ahead, part, whole]
    refine ⟨whole, part, ?_, ⟨_, nthWord_mem_corpus s k, List.take_prefix ..⟩, ?_⟩
    · intro w hw
      obtain ⟨i, -, rfl⟩ := List.mem_map.mp hw
      rw [String.ofList_toList]
      exact nthWord_mem_corpus s i
    · have headed : spaced (whole ++ [part]) = ' ' :: [' '].intercalate (whole ++ [part]) :=
        spaced_eq_cons (by simp)
      rw [headed, toList_text, ← cut, headed, List.tail_cons]

theorem cutFromWords_text (n : Nat) (s : Source) : CutFromWords (text n s).1 := by
  obtain ⟨whole, part, words, ⟨w, hw, begins⟩, hspaced⟩ := exists_spaced_eq n s
  refine ⟨whole, part, ?_, words, w, hw, begins⟩
  have joined : (text n s).1.toList = [' '].intercalate (whole ++ [part]) := by
    rw [spaced_eq_cons (by simp)] at hspaced
    exact (List.cons.inj hspaced).2.symm
  have no_blanks : ∀ v ∈ whole ++ [part], ' ' ∉ v := by
    refine List.forall_mem_append.mpr ⟨?_, List.forall_mem_singleton.mpr ?_⟩
    · intro v hv
      simpa using not_blank_of_mem_corpus (words v hv)
    · exact fun h => not_blank_of_mem_corpus hw (begins.subset h)
  rw [joined, List.splitOn_intercalate ' ' no_blanks (by simp)]

theorem word_of_firstOutput {i : Fin corpus.length} (next : s.tape s.position = firstOutput i) :
    word s = (corpus.get i, { s with position := s.position + 1 }) := by
  rw [word, draw_of_firstOutput (by decide) next]
  rfl

/-- A source that says the least outputs of some places next gives their words, one output each. -/
theorem trail_of_firstOutputs (places : List (Fin corpus.length)) {s : Source}
    (next : ∀ j, (hj : j < places.length) → s.tape (s.position + j) = firstOutput places[j]) :
    trail places.length s = spaced (places.map fun i => (corpus.get i).toList) ∧
      (ahead places.length s).position = s.position + places.length := by
  induction places generalizing s with
  | nil => exact ⟨rfl, rfl⟩
  | cons i places ih =>
    have first := word_of_firstOutput (next 0 (by simp))
    have later := ih (s := (word s).2) (by
      rw [first]
      intro j hj
      change s.tape (s.position + 1 + j) = firstOutput places[j]
      rw [Nat.add_assoc, Nat.add_comm 1]
      exact next (j + 1) (Nat.succ_lt_succ hj))
    rw [List.length_cons, trail_succ, ahead, later.1, later.2, chunk, first]
    exact ⟨rfl, by simp only; omega⟩

theorem exists_places (words : ∀ w ∈ ws, String.ofList w ∈ corpus) :
    ∃ places : List (Fin corpus.length), places.map (fun i => (corpus.get i).toList) = ws := by
  induction ws with
  | nil => exact ⟨[], rfl⟩
  | cons w ws ih =>
    obtain ⟨places, rfl⟩ := ih fun v hv => words v (List.mem_cons_of_mem w hv)
    obtain ⟨i, hi, found⟩ := List.getElem_of_mem (words w List.mem_cons_self)
    exact ⟨⟨i, hi⟩ :: places, by simp [found]⟩

/-- Outputs whose words begin with a text are enough for it. -/
theorem suffice_of_prefix (places : List (Fin corpus.length)) (hn : n ≠ 0) (length : t.length = n)
    (begins : ' ' :: t.toList <+: spaced (places.map fun i => (corpus.get i).toList)) :
    Suffice (places.map firstOutput) n t := by
  let s : Source := .saying (places.map firstOutput)
  have heard (j : Nat) (hj : j < places.length) :
      s.tape (s.position + j) = firstOutput places[j] := by
    simp [s, Source.saying, hj]
  obtain ⟨words, ends⟩ := trail_of_firstOutputs places heard
  have first : t.toList <+: (joined places.length s).toList := by
    obtain ⟨rest, hrest⟩ := begins
    rw [toList_joined, words, ← hrest]
    exact List.prefix_append ..
  have long : n ≤ (joined places.length s).length := by
    rw [← length, ← String.length_toList, ← String.length_toList]
    exact first.length_le
  obtain ⟨k, htext, enough, hshort⟩ := exists_text_eq hn s
  have fewer : k ≤ places.length := le_of_least (Nat.le_refl n) hshort long
  refine ⟨ahead k s, ?_, ?_⟩
  · rw [passage_eq hn, htext, ← take_joined fewer enough, ← length, ← String.length_toList,
      ← List.prefix_iff_eq_take.mp first, String.ofList_toList]
  · have := position_ahead_mono fewer s
    rw [ends] at this
    simpa [s, Source.saying] using this

theorem exists_suffice (hn : n ≠ 0) (length : t.length = n) (cut : CutFromWords t) :
    ∃ outputs, Suffice outputs n t := by
  obtain ⟨whole, part, divided, words, w, hw, begins⟩ := cut
  have last : String.ofList w.toList ∈ corpus := by rwa [String.ofList_toList]
  have completed : ∀ v ∈ whole ++ [w.toList], String.ofList v ∈ corpus :=
    List.forall_mem_append.mpr ⟨words, List.forall_mem_singleton.mpr last⟩
  obtain ⟨places, hplaces⟩ := exists_places completed
  refine ⟨_, suffice_of_prefix places hn length ?_⟩
  have together : ' ' :: t.toList = spaced (whole ++ [part]) := by
    rw [spaced_eq_cons (by simp), ← divided, List.intercalate_splitOn]
  rw [together, hplaces, spaced_append, spaced_append, List.prefix_append_right_inj,
    spaced_singleton, spaced_singleton]
  exact List.cons_prefix_cons.mpr ⟨rfl, begins⟩

theorem drawn_iff_cutFromWords {n : Nat} (hn : 1 ≤ n) {t : String} (length : t.length = n) :
    ((∃ outputs, Suffice outputs n t) ↔ CutFromWords t) ∧
      ((∃ s s', passage n s = (.ok t, s')) ↔ CutFromWords t) := by
  have hpos : n ≠ 0 := by omega
  have sound {s s' : Source} (h : passage n s = (.ok t, s')) : CutFromWords t := by
    rw [passage_eq hpos] at h
    obtain rfl : (text n s).1 = t := Except.ok.inj (congrArg Prod.fst h)
    exact cutFromWords_text n s
  have complete := exists_suffice hpos length
  constructor
  · constructor
    · rintro ⟨outputs, s, h, -⟩
      exact sound h
    · exact complete
  · constructor
    · rintro ⟨s, s', h⟩
      exact sound h
    · intro cut
      obtain ⟨outputs, s, h, -⟩ := complete cut
      exact ⟨_, s, h⟩

/-- A text may end in a blank, with none of the next word left; it has no two blanks in a row. -/
theorem drawn_iff_cutFromWords_blanks :
    ((1 ≤ 6 ∧ "ut ex ".length = 6) ∧ ∃ outputs, Suffice outputs 6 "ut ex ") ∧
      (1 ≤ 6 ∧ "ut  ex".length = 6) ∧ ¬ ∃ outputs, Suffice outputs 6 "ut  ex" := by
  have ends := drawn_iff_cutFromWords (n := 6) (by decide) (t := "ut ex ") rfl
  have inside := drawn_iff_cutFromWords (n := 6) (by decide) (t := "ut  ex") rfl
  refine ⟨⟨by decide, ends.1.mpr ?_⟩, by decide, fun drawn => ?_⟩
  · exact ⟨["ut".toList, "ex".toList], [], by decide, by decide, "ut", by decide, by decide⟩
  · obtain ⟨whole, part, divided, words, -⟩ := inside.1.mp drawn
    have pieces : whole ++ [part] = ["ut".toList, []] ++ ["ex".toList] := by
      rw [← divided]
      decide
    obtain ⟨rfl, -⟩ := List.append_inj' pieces rfl
    exact absurd (words [] (by simp)) (by decide)

end TokenSurvey.Lorem
