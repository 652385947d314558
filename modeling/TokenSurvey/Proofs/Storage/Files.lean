import TokenSurvey.Storage.Disk

/-! Writing a file replaces what is under its name and nothing else, and every name leads afterwards
to the file that it led to before. -/
namespace TokenSurvey.Storage.Disk

variable {d d' : Disk} {p q r : Path} {content : Content} {name : String}

/-- The path that a name gives to a file that is written, if it can be. -/
def path? (d : Disk) (name : String) : Option Path := (d.destination name).toOption

/-- A file can stand in a folder that is there, but not in place of one. -/
structure Admits (d : Disk) (p : Path) : Prop where
  parent : d.isFolder p.dropLast
  free : d.node? p ≠ some .folder

theorem isFolder_iff : d.isFolder p ↔ ∃ folder ∈ d.innermost, p <+: folder := by
  simp [isFolder]

theorem isFolder_of_prefix (h : d.isFolder q) (hp : p <+: q) : d.isFolder p := by
  obtain ⟨folder, hfolder, hq⟩ := isFolder_iff.mp h
  exact isFolder_iff.mpr ⟨folder, hfolder, hp.trans hq⟩

theorem lookup_eq_none_iff {files : List (Path × Content)} :
    files.lookup p = none ↔ p ∉ files.map Prod.fst := by
  rw [List.lookup_eq_none_iff, List.mem_map, not_exists]
  refine forall_congr' fun file => ?_
  rw [not_and, bne_iff_ne, ne_comm]

theorem node?_eq_folder_iff :
    d.node? p = some .folder ↔ p ∉ d.files.map Prod.fst ∧ d.isFolder p := by
  rw [node?, ← lookup_eq_none_iff]
  cases d.files.lookup p <;> simp

/-- Whatever part is met in a folder, the folder around it is there. -/
theorem isFolder_dropLast_of_enter {part : String} (h : d.isFolder p)
    (entered : enter p part = .ok q) : d.isFolder q.dropLast := by
  rw [enter] at entered
  split at entered
  · cases entered
    exact isFolder_of_prefix h (List.dropLast_prefix _)
  · split at entered
    · cases entered
      exact isFolder_of_prefix h ((List.dropLast_prefix _).trans (List.dropLast_prefix _))
    · split at entered
      · cases entered
      · cases entered
        rwa [List.dropLast_concat]

theorem walk_cons_eq_ok_iff {part : String} {parts : List String} :
    d.walk p (part :: parts) = .ok r ↔
      d.node? p = some .folder ∧ ∃ q, enter p part = .ok q ∧ d.walk q parts = .ok r := by
  rw [walk]
  cases d.node? p with
  | none => simp
  | some node =>
    cases node with
    | file content => simp
    | folder => cases enter p part <;> simp [bind, Except.bind]

theorem isFolder_dropLast_of_walk {parts : List String} (hparts : parts ≠ [])
    (h : d.walk p parts = .ok r) : d.isFolder r.dropLast := by
  induction parts generalizing p with
  | nil => exact (hparts rfl).elim
  | cons part parts ih =>
    obtain ⟨folder, q, entered, walked⟩ := walk_cons_eq_ok_iff.mp h
    cases parts with
    | nil =>
      obtain rfl := Except.ok.inj walked
      exact isFolder_dropLast_of_enter ((node?_eq_folder_iff.mp folder).2) entered
    | cons next parts => exact ih (by simp) walked

theorem pieces_ne_nil (separator : Char) (s : List Char) : Text.pieces separator s ≠ [] := by
  cases s with
  | nil => simp [Text.pieces]
  | cons c s =>
    rw [Text.pieces]
    split
    · simp
    · split <;> simp

/-- Names that resolve are walked part by part. -/
theorem resolve_eq_ok_iff : d.resolve name = .ok p ↔
    (name ≠ "" ∧ '\x00' ∉ name.toList ∧ name.utf8ByteSize ≤ longestName) ∧
      d.walk (if isAbsolute name then [] else d.current)
        ((Text.pieces '/' name.toList).map String.ofList) = .ok p := by
  rw [resolve]
  by_cases empty : name = ""
  · simp [empty]
  by_cases bad : '\x00' ∈ name.toList
  · simp [empty, bad]
  by_cases long : longestName < name.utf8ByteSize
  · simp [empty, bad, long, Nat.not_le.mpr long]
  · simp [empty, bad, long, Nat.not_lt.mp long]

theorem destination_eq_ok_iff :
    d.destination name = .ok p ↔ d.resolve name = .ok p ∧ d.node? p ≠ some .folder := by
  rw [destination]
  cases d.resolve name with
  | error obstacle => simp [bind, Except.bind]
  | ok q =>
    simp only [bind, Except.bind, Except.ok.injEq]
    split
    · constructor
      · nofun
      · rintro ⟨rfl, h⟩
        exact (h ‹_›).elim
    · constructor
      · rintro ⟨⟩
        exact ⟨rfl, ‹_›⟩
      · rintro ⟨rfl, -⟩
        rfl

theorem path?_eq_some_iff : d.path? name = some p ↔ d.destination name = .ok p := by
  rw [path?]
  cases d.destination name <;> simp [Except.toOption]

theorem admits_of_path? (h : d.path? name = some p) : d.Admits p := by
  obtain ⟨resolved, free⟩ := destination_eq_ok_iff.mp (path?_eq_some_iff.mp h)
  have parts : (Text.pieces '/' name.toList).map String.ofList ≠ [] := by
    simp [pieces_ne_nil]
  exact ⟨isFolder_dropLast_of_walk parts (resolve_eq_ok_iff.mp resolved).2, free⟩

section Congr

variable (folders : ∀ q, d'.node? q = some .folder ↔ d.node? q = some .folder)

include folders

theorem walk_congr (parts : List String) : d'.walk q parts = .ok r ↔ d.walk q parts = .ok r := by
  induction parts generalizing q with
  | nil => rfl
  | cons part parts ih =>
    rw [walk_cons_eq_ok_iff, walk_cons_eq_ok_iff, folders]
    simp only [ih]

/-- Where names lead depends on the folders that are met. -/
theorem path?_congr (current : d'.current = d.current) : d'.path? = d.path? := by
  funext name
  ext r
  rw [path?_eq_some_iff, path?_eq_some_iff, destination_eq_ok_iff, destination_eq_ok_iff,
    resolve_eq_ok_iff, resolve_eq_ok_iff, current]
  exact and_congr (and_congr_right fun _ => walk_congr folders _) (not_congr (folders r))

end Congr

/-- Disks that differ in the contents of files alone. -/
structure Alike (d d' : Disk) : Prop where
  current : d'.current = d.current
  folders : d'.folders = d.folders
  device : d'.device = d.device
  names : d'.files.map Prod.fst = d.files.map Prod.fst

theorem path?_of_alike (h : d.Alike d') : d'.path? = d.path? := by
  refine path?_congr (fun q => ?_) h.current
  have innermost : d'.innermost = d.innermost := by
    have parents (d : Disk) :
        d.files.map (·.1.dropLast) = (d.files.map Prod.fst).map List.dropLast := by simp
    rw [Disk.innermost, Disk.innermost, parents, parents, h.names, h.current, h.folders]
  rw [node?_eq_folder_iff, node?_eq_folder_iff, h.names, isFolder, isFolder, innermost]

section Put

@[simp] theorem lookup_put_self : (d.put p content).files.lookup p = some content :=
  List.lookup_cons_self

theorem lookup_put_of_ne (h : q ≠ p) :
    (d.put p content).files.lookup q = d.files.lookup q := by
  have other : (q == p) = false := beq_eq_false_iff_ne.mpr h
  simp only [put, List.lookup_cons, other]
  induction d.files with
  | nil => rfl
  | cons file files ih =>
    by_cases hfile : file.1 = p
    · rw [List.filter_cons_of_neg (by simpa using hfile), ih, List.lookup_cons, hfile, other]
    · rw [List.filter_cons_of_pos (by simpa using hfile), List.lookup_cons, List.lookup_cons, ih]

/-- A file in a folder that is there adds no folder. -/
theorem isFolder_put (h : d.Admits p) : (d.put p content).isFolder q = d.isFolder q := by
  rw [Bool.eq_iff_iff]
  constructor
  · intro hq
    obtain ⟨folder, hfolder, isPrefix⟩ := isFolder_iff.mp hq
    simp only [innermost, put, List.map_cons, List.mem_append, List.mem_cons, List.mem_map,
      List.mem_filter] at hfolder
    obtain (rfl | hfolder) | rfl | ⟨file, ⟨hfile, -⟩, rfl⟩ := hfolder
    · exact isFolder_iff.mpr ⟨_, by simp [innermost], isPrefix⟩
    · exact isFolder_iff.mpr ⟨folder, by simp [innermost, hfolder], isPrefix⟩
    · exact isFolder_of_prefix h.parent isPrefix
    · refine isFolder_iff.mpr ⟨_, ?_, isPrefix⟩
      exact List.mem_append_right _ (List.mem_map.mpr ⟨file, hfile, rfl⟩)
  · intro hq
    obtain ⟨folder, hfolder, isPrefix⟩ := isFolder_iff.mp hq
    refine isFolder_iff.mpr ⟨folder, ?_, isPrefix⟩
    simp only [innermost, put, List.map_cons, List.mem_append, List.mem_cons, List.mem_map,
      List.mem_filter] at hfolder ⊢
    obtain hfolder | ⟨file, hfile, rfl⟩ := hfolder
    · exact .inl hfolder
    · by_cases hp : file.1 = p
      · exact .inr (.inl (by rw [hp]))
      · exact .inr (.inr ⟨file, ⟨hfile, by simpa using hp⟩, rfl⟩)

theorem node?_put_self : (d.put p content).node? p = some (.file content) := by
  rw [node?, lookup_put_self]

theorem node?_put_of_ne (h : d.Admits p) (hq : q ≠ p) :
    (d.put p content).node? q = d.node? q := by
  rw [node?, node?, lookup_put_of_ne hq, isFolder_put h]

/-- Whether a folder is met does not depend on a file that is written. -/
theorem node?_put_eq_folder_iff (h : d.Admits p) :
    (d.put p content).node? q = some .folder ↔ d.node? q = some .folder := by
  by_cases hq : q = p
  · subst hq
    simp [node?_put_self, h.free]
  · rw [node?_put_of_ne h hq]

theorem path?_put (h : d.Admits p) : (d.put p content).path? = d.path? :=
  path?_congr (fun _ => node?_put_eq_folder_iff h) rfl

end Put

/-- Files written one after another. -/
def putAll (d : Disk) (written : List (Path × Content)) : Disk :=
  written.foldl (fun d (p, content) => d.put p content) d

/-- What was written last to a path is there. -/
theorem lookup_putAll (written : List (Path × Content)) :
    (d.putAll written).files.lookup q = (written.reverse.lookup q).or (d.files.lookup q) := by
  induction written generalizing d with
  | nil => rfl
  | cons file written ih =>
    obtain ⟨p, content⟩ := file
    rw [putAll, List.foldl_cons, ← putAll, ih, List.reverse_cons, List.lookup_append,
      Option.or_assoc]
    congr 1
    by_cases hq : q = p
    · subst hq
      simp
    · rw [lookup_put_of_ne hq, List.lookup_cons, beq_eq_false_iff_ne.mpr hq]
      rfl

end TokenSurvey.Storage.Disk
