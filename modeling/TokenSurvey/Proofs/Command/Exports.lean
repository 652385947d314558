import TokenSurvey.Proofs.Command.Invocation
import TokenSurvey.Proofs.Export.Outcome
import TokenSurvey.Proofs.Storage.Files

/-! Exports are isolated: each is written as its own destination lets it, and says so if it is whole,
whatever becomes of the other one and of the survey's display. -/
namespace TokenSurvey.Command

open Storage (Content Disk Path)

namespace Destination

variable (d : Destination) {disk disk' : Disk}

/-- The path of an export, if it can be opened, with what the device there takes. -/
def written? (disk : Disk) : Option (Path × Content) :=
  (disk.path? d.name).map fun path => (path, d.delivery.taken (disk.device path))

/-- An export arrives if it can be opened, all of it is taken and the flush succeeds. -/
def arrives (disk : Disk) : Bool :=
  (disk.path? d.name).any fun path =>
    d.delivery.taken (disk.device path) = d.delivery.bytes && !(disk.device path).flushFails

/-- What an export says. -/
def said (disk : Disk) : String := if d.arrives disk then d.notice else ""

/-- An export arrives exactly when its delivery succeeds. -/
theorem arrives_of_path? {path : Path} (h : disk.path? d.name = some path) :
    d.arrives disk = (d.delivery.outcome (disk.device path)).isOk := by
  have success := d.delivery.settles.ok_iff (disk.device path)
  rw [← Export.Delivery.bytes_eq] at success
  rw [arrives, h, Bool.eq_iff_iff]
  cases outcome : d.delivery.outcome (disk.device path) with
  | ok => simpa [Except.isOk, Except.toBool] using success.mp outcome
  | error fault =>
    have : ¬ (d.delivery.taken (disk.device path) = d.delivery.bytes ∧
        (disk.device path).flushFails = false) := by
      rw [← success, outcome]
      nofun
    simpa [Except.isOk, Except.toBool] using this

theorem fill_eq : d.fill disk = (d.said disk, disk.putAll (d.written? disk).toList) := by
  cases h : disk.destination d.name with
  | error obstacle =>
    have closed : disk.path? d.name = none := by rw [Disk.path?, h]; rfl
    rw [fill, Export.Delivery.sendTo, h, said, arrives, written?, closed]
    rfl
  | ok path =>
    have opened : disk.path? d.name = some path := Disk.path?_eq_some_iff.mpr h
    have sent : d.delivery.sendTo d.name disk = (d.delivery.outcome (disk.device path),
        disk.put path (d.delivery.taken (disk.device path))) := by
      rw [Export.Delivery.sendTo, h]
      rfl
    rw [fill, sent, said, d.arrives_of_path? opened, written?, opened]
    cases d.delivery.outcome (disk.device path) <;> rfl

/-- Of a disk an export sees where names lead and what devices take. -/
theorem written?_said_congr (paths : disk'.path? = disk.path?) (devices : disk'.device = disk.device) :
    d.written? disk' = d.written? disk ∧ d.said disk' = d.said disk := by
  constructor
  · rw [written?, written?, paths, devices]
  · rw [said, said, arrives, arrives, paths, devices]

/-- An export changes nothing that another one sees. -/
theorem path?_putAll_written? (disk : Disk) :
    (disk.putAll (d.written? disk).toList).path? = disk.path? ∧
      (disk.putAll (d.written? disk).toList).device = disk.device := by
  cases h : disk.path? d.name with
  | none =>
    have nothing : d.written? disk = none := by rw [written?, h]; rfl
    rw [nothing]
    exact ⟨rfl, rfl⟩
  | some path =>
    have one : d.written? disk = some (path, d.delivery.taken (disk.device path)) := by
      rw [written?, h]; rfl
    rw [one]
    exact ⟨Disk.path?_put (Disk.admits_of_path? h), rfl⟩

end Destination

/-- Every export is written and says what it would alone, in their order. -/
theorem fillAll_eq (ds : List Destination) (disk : Disk) :
    fillAll ds disk = ((ds.map (·.said disk)).foldr (· ++ ·) "",
      disk.putAll (ds.filterMap (·.written? disk))) := by
  induction ds generalizing disk with
  | nil => rfl
  | cons d ds ih =>
    -- What the later exports see is carried back to the disk before the first one is written.
    let next := disk.putAll (d.written? disk).toList
    obtain ⟨paths, devices⟩ := d.path?_putAll_written? disk
    have said : (fun d' : Destination => d'.said next) = (·.said disk) :=
      funext fun d' => (d'.written?_said_congr paths devices).2
    have written : (fun d' : Destination => d'.written? next) = (·.written? disk) :=
      funext fun d' => (d'.written?_said_congr paths devices).1
    have filled : fillAll (d :: ds) disk =
        (d.said disk ++ (fillAll ds next).1, (fillAll ds next).2) := by
      rw [fillAll, Destination.fill_eq]
    rw [filled, ih, said, written]
    cases h : d.written? disk <;> simp [next, h, Disk.putAll]

/-- What is left at a path is what the later of two exports put there, or else the earlier one. -/
theorem lookup_putAll_exports (csv json : Option Destination) (disk : Disk) (path : Path) :
    (disk.putAll ((csv.toList ++ json.toList).filterMap (·.written? disk))).files.lookup path =
      (((json.bind (·.written? disk)).toList.lookup path).or
        ((csv.bind (·.written? disk)).toList.lookup path)).or (disk.files.lookup path) := by
  have one (d : Option Destination) :
      d.toList.filterMap (·.written? disk) = (d.bind (·.written? disk)).toList := by
    cases d with
    | none => rfl
    | some d => cases h : d.written? disk <;> simp [h]
  have short (file : Option (Path × Content)) : file.toList.reverse = file.toList := by
    cases file <;> rfl
  rw [Disk.lookup_putAll, List.filterMap_append, one, one, List.reverse_append, short, short,
    List.lookup_append]

theorem lookup_written? {d : Destination} {disk : Disk} {path : Path}
    (h : disk.path? d.name = some path) : ((some d).bind (·.written? disk)).toList.lookup path =
      some (d.delivery.taken (disk.device path)) := by
  rw [Option.bind_some, Destination.written?, h]
  exact List.lookup_cons_self

theorem lookup_written?_eq_none {d : Option Destination} {disk : Disk} {path : Path}
    (h : (d.bind fun d => disk.path? d.name) ≠ some path) :
    (d.bind (·.written? disk)).toList.lookup path = none := by
  cases d with
  | none => rfl
  | some d =>
    rw [Option.bind_some] at h ⊢
    rw [Destination.written?]
    cases opened : disk.path? d.name with
    | none => rfl
    | some p =>
      have other : path ≠ p := fun e => h (opened.trans (congrArg some e.symm))
      rw [Option.map_some, Option.toList_some, List.lookup_cons, beq_eq_false_iff_ne.mpr other]
      rfl

/-- Each notice stands for a text that has arrived whole; each file holds what its own device took
of its own text, though a document replaces a sheet at the same path. -/
theorem exports_are_isolated (words : List String) (o : Options) (w : Surroundings) (s : Settings)
    (asked : Request.ofWords? words = some (.survey o))
    (given : o.settings w.disk w.env w.account = .ok s) (sound : s.run.defect? = none) :
    ∃ v : Survey,
      (∀ output, (Survey.ofSettings { s with output } w.reached).1 = .ok v) ∧
      (∀ name, (v.sheet name).delivery.bytes =
        Tokens.encodeText (Report.Sheet.render v.records).toList) ∧
      (∀ name, (v.document w.time name).delivery.bytes = Tokens.encodeText
        ((Report.Document.ofRun v.plan v.registry v.records w.time).toJson.pretty 0)) ∧
      let outcome := run words w
      outcome.exit = 0 ∧
      outcome.output = "\n" ++ Report.Table.render v.records ++ v.fallbackNote ++
        (s.output.csv.elim "" fun name =>
          if (v.sheet name).arrives w.disk then "\nWrote CSV to " ++ name ++ "\n" else "") ++
        (s.output.json.elim "" fun name =>
          if (v.document w.time name).arrives w.disk then "Wrote JSON report to " ++ name ++ "\n"
          else "") ∧
      (∀ name path, s.output.json = some name → w.disk.path? name = some path →
        outcome.disk.files.lookup path =
          some ((v.document w.time name).delivery.taken (w.disk.device path))) ∧
      (∀ name path, s.output.csv = some name → w.disk.path? name = some path →
        s.output.json.bind w.disk.path? ≠ some path →
        outcome.disk.files.lookup path =
          some ((v.sheet name).delivery.taken (w.disk.device path))) ∧
      (∀ path, s.output.csv.bind w.disk.path? ≠ some path →
        s.output.json.bind w.disk.path? ≠ some path →
        outcome.disk.files.lookup path = w.disk.files.lookup path) := by
  have valid := Plan.valid_ofSettings_iff.mpr sound
  let v := Options.survey w s
  refine ⟨v, ?_, fun name => Export.bytes_sheet _, fun name => Export.bytes_document _, ?_⟩
  · intro output
    rw [Survey.ofSettings_of_valid (s := { s with output }) valid]
    rfl
  intro outcome
  have ran : outcome = o.run w := run_of_survey asked
  have files (path : Path) := lookup_putAll_exports (s.output.csv.map v.sheet)
    (s.output.json.map (v.document w.time)) w.disk path
  rw [ran, Options.run_of_no_defect given sound]
  simp only [fillAll_eq, Survey.destinations]
  refine ⟨trivial, ?_, ?_, ?_, ?_⟩
  · rw [Survey.display]
    cases s.output.csv <;> cases s.output.json <;>
      simp [Destination.said, Survey.sheet, Survey.document, v, String.append_assoc]
  · intro name path wanted opened
    have document : w.disk.path? (v.document w.time name).name = some path := opened
    rw [files, wanted, Option.map_some, lookup_written? document, Option.some_or, Option.some_or]
  · intro name path wanted opened other
    have sheet : w.disk.path? (v.sheet name).name = some path := opened
    rw [files, lookup_written?_eq_none (by rwa [Option.bind_map]), wanted, Option.map_some,
      lookup_written? sheet, Option.none_or, Option.some_or]
  · intro path noSheet noDocument
    rw [files, lookup_written?_eq_none (by rwa [Option.bind_map]),
      lookup_written?_eq_none (by rwa [Option.bind_map]), Option.none_or, Option.none_or]

/-- A sheet that finds no room leaves an empty file, while the document beside it arrives. -/
theorem exports_are_isolated_full_sheet :
    let words := ["--openai-models", "--anthropic-models", "--csv", "a", "--json", "b"]
    let full : Disk := { device := fun path => if path = ["a"] then { room := some 9 } else {} }
    let w : Surroundings := { env := fun _ => none, disk := full, site := .dark, time := ⟨0, 0⟩ }
    (run words w).exit = 0 ∧
    (run words w).output =
      "\n" ++ Report.Table.render [] ++ "Wrote JSON report to b\n" ∧
    (run words w).disk.files.lookup ["a"] = some [] ∧
    ∃ content ≠ [], (run words w).disk.files.lookup ["b"] = some content := by
  intro words full w
  have asked : Request.ofWords? words = some (.survey
      { openAIModels := some [], anthropicModels := some [], csv := some "a", json := some "b" }) := by
    decide +kernel
  obtain ⟨v, done, -, -, exit, output, document, sheet, -⟩ :=
    exports_are_isolated words _ w _ asked rfl rfl
  obtain rfl := Survey.eq_done_of_ofSettings (done {})
  have opened (name : String) (h : name = "a" ∨ name = "b") : full.path? name = some [name] := by
    rcases h with rfl | rfl <;> decide +kernel
  refine ⟨exit, ?_, ?_, ?_⟩
  · rw [output]
    decide +kernel
  · rw [sheet "a" ["a"] rfl (opened "a" (.inl rfl)) (by decide +kernel)]
    decide +kernel
  · refine ⟨_, ?_, document "b" ["b"] rfl (opened "b" (.inr rfl))⟩
    decide +kernel

end TokenSurvey.Command
