import Mathlib
import TokenSurvey.Proofs.Settings.Layer
import TokenSurvey.Proofs.Text.Utf8
import TokenSurvey.Proofs.Toml.Proper

/-! Settings from a document, field by field: each field is decided by what the document has for it,
whatever else stands in the document and in whatever order. -/
namespace TokenSurvey.Settings

open Storage (Content Disk)
open Toml (Proper DistinctKeys)

/-- A natural number of 63 bits. -/
def IsNumber (v : Toml) (n : Nat) : Prop := v = .integer n ∧ n < 2 ^ 63

def IsText (v : Toml) (t : String) : Prop := v = .string t

def IsList {α : Type} (IsItem : Toml → α → Prop) (v : Toml) (xs : List α) : Prop :=
  ∃ items, v = .array items ∧ List.Forall₂ IsItem items xs

/-- The same of a field that may stay open. -/
def IsGiven {α : Type} (Is : Toml → α → Prop) (v : Toml) (x : Option α) : Prop :=
  ∃ a, x = some a ∧ Is v a

/-- A document has a value for a field of a table. -/
def Has (document : List (String × Toml)) (table field : String) (v : Toml) : Prop :=
  ∃ entries, (table, .table entries) ∈ document ∧ (field, v) ∈ entries

/-- What a document has for a field, or the default if it has nothing. -/
def Decides {α : Type} (document : List (String × Toml)) (table field : String)
    (Is : Toml → α → Prop) (default x : α) : Prop :=
  (∀ v, Has document table field v → Is v x) ∧ ((∀ v, ¬ Has document table field v) → x = default)

/-- What a document says about settings. -/
@[mk_iff]
structure Describes (document : List (String × Toml)) (s : Settings) : Prop where
  sizes : Decides document "run" "sizes" (IsList IsNumber) standard.run.sizes s.run.sizes
  trials : Decides document "run" "trials" IsNumber standard.run.trials s.run.trials
  seed : Decides document "run" "seed" IsNumber standard.run.seed s.run.seed
  openAI : Decides document "models" "openai" (IsList IsText) standard.models.openAI s.models.openAI
  anthropic : Decides document "models" "anthropic" (IsList IsText)
    standard.models.anthropic s.models.anthropic
  apiKey : Decides document "anthropic" "api_key" (IsGiven IsText) none s.access.apiKey
  baseUrl : Decides document "anthropic" "base_url" IsText standard.access.baseUrl s.access.baseUrl
  apiVersion :
    Decides document "anthropic" "api_version" IsText standard.access.apiVersion s.access.apiVersion
  timeoutSeconds :
    Decides document "anthropic" "timeout_secs" (IsGiven IsNumber) none s.access.timeoutSeconds
  csv : Decides document "output" "csv" (IsGiven IsText) none s.output.csv
  json : Decides document "output" "json" (IsGiven IsText) none s.output.json

/-- A field that is known, and the values that may stand in it. -/
structure Field where
  table : String
  name : String
  Admits : Toml → Prop

def fields : List Field := [
  ⟨"run", "sizes", fun v => ∃ ns, IsList IsNumber v ns⟩,
  ⟨"run", "trials", fun v => ∃ n, IsNumber v n⟩,
  ⟨"run", "seed", fun v => ∃ n, IsNumber v n⟩,
  ⟨"models", "openai", fun v => ∃ ts, IsList IsText v ts⟩,
  ⟨"models", "anthropic", fun v => ∃ ts, IsList IsText v ts⟩,
  ⟨"anthropic", "api_key", fun v => ∃ t, IsText v t⟩,
  ⟨"anthropic", "base_url", fun v => ∃ t, IsText v t⟩,
  ⟨"anthropic", "api_version", fun v => ∃ t, IsText v t⟩,
  ⟨"anthropic", "timeout_secs", fun v => ∃ n, IsNumber v n⟩,
  ⟨"output", "csv", fun v => ∃ t, IsText v t⟩,
  ⟨"output", "json", fun v => ∃ t, IsText v t⟩]

/-- The names of the tables, if they are there, belong to tables. -/
def HasTables (document : List (String × Toml)) : Prop :=
  ∀ table ∈ ["run", "models", "anthropic", "output"], ∀ v, (table, v) ∈ document →
    ∃ entries, v = .table entries

section Values

variable {α : Type} {v : Toml} {value? : Toml → Option α} {Is : Toml → α → Prop}

/-- What a decoder makes of proper values. -/
def Decodes (value? : Toml → Option α) (Is : Toml → α → Prop) : Prop :=
  ∀ v, v.Proper → ∀ x, value? v = some x ↔ Is v x

theorem decodes_natural? : Decodes natural? IsNumber := by
  intro v hv n
  cases hv with
  | integer low high =>
    next i =>
    rw [natural?, IsNumber, Toml.integer.injEq]
    simp only [Toml.maxInteger] at high
    by_cases sign : 0 ≤ i
    · rw [if_pos sign, Option.some.injEq]
      omega
    · rw [if_neg sign]
      simp only [reduceCtorEq, false_iff]
      omega
  | _ => simp [natural?, IsNumber]

theorem decodes_string? : Decodes string? IsText := by
  intro v _ t
  cases v <;> simp [string?, IsText]

theorem mapM_eq_some_iff {items : List Toml} (h : ∀ v ∈ items, ∀ x, value? v = some x ↔ Is v x)
    (xs : List α) : items.mapM value? = some xs ↔ List.Forall₂ Is items xs := by
  induction items generalizing xs with
  | nil => cases xs <;> simp
  | cons v items ih =>
    obtain ⟨first, others⟩ := List.forall_mem_cons.mp h
    cases xs with
    | nil => simp [Option.bind_eq_some_iff]
    | cons x xs => simp [Option.bind_eq_some_iff, List.forall₂_cons, ← first, ← ih others]

theorem Decodes.listOf? (h : Decodes value? Is) : Decodes (listOf? value?) (IsList Is) := by
  intro v hv xs
  cases hv with
  | array hitems =>
    simp [Settings.listOf?, IsList, mapM_eq_some_iff fun v hv => h v (hitems v hv)]
  | _ => simp [Settings.listOf?, IsList]

theorem Decodes.given (h : Decodes value? Is) :
    Decodes (fun v => (value? v).map some) (IsGiven Is) := by
  intro v hv x
  simp only [Option.map_eq_some_iff, IsGiven, h v hv]
  exact exists_congr fun a => by rw [and_comm, eq_comm]

end Values

section Documents

variable {α : Type} {document : List (String × Toml)} {table field : String} {v w : Toml}
  {value? : Toml → Option α} {Is : Toml → α → Prop} {default x : α}

theorem lookup_eq_some_iff {entries : List (String × Toml)} (keys : DistinctKeys entries) :
    entries.lookup field = some v ↔ (field, v) ∈ entries := by
  induction entries with
  | nil => simp
  | cons e entries ih =>
    obtain ⟨k, w⟩ := e
    obtain ⟨new, keys⟩ := List.nodup_cons.mp keys
    by_cases same : field = k
    · subst same
      have absent : (field, v) ∉ entries := fun h => new (List.mem_map.mpr ⟨_, h, rfl⟩)
      simp [absent, eq_comm]
    · have other : (field == k) = false := by simpa using same
      rw [List.lookup_cons, other, List.mem_cons]
      simpa [same] using ih keys

/-- The entries of a table; one that is absent has none. -/
def inside (document : List (String × Toml)) (table : String) : List (String × Toml) :=
  match document.lookup table with
  | some (.table entries) => entries
  | _ => []

theorem proper_inside (proper : (Toml.table document).Proper) (table : String) :
    (Toml.table (inside document table)).Proper := by
  obtain ⟨keys, values⟩ := Toml.proper_table_iff.mp proper
  rw [inside]
  split
  · next entries h => exact values _ ((lookup_eq_some_iff keys).mp h)
  · exact .table .nil (by simp)

theorem has_iff_mem_inside (proper : (Toml.table document).Proper) :
    Has document table field v ↔ (field, v) ∈ inside document table := by
  obtain ⟨keys, -⟩ := Toml.proper_table_iff.mp proper
  rw [Has, inside]
  simp only [← lookup_eq_some_iff keys]
  split
  · next entries h => simp [h]
  · next other =>
    constructor
    · rintro ⟨entries, h, -⟩
      exact absurd h (other entries)
    · simp

theorem has_unique (proper : (Toml.table document).Proper) (hv : Has document table field v)
    (hw : Has document table field w) : v = w := by
  obtain ⟨keys, -⟩ := Toml.proper_table_iff.mp (proper_inside proper table)
  rw [has_iff_mem_inside proper, ← lookup_eq_some_iff keys] at hv hw
  exact Option.some.inj (hv.symm.trans hw)

theorem Decides.admits (h : Decides document table field Is default x) :
    ∀ v, Has document table field v → ∃ x, Is v x := fun v hv => ⟨x, h.1 v hv⟩

theorem Decides.admits_given {x : Option α} (h : Decides document table field (IsGiven Is) none x) :
    ∀ v, Has document table field v → ∃ x, Is v x := by
  intro v hv
  obtain ⟨a, -, ha⟩ := h.1 v hv
  exact ⟨a, ha⟩

theorem exists_decides (proper : (Toml.table document).Proper)
    (h : ∀ v, Has document table field v → ∃ x, Is v x) (default : α) :
    ∃ x, Decides document table field Is default x := by
  by_cases some : ∃ v, Has document table field v
  · obtain ⟨v, hv⟩ := some
    obtain ⟨x, hx⟩ := h v hv
    exact ⟨x, fun w hw => has_unique proper hv hw ▸ hx, fun none => absurd hv (none v)⟩
  · exact ⟨default, fun v hv => absurd ⟨v, hv⟩ some, fun _ => rfl⟩

theorem exists_decides_given (proper : (Toml.table document).Proper)
    (h : ∀ v, Has document table field v → ∃ x, Is v x) :
    ∃ x, Decides document table field (IsGiven Is) none x := by
  refine exists_decides proper (fun v hv => ?_) none
  obtain ⟨x, hx⟩ := h v hv
  exact ⟨some x, x, rfl, hx⟩

theorem read_inside_eq_some_iff (proper : (Toml.table document).Proper) (h : Decodes value? Is)
    (position : Nat) :
    (Section.named (inside document table)).read position field value? default = some x ↔
      Decides document table field Is default x := by
  rw [Section.read, Section.field?]
  obtain ⟨keys, values⟩ := Toml.proper_table_iff.mp (proper_inside proper table)
  cases hv : (inside document table).lookup field with
  | none =>
    have nothing (v : Toml) : ¬ Has document table field v := by
      rw [has_iff_mem_inside proper, ← lookup_eq_some_iff keys, hv]
      simp
    simp [Decides, nothing, eq_comm]
  | some v =>
    have mem := (lookup_eq_some_iff keys).mp hv
    have has := (has_iff_mem_inside proper).mpr mem
    simp only [h v (values _ mem)]
    constructor
    · intro hx
      exact ⟨fun w hw => has_unique proper has hw ▸ hx, fun none => absurd has (none v)⟩
    · rintro ⟨hx, -⟩
      exact hx v has

theorem section?_eq_inside (proper : (Toml.table document).Proper) (tables : HasTables document)
    (known : table ∈ ["run", "models", "anthropic", "output"]) : section? document table =
      some (.named (inside document table)) := by
  obtain ⟨keys, -⟩ := Toml.proper_table_iff.mp proper
  rw [section?, inside]
  cases h : document.lookup table with
  | none => rfl
  | some v =>
    obtain ⟨entries, rfl⟩ := tables table known v ((lookup_eq_some_iff keys).mp h)
    rfl

theorem run_ofSection?_iff (proper : (Toml.table document).Proper) {r : Run} :
    Run.ofSection? (.named (inside document "run")) = some r ↔
      Decides document "run" "sizes" (IsList IsNumber) standard.run.sizes r.sizes ∧
      Decides document "run" "trials" IsNumber standard.run.trials r.trials ∧
      Decides document "run" "seed" IsNumber standard.run.seed r.seed := by
  simp only [Run.ofSection?, Option.bind_eq_bind, Option.pure_def, Option.bind_eq_some_iff,
    read_inside_eq_some_iff proper decodes_natural?,
    read_inside_eq_some_iff proper decodes_natural?.listOf?]
  constructor
  · rintro ⟨sizes, hsizes, trials, htrials, seed, hseed, h⟩
    obtain rfl := Option.some.inj h
    exact ⟨hsizes, htrials, hseed⟩
  · rintro ⟨hsizes, htrials, hseed⟩
    exact ⟨_, hsizes, _, htrials, _, hseed, rfl⟩

theorem models_ofSection?_iff (proper : (Toml.table document).Proper) {m : Models} :
    Models.ofSection? (.named (inside document "models")) = some m ↔
      Decides document "models" "openai" (IsList IsText) standard.models.openAI m.openAI ∧
      Decides document "models" "anthropic" (IsList IsText) standard.models.anthropic
        m.anthropic := by
  simp only [Models.ofSection?, Option.bind_eq_bind, Option.pure_def, Option.bind_eq_some_iff,
    read_inside_eq_some_iff proper decodes_string?.listOf?]
  constructor
  · rintro ⟨openAI, hopenAI, anthropic, hanthropic, h⟩
    obtain rfl := Option.some.inj h
    exact ⟨hopenAI, hanthropic⟩
  · rintro ⟨hopenAI, hanthropic⟩
    exact ⟨_, hopenAI, _, hanthropic, rfl⟩

theorem access_ofSection?_iff (proper : (Toml.table document).Proper) {a : Access} :
    Access.ofSection? (.named (inside document "anthropic")) = some a ↔
      Decides document "anthropic" "api_key" (IsGiven IsText) none a.apiKey ∧
      Decides document "anthropic" "base_url" IsText standard.access.baseUrl a.baseUrl ∧
      Decides document "anthropic" "api_version" IsText standard.access.apiVersion a.apiVersion ∧
      Decides document "anthropic" "timeout_secs" (IsGiven IsNumber) none a.timeoutSeconds := by
  simp only [Access.ofSection?, Option.bind_eq_bind, Option.pure_def, Option.bind_eq_some_iff,
    read_inside_eq_some_iff proper decodes_string?,
    read_inside_eq_some_iff proper decodes_string?.given,
    read_inside_eq_some_iff proper decodes_natural?.given]
  constructor
  · rintro ⟨key, hkey, url, hurl, version, hversion, timeout, htimeout, h⟩
    obtain rfl := Option.some.inj h
    exact ⟨hkey, hurl, hversion, htimeout⟩
  · rintro ⟨hkey, hurl, hversion, htimeout⟩
    exact ⟨_, hkey, _, hurl, _, hversion, _, htimeout, rfl⟩

theorem output_ofSection?_iff (proper : (Toml.table document).Proper) {o : Output} :
    Output.ofSection? (.named (inside document "output")) = some o ↔
      Decides document "output" "csv" (IsGiven IsText) none o.csv ∧
      Decides document "output" "json" (IsGiven IsText) none o.json := by
  simp only [Output.ofSection?, Option.bind_eq_bind, Option.pure_def, Option.bind_eq_some_iff,
    read_inside_eq_some_iff proper decodes_string?.given]
  constructor
  · rintro ⟨csv, hcsv, json, hjson, h⟩
    obtain rfl := Option.some.inj h
    exact ⟨hcsv, hjson⟩
  · rintro ⟨hcsv, hjson⟩
    exact ⟨_, hcsv, _, hjson, rfl⟩

theorem ofEntries?_eq_some_iff (proper : (Toml.table document).Proper) (tables : HasTables document)
    {s : Settings} : ofEntries? document = some s ↔ Describes document s := by
  have run : Run.ofSection? (.named []) = some {} := rfl
  have models : Models.ofSection? (.named []) = some {} := rfl
  have access : Access.ofSection? (.named []) = some {} := rfl
  have output : Output.ofSection? (.named []) = some {} := rfl
  simp only [ofEntries?, read_section _ _ _ run, read_section _ _ _ models,
    read_section _ _ _ access, read_section _ _ _ output]
  iterate 4 rw [section?_eq_inside proper tables (by decide)]
  simp only [Option.bind_some, Option.bind_eq_bind, Option.pure_def, Option.bind_eq_some_iff,
    run_ofSection?_iff proper, models_ofSection?_iff proper, access_ofSection?_iff proper,
    output_ofSection?_iff proper]
  constructor
  · rintro ⟨run, ⟨hsizes, htrials, hseed⟩, models, ⟨hopenAI, hanthropic⟩,
      access, ⟨hkey, hurl, hversion, htimeout⟩, output, ⟨hcsv, hjson⟩, h⟩
    obtain rfl := Option.some.inj h
    exact ⟨hsizes, htrials, hseed, hopenAI, hanthropic, hkey, hurl, hversion, htimeout, hcsv, hjson⟩
  · intro h
    exact ⟨_, ⟨h.sizes, h.trials, h.seed⟩, _, ⟨h.openAI, h.anthropic⟩,
      _, ⟨h.apiKey, h.baseUrl, h.apiVersion, h.timeoutSeconds⟩, _, ⟨h.csv, h.json⟩, rfl⟩

/-- The fields are decided one by one, so that it is enough to admit each of them. -/
theorem exists_describes_iff (proper : (Toml.table document).Proper) :
    (∃ s, Describes document s) ↔
      ∀ f ∈ fields, ∀ v, Has document f.table f.name v → f.Admits v := by
  simp only [fields, List.forall_mem_cons, List.not_mem_nil, false_imp_iff, forall_true_iff,
    and_true]
  constructor
  · rintro ⟨s, h⟩
    exact ⟨h.sizes.admits, h.trials.admits, h.seed.admits, h.openAI.admits, h.anthropic.admits,
      h.apiKey.admits_given, h.baseUrl.admits, h.apiVersion.admits, h.timeoutSeconds.admits_given,
      h.csv.admits_given, h.json.admits_given⟩
  · rintro ⟨sizes, trials, seed, openAI, anthropic, key, url, version, timeout, csv, json⟩
    obtain ⟨sizes, hsizes⟩ := exists_decides proper sizes standard.run.sizes
    obtain ⟨trials, htrials⟩ := exists_decides proper trials standard.run.trials
    obtain ⟨seed, hseed⟩ := exists_decides proper seed standard.run.seed
    obtain ⟨openAI, hopenAI⟩ := exists_decides proper openAI standard.models.openAI
    obtain ⟨anthropic, hanthropic⟩ := exists_decides proper anthropic standard.models.anthropic
    obtain ⟨key, hkey⟩ := exists_decides_given proper key
    obtain ⟨url, hurl⟩ := exists_decides proper url standard.access.baseUrl
    obtain ⟨version, hversion⟩ := exists_decides proper version standard.access.apiVersion
    obtain ⟨timeout, htimeout⟩ := exists_decides_given proper timeout
    obtain ⟨csv, hcsv⟩ := exists_decides_given proper csv
    obtain ⟨json, hjson⟩ := exists_decides_given proper json
    exact ⟨⟨⟨sizes, trials, seed⟩, ⟨openAI, anthropic⟩, ⟨key, url, version, timeout⟩, ⟨csv, json⟩⟩,
      hsizes, htrials, hseed, hopenAI, hanthropic, hkey, hurl, hversion, htimeout, hcsv, hjson⟩

/-- Only the fields that are known are looked at. -/
theorem describes_congr {other : List (String × Toml)} {s : Settings}
    (same : ∀ f ∈ fields, ∀ v, Has document f.table f.name v ↔ Has other f.table f.name v) :
    Describes document s ↔ Describes other s := by
  simp only [fields, List.forall_mem_cons] at same
  obtain ⟨sizes, trials, seed, openAI, anthropic, key, url, version, timeout, csv, json, -⟩ := same
  simp only [describes_iff, Decides, sizes, trials, seed, openAI, anthropic, key, url, version,
    timeout, csv, json]

end Documents

/-- A file of the disk is the text of a document. -/
def Holds (disk : Disk) (name : String) (document : List (String × Toml)) : Prop :=
  ∃ content text, disk.read name = .ok content ∧ Text.strict? (Text.decode content) = some text ∧
    Toml.read? text = some document

section Files

variable {disk : Disk} {name : String} {document : List (String × Toml)}

theorem load_named_eq_ok_iff (holds : Holds disk name document) (env : Environment)
    (account : Option String) {s : Settings} :
    load disk env account (some name) = .ok s ↔ ofEntries? document = some s := by
  obtain ⟨content, text, hread, htext, hdocument⟩ := holds
  simp only [load, hread, ofReading, ofContent, htext, ofToml, hdocument, Option.bind_some]
  cases ofEntries? document <;> simp

theorem load_named_eq_ok_iff_describes (holds : Holds disk name document)
    (tables : HasTables document) (env : Environment) (account : Option String) {s : Settings} :
    load disk env account (some name) = .ok s ↔ Describes document s := by
  rw [load_named_eq_ok_iff holds env account]
  obtain ⟨_, _, -, -, hdocument⟩ := holds
  exact ofEntries?_eq_some_iff (Toml.proper_of_read? hdocument) tables

/-- Whatever keeps a file from giving settings, it is the settings that fail. -/
theorem load_eq_error {env : Environment} {account named : Option String} {fault : Fault}
    (h : load disk env account named = .error fault) : ∃ detail, fault = .settings detail := by
  rw [load_eq] at h
  cases hfile : file? disk env account named with
  | none => simp [hfile] at h
  | some name =>
    simp only [hfile] at h
    cases hread : disk.read name with
    | error obstacle =>
      simp only [hread, ofReading, Except.error.injEq] at h
      exact ⟨_, h.symm⟩
    | ok content =>
      simp only [hread, ofReading, ofContent, ofToml] at h
      split at h
      · split at h <;> simp at h
        exact ⟨_, h.symm⟩
      · simp at h
        exact ⟨_, h.symm⟩

/-- The file of a document gives settings if and only if each field that is known admits what the
document has for it, and nothing else in the document makes a difference. -/
theorem file_is_decoded_field_by_field (disk : Disk) (env : Environment) (account : Option String)
    (name : String) (document : List (String × Toml)) (holds : Holds disk name document)
    (tables : HasTables document) :
    ((∃ s, load disk env account (some name) = .ok s) ↔
      ∀ f ∈ fields, ∀ v, Has document f.table f.name v → f.Admits v) ∧
    (∀ s, load disk env account (some name) = .ok s ↔ Describes document s) ∧
    (∀ other document', Holds disk other document' → HasTables document' →
      (∀ f ∈ fields, ∀ v, Has document f.table f.name v ↔ Has document' f.table f.name v) →
      ∀ s, load disk env account (some name) = .ok s ↔ load disk env account (some other) = .ok s) ∧
    ∀ fault, load disk env account (some name) = .error fault → ∃ detail, fault = .settings detail := by
  refine ⟨?_, fun s => load_named_eq_ok_iff_describes holds tables env account, ?_,
    fun fault => load_eq_error⟩
  · simp only [load_named_eq_ok_iff_describes holds tables env account]
    obtain ⟨_, _, -, -, hdocument⟩ := holds
    exact exists_describes_iff (Toml.proper_of_read? hdocument)
  · intro other document' holds' tables' same s
    rw [load_named_eq_ok_iff_describes holds tables env account,
      load_named_eq_ok_iff_describes holds' tables' env account]
    exact describes_congr same

/-- Two files of one seed, the second with more in and around its tables. -/
def twoFiles : Disk where
  files := [
    (["plain"], Tokens.encodeText "[run]\nseed = 3\n[output]\ncsv = 'a'".toList),
    (["noted"],
      Tokens.encodeText "note = [1, \x7b\x7d]\n[output]\ncsv = 'a'\n[run]\nrun = true\nseed = 3".toList)]

def plain : List (String × Toml) := [
  ("run", .table [("seed", .integer 3)]),
  ("output", .table [("csv", .string "a")])]

def noted : List (String × Toml) := [
  ("note", .array [.integer 1, .table []]),
  ("output", .table [("csv", .string "a")]),
  ("run", .table [("run", .boolean true), ("seed", .integer 3)])]

theorem holds_plain : Holds twoFiles "plain" plain :=
  ⟨_, "[run]\nseed = 3\n[output]\ncsv = 'a'", rfl, Text.strict?_decode_encodeText _, by cbv⟩

theorem holds_noted : Holds twoFiles "noted" noted :=
  ⟨_, "note = [1, \x7b\x7d]\n[output]\ncsv = 'a'\n[run]\nrun = true\nseed = 3", rfl,
    Text.strict?_decode_encodeText _, by cbv⟩

theorem file_is_decoded_field_by_field_noted :
    Holds twoFiles "noted" noted ∧ HasTables noted ∧ Holds twoFiles "plain" plain ∧
    HasTables plain ∧
    (∀ f ∈ fields, ∀ v, Has noted f.table f.name v ↔ Has plain f.table f.name v) ∧
    load twoFiles (fun _ => none) none (some "noted") =
      .ok { run := { seed := 3 }, output := { csv := some "a" } } ∧
    load twoFiles (fun _ => none) none (some "plain") =
      .ok { run := { seed := 3 }, output := { csv := some "a" } } := by
  have tables : HasTables noted := by simp [HasTables, noted]
  have tables' : HasTables plain := by simp [HasTables, plain]
  have same : ∀ f ∈ fields, ∀ v, Has noted f.table f.name v ↔ Has plain f.table f.name v := by
    simp [fields, Has, noted, plain]
  have describes : Describes noted { run := { seed := 3 }, output := { csv := some "a" } } := by
    simp [describes_iff, Decides, Has, noted, IsNumber, IsText, IsGiven, standard]
  obtain ⟨-, decoded, unmoved, -⟩ := file_is_decoded_field_by_field twoFiles (fun _ => none)
    none "noted" noted holds_noted tables
  have loaded := (decoded _).mpr describes
  exact ⟨holds_noted, tables, holds_plain, tables', same, loaded,
    (unmoved "plain" plain holds_plain tables' same _).mp loaded⟩

end Files

end TokenSurvey.Settings
