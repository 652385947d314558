import Mathlib.Data.List.Forall2
import TokenSurvey.Proofs.Text.Numeral
import TokenSurvey.Proofs.Text.Pieces
import TokenSurvey.Settings.Environment

/-! Settings from variables: which values are read, what they change, and which of several values
that cannot be read is named. -/
namespace TokenSurvey.Settings

open Text (pieces_eq_splitOn)
open Text.Numeral (Denotes read_eq_ok_iff denotes_toDigits)
open Unicode (isSpace trim trim_padded)

section Traversal

variable {α β : Type} {f : α → Except Fault β}

theorem mapM_eq_ok_iff {xs : List α} {ys : List β} :
    xs.mapM f = .ok ys ↔ List.Forall₂ (fun x y => f x = .ok y) xs ys := by
  induction xs generalizing ys with
  | nil => cases ys <;> simp [pure, Except.pure]
  | cons x xs ih =>
    simp only [List.mapM_cons, Fault.bind_eq_ok_iff, ih]
    constructor
    · rintro ⟨y, hy, ys', hys, h⟩
      obtain rfl := Except.ok.inj h
      exact .cons hy hys
    · rintro (_ | ⟨hy, hys⟩)
      exact ⟨_, hy, _, hys, rfl⟩

/-- The first that fails decides the fault. -/
theorem mapM_eq_error {xs : List α} {fault : Fault} (h : xs.mapM f = .error fault) :
    ∃ before x after, xs = before ++ x :: after ∧ (∀ y ∈ before, ∃ b, f y = .ok b) ∧
      f x = .error fault := by
  induction xs with
  | nil => cases h
  | cons x xs ih =>
    rw [List.mapM_cons, Fault.bind_eq_error_iff] at h
    obtain hx | ⟨b, hx, h⟩ := h
    · exact ⟨[], x, xs, rfl, by simp, hx⟩
    · obtain hxs | ⟨bs, -, h⟩ := Fault.bind_eq_error_iff.mp h
      · obtain ⟨before, y, after, rfl, fine, hy⟩ := ih hxs
        exact ⟨x :: before, y, after, rfl, List.forall_mem_cons.mpr ⟨⟨b, hx⟩, fine⟩, hy⟩
      · cases h

end Traversal

/-- The pieces of a list between commas without the white space around them, if anything is left. -/
def listed (text : String) : List (List Char) :=
  ((text.toList.splitOn ',').map trim).filter (· ≠ [])

def ReadsList (text : String) (sizes : List Nat) : Prop := List.Forall₂ Denotes (listed text) sizes

def ReadsNumber (text : String) (n : Nat) : Prop := Denotes (trim text.toList) n

/-- What a variable holds, or what was there before if it is not set. -/
def Settles {α : Type} (value : Option String) (Reads : String → α → Prop) (current x : α) : Prop :=
  match value with
  | none => x = current
  | some text => Reads text x

/-- Settings in which variables that are set have changed their fields and nothing else. -/
structure Overridden (s : Settings) (env : Environment) (s' : Settings) : Prop where
  sizes : Settles (env "TOKEN_BENCH_SIZES") ReadsList s.run.sizes s'.run.sizes
  trials : Settles (env "TOKEN_BENCH_TRIALS") ReadsNumber s.run.trials s'.run.trials
  seed : Settles (env "TOKEN_BENCH_SEED") ReadsNumber s.run.seed s'.run.seed
  baseUrl : s'.access.baseUrl = (env "ANTHROPIC_BASE_URL").getD s.access.baseUrl
  rest : s' = { s with run := s'.run, access := { s.access with baseUrl := s'.access.baseUrl } }

/-- The first variable that cannot be read, and of a list the first piece. -/
inductive Offends (env : Environment) : Fault → Prop where
  | sizes {text : String} {before after : List (List Char)} {piece : List Char}
      (reason : Text.Numeral.Fault) (given : env "TOKEN_BENCH_SIZES" = some text)
      (place : listed text = before ++ piece :: after) (fine : ∀ p ∈ before, ∃ n, Denotes p n)
      (bad : ∀ n, ¬ Denotes piece n) :
      Offends env (.settings
        ("TOKEN_BENCH_SIZES: " ++ String.ofList piece ++ ": " ++ reason.message))
  | trials {text : String} (reason : Text.Numeral.Fault)
      (sizes : ∀ t, env "TOKEN_BENCH_SIZES" = some t → ∃ ns, ReadsList t ns)
      (given : env "TOKEN_BENCH_TRIALS" = some text) (bad : ∀ n, ¬ ReadsNumber text n) :
      Offends env (.settings ("TOKEN_BENCH_TRIALS: " ++ reason.message))
  | seed {text : String} (reason : Text.Numeral.Fault)
      (sizes : ∀ t, env "TOKEN_BENCH_SIZES" = some t → ∃ ns, ReadsList t ns)
      (trials : ∀ t, env "TOKEN_BENCH_TRIALS" = some t → ∃ n, ReadsNumber t n)
      (given : env "TOKEN_BENCH_SEED" = some text) (bad : ∀ n, ¬ ReadsNumber text n) :
      Offends env (.settings ("TOKEN_BENCH_SEED: " ++ reason.message))

section Reading

variable {α : Type} {env : Environment} {name text : String} {parts : List String}
  {s : List Char} {n : Nat} {current x : α} {fault : Fault}

theorem mapError_eq_ok_iff : (Text.Numeral.read s).mapError (badNumber parts) = .ok n ↔
    Denotes s n := by
  rw [← read_eq_ok_iff]
  cases Text.Numeral.read s <;> simp [Except.mapError]

theorem mapError_eq_error (h : (Text.Numeral.read s).mapError (badNumber parts) = .error fault) :
    (∀ n, ¬ Denotes s n) ∧ ∃ reason, badNumber parts reason = fault := by
  simp only [← read_eq_ok_iff]
  cases hs : Text.Numeral.read s with
  | ok n => simp [hs, Except.mapError] at h
  | error reason => exact ⟨by simp, reason, by simpa [hs, Except.mapError] using h⟩

theorem readNumber_eq_ok_iff : readNumber name text = .ok n ↔ ReadsNumber text n :=
  mapError_eq_ok_iff

theorem readSizes_eq (name text : String) :
    readSizes name text = (listed text).mapM (readSize name) := by
  rw [readSizes, pieces_eq_splitOn, listed]

theorem readSizes_eq_ok_iff {sizes : List Nat} :
    readSizes name text = .ok sizes ↔ ReadsList text sizes := by
  simp only [readSizes_eq, mapM_eq_ok_iff, readSize, mapError_eq_ok_iff, ReadsList]

theorem fromVariable_eq_ok_iff {read : String → String → Except Fault α} :
    fromVariable env name read current = .ok x ↔
      Settles (env name) (fun text x => read name text = .ok x) current x := by
  cases h : env name <;> simp [fromVariable, Settles, h, eq_comm]

theorem fromVariable_eq_error_iff {read : String → String → Except Fault α} :
    fromVariable env name read current = .error fault ↔
      ∃ text, env name = some text ∧ read name text = .error fault := by
  cases h : env name <;> simp [fromVariable, h]

theorem exists_forall₂_iff {β : Type} {R : α → β → Prop} {xs : List α} :
    (∃ ys, List.Forall₂ R xs ys) ↔ ∀ x ∈ xs, ∃ y, R x y := by
  induction xs with
  | nil => simp
  | cons x xs ih =>
    rw [List.forall_mem_cons, ← ih]
    constructor
    · rintro ⟨_, h⟩
      cases h with
      | cons hy hys => exact ⟨⟨_, hy⟩, _, hys⟩
    · rintro ⟨⟨y, hy⟩, ys, hys⟩
      exact ⟨y :: ys, .cons hy hys⟩

/-- A list is read if each of its pieces is blank or a number. -/
theorem exists_readsList_iff : (∃ ns, ReadsList text ns) ↔
    ∀ piece ∈ text.toList.splitOn ',', trim piece = [] ∨ ∃ n, Denotes (trim piece) n := by
  simp only [ReadsList, exists_forall₂_iff, listed, List.mem_filter, List.forall_mem_map,
    decide_eq_true_eq, and_imp, or_iff_not_imp_left, ne_eq]

theorem withEnvironment_eq_ok_iff_overridden {s s' : Settings} :
    s.withEnvironment env = .ok s' ↔ Overridden s env s' := by
  simp only [withEnvironment, Fault.bind_eq_ok_iff, fromVariable_eq_ok_iff, readSizes_eq_ok_iff,
    readNumber_eq_ok_iff]
  constructor
  · rintro ⟨sizes, hsizes, trials, htrials, seed, hseed, h⟩
    obtain rfl := Except.ok.inj h
    exact ⟨hsizes, htrials, hseed, rfl, rfl⟩
  · intro h
    refine ⟨_, h.sizes, _, h.trials, _, h.seed, ?_⟩
    rw [← h.baseUrl]
    exact congrArg Except.ok h.rest.symm

theorem exists_settles_iff {value : Option String} {Reads : String → α → Prop} :
    (∃ x, Settles value Reads current x) ↔ ∀ t, value = some t → ∃ x, Reads t x := by
  cases value <;> simp [Settles]

theorem offends_of_withEnvironment {s : Settings} (h : s.withEnvironment env = .error fault) :
    Offends env fault := by
  simp only [withEnvironment, Fault.bind_eq_error_iff, fromVariable_eq_ok_iff,
    fromVariable_eq_error_iff, readSizes_eq_ok_iff, readNumber_eq_ok_iff] at h
  obtain ⟨text, given, h⟩ | ⟨sizes, hsizes, h⟩ := h
  · rw [readSizes_eq] at h
    obtain ⟨before, piece, after, place, fine, h⟩ := mapM_eq_error h
    obtain ⟨bad, reason, rfl⟩ := mapError_eq_error h
    have parts : badNumber ["TOKEN_BENCH_SIZES", String.ofList piece] reason =
        .settings ("TOKEN_BENCH_SIZES: " ++ String.ofList piece ++ ": " ++ reason.message) := by
      simp [badNumber, String.append_assoc]
    rw [parts]
    refine .sizes reason given place (fun p hp => ?_) bad
    obtain ⟨n, hn⟩ := fine p hp
    exact ⟨n, mapError_eq_ok_iff.mp hn⟩
  obtain ⟨text, given, h⟩ | ⟨trials, htrials, h⟩ := h
  · obtain ⟨bad, reason, rfl⟩ := mapError_eq_error h
    exact .trials reason (exists_settles_iff.mp ⟨_, hsizes⟩) given bad
  obtain ⟨text, given, h⟩ | ⟨seed, -, h⟩ := h
  · obtain ⟨bad, reason, rfl⟩ := mapError_eq_error h
    exact .seed reason (exists_settles_iff.mp ⟨_, hsizes⟩) (exists_settles_iff.mp ⟨_, htrials⟩)
      given bad
  · cases h

end Reading

/-- What stands between two commas: a size, or none, with white space around it. -/
structure ListItem where
  size : Option Nat
  before : List Char
  after : List Char
  bounded : ∀ n ∈ size, n < 2 ^ 64
  white : ∀ c ∈ before ++ after, isSpace c

namespace ListItem

def digits (item : ListItem) : List Char := item.size.elim [] (Nat.toDigits 10)

def text (item : ListItem) : List Char := item.before ++ item.digits ++ item.after

def joined (items : List ListItem) : String := String.ofList ([','].intercalate (items.map text))

variable {item : ListItem} {items : List ListItem}

theorem isDigit_of_mem_digits {c : Char} (h : c ∈ item.digits) : c.isDigit := by
  rw [digits] at h
  cases hs : item.size with
  | none => simp [hs] at h
  | some n =>
    rw [hs] at h
    exact Nat.isDigit_of_mem_toDigits (by decide) (by decide) h

theorem trim_text (item : ListItem) : trim item.text = item.digits := by
  refine trim_padded (fun c hc => item.white c (by simp [hc])) (fun c hc => ?_)
    (fun c hc => item.white c (by simp [hc]))
  have digit := Char.isDigit_iff_toNat.mp (isDigit_of_mem_digits hc)
  have zero : '0'.toNat = 48 := rfl
  have nine : '9'.toNat = 57 := rfl
  simp [isSpace]
  omega

theorem comma_not_mem_text (item : ListItem) : ',' ∉ item.text := by
  rw [text, List.mem_append, List.mem_append]
  rintro ((h | h) | h)
  · exact absurd (item.white ',' (by simp [h])) (by decide)
  · exact absurd (isDigit_of_mem_digits h) (by decide)
  · exact absurd (item.white ',' (by simp [h])) (by decide)

theorem listed_joined (items : List ListItem) :
    listed (joined items) = (items.filterMap (·.size)).map (Nat.toDigits 10) := by
  have kept (items : List ListItem) : (items.map digits).filter (· ≠ []) =
      (items.filterMap (·.size)).map (Nat.toDigits 10) := by
    induction items with
    | nil => rfl
    | cons item items ih =>
      cases hs : item.size with
      | none => simpa [digits, hs] using ih
      | some n => simpa [digits, hs, Nat.toDigits_ne_nil] using ih
  rw [listed, joined, String.toList_ofList]
  cases items with
  | nil => rfl
  | cons item items =>
    rw [List.splitOn_intercalate ',' (List.forall_mem_map.mpr fun i _ => comma_not_mem_text i)
      (by simp), List.map_map, ← kept]
    simp only [Function.comp_def, trim_text]

theorem readsList_joined (items : List ListItem) :
    ReadsList (joined items) (items.filterMap (·.size)) := by
  rw [ReadsList, listed_joined, List.forall₂_map_left_iff, List.forall₂_same]
  intro n hn
  obtain ⟨item, -, hsize⟩ := List.mem_filterMap.mp hn
  exact denotes_toDigits (item.bounded n hsize)

end ListItem

/-- One variable that is set. -/
def only (name value : String) : Environment := fun other => if other = name then some value else none

theorem variables_change_their_own_fields (s : Settings) (env : Environment) :
    ((∃ s', s.withEnvironment env = .ok s') ↔
      (∀ text, env "TOKEN_BENCH_SIZES" = some text →
        ∀ piece ∈ text.toList.splitOn ',', trim piece = [] ∨ ∃ n, Denotes (trim piece) n) ∧
      (∀ text, env "TOKEN_BENCH_TRIALS" = some text → ∃ n, Denotes (trim text.toList) n) ∧
      (∀ text, env "TOKEN_BENCH_SEED" = some text → ∃ n, Denotes (trim text.toList) n)) ∧
    (∀ s', s.withEnvironment env = .ok s' ↔ Overridden s env s') ∧
    (∀ fault, s.withEnvironment env = .error fault → Offends env fault) ∧
    ∀ items : List ListItem,
      s.withEnvironment (only "TOKEN_BENCH_SIZES" (ListItem.joined items)) =
        .ok { s with run := { s.run with sizes := items.filterMap (·.size) } } := by
  refine ⟨?_, fun s' => withEnvironment_eq_ok_iff_overridden,
    fun fault => offends_of_withEnvironment, fun items => ?_⟩
  · simp only [← exists_readsList_iff]
    constructor
    · rintro ⟨s', h⟩
      have h := withEnvironment_eq_ok_iff_overridden.mp h
      exact ⟨exists_settles_iff.mp ⟨_, h.sizes⟩, exists_settles_iff.mp ⟨_, h.trials⟩,
        exists_settles_iff.mp ⟨_, h.seed⟩⟩
    · rintro ⟨sizes, trials, seed⟩
      obtain ⟨sizes, hsizes⟩ : ∃ x, Settles _ ReadsList s.run.sizes x :=
        exists_settles_iff.mpr sizes
      obtain ⟨trials, htrials⟩ : ∃ x, Settles _ ReadsNumber s.run.trials x :=
        exists_settles_iff.mpr trials
      obtain ⟨seed, hseed⟩ : ∃ x, Settles _ ReadsNumber s.run.seed x :=
        exists_settles_iff.mpr seed
      let run : Run := { sizes, trials, seed }
      let baseUrl := (env "ANTHROPIC_BASE_URL").getD s.access.baseUrl
      exact ⟨{ s with run, access := { s.access with baseUrl } },
        withEnvironment_eq_ok_iff_overridden.mpr ⟨hsizes, htrials, hseed, rfl, rfl⟩⟩
  · rw [withEnvironment_eq_ok_iff_overridden]
    exact ⟨ListItem.readsList_joined items, rfl, rfl, rfl, rfl⟩

end TokenSurvey.Settings
