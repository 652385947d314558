import TokenSurvey.Proofs.Json.Numeral
import TokenSurvey.Proofs.Json.Quotation

/-! A text is scanned as the lexemes of a value if and only if it is a text of the value. -/
namespace TokenSurvey.Json

open Lexeme
open Text (Gapped)

namespace Lexeme

/-- The texts of a lexeme. -/
def spellings : Lexeme → Texts
  | openArray => mark '['
  | closeArray => mark ']'
  | openObject => mark '\x7b'
  | closeObject => mark '\x7d'
  | comma => mark ','
  | colon => mark ':'
  | null => word "null"
  | bool b => word (if b then "true" else "false")
  | number n => numbers n
  | text t => quotations t

def isNumber : Lexeme → Bool
  | number _ => true
  | _ => false

end Lexeme

theorem mem_spellings_of_read {s rest : Gapped} {t : Lexeme} (h : read s = some (t, rest)) :
    ∃ u ∈ t.spellings, s = u ++ rest := by
  rw [read.eq_def] at h
  split at h
  case h_10 s =>
    obtain ⟨⟨ps, r⟩, hps, heq⟩ := Option.map_eq_some_iff.mp h
    obtain ⟨rfl, rfl⟩ := Prod.mk.inj heq
    obtain ⟨u, hu, rfl⟩ := readPieces_eq_some_iff.mp hps
    exact ⟨_, ⟨u, quotes_of_spells hu, rfl⟩, by simp⟩
  case h_11 c s _ _ _ _ _ _ _ _ _ _ =>
    split at h
    · next numeral =>
      obtain ⟨n, hn, heq⟩ := Option.map_eq_some_iff.mp h
      obtain ⟨rfl, rfl⟩ := Prod.mk.inj heq
      exact ⟨_, number?_eq_some_iff.mp hn, by simp⟩
    · cases h
  case h_12 => cases h
  all_goals
    obtain ⟨rfl, rfl⟩ := Prod.mk.inj (Option.some.inj h)
    exact ⟨_, rfl, rfl⟩

/-- What begins like a number is read as one, up to the first character of no number. -/
theorem read_of_isNumeral {c : Option Char} (h : isNumeral c = true) (s : Gapped) :
    read (c :: s) = (number? (c :: s.takeWhile isNumeral)).map
      fun n => (.number n, s.dropWhile isNumeral) := by
  rw [read.eq_def]
  split
  case h_11 =>
    next heq =>
    obtain ⟨rfl, rfl⟩ := List.cons.inj heq
    rw [if_pos h]
  case h_12 heq => cases heq
  all_goals
    next heq =>
    obtain ⟨rfl, -⟩ := List.cons.inj heq
    exact absurd h (by decide)

/-- No number goes on at the start of a text. -/
def Ends (s : Gapped) : Prop := ∀ c ∈ s.head?, isNumeral c = false

theorem takeWhile_of_ends {s : Gapped} (h : Ends s) : s.takeWhile isNumeral = [] := by
  cases s with
  | nil => rfl
  | cons c s => simp [h c rfl]

theorem dropWhile_of_ends {s : Gapped} (h : Ends s) : s.dropWhile isNumeral = s := by
  cases s with
  | nil => rfl
  | cons c s => simp [h c rfl]

/-- A spelling is read as its lexeme, if no number runs on into what follows it. -/
theorem read_of_mem_spellings {s rest : Gapped} {t : Lexeme} (h : s ∈ t.spellings)
    (ends : t.isNumber → Ends rest) : read (s ++ rest) = some (t, rest) := by
  cases t with
  | number n =>
    obtain ⟨c, u, rfl, first, tail⟩ := exists_eq_cons_of_mem_numbers h
    rw [List.cons_append, read_of_isNumeral first, List.takeWhile_append_of_pos tail,
      takeWhile_of_ends (ends rfl), List.dropWhile_append_of_pos tail, dropWhile_of_ends (ends rfl),
      List.append_nil, number?_eq_some_iff.mpr h]
    rfl
  | text u =>
    obtain ⟨v, hv, rfl⟩ := h
    obtain ⟨ps, hps, heq⟩ := exists_spells hv
    have pieces : readPieces (v ++ some '"' :: rest) = some (ps, rest) :=
      readPieces_eq_some_iff.mpr ⟨v, hps, rfl⟩
    simp [Lexeme.read, pieces, heq]
  | bool b =>
    cases b <;> (obtain rfl := h; rfl)
  | _ =>
    obtain rfl := h
    rfl

theorem exists_eq_cons_of_mem_spellings {s : Gapped} {t : Lexeme} (h : s ∈ t.spellings) :
    ∃ c u, s = c :: u ∧ isNumeral c = t.isNumber := by
  cases t with
  | number n =>
    obtain ⟨c, u, rfl, first, -⟩ := exists_eq_cons_of_mem_numbers h
    exact ⟨c, u, rfl, first⟩
  | text u =>
    obtain ⟨v, -, rfl⟩ := h
    exact ⟨_, _, rfl, rfl⟩
  | bool b => cases b <;> (obtain rfl := h; exact ⟨_, _, rfl, by decide⟩)
  | _ =>
    obtain rfl := h
    exact ⟨_, _, rfl, by decide⟩

theorem not_isNumeral_of_isBlank {c : Option Char} (h : isBlank c = true) :
    isNumeral c = false := by
  simp only [isBlank, Bool.or_eq_true, decide_eq_true_eq] at h
  rcases h with ((rfl | rfl) | rfl) | rfl <;> decide

theorem read_of_isBlank {c : Option Char} (h : isBlank c = true) (s : Gapped) :
    read (c :: s) = none := by
  simp only [isBlank, Bool.or_eq_true, decide_eq_true_eq] at h
  rcases h with ((rfl | rfl) | rfl) | rfl <;> rfl

theorem scan_of_isBlank {c : Option Char} (h : isBlank c = true) (s : Gapped) :
    scan (c :: s) = scan s := by
  rw [scan, if_pos h]

theorem scan_of_read {c : Option Char} {s rest : Gapped} {t : Lexeme}
    (h : read (c :: s) = some (t, rest)) : scan (c :: s) = (scan rest).map (t :: ·) := by
  have blank : ¬ isBlank c = true := by
    intro blank
    rw [read_of_isBlank blank] at h
    cases h
  rw [scan, if_neg blank]
  split
  · simp_all
  · next lexeme after heq =>
    obtain ⟨rfl, rfl⟩ := Prod.mk.inj (Option.some.inj (h.symm.trans heq))
    rfl

theorem scan_blanks {b : Gapped} (h : b ∈ blanks) (s : Gapped) : scan (b ++ s) = scan s := by
  rw [mem_blanks] at h
  induction b with
  | nil => rfl
  | cons c b ih =>
    obtain ⟨first, others⟩ := List.forall_mem_cons.mp h
    rw [List.cons_append, scan_of_isBlank first, ih others]

/-- The texts of a row of lexemes, with blanks around each. -/
def lexed : List Lexeme → Texts
  | [] => blanks
  | t :: ts => blanks * (t.spellings * lexed ts)

theorem blanks_mul_lexed (ts : List Lexeme) : blanks * lexed ts = lexed ts := by
  cases ts with
  | nil => exact blanks_mul_blanks
  | cons t ts => rw [lexed, ← mul_assoc, blanks_mul_blanks]

theorem mem_lexed_of_scan {s : Gapped} {ts : List Lexeme} (h : scan s = some ts) :
    s ∈ lexed ts := by
  fun_induction scan s generalizing ts with
  | case1 =>
    obtain rfl := Option.some.inj h
    exact nil_mem_blanks
  | case2 c s blank ih =>
    have first : [c] ∈ blanks := mem_blanks.mpr (by simpa using blank)
    rw [← blanks_mul_lexed]
    exact Language.append_mem_mul first (ih h)
  | case3 => cases h
  | case4 c s blank t rest hread ih =>
    obtain ⟨us, hus, rfl⟩ := Option.map_eq_some_iff.mp h
    obtain ⟨u, hu, hs⟩ := mem_spellings_of_read hread
    rw [hs, lexed, ← List.nil_append (u ++ rest)]
    exact Language.append_mem_mul nil_mem_blanks (Language.append_mem_mul hu (ih hus))

/-- A row of lexemes begins with no number. -/
def NoNumber (ts : List Lexeme) : Prop := ∀ t ∈ ts.head?, t.isNumber = false

/-- No number stands right after another. -/
def Apart : List Lexeme → Prop
  | [] => True
  | t :: ts => (t.isNumber → NoNumber ts) ∧ Apart ts

theorem ends_of_mem_lexed {s : Gapped} {ts : List Lexeme} (h : s ∈ lexed ts) (none : NoNumber ts) :
    Ends s := by
  have blank {b r : Gapped} (hb : b ∈ blanks) (hr : Ends r) : Ends (b ++ r) := by
    cases b with
    | nil => exact hr
    | cons c b =>
      intro d hd
      obtain rfl := Option.some.inj hd
      exact not_isNumeral_of_isBlank (mem_blanks.mp hb c (by simp))
  cases ts with
  | nil =>
    have ends := blank h (r := []) (by simp [Ends])
    rwa [List.append_nil] at ends
  | cons t ts =>
    obtain ⟨b, hb, _, ⟨u, hu, rest, -, rfl⟩, rfl⟩ := h
    obtain ⟨c, v, rfl, first⟩ := exists_eq_cons_of_mem_spellings hu
    refine blank hb fun d hd => ?_
    obtain rfl := Option.some.inj hd
    exact first.trans (none t rfl)

theorem scan_of_mem_lexed {s : Gapped} {ts : List Lexeme} (h : s ∈ lexed ts) (apart : Apart ts) :
    scan s = some ts := by
  induction ts generalizing s with
  | nil =>
    have all := scan_blanks h []
    rw [List.append_nil] at all
    rw [all, scan]
  | cons t ts ih =>
    obtain ⟨b, hb, _, ⟨u, hu, rest, hrest, rfl⟩, rfl⟩ := h
    obtain ⟨next, others⟩ := apart
    have read := read_of_mem_spellings hu fun number => ends_of_mem_lexed hrest (next number)
    obtain ⟨c, v, rfl, -⟩ := exists_eq_cons_of_mem_spellings hu
    calc scan (b ++ (c :: v ++ rest))
      _ = scan (c :: (v ++ rest)) := scan_blanks hb _
      _ = (scan rest).map (t :: ·) := scan_of_read read
      _ = some (t :: ts) := by rw [ih hrest others, Option.map_some]

mutual

def lexemes : Json → List Lexeme
  | null => [.null]
  | bool b => [.bool b]
  | number n => [.number n]
  | string t => [.text t]
  | array [] => [.openArray, .closeArray]
  | array (v :: vs) => .openArray :: (lexemes v ++ (itemLexemes vs ++ [.closeArray]))
  | object [] => [.openObject, .closeObject]
  | object ((n, v) :: ms) =>
    .openObject :: .text n :: .colon :: (lexemes v ++ (memberLexemes ms ++ [.closeObject]))

def itemLexemes : List Json → List Lexeme
  | [] => []
  | v :: vs => .comma :: (lexemes v ++ itemLexemes vs)

def memberLexemes : List (Gapped × Json) → List Lexeme
  | [] => []
  | (n, v) :: ms => .comma :: .text n :: .colon :: (lexemes v ++ memberLexemes ms)

end


mutual

/-- A number in a document is followed by a comma, a bracket or the end. -/
theorem apart_lexemes {ts : List Lexeme} (none : NoNumber ts) (h : Apart ts) :
    ∀ v, Apart (lexemes v ++ ts)
  | null | bool _ | string _ => ⟨by simp [isNumber], h⟩
  | number _ => ⟨fun _ => none, h⟩
  | array [] | object [] => ⟨by simp [isNumber], by simp [isNumber], h⟩
  | array (v :: vs) => by
    have close : NoNumber (.closeArray :: ts) := by simp [NoNumber, isNumber]
    obtain ⟨next, items⟩ := apart_itemLexemes close ⟨by simp [isNumber], h⟩ vs
    refine ⟨by simp [isNumber], ?_⟩
    simpa using apart_lexemes next items v
  | object ((n, v) :: ms) => by
    have close : NoNumber (.closeObject :: ts) := by simp [NoNumber, isNumber]
    obtain ⟨next, members⟩ := apart_memberLexemes close ⟨by simp [isNumber], h⟩ ms
    refine ⟨by simp [isNumber], by simp [isNumber], by simp [isNumber], ?_⟩
    simpa using apart_lexemes next members v

theorem apart_itemLexemes {ts : List Lexeme} (none : NoNumber ts) (h : Apart ts) :
    ∀ vs, NoNumber (itemLexemes vs ++ ts) ∧ Apart (itemLexemes vs ++ ts)
  | [] => ⟨none, h⟩
  | v :: vs => by
    obtain ⟨next, items⟩ := apart_itemLexemes none h vs
    refine ⟨by simp [itemLexemes, NoNumber, isNumber], by simp [isNumber], ?_⟩
    simpa using apart_lexemes next items v

theorem apart_memberLexemes {ts : List Lexeme} (none : NoNumber ts) (h : Apart ts) :
    ∀ ms, NoNumber (memberLexemes ms ++ ts) ∧ Apart (memberLexemes ms ++ ts)
  | [] => ⟨none, h⟩
  | (n, v) :: ms => by
    obtain ⟨next, members⟩ := apart_memberLexemes none h ms
    refine ⟨by simp [memberLexemes, NoNumber, isNumber], by simp [isNumber], by simp [isNumber],
      by simp [isNumber], ?_⟩
    simpa using apart_lexemes next members v

end

/-- There are blanks after the last item already. -/
theorem itemTexts_absorbs (vs : List Json) (l : Texts) :
    blanks * (itemTexts vs * (blanks * l)) = blanks * (itemTexts vs * l) := by
  induction vs with
  | nil => rw [itemTexts, one_mul, one_mul, ← mul_assoc, blanks_mul_blanks]
  | cons v vs ih => simp only [itemTexts, padded, mul_assoc, ih]

theorem memberTexts_absorbs (ms : List (Gapped × Json)) (l : Texts) :
    blanks * (memberTexts ms * (blanks * l)) = blanks * (memberTexts ms * l) := by
  induction ms with
  | nil => rw [memberTexts, one_mul, one_mul, ← mul_assoc, blanks_mul_blanks]
  | cons m ms ih =>
    obtain ⟨n, v⟩ := m
    simp only [memberTexts, padded, mul_assoc, ih]

mutual

theorem lexed_lexemes (ts : List Lexeme) :
    ∀ v, lexed (lexemes v ++ ts) = blanks * (texts v * lexed ts)
  | null | bool _ | number _ | string _ => rfl
  | array [] | object [] => by
    simp only [lexemes, List.cons_append, List.nil_append, lexed, texts, spellings, mul_assoc]
  | array (v :: vs) => by
    simp only [lexemes, List.cons_append, List.append_assoc, List.nil_append, lexed, texts,
      spellings, padded, mul_assoc, lexed_lexemes _ v, lexed_itemLexemes _ vs, itemTexts_absorbs]
  | object ((n, v) :: ms) => by
    simp only [lexemes, List.cons_append, List.append_assoc, List.nil_append, lexed, texts,
      spellings, padded, mul_assoc, lexed_lexemes _ v, lexed_memberLexemes _ ms,
      memberTexts_absorbs]

theorem lexed_itemLexemes (ts : List Lexeme) :
    ∀ vs, lexed (itemLexemes vs ++ ts) = blanks * (itemTexts vs * lexed ts)
  | [] => by simp only [itemLexemes, List.nil_append, itemTexts, one_mul, blanks_mul_lexed]
  | v :: vs => by
    simp only [itemLexemes, List.cons_append, List.append_assoc, lexed, itemTexts, spellings,
      padded, mul_assoc, lexed_lexemes _ v, lexed_itemLexemes _ vs]

theorem lexed_memberLexemes (ts : List Lexeme) :
    ∀ ms, lexed (memberLexemes ms ++ ts) = blanks * (memberTexts ms * lexed ts)
  | [] => by simp only [memberLexemes, List.nil_append, memberTexts, one_mul, blanks_mul_lexed]
  | (n, v) :: ms => by
    simp only [memberLexemes, List.cons_append, List.append_assoc, lexed, memberTexts, spellings,
      padded, mul_assoc, lexed_lexemes _ v, lexed_memberLexemes _ ms]

end

theorem lexed_lexemes_eq_documents (v : Json) : lexed (lexemes v) = documents v := by
  have whole := lexed_lexemes [] v
  rwa [List.append_nil] at whole

/-- A text is scanned as the lexemes of a value if and only if it is a document of the value. -/
theorem scan_eq_lexemes_iff {s : Gapped} {v : Json} :
    scan s = some (lexemes v) ↔ s ∈ documents v := by
  have apart : Apart (lexemes v ++ []) := apart_lexemes (by simp [NoNumber] : NoNumber []) trivial v
  rw [List.append_nil] at apart
  rw [← lexed_lexemes_eq_documents]
  exact ⟨mem_lexed_of_scan, fun h => scan_of_mem_lexed h apart⟩

end TokenSurvey.Json
