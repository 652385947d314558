import TokenSurvey.Json.Reader
import TokenSurvey.Proofs.Json.Scanning

/-! A text is read as a value if and only if it is a document of the value. -/
namespace TokenSurvey.Json

open State
open Text (Gapped)

/-- An item of an array begins with no closing bracket, so that the first one is read like any. -/
theorem foldlM_firstItem (v : Json) (ts : List Lexeme) (frames : List Frame) :
    (lexemes v ++ ts).foldlM step (.firstItem frames) =
      (lexemes v ++ ts).foldlM step (.value (.items [] :: frames)) := by
  cases v with
  | null | bool | number | string => rfl
  | array vs => cases vs <;> rfl
  | object ms => cases ms <;> rfl

mutual

/-- The lexemes of a document take the reader from where a value is due to where it is complete. -/
theorem foldlM_lexemes (ts : List Lexeme) (frames : List Frame) :
    ∀ v, (lexemes v ++ ts).foldlM step (.value frames) = ts.foldlM step (.after v frames)
  | null | bool _ | number _ | string _ | array [] | object [] => rfl
  | array (v :: vs) => by
    calc (lexemes (array (v :: vs)) ++ ts).foldlM step (.value frames)
      _ = (lexemes v ++ (itemLexemes vs ++ .closeArray :: ts)).foldlM step (.firstItem frames) := by
        simp [lexemes, step, opening]
      _ = (itemLexemes vs ++ .closeArray :: ts).foldlM step (.after v (.items [] :: frames)) := by
        rw [foldlM_firstItem, foldlM_lexemes _ _ v]
      _ = ts.foldlM step (.after (.array (v :: vs)) frames) := by
        rw [foldlM_itemLexemes]
        simp
  | object ((n, v) :: ms) => by
    calc (lexemes (object ((n, v) :: ms)) ++ ts).foldlM step (.value frames)
      _ = (lexemes v ++ (memberLexemes ms ++ .closeObject :: ts)).foldlM step
            (.value (.members [] n :: frames)) := by
        simp [lexemes, step, opening]
      _ = (memberLexemes ms ++ .closeObject :: ts).foldlM step
            (.after v (.members [] n :: frames)) := by
        rw [foldlM_lexemes _ _ v]
      _ = ts.foldlM step (.after (.object ((n, v) :: ms)) frames) := by
        rw [foldlM_memberLexemes]
        simp

/-- The items that follow one are put behind it and those before it. -/
theorem foldlM_itemLexemes (ts : List Lexeme) (frames : List Frame) (before : List Json)
    (v : Json) : ∀ vs,
    (itemLexemes vs ++ .closeArray :: ts).foldlM step (.after v (.items before :: frames)) =
      ts.foldlM step (.after (.array ((v :: before).reverse ++ vs)) frames)
  | [] => by simp [itemLexemes, step, following]
  | w :: vs => by
    calc (itemLexemes (w :: vs) ++ .closeArray :: ts).foldlM step
          (.after v (.items before :: frames))
      _ = (lexemes w ++ (itemLexemes vs ++ .closeArray :: ts)).foldlM step
            (.value (.items (v :: before) :: frames)) := by
        simp [itemLexemes, step, following]
      _ = ts.foldlM step (.after (.array ((w :: v :: before).reverse ++ vs)) frames) := by
        rw [foldlM_lexemes _ _ w, foldlM_itemLexemes]
      _ = ts.foldlM step (.after (.array ((v :: before).reverse ++ w :: vs)) frames) := by
        simp

theorem foldlM_memberLexemes (ts : List Lexeme) (frames : List Frame)
    (before : List (Gapped × Json)) (n : Gapped) (v : Json) : ∀ ms,
    (memberLexemes ms ++ .closeObject :: ts).foldlM step (.after v (.members before n :: frames)) =
      ts.foldlM step (.after (.object (((n, v) :: before).reverse ++ ms)) frames)
  | [] => by simp [memberLexemes, step, following]
  | (m, w) :: ms => by
    calc (memberLexemes ((m, w) :: ms) ++ .closeObject :: ts).foldlM step
          (.after v (.members before n :: frames))
      _ = (lexemes w ++ (memberLexemes ms ++ .closeObject :: ts)).foldlM step
            (.value (.members ((n, v) :: before) m :: frames)) := by
        simp [memberLexemes, step, following]
      _ = ts.foldlM step
            (.after (.object (((m, w) :: (n, v) :: before).reverse ++ ms)) frames) := by
        rw [foldlM_lexemes _ _ w, foldlM_memberLexemes]
      _ = ts.foldlM step (.after (.object (((n, v) :: before).reverse ++ (m, w) :: ms)) frames) := by
        simp

end

namespace Frame

/-- Items that are complete, each with the comma after it. -/
def doneItems (vs : List Json) : List Lexeme := vs.flatMap fun v => lexemes v ++ [.comma]

def doneMembers (ms : List (Gapped × Json)) : List Lexeme :=
  ms.flatMap fun (n, v) => .text n :: .colon :: (lexemes v ++ [.comma])

/-- The lexemes that have led to a frame. -/
def consumed : Frame → List Lexeme
  | items before => .openArray :: doneItems before.reverse
  | members before n => .openObject :: (doneMembers before.reverse ++ [.text n, .colon])

end Frame

/-- The lexemes of all frames, the outermost first. -/
def framesConsumed (frames : List Frame) : List Lexeme := frames.reverse.flatMap Frame.consumed

/-- The lexemes that have led to a state. -/
def State.consumed : State → List Lexeme
  | value frames => framesConsumed frames
  | firstItem frames => framesConsumed frames ++ [.openArray]
  | firstName frames => framesConsumed frames ++ [.openObject]
  | name before frames => framesConsumed frames ++ .openObject :: Frame.doneMembers before.reverse
  | colon before n frames =>
    framesConsumed frames ++ .openObject :: (Frame.doneMembers before.reverse ++ [.text n])
  | after v frames => framesConsumed frames ++ lexemes v

/-- A comma before each item but the first is one after each item but the last. -/
theorem itemLexemes_append (vs : List Json) (v : Json) :
    itemLexemes (vs ++ [v]) = .comma :: (Frame.doneItems vs ++ lexemes v) := by
  induction vs with
  | nil => simp [itemLexemes, Frame.doneItems]
  | cons w vs ih => simp [itemLexemes, ih, Frame.doneItems]

theorem memberLexemes_append (ms : List (Gapped × Json)) (n : Gapped) (v : Json) :
    memberLexemes (ms ++ [(n, v)]) =
      .comma :: (Frame.doneMembers ms ++ .text n :: .colon :: lexemes v) := by
  induction ms with
  | nil => simp [memberLexemes, Frame.doneMembers]
  | cons m ms ih => simp [memberLexemes, ih, Frame.doneMembers]

theorem lexemes_array_append (vs : List Json) (v : Json) : lexemes (.array (vs ++ [v])) =
    .openArray :: (Frame.doneItems vs ++ (lexemes v ++ [.closeArray])) := by
  cases vs with
  | nil => simp [lexemes, itemLexemes, Frame.doneItems]
  | cons w vs => simp [lexemes, itemLexemes_append, Frame.doneItems]

theorem lexemes_object_append (ms : List (Gapped × Json)) (n : Gapped) (v : Json) :
    lexemes (.object (ms ++ [(n, v)])) = .openObject ::
      (Frame.doneMembers ms ++ .text n :: .colon :: (lexemes v ++ [.closeObject])) := by
  cases ms with
  | nil => simp [lexemes, memberLexemes, Frame.doneMembers]
  | cons m ms => simp [lexemes, memberLexemes_append, Frame.doneMembers]

theorem framesConsumed_cons (frame : Frame) (frames : List Frame) :
    framesConsumed (frame :: frames) = framesConsumed frames ++ frame.consumed := by
  simp [framesConsumed]

theorem consumed_opening {frames : List Frame} {t : Lexeme} {st : State}
    (h : opening frames t = some st) : st.consumed = framesConsumed frames ++ [t] := by
  fun_cases opening frames t
  all_goals simp_all [opening]
  all_goals (obtain rfl := h; simp [State.consumed, lexemes])

theorem consumed_following {v : Json} {frames : List Frame} {t : Lexeme} {st : State}
    (h : following v frames t = some st) :
    st.consumed = framesConsumed frames ++ (lexemes v ++ [t]) := by
  fun_cases following v frames t
  case case5 => simp_all [following]
  all_goals
    obtain rfl := Option.some.inj h
    simp [State.consumed, framesConsumed_cons, Frame.consumed, Frame.doneItems, Frame.doneMembers,
      lexemes_array_append, lexemes_object_append]

/-- A step takes one lexeme. -/
theorem consumed_step {st st' : State} {t : Lexeme} (h : st.step t = some st') :
    st'.consumed = st.consumed ++ [t] := by
  fun_cases State.step st t
  case case1 frames => exact consumed_opening h
  case case3 frames _ =>
    rw [step] at h
    · rw [consumed_opening h, framesConsumed_cons]
      rfl
    · assumption
  case case8 v frames =>
    rw [consumed_following h, State.consumed, List.append_assoc]
  case case9 => simp_all [step]
  all_goals
    obtain rfl := Option.some.inj h
    simp [State.consumed, framesConsumed_cons, Frame.consumed, Frame.doneMembers, lexemes]

theorem consumed_foldlM {st st' : State} {ts : List Lexeme} (h : ts.foldlM step st = some st') :
    st'.consumed = st.consumed ++ ts := by
  induction ts generalizing st with
  | nil =>
    obtain rfl := Option.some.inj h
    simp
  | cons t ts ih =>
    obtain ⟨next, hnext, h⟩ := Option.bind_eq_some_iff.mp h
    rw [ih h, consumed_step hnext, List.append_assoc, List.singleton_append]

/-- A text is read as a value if and only if it is a document of the value. -/
theorem read?_eq_some_iff {s : Gapped} {v : Json} : read? s = some v ↔ s ∈ documents v := by
  rw [← scan_eq_lexemes_iff, read?]
  constructor
  · intro h
    obtain ⟨ts, hts, h⟩ := Option.bind_eq_some_iff.mp h
    obtain ⟨st, hst, h⟩ := Option.bind_eq_some_iff.mp h
    split at h
    · next w =>
      obtain rfl := Option.some.inj h
      have consumed := consumed_foldlM hst
      simp only [State.consumed, framesConsumed, List.reverse_nil, List.flatMap_nil,
        List.nil_append] at consumed
      rw [hts, consumed]
    · cases h
  · intro h
    have complete := foldlM_lexemes [] [] v
    rw [List.append_nil] at complete
    simp [h, complete]

end TokenSurvey.Json
