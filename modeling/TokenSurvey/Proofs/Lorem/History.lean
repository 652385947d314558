import TokenSurvey.Proofs.Lorem.Batches

/-! Calls one after another on one source. What they give, and where they leave the source, is what
single requests would, one for each text that is granted; a refused call might as well not have been
made. -/
namespace TokenSurvey.Lorem

open TokenSurvey.Random (Source)
open Dialogue

/-- The lengths of the texts that a call is granted: all of them or none. -/
def Call.granted : Call → List Nat
  | one n => if n = 0 then [] else [n]
  | batch n trials => if n = 0 then [] else List.replicate trials n

/-- Only the empty text is refused, and a batch without trials does not ask for it. -/
def Call.Refused : Call → Prop
  | one n => n = 0
  | batch n trials => n = 0 ∧ trials ≠ 0

def Call.ask (c : Call) : StateM Source (Except Fault (List String)) := fun s => c.perform s

/-- The same, as a step that ends what it is part of when it is refused. -/
def Call.texts (c : Call) : Drawing (List String) := fun s => c.perform s

/-- The texts among the answers. -/
def said (results : List (Except Fault (List String))) : List String :=
  results.flatMap fun
    | .ok texts => texts
    | .error _ => []

variable {n : Nat} {c : Call}

namespace Call

theorem ne_zero_of_mem_granted (h : n ∈ c.granted) : n ≠ 0 := by
  cases c <;> grind [granted]

theorem granted_of_refused (h : c.Refused) : c.granted = [] := by
  cases c with
  | one n => exact if_pos h
  | batch n trials => exact if_pos h.1

theorem lengths_of_not_refused (h : ¬ c.Refused) : c.lengths = c.granted := by
  cases c <;> grind [granted, lengths, Refused]

/-- The first text of a refused call is refused, before anything is drawn. -/
theorem perform_of_refused (h : c.Refused) (s : Source) :
    c.perform s = (.error emptyTarget, s) := by
  cases c with
  | one n =>
    obtain rfl : n = 0 := h
    exact bind_of_error (passage_zero s)
  | batch n trials =>
    obtain ⟨rfl, ht⟩ := h
    obtain ⟨trials, rfl⟩ := Nat.exists_eq_succ_of_ne_zero ht
    exact bind_of_error (passage_zero s)

theorem perform_of_not_refused (h : ¬ c.Refused) (s : Source) :
    c.perform s = (.ok (answers text c.granted s), after text c.granted s) := by
  rw [perform, lengths_of_not_refused h]
  exact mapM_passage (fun n => ne_zero_of_mem_granted) s

theorem after_granted (c : Call) (s : Source) : (c.perform s).2 = after text c.granted s := by
  by_cases h : c.Refused
  · rw [perform_of_refused h, granted_of_refused h, after_nil]
  · rw [perform_of_not_refused h]

theorem said_ask (c : Call) (s : Source) : said [(c.ask s).1] = answers text c.granted s := by
  rw [said, List.flatMap_singleton, ask]
  by_cases h : c.Refused
  · rw [perform_of_refused h, granted_of_refused h, answers_nil]
  · rw [perform_of_not_refused h]

/-- A batch is a shorter one and then the rest of it. -/
theorem texts_batch_add (n a b : Nat) :
    (batch n (a + b)).texts = (do
      let first ← (batch n a).texts
      let others ← (batch n b).texts
      pure (first ++ others)) := by
  have together : (batch n (a + b)).lengths = (batch n a).lengths ++ (batch n b).lengths :=
    List.replicate_append_replicate.symm
  change (batch n (a + b)).lengths.mapM passage = _
  rw [together, List.mapM_append]
  rfl

/-- The batches of a run are these. -/
theorem passages_eq_perform (n trials : Nat) (s : Source) :
    passages n trials s = (batch n trials).perform s := by
  rw [passages_eq_mapM]
  rfl

end Call

theorem said_answers (calls : List Call) (s : Source) :
    said (answers Call.ask calls s) = answers text (calls.flatMap Call.granted) s ∧
      after Call.ask calls s = after text (calls.flatMap Call.granted) s := by
  induction calls generalizing s with
  | nil => exact ⟨rfl, rfl⟩
  | cons c calls ih =>
    have next : (c.ask s).2 = after text c.granted s := c.after_granted s
    rw [answers_cons, after_cons, next, List.flatMap_cons, answers_append, after_append,
      ← c.said_ask s, ← (ih _).1, ← (ih _).2]
    exact ⟨by rw [said, List.flatMap_cons, said, said, List.flatMap_singleton], rfl⟩

theorem history_is_its_granted_texts (calls : List Call) (s : Source) :
    (calls.flatMap Call.granted).mapM passage s =
      (.ok (said (answers Call.ask calls s)), after Call.ask calls s) ∧
    (∀ (i : Nat) (c : Call), calls[i]? = some c → ∃ result,
      (answers Call.ask calls s)[i]? = some result ∧
        (c.Refused → result = .error emptyTarget) ∧
        (¬ c.Refused → ∃ texts, result = .ok texts ∧ texts.length = c.granted.length)) ∧
    (∀ c : Call, c.Refused → c.perform s = (.error emptyTarget, s)) ∧
    (∀ n, (Call.batch n 0).perform s = (.ok [], s)) ∧
    (∀ n a b, (Call.batch n (a + b)).texts = (do
      let first ← (Call.batch n a).texts
      let others ← (Call.batch n b).texts
      pure (first ++ others))) ∧
    ∀ n trials, passages n trials s = (Call.batch n trials).perform s := by
  refine ⟨?_, ?_, fun c h => Call.perform_of_refused h s, fun n => rfl, Call.texts_batch_add,
    fun n trials => Call.passages_eq_perform n trials s⟩
  · obtain ⟨texts, left⟩ := said_answers calls s
    rw [texts, left]
    apply mapM_passage
    intro n hn
    obtain ⟨c, -, hc⟩ := List.mem_flatMap.mp hn
    exact Call.ne_zero_of_mem_granted hc
  · intro i c hc
    rw [getElem?_answers, hc, Option.map_some]
    refine ⟨_, rfl, ?_, ?_⟩
    · intro h
      rw [Call.ask, Call.perform_of_refused h]
    · intro h
      rw [Call.ask, Call.perform_of_not_refused h]
      exact ⟨_, rfl, length_answers ..⟩

/-- Two refusals between calls that are served, and a batch without trials. -/
theorem history_is_its_granted_texts_mixed :
    let calls : List Call := [.one 0, .batch 3 2, .batch 0 1, .batch 0 0, .one 8]
    let s : Source := { tape := fun i => UInt64.ofNat (i * 0x1000000000000000), patience := 3 }
    (calls[2]? = some (.batch 0 1) ∧ (Call.batch 0 1).Refused) ∧
    (calls[4]? = some (.one 8) ∧ ¬ (Call.one 8).Refused) ∧
    [3, 3, 8].mapM passage s =
      (.ok (said (answers Call.ask calls s)), after Call.ask calls s) ∧
    (answers Call.ask calls s)[2]? = some (.error emptyTarget) ∧
    (∃ text, (answers Call.ask calls s)[4]? = some (.ok [text])) ∧
    (Call.batch 0 1).perform s = (.error emptyTarget, s) := by
  intro calls s
  have refused : (Call.batch 0 1).Refused := ⟨rfl, by decide⟩
  have served : ¬ (Call.one 8).Refused := nofun
  obtain ⟨texts, results, unchanged, -⟩ := history_is_its_granted_texts calls s
  obtain ⟨second, hsecond, error, -⟩ := results 2 (.batch 0 1) rfl
  obtain ⟨last, hlast, -, ok⟩ := results 4 (.one 8) rfl
  obtain ⟨granted, rfl, length⟩ := ok served
  obtain ⟨text, rfl⟩ := List.length_eq_one_iff.mp length
  refine ⟨⟨rfl, refused⟩, ⟨rfl, served⟩, texts, ?_, ⟨text, hlast⟩, unchanged _ refused⟩
  rw [hsecond, error refused]

end TokenSurvey.Lorem
