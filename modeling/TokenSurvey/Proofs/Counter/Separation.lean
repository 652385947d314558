import TokenSurvey.Counter.Registry
import TokenSurvey.Proofs.Plan.Measurement

/-! Each counter of a registry sees its own queries only, and a live counter puts each of them to
its service, once and in order. -/
namespace TokenSurvey

open Dialogue
open Service (Outcome)

variable {qs : List Query}

section Filter

variable {α : Type} (P : α → Bool) (xs : List α) (i : Nat)

theorem filter_eq_append : xs.filter P = (xs.take i).filter P ++ (xs.drop i).filter P := by
  rw [← List.filter_append, List.take_append_drop]

/-- What is kept of the first items comes first of all that is kept. -/
theorem take_filter : (xs.filter P).take ((xs.take i).countP P) = (xs.take i).filter P := by
  rw [filter_eq_append P xs i, List.countP_eq_length_filter, List.take_left]

variable {P xs i} {x : α}

/-- An item that is kept comes after all that is kept before it. -/
theorem getElem?_filter (h : xs[i]? = some x) (hx : P x) :
    (xs.filter P)[(xs.take i).countP P]? = some x := by
  obtain ⟨hi, rfl⟩ := List.getElem?_eq_some_iff.mp h
  rw [filter_eq_append P xs i, List.countP_eq_length_filter,
    List.getElem?_append_right (Nat.le_refl _), List.drop_eq_getElem_cons hi,
    List.filter_cons_of_pos hx]
  simp

end Filter

namespace Responder

def call (q : Query) : StateM Responder Outcome := ask q.model q.text

/-- What a responder says to queries, put one after another. -/
def outcomes (r : Responder) (qs : List Query) : List Outcome := answers call qs r

@[simp] theorem outcomes_nil (r : Responder) : r.outcomes [] = [] := rfl

@[simp] theorem outcomes_cons (q : Query) (qs : List Query) (r : Responder) :
    r.outcomes (q :: qs) = (call q r).1 :: (call q r).2.outcomes qs := answers_cons ..

@[simp] theorem length_outcomes (r : Responder) (qs : List Query) :
    (r.outcomes qs).length = qs.length := length_answers ..

/-- The outcome of a call beyond the end of a script. -/
def exhausted : Outcome := .error (.network "no outcome is left")

/-- A script is followed outcome by outcome. -/
theorem getElem?_outcomes_script (os : List Outcome) {n : Nat} (h : n < qs.length) :
    ((script os).outcomes qs)[n]? = some (os.getD n exhausted) := by
  induction qs generalizing os n with
  | nil => simp at h
  | cons q qs ih =>
    rw [outcomes_cons]
    cases n with
    | zero => cases os <;> rfl
    | succ n =>
      have hn : n < qs.length := by simpa using h
      cases os with
      | nil => exact ih [] hn
      | cons o os => exact ih os hn

end Responder

namespace LiveCounter

def ask (q : Query) : StateM LiveCounter Nat := fun l => l.count q.model q.text

theorem responder_ask (q : Query) (l : LiveCounter) :
    (ask q l).2.responder = (Responder.call q l.responder).2 := by
  simp only [ask, count, Responder.call]
  split <;> simp_all

theorem fallback_ask (q : Query) (l : LiveCounter) : (ask q l).2.fallback = l.fallback := by
  simp only [ask, count]
  split <;> rfl

/-- The service's count, or the fallback's for a call that fails. -/
theorem count_ask (q : Query) (l : LiveCounter) :
    (ask q l).1 = (Responder.call q l.responder).1.toOption.getD (l.fallback.count q.text) := by
  simp only [ask, count, Responder.call]
  split <;> simp_all [Except.toOption]

theorem responder_after (qs : List Query) (l : LiveCounter) :
    (after ask qs l).responder = after Responder.call qs l.responder := by
  induction qs generalizing l with
  | nil => rfl
  | cons q qs ih => simp [ih, responder_ask]

theorem fallback_after (qs : List Query) (l : LiveCounter) :
    (after ask qs l).fallback = l.fallback :=
  after_of_step (P := fun l' => l'.fallback = l.fallback)
    (fun q l' h => (fallback_ask q l').trans h) qs rfl

end LiveCounter

namespace Counter

def ask (q : Query) : StateM Counter Nat := count q.model q.text

theorem after_ask_live (qs : List Query) (l : LiveCounter) :
    after ask qs (live l) = live (after LiveCounter.ask qs l) := by
  induction qs generalizing l with
  | nil => rfl
  | cons q qs ih =>
    rw [after_cons, after_cons, ← ih]
    rfl

theorem after_ask_of_not_live {c : Counter} (h : c.mode ≠ .live) (qs : List Query) :
    after ask qs c = c := by
  refine after_of_step (P := fun c' => c' = c) (fun q c' hc => ?_) qs rfl
  subst hc
  cases c' with
  | perModel | fixed => rfl
  | live => exact (h rfl).elim

/-- A counter that is not live counts by the encoding that it names. -/
theorem count_of_not_live {c : Counter} (h : c.mode ≠ .live) (model text : String) :
    (c.count model text).1 = (c.localEncoding model).count text := by
  cases c with
  | perModel | fixed => rfl
  | live => exact (h rfl).elim

theorem localEncoding_ask (q : Query) (c : Counter) (model : String) :
    (ask q c).2.localEncoding model = c.localEncoding model := by
  cases c with
  | perModel | fixed => rfl
  | live l => exact LiveCounter.fallback_ask q l

theorem localEncoding_after (qs : List Query) (c : Counter) (model : String) :
    (after ask qs c).localEncoding model = c.localEncoding model :=
  after_of_step (P := fun c' => c'.localEncoding model = c.localEncoding model)
    (fun q c' h => (localEncoding_ask q c' model).trans h) qs rfl

end Counter

namespace Registry

/-- The registry as a list of queries leaves it. -/
def asked (r : Registry) (qs : List Query) : Registry := after (Tally.ask count) qs r

theorem counter_ask (q : Query) (r : Registry) (provider : Provider) :
    ((Tally.ask count q r).2).counter provider =
      if q.provider = provider then (Counter.ask q (r.counter provider)).2
      else r.counter provider := by
  split
  · subst provider
    exact counter_bind_self ..
  · exact counter_bind_of_ne _ _ (Ne.symm ‹_›)

/-- A counter is left as its own queries leave it. -/
theorem counter_asked (r : Registry) (qs : List Query) (provider : Provider) :
    (r.asked qs).counter provider =
      after Counter.ask (qs.filter (·.provider = provider)) (r.counter provider) := by
  induction qs generalizing r with
  | nil => rfl
  | cons q qs ih =>
    rw [asked, after_cons, ← asked, ih, counter_ask]
    by_cases h : q.provider = provider <;> simp [h]

variable {r : Registry} {provider : Provider}

theorem counter_asked_of_live {l : LiveCounter} (h : r.counter provider = .live l)
    (qs : List Query) : (r.asked qs).counter provider =
      .live (after LiveCounter.ask (qs.filter (·.provider = provider)) l) := by
  rw [counter_asked, h, Counter.after_ask_live]

theorem counter_asked_of_not_live (h : (r.counter provider).mode ≠ .live) (qs : List Query) :
    (r.asked qs).counter provider = r.counter provider := by
  rw [counter_asked, Counter.after_ask_of_not_live h]

/-- No query changes the encoding that a counter names. -/
theorem localEncoding_asked (r : Registry) (qs : List Query) (provider : Provider)
    (model : String) :
    ((r.asked qs).counter provider).localEncoding model =
      (r.counter provider).localEncoding model := by
  rw [counter_asked, Counter.localEncoding_after]

theorem getElem?_answers_count (r : Registry) (qs : List Query) (i : Nat) :
    (answers (Tally.ask count) qs r)[i]? = qs[i]?.map fun q =>
      (((r.asked (qs.take i)).counter q.provider).count q.model q.text).1 :=
  getElem?_answers (Tally.ask count) qs r i

/-- A counter that is not live counts each text by itself. -/
theorem answers_of_not_live (h : (r.counter provider).mode ≠ .live) (model : String)
    (texts : List String) :
    answers (Tally.ask count) (texts.map (Query.mk provider model)) r =
      texts.map fun text => ((r.counter provider).count model text).1 := by
  apply List.ext_getElem?
  intro i
  rw [getElem?_answers_count, List.getElem?_map, Option.map_map, List.getElem?_map]
  congr 1
  funext text
  simp only [Function.comp_apply, counter_asked_of_not_live h]

variable {q : Query} {i : Nat}

theorem getElem?_answers_of_not_live (h : (r.counter q.provider).mode ≠ .live)
    (hq : qs[i]? = some q) : (answers (Tally.ask count) qs r)[i]? =
      some (((r.counter q.provider).localEncoding q.model).count q.text) := by
  rw [getElem?_answers_count, hq, Option.map_some, counter_asked_of_not_live h,
    Counter.count_of_not_live h]

/-- A live counter answers a query as its service does when the turn comes, or by its fallback. -/
theorem getElem?_answers_of_live {l : LiveCounter} (h : r.counter q.provider = .live l)
    (hq : qs[i]? = some q) :
    ∃ outcome, (l.responder.outcomes (qs.filter (·.provider = q.provider)))[
        (qs.take i).countP (·.provider = q.provider)]? = some outcome ∧
      (answers (Tally.ask count) qs r)[i]? =
        some (outcome.toOption.getD (l.fallback.count q.text)) := by
  have turn := getElem?_filter (P := fun q' => decide (q'.provider = q.provider)) hq (by simp)
  have answer := LiveCounter.count_ask q
    (after LiveCounter.ask ((qs.take i).filter (·.provider = q.provider)) l)
  rw [LiveCounter.responder_after, LiveCounter.fallback_after] at answer
  rw [Responder.outcomes, getElem?_answers, turn, take_filter]
  refine ⟨_, rfl, ?_⟩
  rw [getElem?_answers_count, hq, Option.map_some, counter_asked_of_live h]
  exact congrArg some answer

end Registry
end TokenSurvey
