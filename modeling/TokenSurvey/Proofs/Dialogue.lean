/-! Questions asked one after another of someone who remembers: the answers, and what is
remembered afterwards. -/
namespace TokenSurvey.Dialogue

variable {σ τ α β γ : Type} (f : α → StateM σ β)

def answers (xs : List α) (s : σ) : List β := (xs.mapM f s).1

/-- The state after the last question. -/
def after (xs : List α) (s : σ) : σ := (xs.mapM f s).2

theorem mapM_apply (xs : List α) (s : σ) : xs.mapM f s = (answers f xs s, after f xs s) := rfl

@[simp] theorem answers_nil (s : σ) : answers f [] s = [] := rfl

@[simp] theorem after_nil (s : σ) : after f [] s = s := rfl

@[simp] theorem answers_cons (x : α) (xs : List α) (s : σ) :
    answers f (x :: xs) s = (f x s).1 :: answers f xs (f x s).2 := by
  rw [answers, List.mapM_cons]
  rfl

@[simp] theorem after_cons (x : α) (xs : List α) (s : σ) :
    after f (x :: xs) s = after f xs (f x s).2 := by
  rw [after, List.mapM_cons]
  rfl

@[simp] theorem length_answers (xs : List α) (s : σ) : (answers f xs s).length = xs.length := by
  induction xs generalizing s with
  | nil => rfl
  | cons x xs ih => simp [ih]

theorem answers_append (xs ys : List α) (s : σ) :
    answers f (xs ++ ys) s = answers f xs s ++ answers f ys (after f xs s) := by
  induction xs generalizing s with
  | nil => rfl
  | cons x xs ih => simp [ih]

theorem after_append (xs ys : List α) (s : σ) :
    after f (xs ++ ys) s = after f ys (after f xs s) := by
  induction xs generalizing s with
  | nil => rfl
  | cons x xs ih => simp [ih]

/-- What was asked before an answer bears on it only through the state. -/
theorem getElem?_answers (xs : List α) (s : σ) (i : Nat) :
    (answers f xs s)[i]? = xs[i]?.map fun x => (f x (after f (xs.take i) s)).1 := by
  induction xs generalizing s i with
  | nil => rfl
  | cons x xs ih =>
    cases i with
    | zero => simp
    | succ i => simp [ih]

theorem exists_of_mem_answers {f : α → StateM σ β} {xs : List α} {s : σ} {y : β}
    (h : y ∈ answers f xs s) : ∃ x ∈ xs, ∃ t, y = (f x t).1 := by
  obtain ⟨i, hi⟩ := List.mem_iff_getElem?.mp h
  rw [getElem?_answers, Option.map_eq_some_iff] at hi
  obtain ⟨x, hx, rfl⟩ := hi
  exact ⟨x, List.mem_of_getElem? hx, _, rfl⟩

theorem answers_flatMap (h : γ → List α) (xs : List γ) (s : σ) :
    answers f (xs.flatMap h) s = (answers (fun x => (h x).mapM f) xs s).flatten := by
  induction xs generalizing s with
  | nil => rfl
  | cons x xs ih =>
    rw [List.flatMap_cons, answers_append, ih, answers_cons, List.flatten_cons]
    rfl

theorem after_flatMap (h : γ → List α) (xs : List γ) (s : σ) :
    after f (xs.flatMap h) s = after (fun x => (h x).mapM f) xs s := by
  induction xs generalizing s with
  | nil => rfl
  | cons x xs ih =>
    rw [List.flatMap_cons, after_append, ih, after_cons]
    rfl

/-- Two who answer alike in related states, and stay related, answer alike throughout. -/
theorem answers_eq_of_related {f : α → StateM σ β} {g : α → StateM τ β} {R : σ → τ → Prop}
    (step : ∀ x s t, R s t → (f x s).1 = (g x t).1 ∧ R (f x s).2 (g x t).2)
    (xs : List α) {s : σ} {t : τ} (h : R s t) :
    answers f xs s = answers g xs t ∧ R (after f xs s) (after g xs t) := by
  induction xs generalizing s t with
  | nil => exact ⟨rfl, h⟩
  | cons x xs ih =>
    obtain ⟨same, related⟩ := step x s t h
    obtain ⟨others, still⟩ := ih related
    rw [answers_cons, answers_cons, after_cons, after_cons]
    exact ⟨by rw [same, others], still⟩

/-- What every question keeps, all questions keep. -/
theorem after_of_step {f : α → StateM σ β} {P : σ → Prop} (step : ∀ x s, P s → P (f x s).2)
    (xs : List α) {s : σ} (h : P s) : P (after f xs s) := by
  induction xs generalizing s with
  | nil => exact h
  | cons x xs ih =>
    rw [after_cons]
    exact ih (step x s h)

theorem mapM_flatMap {m : Type → Type} [Monad m] [LawfulMonad m] (f : α → m β)
    (h : γ → List α) (xs : List γ) :
    (xs.flatMap h).mapM f = List.flatten <$> xs.mapM fun x => (h x).mapM f := by
  induction xs with
  | nil => simp
  | cons x xs ih => simp [ih]

/-! Steps that may be refused, and then end what they are part of. -/

variable {ε : Type} {s t : τ}

theorem bind_of_ok {x : ExceptT ε (StateM τ) α} {f : α → ExceptT ε (StateM τ) β} {a : α}
    (h : x s = (.ok a, t)) : (x >>= f) s = f a t := by
  change ExceptT.bindCont f (x s).1 (x s).2 = _
  rw [h]
  rfl

theorem bind_of_error {x : ExceptT ε (StateM τ) α} {f : α → ExceptT ε (StateM τ) β} {fault : ε}
    (h : x s = (.error fault, t)) : (x >>= f) s = (.error fault, t) := by
  change ExceptT.bindCont f (x s).1 (x s).2 = _
  rw [h]
  rfl

end TokenSurvey.Dialogue
