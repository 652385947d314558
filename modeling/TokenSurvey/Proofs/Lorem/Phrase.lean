import TokenSurvey.Proofs.Lorem.Language

/-! The words at given places of the corpus, joined by single blanks, and how long they are. -/
namespace TokenSurvey.Lorem

/-- The words at these places, joined by single blanks. -/
def phrase (places : List (Fin corpus.length)) : String := " ".intercalate (places.map corpus.get)

/-- What a word adds to a text: its letters and a blank. -/
def weight (i : Fin corpus.length) : Nat := (corpus.get i).length + 1

def weights : List (Fin corpus.length) → Nat
  | [] => 0
  | i :: places => weight i + weights places

variable {n : Nat} {i : Fin corpus.length} {places more : List (Fin corpus.length)}

@[simp] theorem weights_nil : weights [] = 0 := rfl

@[simp] theorem weights_cons (i : Fin corpus.length) (places : List (Fin corpus.length)) :
    weights (i :: places) = weight i + weights places := rfl

@[simp] theorem weights_append (places more : List (Fin corpus.length)) :
    weights (places ++ more) = weights places + weights more := by
  induction places with
  | nil => rw [List.nil_append, weights_nil, Nat.zero_add]
  | cons i places ih => rw [List.cons_append, weights_cons, weights_cons, ih, Nat.add_assoc]

theorem weight_bounds (i : Fin corpus.length) : 3 ≤ weight i ∧ weight i ≤ 14 := by
  have all : ∀ i, 3 ≤ weight i ∧ weight i ≤ 14 := by decide +kernel
  exact all i

theorem length_spaced (places : List (Fin corpus.length)) :
    (spaced (places.map fun i => (corpus.get i).toList)).length = weights places := by
  induction places with
  | nil => rfl
  | cons i places ih =>
    rw [List.map_cons, ← List.singleton_append, spaced_append, List.length_append, ih,
      spaced_singleton, List.length_cons, String.length_toList, weights_cons, weight]

/-- The first word has no blank in front of it. -/
theorem length_phrase (h : places ≠ []) : (phrase places).length + 1 = weights places := by
  let words := places.map fun i => (corpus.get i).toList
  have letters : (phrase places).toList = [' '].intercalate words := by
    rw [phrase, String.toList_intercalate, List.map_map]
    rfl
  have headed : spaced words = ' ' :: (phrase places).toList := by
    rw [letters]
    exact spaced_eq_cons (by simpa [words] using h)
  rw [← length_spaced, headed, List.length_cons, String.length_toList]

theorem le_length_phrase_iff (hn : n ≠ 0) :
    n ≤ (phrase places).length ↔ n + 1 ≤ weights places := by
  by_cases h : places = []
  · subst h
    have empty : (phrase []).length = 0 := rfl
    rw [weights_nil]
    omega
  · have := length_phrase h
    omega

theorem length_phrase_lt_iff (hn : n ≠ 0) :
    (phrase places).length < n ↔ weights places < n + 1 := by
  rw [← Nat.not_le, le_length_phrase_iff hn, Nat.not_le]

theorem length_phrase_lt_append (i : Fin corpus.length) :
    (phrase places).length < (phrase (places ++ i :: more)).length := by
  have whole : (phrase (places ++ i :: more)).length + 1 = weights (places ++ i :: more) :=
    length_phrase (by simp)
  rw [weights_append, weights_cons] at whole
  have := (weight_bounds i).1
  exact (length_phrase_lt_iff (by omega)).mpr (by omega)

end TokenSurvey.Lorem
