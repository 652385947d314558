import TokenSurvey.Proofs.Lorem.Phrase
import TokenSurvey.Proofs.Random.Grants

/-! The loop that draws the words of a text, with no bound on the refusals of a draw. A source that is
patient enough draws the same words, and no others. -/
namespace TokenSurvey.Lorem

open TokenSurvey.Random

/-- The place of the word that an accepted output draws. -/
def place (v : UInt64) : Fin corpus.length := share corpus.length corpus_length_pos v

/-- As long as the words it has are too short, the loop draws one more; then it ends. What it draws,
and where it leaves the tape. -/
inductive Loop (tape : Tape) (n : Nat) :
    List (Fin corpus.length) → Nat → List (Fin corpus.length) → Nat → Prop
  | done {has : List (Fin corpus.length)} {p : Nat} (enough : n ≤ (phrase has).length) :
    Loop tape n has p [] p
  | word {has more : List (Fin corpus.length)} {p q r : Nat} {v : UInt64}
    (short : (phrase has).length < n) (granted : Grants corpus.length tape p v q)
    (rest : Loop tape n (has ++ [place v]) q more r) : Loop tape n has p (place v :: more) r

/-- The place that a source draws at, after some words. -/
def nthPlace (s : Source) (i : Nat) : Fin corpus.length :=
  ((ahead i s).draw corpus.length corpus_length_pos).1

/-- For a text, a source is asked for the words at these places and for no more. -/
structure Serves (s : Source) (n : Nat) (places : List (Fin corpus.length)) (q : Nat) : Prop where
  text : passage n s =
    (.ok (String.ofList ((phrase places).toList.take n)), ahead places.length s)
  drawn : (List.range places.length).map (nthPlace s) = places
  left : ahead places.length s = { s with position := q }

variable {n p q patience : Nat} {tape : Tape} {has more places : List (Fin corpus.length)}

theorem joined_eq_phrase (k : Nat) (s : Source) :
    joined k s = phrase ((List.range k).map (nthPlace s)) := by
  rw [joined, phrase, List.map_map]
  rfl

namespace Loop

theorem le (loop : Loop tape n has p more q) : p ≤ q := by
  induction loop with
  | done _ => exact Nat.le_refl _
  | word _ granted _ ih => exact Nat.le_trans (Nat.le_of_lt granted.lt) ih

theorem unique (loop : Loop tape n has p more q) {more' : List (Fin corpus.length)} {q' : Nat}
    (other : Loop tape n has p more' q') : more = more' ∧ q = q' := by
  induction loop generalizing more' q' with
  | done enough =>
    cases other with
    | done _ => exact ⟨rfl, rfl⟩
    | word short _ _ => exact absurd enough (Nat.not_le_of_lt short)
  | word short granted _ ih =>
    cases other with
    | done enough => exact absurd enough (Nat.not_le_of_lt short)
    | word _ granted' rest' =>
      obtain ⟨rfl, rfl⟩ := granted.unique granted'
      obtain ⟨rfl, rfl⟩ := ih rest'
      exact ⟨rfl, rfl⟩

theorem enough (loop : Loop tape n has p more q) : n ≤ (phrase (has ++ more)).length := by
  induction loop with
  | done enough => rwa [List.append_nil]
  | word _ _ _ ih => rwa [List.append_assoc] at ih

theorem short (loop : Loop tape n has p more q) {j : Nat} (hj : j < more.length) :
    (phrase (has ++ more.take j)).length < n := by
  induction loop generalizing j with
  | done _ => exact absurd hj (Nat.not_lt_zero j)
  | word short _ _ ih =>
    cases j with
    | zero => rwa [List.take_zero, List.append_nil]
    | succ j =>
      have := ih (Nat.lt_of_succ_lt_succ hj)
      rwa [List.append_assoc] at this

/-- Patience for all that is read is enough for each of the draws. -/
theorem drawn (loop : Loop tape n has p more q) (patient : q ≤ p + patience) :
    (List.range more.length).map (nthPlace ⟨tape, patience, p⟩) = more ∧
      ahead more.length ⟨tape, patience, p⟩ = ⟨tape, patience, q⟩ := by
  induction loop with
  | done _ => exact ⟨rfl, rfl⟩
  | @word has more p q r v short granted rest ih =>
    have := granted.lt
    have := rest.le
    have drawn := draw_of_grants (h := corpus_length_pos) (s := ⟨tape, patience, p⟩) granted
      (by change q ≤ p + patience + 1; omega)
    have next : (Lorem.word ⟨tape, patience, p⟩).2 = ⟨tape, patience, q⟩ := by
      rw [Lorem.word, drawn]
    have first : nthPlace ⟨tape, patience, p⟩ 0 = place v := by rw [nthPlace, ahead, drawn, place]
    have later (i : Nat) : nthPlace ⟨tape, patience, p⟩ (i + 1) = nthPlace ⟨tape, patience, q⟩ i := by
      rw [nthPlace, ahead, next, nthPlace]
    obtain ⟨others, left⟩ := ih (by omega)
    constructor
    · rw [List.length_cons, List.range_succ_eq_map, List.map_cons, first, List.map_map]
      exact congrArg (place v :: ·) ((List.map_congr_left fun i _ => later i).trans others)
    · rw [List.length_cons, ahead, next, left]

/-- The loop is what a text is drawn by. -/
theorem serves (loop : Loop tape n [] p places q) (hn : n ≠ 0) (patient : q ≤ p + patience) :
    Serves ⟨tape, patience, p⟩ n places q := by
  obtain ⟨drawn, left⟩ := loop.drawn patient
  have words {j : Nat} (hj : j ≤ places.length) :
      joined j ⟨tape, patience, p⟩ = phrase (places.take j) := by
    rw [joined_eq_phrase, ← drawn, ← List.map_take, List.take_range, Nat.min_eq_left hj]
  have whole := words (Nat.le_refl _)
  rw [List.take_length] at whole
  have long := loop.enough
  rw [List.nil_append, ← whole] at long
  obtain ⟨k, htext, enough, hshort⟩ := exists_text_eq hn ⟨tape, patience, p⟩
  have fewer : k ≤ places.length := le_of_least (Nat.le_refl n) hshort long
  have all : places.length ≤ k := by
    by_contra hk
    have short := loop.short (Nat.lt_of_not_le hk)
    rw [List.nil_append, ← words fewer] at short
    omega
  obtain rfl : k = places.length := Nat.le_antisymm fewer all
  refine ⟨?_, drawn, left⟩
  rw [passage_eq hn, htext, whole]

end Loop

end TokenSurvey.Lorem
