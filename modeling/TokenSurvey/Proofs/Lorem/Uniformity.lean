import Mathlib.Data.Fintype.Fin
import TokenSurvey.Proofs.Lorem.Loop
import TokenSurvey.Proofs.Random.Shares

/-! Each place of the corpus is as likely to be drawn as every other, and so are the sequences of
places of one length. -/
namespace TokenSurvey.Lorem

open TokenSurvey.Random

/-- Accepted outputs, one for each of the places: wherever they are granted next, refused ones before
any of them, the loop of a text draws words at these places and no more. -/
structure Selects (outputs : List UInt64) (n : Nat) (places : List (Fin corpus.length)) : Prop where
  length : outputs.length = places.length
  accepted : ∀ v ∈ outputs, accepts corpus.length v = true
  drawn : ∀ tape p q, GrantsAll corpus.length tape p outputs q → Loop tape n [] p places q

variable {n p p' q r : Nat} {tape tape' : Tape} {vs : List UInt64}
  {has places : List (Fin corpus.length)}

theorem card_places (w : String) : Nat.card {i // corpus.get i = w} = corpus.count w := by
  rw [Nat.card_eq_fintype_card, Fintype.card_subtype]
  exact Fin.card_filter_univ_eq_vector_get_eq_count w ⟨corpus, rfl⟩

namespace Loop

/-- What is granted decides what is drawn. -/
theorem places_eq (loop : Loop tape n has p places q) (granted : GrantsAll corpus.length tape p vs r)
    (length : vs.length = places.length) : places = vs.map place := by
  induction loop generalizing vs with
  | done _ =>
    obtain rfl := List.eq_nil_of_length_eq_zero length
    rfl
  | word _ first _ ih =>
    cases granted with
    | nil => cases length
    | cons second others =>
      obtain ⟨rfl, rfl⟩ := first.unique second
      rw [List.map_cons, ← ih others (Nat.succ.inj length)]

/-- On a tape that grants outputs for the same places, the loop goes the same way. -/
theorem transfer (loop : Loop tape n has p places q)
    (granted : GrantsAll corpus.length tape' r vs p') (same : vs.map place = places) :
    Loop tape' n has r places p' := by
  induction loop generalizing vs r with
  | done enough =>
    obtain rfl := List.map_eq_nil_iff.mp same
    cases granted
    exact .done enough
  | word short _ _ ih =>
    cases granted with
    | nil => cases same
    | cons first others =>
      obtain ⟨here, later⟩ := List.cons.inj same
      rw [← here] at ih ⊢
      exact .word short first (ih others later)

/-- A text as long as the words is drawn with just these words. -/
theorem of_grantsAll (has : List (Fin corpus.length))
    (granted : GrantsAll corpus.length tape p vs q) :
    Loop tape (phrase (has ++ vs.map place)).length has p (vs.map place) q := by
  induction granted generalizing has with
  | nil =>
    rw [List.map_nil, List.append_nil]
    exact .done (Nat.le_refl _)
  | @cons _ _ _ v _ first _ ih =>
    have rest := ih (has ++ [place v])
    rw [List.append_assoc] at rest
    exact .word (length_phrase_lt_append _) first rest

end Loop

theorem map_place_firstOutput (places : List (Fin corpus.length)) :
    (places.map firstOutput).map place = places := by
  have back : place ∘ firstOutput = id :=
    funext fun i => share_firstOutput (by decide) corpus_length_pos i
  rw [List.map_map, back, List.map_id]

/-- There is a text that any places are drawn for: the whole of their words. -/
theorem exists_loop_of_places (places : List (Fin corpus.length)) :
    ∃ tape p q, Loop tape (phrase places).length [] p places q := by
  have all : ∀ v ∈ places.map firstOutput, accepts corpus.length v = true :=
    List.forall_mem_map.mpr fun i _ => accepts_firstOutput (by decide) i
  obtain ⟨tape, q, granted⟩ := exists_grantsAll all
  have loop := Loop.of_grantsAll [] granted
  rw [map_place_firstOutput, List.nil_append] at loop
  exact ⟨tape, 0, q, loop⟩

theorem selects_iff (loop : Loop tape n [] p places q) :
    Selects vs n places ↔ List.Forall₂ (fun i v => Gives v i) places vs := by
  rw [forall₂_gives_iff corpus_length_pos]
  constructor
  · rintro ⟨length, accepted, drawn⟩
    obtain ⟨tape', q', granted⟩ := exists_grantsAll accepted
    exact ⟨accepted, ((drawn tape' 0 q' granted).places_eq granted length).symm⟩
  · rintro ⟨accepted, same⟩
    refine ⟨?_, accepted, fun tape' p' q' granted => loop.transfer granted same⟩
    rw [← same, List.length_map]

theorem breadth_corpus : breadth corpus.length = 2 ^ 57 := by decide

theorem words_are_drawn_uniformly :
    (∀ i : Fin corpus.length, Nat.card {v : UInt64 // Gives v i} = 2 ^ 57) ∧
    Nat.card {v : UInt64 // accepts corpus.length v = false} = 2 ^ 64 - 69 * 2 ^ 57 ∧
    (∀ w, Nat.card {v : UInt64 // accepts corpus.length v = true ∧ corpus.get (place v) = w} =
      corpus.count w * 2 ^ 57) ∧
    (∀ n places, (∃ tape p q, Loop tape n [] p places q) →
      Nat.card {outputs : List UInt64 // Selects outputs n places} = (2 ^ 57) ^ places.length) ∧
    (∀ places, ∃ tape p q, Loop tape (phrase places).length [] p places q) ∧
    ∀ n s places q, n ≠ 0 → Loop s.tape n [] s.position places q →
      q ≤ s.position + s.patience → Serves s n places q := by
  have small : corpus.length < UInt64.size := by decide
  refine ⟨?_, ?_, ?_, ?_, exists_loop_of_places, ?_⟩
  · intro i
    rw [card_gives small i, breadth_corpus]
  · rw [card_refused small corpus_length_pos, breadth_corpus, length_corpus]
    rfl
  · intro w
    have drawn := card_accepted small corpus_length_pos fun i => corpus.get i = w
    rwa [card_places, breadth_corpus] at drawn
  · rintro n places ⟨tape, p, q, loop⟩
    rw [Nat.card_congr (Equiv.subtypeEquivRight fun outputs => selects_iff loop),
      card_forall₂_gives small, breadth_corpus]
  · intro n s places q hn loop patient
    exact loop.serves hn patient

/-- Two ways of drawing the same words: that word stands at more places than one. -/
theorem words_are_drawn_uniformly_same_words :
    let first : List (Fin corpus.length) := [⟨13, by decide⟩, ⟨19, by decide⟩, ⟨0, by decide⟩]
    let second : List (Fin corpus.length) := [⟨30, by decide⟩, ⟨13, by decide⟩, ⟨0, by decide⟩]
    phrase first = "ut ut lorem" ∧ phrase second = "ut ut lorem" ∧
    (∃ tape p q, Loop tape 11 [] p first q ∧ Serves ⟨tape, q, p⟩ 11 first q) ∧
    (∃ tape p q, Loop tape 11 [] p second q) ∧
    Nat.card {outputs : List UInt64 // Selects outputs 11 first} = (2 ^ 57) ^ 3 ∧
    Nat.card {outputs : List UInt64 // Selects outputs 11 second} = (2 ^ 57) ^ 3 := by
  intro first second
  have words : phrase first = "ut ut lorem" := by decide +kernel
  have words' : phrase second = "ut ut lorem" := by decide +kernel
  have length : "ut ut lorem".length = 11 := by decide +kernel
  obtain ⟨-, -, -, count, reached, served⟩ := words_are_drawn_uniformly
  have drawn := reached first
  have drawn' := reached second
  rw [words, length] at drawn
  rw [words', length] at drawn'
  obtain ⟨tape, p, q, loop⟩ := drawn
  refine ⟨words, words', ⟨tape, p, q, loop, ?_⟩, drawn', count 11 first ⟨tape, p, q, loop⟩,
    count 11 second drawn'⟩
  exact served 11 ⟨tape, q, p⟩ first q (by decide) loop (Nat.le_add_left q p)

end TokenSurvey.Lorem
