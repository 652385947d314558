import TokenSurvey.Counter.Basic

/-! A model is known by what follows the last slash of its id, and whatever the id its tokens are
counted by a tokenizer. -/
namespace TokenSurvey

namespace Encoding

variable {e : Encoding} {model : String}

theorem bareName_provider (provider name : List Char) :
    bareName (provider ++ '/' :: name) = bareName name := by
  have backwards : (provider ++ '/' :: name).reverse = name.reverse ++ '/' :: provider.reverse := by
    rw [List.reverse_append, List.reverse_cons, List.append_assoc, List.singleton_append]
  rw [bareName, backwards, bareName, List.takeWhile_append]
  split
  · -- there is no slash in the name: the one before it is the last
    rename_i whole
    rw [List.takeWhile_cons_of_neg (by decide), List.append_nil,
      (List.takeWhile_prefix _).eq_of_length whole]
  · rfl

theorem ofModel?_provider (provider model : String) :
    ofModel? (provider ++ "/" ++ model) = ofModel? model := by
  have toList : (provider ++ "/" ++ model).toList = provider.toList ++ '/' :: model.toList := by
    rw [String.toList_append, String.toList_append, List.append_assoc]
    rfl
  rw [ofModel?, toList, bareName_provider, ofModel?]

theorem exists_tokenizer (h : e ≠ .heuristic) : ∃ t, e.tokenizer? = some t := by
  cases e with
  | heuristic => exact (h rfl).elim
  | _ => exact ⟨_, rfl⟩

theorem ne_heuristic_of_family {f : Family} (h : f.encoding? = some e) : e ≠ .heuristic := by
  rintro rfl
  cases f with
  | _ => cases h

theorem ne_heuristic_of_ofModel? (h : ofModel? model = some e) : e ≠ .heuristic := by
  obtain ⟨_, _, encoding⟩ := Option.bind_eq_some_iff.mp h
  exact ne_heuristic_of_family encoding

/-- All tokenizers are at hand, so the first choice is the one that is taken. -/
theorem resolve_eq_getD (model : String) : resolve model = (ofModel? model).getD .o200k := by
  rw [resolve]
  cases h : ofModel? model with
  | none => rfl
  | some e =>
    obtain ⟨t, tokenizer⟩ := exists_tokenizer (ne_heuristic_of_ofModel? h)
    simp [tokenizer]

theorem resolve_ne_heuristic (model : String) : resolve model ≠ .heuristic := by
  rw [resolve_eq_getD]
  cases h : ofModel? model with
  | none => nofun
  | some e => exact ne_heuristic_of_ofModel? h

theorem provider_is_ignored :
    (∀ provider model : String,
      let id := provider ++ "/" ++ model
      ofModel? id = ofModel? model ∧ resolve id = resolve model ∧
        (∀ text, countFor id text = countFor model text) ∧
        (∀ text, Counter.perModel.count id text = Counter.perModel.count model text) ∧
        Counter.perModel.localEncoding id = Counter.perModel.localEncoding model) ∧
    ∀ model, resolve model = (ofModel? model).getD .o200k ∧ resolve model ≠ .heuristic ∧
      ∃ t, (resolve model).tokenizer? = some t ∧ ∀ text, countFor model text = t.count text := by
  constructor
  · intro provider model id
    have same : ofModel? id = ofModel? model := ofModel?_provider provider model
    have resolved : resolve id = resolve model := by rw [resolve, same, resolve]
    refine ⟨same, resolved, ?_, ?_, resolved⟩
    · intro text
      rw [countFor, resolved, countFor]
    · intro text
      rw [Counter.count, resolved, Counter.count]
  · intro model
    obtain ⟨t, tokenizer⟩ := exists_tokenizer (resolve_ne_heuristic model)
    refine ⟨resolve_eq_getD model, resolve_ne_heuristic model, t, tokenizer, ?_⟩
    intro text
    rw [countFor, count, tokenizer]

end Encoding
end TokenSurvey
