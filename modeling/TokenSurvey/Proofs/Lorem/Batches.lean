import TokenSurvey.Lorem.Passage
import TokenSurvey.Proofs.Dialogue

/-! Texts drawn one after another. Only the empty text is refused. -/
namespace TokenSurvey.Lorem

open TokenSurvey.Random (Source)
open Dialogue

def emptyTarget : Fault := .invalidParameter "target_chars must be positive"

def batch (trials n : Nat) : StateM Source (List String) := (List.replicate trials n).mapM text

variable {n : Nat} {ns : List Nat}

@[simp] theorem length_batch (trials n : Nat) (s : Source) :
    (batch trials n s).1.length = trials := by
  rw [batch, mapM_apply, length_answers, List.length_replicate]

theorem passage_zero (s : Source) : passage 0 s = (.error emptyTarget, s) := rfl

theorem passage_eq (hn : n ≠ 0) (s : Source) : passage n s = (.ok (text n s).1, (text n s).2) := by
  rw [passage, if_neg hn]
  rfl

theorem mapM_passage (h : ∀ n ∈ ns, n ≠ 0) (s : Source) :
    ns.mapM passage s = (.ok (answers text ns s), after text ns s) := by
  induction ns generalizing s with
  | nil => rfl
  | cons n ns ih =>
    rw [List.mapM_cons, bind_of_ok (passage_eq (h n (by simp)) s),
      bind_of_ok (ih (fun m hm => h m (by simp [hm])) _), answers_cons, after_cons]
    rfl

theorem passages_eq_mapM (n trials : Nat) :
    passages n trials = (List.replicate trials n).mapM passage := by
  induction trials with
  | zero => rfl
  | succ trials ih => rw [passages, ih, List.replicate_succ, List.mapM_cons]

theorem passages_eq (hn : n ≠ 0) (trials : Nat) (s : Source) :
    passages n trials s = (.ok (batch trials n s).1, (batch trials n s).2) := by
  have filled : ∀ m ∈ List.replicate trials n, m ≠ 0 := by
    intro m hm
    rwa [List.eq_of_mem_replicate hm]
  rw [passages_eq_mapM, mapM_passage filled]
  rfl

end TokenSurvey.Lorem
