import TokenSurvey.Tokens.Vocabulary

/-! Byte-pair merging: neighbours join while their join is a token, lowest rank first. -/
namespace TokenSurvey.Tokens

/-- A part of a piece, with the rank of its join with the part that follows it. -/
structure Part where
  bytes : Bytes
  join : Option Nat

/-- The lower of two ranks, where there is one. -/
def lower : Option Nat → Option Nat → Option Nat
  | some a, some b => some (min a b)
  | a, none => a
  | none, b => b

theorem lower_eq_some {x y : Option Nat} {n : Nat} (h : lower x y = some n) :
    x = some n ∨ y = some n := by
  cases x <;> cases y
  · exact Or.inl h
  · exact Or.inr h
  · exact Or.inl h
  · next a b =>
    simp only [lower, Option.some.injEq] at h ⊢
    omega

/-- The lowest rank of a join of neighbours, or a lower one at hand. -/
def lowestJoin (atHand : Option Nat) : List Part → Option Nat
  | a :: b :: parts => lowestJoin (lower atHand a.join) (b :: parts)
  | _ => atHand

theorem mem_dropLast_of_lowestJoin {atHand : Option Nat} {parts : List Part} {rank : Nat}
    (h : lowestJoin atHand parts = some rank) :
    atHand = some rank ∨ ∃ a ∈ parts.dropLast, a.join = some rank := by
  fun_induction lowestJoin atHand parts with
  | case1 atHand a b parts ih =>
    obtain hlow | ⟨c, hc, hjoin⟩ := ih h
    · exact (lower_eq_some hlow).imp_right fun ha => ⟨a, by simp, ha⟩
    · exact Or.inr ⟨c, by simp [hc], hjoin⟩
  | case2 => exact Or.inl h

variable (v : Vocabulary)

def joinRank? (bytes : Bytes) : List Part → Option Nat
  | [] => none
  | next :: _ => v.rank? (bytes ++ next.bytes)

/-- A new part in front of others. -/
def link (bytes : Bytes) (parts : List Part) : List Part :=
  { bytes, join := joinRank? v bytes parts } :: parts

/-- The last of the parts on the left, which come backwards, has a new neighbour. -/
def relink (right : List Part) : List Part → List Part
  | [] => []
  | a :: left => { a with join := joinRank? v a.bytes right } :: left

/-- Whether the first part's join ranks below a limit. -/
def startsBelow (limit : Nat) : List Part → Bool
  | { join := some rank, .. } :: _ => rank < limit
  | _ => false

theorem length_relink (bytes : Bytes) (left parts : List Part) :
    (relink v (link v bytes parts) left).length + (link v bytes parts).length =
      left.length + parts.length + 1 := by
  cases left <;> simp [link, relink]
  omega

/-- Joins neighbours of the lowest rank from left to right, until another pair comes first: one whose
rank has become lower, or one further left. -/
def joinAll (rank : Nat) (left : List Part) : List Part → List Part
  | a :: b :: parts =>
    if a.join = some rank then
      let right := link v (a.bytes ++ b.bytes) parts
      let left := relink v right left
      if startsBelow (rank + 1) left || startsBelow rank right then left.reverseAux right
      else joinAll rank left right
    else joinAll rank (a :: left) (b :: parts)
  | parts => left.reverseAux parts
termination_by parts => parts.length
decreasing_by all_goals simp [link]

theorem length_joinAll_le (rank : Nat) (left parts : List Part) :
    (joinAll v rank left parts).length ≤ left.length + parts.length := by
  fun_induction joinAll v rank left parts with
  | case1 left a b parts _ right left' _ =>
    have hlen : left'.length + right.length = _ := length_relink v (a.bytes ++ b.bytes) left parts
    simp only [List.reverseAux_eq, List.length_append, List.length_reverse, List.length_cons]
    omega
  | case2 left a b parts _ right left' _ ih =>
    have hlen : left'.length + right.length = _ := length_relink v (a.bytes ++ b.bytes) left parts
    simp only [List.length_cons]
    omega
  | case3 left a b parts _ ih =>
    simp only [List.length_cons] at ih ⊢
    omega
  | case4 => simp [List.reverseAux_eq]

theorem length_joinAll_lt {rank : Nat} (left : List Part) {parts : List Part}
    (h : ∃ a ∈ parts.dropLast, a.join = some rank) :
    (joinAll v rank left parts).length < left.length + parts.length := by
  fun_induction joinAll v rank left parts with
  | case1 left a b parts _ right left' _ =>
    have hlen : left'.length + right.length = _ := length_relink v (a.bytes ++ b.bytes) left parts
    simp only [List.reverseAux_eq, List.length_append, List.length_reverse, List.length_cons]
    omega
  | case2 left a b parts _ right left' _ =>
    have hlen : left'.length + right.length = _ := length_relink v (a.bytes ++ b.bytes) left parts
    have hle := length_joinAll_le v rank left' right
    simp only [List.length_cons]
    omega
  | case3 left a b parts ha ih =>
    obtain ⟨c, hc, hjoin⟩ := h
    have hne : c ≠ a := fun he => ha (he ▸ hjoin)
    have hlt := ih ⟨c, (List.mem_cons.1 (List.dropLast_cons_cons ▸ hc)).resolve_left hne, hjoin⟩
    simp only [List.length_cons] at hlt ⊢
    omega
  | case4 left parts hshort =>
    obtain ⟨c, hc, _⟩ := h
    match parts, hshort with
    | [], _ | [_], _ => simp at hc
    | a :: b :: parts, hshort => exact (hshort a b parts rfl).elim

/-- Joins neighbours as long as there are any to join. -/
def mergeParts (parts : List Part) : List Part :=
  match _h : lowestJoin none parts with
  | none => parts
  | some rank => mergeParts (joinAll v rank [] parts)
termination_by parts.length
decreasing_by
  have := length_joinAll_lt v [] ((mem_dropLast_of_lowestJoin _h).resolve_left nofun)
  simpa using this

def bytewise (piece : Bytes) : List Part := piece.foldr (fun b parts => link v [b] parts) []

/-- A piece that is a token counts once; another is merged from its bytes. -/
def pieceCount (piece : Bytes) : Nat :=
  if (v.rank? piece).isSome then 1 else (mergeParts v (bytewise v piece)).length

end TokenSurvey.Tokens
