import TokenSurvey.Tokens.Merging

/-! Merging spells a piece: the bytes of the parts, one after another, are those of the piece at
every step, and each part is a token. -/
namespace TokenSurvey.Tokens

/-- Tokens of a vocabulary, none of them empty, that make up the bytes. -/
structure Spells (v : Vocabulary) (bytes : Bytes) (tokens : List Bytes) : Prop where
  whole : tokens.flatten = bytes
  token : ∀ t ∈ tokens, t ≠ [] ∧ (v.rank? t).isSome

namespace Spells

variable {v : Vocabulary} {bytes bytes' a b : Bytes} {tokens tokens' before rest : List Bytes}

theorem nil : Spells v [] [] := ⟨rfl, nofun⟩

theorem append (h : Spells v bytes tokens) (h' : Spells v bytes' tokens') :
    Spells v (bytes ++ bytes') (tokens ++ tokens') where
  whole := by rw [List.flatten_append, h.whole, h'.whole]
  token t ht := (List.mem_append.mp ht).elim (h.token t) (h'.token t)

theorem singleton (nonempty : bytes ≠ []) (h : (v.rank? bytes).isSome) :
    Spells v bytes [bytes] where
  whole := List.append_nil bytes
  token t ht := by
    obtain rfl := List.mem_singleton.mp ht
    exact ⟨nonempty, h⟩

/-- Every byte is a token. -/
theorem bytewise (v : Vocabulary) (bytes : Bytes) : Spells v bytes (bytes.map fun b => [b]) := by
  induction bytes with
  | nil => exact nil
  | cons b bytes ih => exact (singleton (List.cons_ne_nil b []) rfl).append ih

/-- Neighbours may be joined to a token. -/
theorem join (h : Spells v bytes (before ++ a :: b :: rest)) (hab : (v.rank? (a ++ b)).isSome) :
    Spells v bytes (before ++ (a ++ b) :: rest) where
  whole := by
    rw [← h.whole]
    simp
  token t ht := by
    obtain ht | ht := List.mem_append.mp ht
    · exact h.token t (by simp [ht])
    · obtain rfl | ht := List.mem_cons.mp ht
      · have ha := (h.token a (by simp)).1
        exact ⟨List.append_ne_nil_of_left_ne_nil ha b, hab⟩
      · exact h.token t (by simp [ht])

theorem length_le (h : Spells v bytes tokens) : tokens.length ≤ bytes.length := by
  obtain ⟨rfl, token⟩ := h
  induction tokens with
  | nil => exact Nat.zero_le 0
  | cons t tokens ih =>
    have one := List.length_pos_iff.mpr (token t (by simp)).1
    have others := ih fun u hu => token u (by simp [hu])
    rw [List.length_cons, List.flatten_cons, List.length_append]
    omega

theorem eq_nil_iff (h : Spells v bytes tokens) : tokens = [] ↔ bytes = [] := by
  constructor
  · rintro rfl
    exact h.whole.symm
  · rintro rfl
    exact List.eq_nil_of_length_eq_zero (Nat.le_zero.mp h.length_le)

end Spells

variable {v : Vocabulary} {piece : Bytes} {left right parts parts' : List Part} {a b : Part}

variable (v) in
/-- Every part knows the rank of its join with the part that follows it. -/
def Linked : List Part → Prop
  | [] => True
  | a :: parts => a.join = joinRank? v a.bytes parts ∧ Linked parts

theorem linked_link (bytes : Bytes) (h : Linked v parts) : Linked v (link v bytes parts) := ⟨rfl, h⟩

theorem linked_bytewise : Linked v (bytewise v piece) := by
  induction piece with
  | nil => trivial
  | cons b piece ih => exact linked_link [b] ih

theorem linked_of_reverseAux (left : List Part) (h : Linked v (left.reverseAux parts)) :
    Linked v parts := by
  induction left generalizing parts with
  | nil => exact h
  | cons a left ih => exact (ih h).2

/-- The parts on the left do not see a change on the right that leaves the bytes of the next part. -/
theorem linked_reverseAux (left : List Part) (h : Linked v (left.reverseAux (a :: parts)))
    (linked : Linked v (b :: parts')) (same : b.bytes = a.bytes) :
    Linked v (left.reverseAux (b :: parts')) := by
  -- The left comes backwards: each step puts its nearest part in front of both lists.
  induction left generalizing a b parts parts' with
  | nil => exact linked
  | cons c left ih =>
    refine ih h ⟨?_, linked⟩ rfl
    rw [(linked_of_reverseAux left h).1, joinRank?, joinRank?, same]

theorem map_bytes_link (bytes : Bytes) (parts : List Part) :
    (link v bytes parts).map Part.bytes = bytes :: parts.map Part.bytes := rfl

theorem map_bytes_relink : (relink v right left).map Part.bytes = left.map Part.bytes := by
  cases left <;> rfl

theorem map_bytes_bytewise : (bytewise v piece).map Part.bytes = piece.map fun b => [b] := by
  induction piece with
  | nil => rfl
  | cons b piece ih => exact congrArg ([b] :: ·) ih

theorem map_bytes_reverseAux :
    (left.reverseAux parts).map Part.bytes =
      (left.map Part.bytes).reverse ++ parts.map Part.bytes := by
  rw [List.reverseAux_eq, List.map_append, List.map_reverse]

theorem linked_relink (bytes : Bytes) (h : Linked v (left.reverseAux (a :: b :: parts))) :
    Linked v ((relink v (link v bytes parts) left).reverseAux (link v bytes parts)) := by
  have linked := linked_link bytes (linked_of_reverseAux left h).2.2
  cases left with
  | nil => exact linked
  | cons c left =>
    let right := link v bytes parts
    have joined : Linked v ({ c with join := joinRank? v c.bytes right } :: right) := ⟨rfl, linked⟩
    exact linked_reverseAux left h joined rfl

variable (v piece) in
/-- The parts of a piece as merging finds them at any time. -/
structure Parted (parts : List Part) : Prop where
  linked : Linked v parts
  spells : Spells v piece (parts.map Part.bytes)

theorem parted_bytewise : Parted v piece (bytewise v piece) where
  linked := linked_bytewise
  spells := map_bytes_bytewise ▸ Spells.bytewise v piece

/-- A part that knows a rank makes a token with its neighbour, and may be joined with it. -/
theorem Parted.join {rank : Nat} (h : Parted v piece (left.reverseAux (a :: b :: parts)))
    (hrank : a.join = some rank) :
    let right := link v (a.bytes ++ b.bytes) parts
    Parted v piece ((relink v right left).reverseAux right) where
  linked := linked_relink _ h.linked
  spells := by
    have token : v.rank? (a.bytes ++ b.bytes) = some rank := by
      rw [← hrank]
      exact (linked_of_reverseAux left h.linked).1.symm
    have spells := h.spells
    rw [map_bytes_reverseAux] at spells
    rw [map_bytes_reverseAux, map_bytes_relink, map_bytes_link]
    exact spells.join (Option.isSome_of_eq_some token)

theorem parted_joinAll {rank : Nat} (left : List Part)
    (h : Parted v piece (left.reverseAux parts)) : Parted v piece (joinAll v rank left parts) := by
  -- The invariant is about both sides together, which a step to the right leaves as they are.
  fun_induction joinAll v rank left parts with
  | case1 left a b parts hrank => exact h.join hrank
  | case2 left a b parts hrank _ _ _ ih => exact ih (h.join hrank)
  | case3 left a b parts _ ih => exact ih h
  | case4 => exact h

theorem parted_mergeParts (h : Parted v piece parts) : Parted v piece (mergeParts v parts) := by
  fun_induction mergeParts v parts with
  | case1 => exact h
  | case2 parts rank _ ih => exact ih (parted_joinAll [] h)

/-- The tokens that a piece counts for. -/
def pieceTokens (v : Vocabulary) (piece : Bytes) : List Bytes :=
  if (v.rank? piece).isSome then [piece] else (mergeParts v (bytewise v piece)).map Part.bytes

theorem pieceCount_eq : pieceCount v piece = (pieceTokens v piece).length := by
  rw [pieceCount, pieceTokens]
  split
  · rfl
  · exact (List.length_map Part.bytes).symm

theorem spells_pieceTokens (nonempty : piece ≠ []) : Spells v piece (pieceTokens v piece) := by
  rw [pieceTokens]
  split
  · exact .singleton nonempty ‹_›
  · exact (parted_mergeParts parted_bytewise).spells

end TokenSurvey.Tokens
