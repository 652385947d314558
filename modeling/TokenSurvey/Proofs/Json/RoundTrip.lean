import TokenSurvey.Proofs.Json.Parsing

/-! A value that is written, on one line or indented, reads back as the same value. -/
namespace TokenSurvey.Json

open Text (Gapped)

section Layouts

variable {a b c s t : Gapped} {n : Gapped} {v : Json} {vs : List Json}
  {ms : List (Gapped × Json)}

theorem mem_padded {l : Texts} (hb : b ∈ blanks) (hs : s ∈ l) : b ++ s ∈ padded l := by
  have blank := Language.append_mem_mul hs nil_mem_blanks
  rw [List.append_nil] at blank
  exact Language.append_mem_mul hb blank

theorem cons_mem_mark_mul {c : Char} {l : Texts} (hs : s ∈ l) :
    some c :: s ∈ mark c * l :=
  Language.append_mem_mul (a := [some c]) rfl hs

theorem array_mem_texts (hb : b ∈ blanks) (hs : s ∈ texts v) (ht : t ∈ itemTexts vs)
    (hc : c ∈ blanks) :
    some '[' :: (b ++ s ++ (t ++ (c ++ [some ']']))) ∈ texts (.array (v :: vs)) := by
  have close : c ++ [some ']'] ∈ blanks * mark ']' := Language.append_mem_mul hc rfl
  have items := Language.append_mem_mul (mem_padded hb hs) (Language.append_mem_mul ht close)
  rw [texts]
  refine cons_mem_mark_mul ?_
  simpa only [padded, mul_assoc, itemTexts_absorbs] using items

theorem item_mem_itemTexts (hb : b ∈ blanks) (hs : s ∈ texts v) (ht : t ∈ itemTexts vs) :
    some ',' :: (b ++ s ++ t) ∈ itemTexts (v :: vs) := by
  rw [itemTexts]
  exact cons_mem_mark_mul (Language.append_mem_mul (mem_padded hb hs) ht)

theorem object_mem_texts (ha : a ∈ blanks) (hb : b ∈ blanks) (hs : s ∈ texts v)
    (ht : t ∈ memberTexts ms) (hc : c ∈ blanks) :
    some '\x7b' :: (a ++ (quoted n).map some ++
      some ':' :: (b ++ s ++ (t ++ (c ++ [some '\x7d'])))) ∈ texts (.object ((n, v) :: ms)) := by
  have close : c ++ [some '\x7d'] ∈ blanks * mark '\x7d' := Language.append_mem_mul hc rfl
  have members := Language.append_mem_mul (mem_padded hb hs) (Language.append_mem_mul ht close)
  rw [texts]
  refine cons_mem_mark_mul (Language.append_mem_mul (mem_padded ha (quoted_mem_quotations n)) ?_)
  refine cons_mem_mark_mul ?_
  simpa only [padded, mul_assoc, memberTexts_absorbs] using members

theorem member_mem_memberTexts (ha : a ∈ blanks) (hb : b ∈ blanks) (hs : s ∈ texts v)
    (ht : t ∈ memberTexts ms) :
    some ',' :: (a ++ (quoted n).map some ++ some ':' :: (b ++ s ++ t)) ∈
      memberTexts ((n, v) :: ms) := by
  rw [memberTexts]
  exact cons_mem_mark_mul (Language.append_mem_mul (mem_padded ha (quoted_mem_quotations n))
    (cons_mem_mark_mul (Language.append_mem_mul (mem_padded hb hs) ht)))

end Layouts

theorem empty_mem_texts {c d : Char} : [some c, some d] ∈ mark c * (blanks * mark d) :=
  cons_mem_mark_mul (Language.append_mem_mul nil_mem_blanks rfl)

theorem boolText_mem_texts (b : Bool) : (boolText b).map some ∈ texts (.bool b) := by
  cases b <;> rfl

mutual

theorem compact_mem_texts : ∀ v, (compact v).map some ∈ texts v
  | null => rfl
  | bool b => boolText_mem_texts b
  | number n => show_mem_numbers n
  | string t => quoted_mem_quotations t
  | array [] | object [] => empty_mem_texts
  | array (v :: vs) => by
    have items := compactItems_mem_itemTexts vs
    simpa [compact] using array_mem_texts nil_mem_blanks (compact_mem_texts v) items nil_mem_blanks
  | object ((n, v) :: ms) => by
    have members := compactMembers_mem_memberTexts ms
    have object := object_mem_texts (n := n) nil_mem_blanks nil_mem_blanks (compact_mem_texts v)
      members nil_mem_blanks
    simpa [compact] using object

theorem compactItems_mem_itemTexts : ∀ vs, (compactItems vs).map some ∈ itemTexts vs
  | [] => rfl
  | v :: vs => by
    simpa [compactItems] using item_mem_itemTexts nil_mem_blanks (compact_mem_texts v)
      (compactItems_mem_itemTexts vs)

theorem compactMembers_mem_memberTexts : ∀ ms, (compactMembers ms).map some ∈ memberTexts ms
  | [] => rfl
  | (n, v) :: ms => by
    have member := member_mem_memberTexts (n := n) nil_mem_blanks nil_mem_blanks
      (compact_mem_texts v) (compactMembers_mem_memberTexts ms)
    simpa [compactMembers] using member

end

theorem newline_mem_blanks (level : Nat) : (newline level).map some ∈ blanks := by
  rw [mem_blanks, newline, List.map_cons, List.map_replicate]
  refine List.forall_mem_cons.mpr ⟨by decide, fun c hc => ?_⟩
  obtain rfl := List.eq_of_mem_replicate hc
  decide

theorem space_mem_blanks : [some ' '] ∈ blanks := by simp [mem_blanks, Lexeme.isBlank]

mutual

theorem pretty_mem_texts (level : Nat) : ∀ v, (pretty level v).map some ∈ texts v
  | null => rfl
  | bool b => boolText_mem_texts b
  | number n => show_mem_numbers n
  | string t => quoted_mem_quotations t
  | array [] | object [] => empty_mem_texts
  | array (v :: vs) => by
    have items := prettyItems_mem_itemTexts (level + 1) vs
    have array := array_mem_texts (newline_mem_blanks (level + 1)) (pretty_mem_texts (level + 1) v)
      items (newline_mem_blanks level)
    simpa [pretty] using array
  | object ((n, v) :: ms) => by
    have members := prettyMembers_mem_memberTexts (level + 1) ms
    have object := object_mem_texts (n := n) (newline_mem_blanks (level + 1)) space_mem_blanks
      (pretty_mem_texts (level + 1) v) members (newline_mem_blanks level)
    simpa [pretty] using object

theorem prettyItems_mem_itemTexts (level : Nat) :
    ∀ vs, (prettyItems level vs).map some ∈ itemTexts vs
  | [] => rfl
  | v :: vs => by
    simpa [prettyItems] using item_mem_itemTexts (newline_mem_blanks level)
      (pretty_mem_texts level v) (prettyItems_mem_itemTexts level vs)

theorem prettyMembers_mem_memberTexts (level : Nat) :
    ∀ ms, (prettyMembers level ms).map some ∈ memberTexts ms
  | [] => rfl
  | (n, v) :: ms => by
    have member := member_mem_memberTexts (n := n) (newline_mem_blanks level) space_mem_blanks
      (pretty_mem_texts level v) (prettyMembers_mem_memberTexts level ms)
    simpa [prettyMembers] using member

end

end TokenSurvey.Json
