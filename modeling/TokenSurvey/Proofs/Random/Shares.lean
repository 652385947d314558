import Mathlib.Data.FinEnum
import Mathlib.Order.Interval.Finset.Nat
import Mathlib.SetTheory.Cardinal.Finite
import TokenSurvey.Proofs.Random.Outputs

/-! How many of the outputs give a share: as many for each, and the others are refused. -/
namespace TokenSurvey.Random

/-- An output that is accepted, and then this share is drawn. -/
def Gives {n : Nat} (v : UInt64) (i : Fin n) : Prop := accepts n v = true ∧ share n i.pos v = i

/-- The number of outputs that give a share. -/
def breadth (n : Nat) : Nat := 2 ^ (63 - n.log2)

variable {n : Nat} {i : Fin n} {v : UInt64}

theorem acceptedBelow_eq (n : Nat) : acceptedBelow n = n * breadth n := Nat.shiftLeft_eq ..

theorem acceptedBelow_le (hn : n < UInt64.size) : acceptedBelow n ≤ UInt64.size := by
  have log : n.log2 ≤ 63 := by
    by_cases hzero : n = 0
    · rw [hzero, Nat.log2_zero]
      exact Nat.zero_le 63
    · exact Nat.le_of_lt_succ ((Nat.log2_lt hzero).mpr hn)
  calc acceptedBelow n = n * 2 ^ (63 - n.log2) := acceptedBelow_eq n
    _ ≤ 2 ^ (n.log2 + 1) * 2 ^ (63 - n.log2) :=
      Nat.mul_le_mul_right _ (Nat.le_of_lt Nat.lt_log2_self)
    _ = 2 ^ (n.log2 + 1 + (63 - n.log2)) := (Nat.pow_add ..).symm
    _ = UInt64.size := by
      rw [show n.log2 + 1 + (63 - n.log2) = 64 by omega]
      rfl

/-- What gives a share are the outputs whose product with the number of shares is in a stretch from
the share's start. -/
theorem gives_iff_product (hn : n < UInt64.size) :
    Gives v i ↔ i * UInt64.size ≤ v.toNat * n ∧
      v.toNat * n < i * UInt64.size + acceptedBelow n := by
  have most := acceptedBelow_le hn
  have parts := Nat.div_add_mod (v.toNat * n) UInt64.size
  rw [Nat.mul_comm UInt64.size] at parts
  have gives : Gives v i ↔ v.toNat * n % UInt64.size < acceptedBelow n ∧
      v.toNat * n / UInt64.size = i := by
    rw [Gives, accepts, decide_eq_true_iff, Fin.ext_iff, share]
  rw [gives]
  constructor
  · rintro ⟨low, high⟩
    rw [high] at parts
    omega
  · rintro ⟨start, stop⟩
    have high : v.toNat * n / UInt64.size = i := by
      apply Nat.div_eq_of_lt_le start
      rw [Nat.succ_mul]
      omega
    rw [high] at parts
    exact ⟨by omega, high⟩

/-- They follow one another, from the least output of the share on. -/
theorem gives_iff (hn : n < UInt64.size) :
    Gives v i ↔ (firstOutput i).toNat ≤ v.toNat ∧
      v.toNat < (firstOutput i).toNat + breadth n := by
  obtain ⟨rest, hrest, product⟩ := toNat_firstOutput_mul (Nat.le_of_lt hn) i
  rw [gives_iff_product hn, acceptedBelow_eq, Nat.mul_comm n]
  generalize (firstOutput i).toNat = first at product ⊢
  have next : (v.toNat + 1) * n = v.toNat * n + n := Nat.succ_mul ..
  have last : (first + breadth n) * n = first * n + breadth n * n := Nat.add_mul ..
  constructor
  · rintro ⟨start, stop⟩
    have above : first < v.toNat + 1 := Nat.lt_of_mul_lt_mul_right (a := n) (by omega)
    have below : v.toNat < first + breadth n := Nat.lt_of_mul_lt_mul_right (a := n) (by omega)
    exact ⟨Nat.le_of_lt_succ above, below⟩
  · rintro ⟨above, below⟩
    have start : first * n ≤ v.toNat * n := Nat.mul_le_mul_right n above
    have stop : (v.toNat + 1) * n ≤ (first + breadth n) * n := Nat.mul_le_mul_right n below
    omega

/-- The outputs of a share end before the words do. -/
theorem firstOutput_add_breadth_le (hn : n < UInt64.size) (i : Fin n) :
    (firstOutput i).toNat + breadth n ≤ UInt64.size := by
  obtain ⟨rest, hrest, product⟩ := toNat_firstOutput_mul (Nat.le_of_lt hn) i
  have most := acceptedBelow_le hn
  rw [acceptedBelow_eq, Nat.mul_comm] at most
  have room : (i + 1) * UInt64.size ≤ n * UInt64.size := Nat.mul_le_mul_right _ i.isLt
  have next : (i + 1) * UInt64.size = i * UInt64.size + UInt64.size := Nat.succ_mul ..
  have sum : ((firstOutput i).toNat + breadth n) * n =
      (firstOutput i).toNat * n + breadth n * n := Nat.add_mul ..
  have whole : (UInt64.size + 1) * n = n * UInt64.size + n := by
    rw [Nat.succ_mul, Nat.mul_comm]
  have : (firstOutput i).toNat + breadth n < UInt64.size + 1 :=
    Nat.lt_of_mul_lt_mul_right (a := n) (by omega)
  exact Nat.le_of_lt_succ this

theorem card_between {a b : Nat} (hb : b ≤ UInt64.size) :
    Nat.card {v : UInt64 // a ≤ v.toNat ∧ v.toNat < b} = b - a := by
  have value {x : Nat} (below : x < b) : (UInt64.ofNat x).toNat = x :=
    UInt64.toNat_ofNat_of_lt (Nat.lt_of_lt_of_le below hb)
  let numbers : {v : UInt64 // a ≤ v.toNat ∧ v.toNat < b} ≃ {x // x ∈ Finset.Ico a b} :=
    { toFun := fun v => ⟨v.1.toNat, Finset.mem_Ico.mpr v.2⟩
      invFun := fun x => ⟨UInt64.ofNat x.1, by
        obtain ⟨above, below⟩ := Finset.mem_Ico.mp x.2
        rw [value below]
        exact ⟨above, below⟩⟩
      left_inv := fun v => Subtype.ext UInt64.ofNat_toNat
      right_inv := fun x => Subtype.ext (value (Finset.mem_Ico.mp x.2).2) }
  rw [Nat.card_congr numbers, Nat.card_eq_fintype_card, Fintype.card_coe, Nat.card_Ico]

theorem card_gives (hn : n < UInt64.size) (i : Fin n) :
    Nat.card {v : UInt64 // Gives v i} = breadth n := by
  rw [Nat.card_congr (Equiv.subtypeEquivRight fun v => gives_iff hn),
    card_between (firstOutput_add_breadth_le hn i), Nat.add_sub_cancel_left]

/-- A set of shares is drawn by as many outputs as it has shares, times the number for each. -/
theorem card_accepted (hn : n < UInt64.size) (h : 0 < n) (p : Fin n → Prop) :
    Nat.card {v : UInt64 // accepts n v = true ∧ p (share n h v)} =
      Nat.card {i // p i} * breadth n := by
  classical
  let byShare : {v : UInt64 // accepts n v = true ∧ p (share n h v)} ≃
      Σ i : {i // p i}, {v : UInt64 // Gives v i.1} :=
    { toFun := fun v => ⟨⟨share n h v.1, v.2.2⟩, v.1, v.2.1, rfl⟩
      invFun := fun x => ⟨x.2.1, x.2.2.1, x.2.2.2.symm ▸ x.1.2⟩
      left_inv := fun v => rfl
      right_inv := by
        rintro ⟨⟨i, hi⟩, v, gives⟩
        obtain rfl : share n h v = i := gives.2
        rfl }
  rw [Nat.card_congr byShare, Nat.card_sigma, Finset.sum_congr rfl fun i _ => card_gives hn i.1,
    Finset.sum_const, Finset.card_univ, Nat.nsmul_eq_mul, Nat.card_eq_fintype_card]

theorem card_refused (hn : n < UInt64.size) (h : 0 < n) :
    Nat.card {v : UInt64 // accepts n v = false} = UInt64.size - n * breadth n := by
  have accepted : Nat.card {v : UInt64 // accepts n v = true} = n * breadth n := by
    have := card_accepted hn h fun _ => True
    simpa using this
  have words : Nat.card UInt64 = UInt64.size := by
    rw [Nat.card_eq_fintype_card, ← FinEnum.card_eq_fintypeCard, FinEnum.card_UInt64]
    rfl
  have split := Nat.card_congr (Equiv.sumCompl fun v => accepts n v = true)
  simp only [Nat.card_sum, Bool.not_eq_true] at split
  omega

theorem forall₂_gives_iff (h : 0 < n) {shares : List (Fin n)} {vs : List UInt64} :
    List.Forall₂ (fun i v => Gives v i) shares vs ↔
      (∀ v ∈ vs, accepts n v = true) ∧ vs.map (share n h) = shares := by
  constructor
  · intro all
    induction all with
    | nil => exact ⟨nofun, rfl⟩
    | cons gives _ ih =>
      obtain ⟨accepted, same⟩ := ih
      exact ⟨List.forall_mem_cons.mpr ⟨gives.1, accepted⟩, List.cons_eq_cons.mpr ⟨gives.2, same⟩⟩
  · rintro ⟨accepted, rfl⟩
    induction vs with
    | nil => exact .nil
    | cons v vs ih =>
      obtain ⟨first, others⟩ := List.forall_mem_cons.mp accepted
      exact .cons ⟨first, rfl⟩ (ih others)

/-- Outputs for some shares one after another: those for each are chosen by themselves. -/
theorem card_forall₂_gives (hn : n < UInt64.size) (shares : List (Fin n)) :
    Nat.card {vs : List UInt64 // List.Forall₂ (fun i v => Gives v i) shares vs} =
      breadth n ^ shares.length := by
  induction shares with
  | nil =>
    refine Nat.card_eq_one_iff_exists.mpr ⟨⟨[], .nil⟩, ?_⟩
    rintro ⟨vs, ⟨⟩⟩
    rfl
  | cons i shares ih =>
    let parts : {v // Gives v i} × {vs // List.Forall₂ (fun i v => Gives v i) shares vs} ≃
        {vs // List.Forall₂ (fun i v => Gives v i) (i :: shares) vs} :=
      Equiv.ofBijective (fun x => ⟨x.1.1 :: x.2.1, .cons x.1.2 x.2.2⟩) <| by
        constructor
        · rintro ⟨v, vs⟩ ⟨w, ws⟩ same
          obtain ⟨first, others⟩ := List.cons.inj (congrArg Subtype.val same)
          exact Prod.ext (Subtype.ext first) (Subtype.ext others)
        · rintro ⟨vs, all⟩
          cases all with
          | cons gives others => exact ⟨(⟨_, gives⟩, ⟨_, others⟩), rfl⟩
    rw [← Nat.card_congr parts, Nat.card_prod, card_gives hn, ih, List.length_cons, Nat.pow_succ']

end TokenSurvey.Random
