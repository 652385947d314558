import TokenSurvey.Proofs.Binary64.Sums
import TokenSurvey.Statistics

/-! What the fields of a summary stand for: the same operations on exact quantities, each rounded once.
Counts of 64 bits never come near the ends of the format. -/
namespace TokenSurvey.Statistics

open Binary64

variable {counts : List Nat} {f : Nat → Binary64} {g g' : Nat → Rat} {characters c : Nat}
  {lo hi : Int} {m : Binary64} {mean : Rat}

@[simp] theorem trials_ofSorted (sorted : List Nat) (characters : Nat) :
    (ofSorted sorted characters).trials = sorted.length := rfl

@[simp] theorem mean_ofSorted (sorted : List Nat) (characters : Nat) :
    (ofSorted sorted characters).mean = meanOf sorted := rfl

@[simp] theorem p50_ofSorted (sorted : List Nat) (characters : Nat) :
    (ofSorted sorted characters).p50 =
      Binary64.ofNat (sorted.getD (medianIndex sorted.length) 0) := rfl

@[simp] theorem p95_ofSorted (sorted : List Nat) (characters : Nat) :
    (ofSorted sorted characters).p95 =
      Binary64.ofNat (sorted.getD (p95Index sorted.length) 0) := rfl

@[simp] theorem stdev_ofSorted (sorted : List Nat) (characters : Nat) :
    (ofSorted sorted characters).stdev = stdevOf sorted (meanOf sorted) := rfl

@[simp] theorem perThousand_ofSorted (sorted : List Nat) (characters : Nat) :
    (ofSorted sorted characters).perThousand = rateOf (meanOf sorted) characters := rfl

theorem medianIndex_lt {n : Nat} (hn : 0 < n) : medianIndex n < n := Nat.div_lt_self hn one_lt_two

theorem p95Index_lt {n : Nat} (hn : 0 < n) : p95Index n < n := by
  rw [p95Index]
  omega

/-- The numbers of a summary. -/
def measures : List (Statistics → Binary64) :=
  [Statistics.mean, Statistics.p50, Statistics.p95, Statistics.stdev, Statistics.perThousand]

theorem forall_mem_measures {P : (Statistics → Binary64) → Prop} :
    (∀ measure ∈ measures, P measure) ↔ P Statistics.mean ∧ P Statistics.p50 ∧
      P Statistics.p95 ∧ P Statistics.stdev ∧ P Statistics.perThousand := by
  simp [measures]

theorem summarize_eq_ok (some : counts ≠ []) (hchars : characters ≠ 0) :
    summarize counts characters = .ok (ofSorted counts.mergeSort characters) := by
  rw [summarize, if_neg some, if_neg hchars]

/-- An average, with its sum rounded after every term. -/
def averageValue (g : Nat → Rat) (counts : List Nat) : Rat :=
  rounded (roundedSum (counts.map g) / rounded counts.length)

def meanValue (counts : List Nat) : Rat := averageValue (fun c => rounded c) counts

def varianceValue (counts : List Nat) (mean : Rat) : Rat :=
  averageValue (fun c => squaredDistance (rounded c) mean) counts

def stdevValue (counts : List Nat) (mean : Rat) : Rat :=
  if 1 < counts.length then roundedRoot (varianceValue counts mean) else 0

/-- Thousands of characters. -/
def thousandsValue (characters : Nat) : Rat := rounded (rounded characters / 1000)

def rateValue (mean : Rat) (characters : Nat) : Rat := rounded (mean / thousandsValue characters)

theorem averageValue_congr (h : ∀ c ∈ counts, g c = g' c) :
    averageValue g counts = averageValue g' counts := by
  rw [averageValue, averageValue, List.map_congr_left h]

theorem averageValue_map (g : Nat → Rat) (h : Nat → Nat) (counts : List Nat) :
    averageValue g (counts.map h) = averageValue (g ∘ h) counts := by
  rw [averageValue, averageValue, List.map_map, List.length_map]

/-- At least one count, not too many, and none that a word of 64 bits does not hold. -/
structure Measured (counts : List Nat) : Prop where
  some : counts ≠ []
  many : counts.length ≤ 2 ^ 60
  words : ∀ c ∈ counts, c < UInt64.size

theorem spans_word (h : c < UInt64.size) : Spans 0 64 (c : Rat) :=
  Spans.natCast (k := 64) h.le

theorem spans_rounded_word (h : c < UInt64.size) : Spans 0 64 (rounded c) :=
  (spans_word h).rounded (by decide) (by decide)

theorem stands_ofNat (h : c < UInt64.size) : Stands (Binary64.ofNat c) (rounded c) :=
  Stands.ofNat (spans_word h) (by decide)

namespace Measured

theorem mergeSort (h : Measured counts) : Measured counts.mergeSort where
  some := fun none => h.some (List.perm_nil.mp (none ▸ List.mergeSort_perm counts _).symm)
  many := (List.length_mergeSort counts).trans_le h.many
  words := fun c hc => h.words c (List.mem_mergeSort.mp hc)

theorem spans_counts (h : Measured counts) : ∀ c ∈ counts, Spans 0 64 (rounded c) :=
  fun c hc => spans_rounded_word (h.words c hc)

theorem spans_length (h : Measured counts) : Spans 0 60 (rounded counts.length) :=
  (Spans.natCast (k := 60) h.many).rounded (by decide) (by decide)

theorem length_ne_zero (h : Measured counts) : rounded counts.length ≠ 0 := by
  rw [Ne, (Spans.natCast (k := 60) h.many).rounded_eq_zero_iff (by decide), Nat.cast_eq_zero,
    List.length_eq_zero_iff]
  exact h.some

theorem stands_length (h : Measured counts) :
    Stands (Binary64.ofNat counts.length) (rounded counts.length) :=
  Stands.ofNat (Spans.natCast (k := 60) h.many) (by decide)

theorem getD_lt (h : Measured counts) (i : Nat) : counts.getD i 0 < UInt64.size := by
  rw [List.getD_eq_getElem?_getD]
  cases hi : counts[i]? with
  | none => decide
  | some c => exact h.words c (List.mem_of_getElem? hi)

theorem stands_getD (h : Measured counts) (i : Nat) :
    Stands (Binary64.ofNat (counts.getD i 0)) (rounded (counts.getD i 0 : Nat)) :=
  stands_ofNat (h.getD_lt i)

/-! An average of whatever is not too small and not too large. -/

section average

variable (h : Measured counts) (spans : ∀ c ∈ counts, Spans lo hi (g c))
include h spans

theorem spans_quotient (hlo : -1074 ≤ lo) (hhi : -1074 ≤ hi) :
    Spans (lo - 60) (hi + 53) (roundedSum (counts.map g) / rounded counts.length) := by
  have sum := spans_roundedSum (List.forall_mem_map.mpr spans) hlo hhi
  exact (sum.div h.spans_length h.length_ne_zero).mono le_rfl (by omega)

theorem spans_average (hlo : -1014 ≤ lo) (hhi : -1074 ≤ hi) :
    Spans (lo - 60) (hi + 53) (averageValue g counts) :=
  (h.spans_quotient spans (by omega) hhi).rounded (by omega) (by omega)

theorem average_eq_zero_iff (hlo : -1014 ≤ lo) (hhi : -1074 ≤ hi) :
    averageValue g counts = 0 ↔ ∀ c ∈ counts, g c = 0 := by
  have mapped := List.forall_mem_map.mpr spans
  rw [averageValue, (h.spans_quotient spans (by omega) hhi).rounded_eq_zero_iff (by omega),
    div_eq_zero_iff, or_iff_left h.length_ne_zero, roundedSum_eq_zero_iff mapped (by omega) hhi,
    List.forall_mem_map]

theorem average_two_mul (hlo : -962 ≤ lo) (hhi : -1074 ≤ hi) :
    averageValue (fun c => 2 * g c) counts = 2 * averageValue g counts := by
  have quotient := h.spans_quotient spans (by omega) hhi
  have sum := roundedSum_two_mul (List.forall_mem_map.mpr spans) (by omega) hhi
  rw [List.map_map] at sum
  rw [averageValue, averageValue, ← rounded_two_mul (quotient.normal (by omega)), ← mul_div_assoc,
    ← sum]
  rfl

theorem stands_average (stands : ∀ c ∈ counts, Stands (f c) (g c)) (hlo : -1014 ≤ lo)
    (hhi : -1074 ≤ hi) (hmax : hi + 54 < 1023) :
    Stands (Binary64.sum (counts.map f) / Binary64.ofNat counts.length)
      (averageValue g counts) := by
  have sum := Stands.sum stands spans (by omega) hhi hmax
  have quotient := h.spans_quotient spans (by omega) hhi
  exact sum.div h.stands_length h.length_ne_zero (quotient.lt (by omega))

end average

/-! The fields. -/

theorem spans_mean (h : Measured counts) : Spans (-60) 117 (meanValue counts) :=
  h.spans_average h.spans_counts (by decide) (by decide)

theorem stands_mean (h : Measured counts) : Stands (meanOf counts) (meanValue counts) :=
  h.stands_average h.spans_counts (fun c hc => stands_ofNat (h.words c hc)) (by decide) (by decide)
    (by decide)

/-- A count is equal to the mean, or not too close to it. -/
theorem spans_distance (h : Measured counts) (hc : c ∈ counts) :
    Spans (-112) 117 |rounded c - meanValue counts| := by
  have count := (spans_word (h.words c hc)).mono (show -60 ≤ 0 by decide) (show 64 ≤ 117 by decide)
  have average := h.spans_quotient h.spans_counts (by decide) (by decide)
  exact count.abs_sub average (by decide) (by decide)

theorem spans_squaredDistance (h : Measured counts) (hc : c ∈ counts) :
    Spans (-224) 234 (squaredDistance (rounded c) (meanValue counts)) :=
  (h.spans_distance hc).squaredDistance (by decide) (by decide)

theorem stands_squaredDeviation (h : Measured counts) (hc : c ∈ counts) :
    Stands (squaredDeviation (meanOf counts) c)
      (squaredDistance (rounded c) (meanValue counts)) :=
  (stands_ofNat (h.words c hc)).square_sub h.stands_mean (h.spans_distance hc)
    (by decide) (by decide) (by decide)

theorem spans_variance (h : Measured counts) :
    Spans (-284) 287 (varianceValue counts (meanValue counts)) :=
  h.spans_average (fun _ => h.spans_squaredDistance) (by decide) (by decide)

theorem variance_least (h : Measured counts) :
    varianceValue counts (meanValue counts) = 0 ∨
      (2 : Rat) ^ (-2044 : Int) ≤ varianceValue counts (meanValue counts) :=
  (h.spans_variance.mono (show -2044 ≤ -284 by decide) le_rfl).least

theorem stands_stdev (h : Measured counts) :
    Stands (stdevOf counts (meanOf counts)) (stdevValue counts (meanValue counts)) := by
  unfold stdevOf stdevValue
  split_ifs with several
  · have variance := h.stands_average (fun _ => h.spans_squaredDistance)
      (fun _ => h.stands_squaredDeviation) (by decide) (by decide) (by decide)
    exact variance.sqrt h.spans_variance (by decide) (by decide)
  · exact Stands.zero

/-- There is no deviation only if every count is rounded to the mean. -/
theorem variance_eq_zero_iff (h : Measured counts) :
    varianceValue counts (meanValue counts) = 0 ↔
      ∀ c ∈ counts, rounded c = meanValue counts := by
  rw [varianceValue, h.average_eq_zero_iff (fun _ => h.spans_squaredDistance) (by decide) (by decide)]
  refine forall₂_congr fun c hc => ?_
  exact (h.spans_distance hc).squaredDistance_eq_zero_iff (by decide) (by decide)

end Measured

theorem spans_thousand : Spans 9 10 (1000 : Rat) := by
  constructor <;> norm_num

theorem spans_thousands (some : characters ≠ 0) (word : characters < UInt64.size) :
    Spans (-10) 55 (thousandsValue characters) ∧ thousandsValue characters ≠ 0 := by
  have spans := (spans_rounded_word word).div spans_thousand (by norm_num)
  refine ⟨spans.rounded (by decide) (by decide), ?_⟩
  rw [thousandsValue, Ne, spans.rounded_eq_zero_iff (by decide), div_eq_zero_iff,
    (spans_word word).rounded_eq_zero_iff (by decide), Nat.cast_eq_zero]
  norm_num
  exact some

theorem stands_rate (hm : Stands m mean) (spans : Spans (-60) 117 mean) (some : characters ≠ 0)
    (word : characters < UInt64.size) : Stands (rateOf m characters) (rateValue mean characters) := by
  have thousand : Stands (Binary64.ofNat 1000) 1000 := by
    have h := stands_ofNat (show 1000 < UInt64.size by decide)
    rwa [rounded_natCast (by decide), Nat.cast_ofNat] at h
  have quotient := (spans_rounded_word word).div spans_thousand (by norm_num)
  have thousands := (stands_ofNat word).div thousand (by norm_num) (quotient.lt (by decide))
  obtain ⟨spans', ne⟩ := spans_thousands some word
  exact hm.div thousands ne ((spans.div spans' ne).lt (by decide))

end TokenSurvey.Statistics
