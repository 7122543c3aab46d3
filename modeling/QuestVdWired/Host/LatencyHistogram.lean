import QuestVdWired.Host.Diagnostics
import QuestVdWired.Statistics.NearestRank
import Mathlib.Algebra.Order.Floor.Div
import Mathlib.Data.List.Induction
import Mathlib.GroupTheory.GroupAction.Ring
import Mathlib.Order.Bounds.Defs

/-!
`LatencyHistogram`: durations are counted in ten buckets, and a snapshot reads the 99th
percentile off the counts. It is the bound of the bucket that the sample of this rank fell
into, and the largest sample behind the last bound.
-/

namespace QuestVdWired.Host.Diagnostics

def LATENCY_BUCKET_UPPER_US : List UInt64 :=
  [250, 500, 1000, 2000, 5000, 10000, 25000, 50000, 100000]

/-- `std::time::Duration` -/
structure Duration where
  secs : UInt64
  nanos : Fin 1000000000
  deriving DecidableEq, Repr

/-- `as_micros`, of type `u128`. -/
def Duration.asMicros (duration : Duration) : Nat :=
  duration.secs.toNat * 1000000 + duration.nanos.val / 1000

structure LatencyHistogram where
  buckets : Vector UInt64 10
  samples : UInt64
  maxUs : UInt64
  deriving DecidableEq, Repr

structure LatencyHistogramSnapshot where
  samples : UInt64
  p99Us : UInt64
  maxUs : UInt64
  bucketUpperUs : List UInt64
  bucketCounts : List UInt64
  deriving DecidableEq, Repr

def saturatingMul (n m : UInt64) : UInt64 :=
  UInt64.ofNat (min (n.toNat * m.toNat) (UInt64.size - 1))

namespace LatencyHistogram

def default : LatencyHistogram := ⟨Vector.replicate 10 0, 0, 0⟩

def bucket (micros : UInt64) : Nat :=
  (LATENCY_BUCKET_UPPER_US.findIdx? (micros ≤ ·)).getD LATENCY_BUCKET_UPPER_US.length

/-- The index is in the array. -/
theorem bucket_lt (micros : UInt64) : bucket micros < 10 := by
  rw [bucket, ← List.findIdx_eq_getD_findIdx?]
  exact Nat.lt_succ_of_le List.findIdx_le_length

/-- `min(u64::MAX as u128) as u64` -/
def clamp (micros : Nat) : UInt64 :=
  UInt64.ofNat (min micros (UInt64.size - 1))

/-- The counters are atomic and wrap around. -/
def record (histogram : LatencyHistogram) (duration : Duration) : LatencyHistogram :=
  let micros := clamp duration.asMicros
  have inside := bucket_lt micros
  { buckets := histogram.buckets.set (bucket micros) (histogram.buckets[bucket micros] + 1)
    samples := histogram.samples + 1
    maxUs := max histogram.maxUs micros }

/-- The rank that the cumulative counts have to reach. -/
def target (samples : UInt64) : UInt64 :=
  saturatingAdd (saturatingMul samples 99) 99 / 100

/-- The loop over the counts, from an index on. -/
def p99Us (target maxUs : UInt64) (index : Nat) (cumulative : UInt64) : List UInt64 → UInt64
  | [] => 0
  | count :: counts =>
      let cumulative := saturatingAdd cumulative count.toNat
      if 0 < target ∧ target ≤ cumulative then LATENCY_BUCKET_UPPER_US[index]?.getD maxUs
      else p99Us target maxUs (index + 1) cumulative counts

def snapshot (histogram : LatencyHistogram) : LatencyHistogramSnapshot where
  samples := histogram.samples
  p99Us := p99Us (target histogram.samples) histogram.maxUs 0 0 histogram.buckets.toList
  maxUs := histogram.maxUs
  bucketUpperUs := LATENCY_BUCKET_UPPER_US
  bucketCounts := histogram.buckets.toList

attribute [local grind =] p99Us

section Recorded

def bounds : List Nat := LATENCY_BUCKET_UPPER_US.map UInt64.toNat

theorem clamp_toNat (micros : Nat) : (clamp micros).toNat = min micros (2 ^ 64 - 1) := by
  rw [clamp, UInt64.toNat_ofNat']
  exact Nat.mod_eq_of_lt (Nat.lt_of_le_of_lt (Nat.min_le_right _ _) (by decide))

theorem clamp_le_iff {micros : Nat} {upper : UInt64} (small : upper.toNat < 2 ^ 64 - 1) :
    clamp micros ≤ upper ↔ micros ≤ upper.toNat := by
  rw [UInt64.le_iff_toNat_le, clamp_toNat]
  omega

theorem upper_lt : ∀ upper ∈ LATENCY_BUCKET_UPPER_US, upper.toNat < 2 ^ 64 - 1 := by
  simp [LATENCY_BUCKET_UPPER_US]

/-- No bound is so large that the conversion to 64 bits would matter. -/
theorem bucket_clamp (micros : Nat) : bucket (clamp micros) = Statistics.bucket bounds micros := by
  rw [bucket, ← List.findIdx_eq_getD_findIdx?, Statistics.bucket, bounds, List.findIdx_map]
  have same : ∀ upper ∈ LATENCY_BUCKET_UPPER_US,
      (clamp micros ≤ upper ↔ micros ≤ upper.toNat) :=
    fun upper mem => clamp_le_iff (upper_lt upper mem)
  generalize LATENCY_BUCKET_UPPER_US = uppers at same
  induction uppers with
  | nil => rfl
  | cons upper uppers ih =>
      rw [List.forall_mem_cons] at same
      simp [List.findIdx_cons, same.1, ih same.2]

theorem max_clamp (n m : Nat) : max (clamp n) (clamp m) = clamp (max n m) := by
  apply UInt64.toNat_inj.mp
  have choice : max (clamp n) (clamp m) = if clamp n ≤ clamp m then clamp m else clamp n := rfl
  rw [choice]
  split <;> rename_i order <;>
    simp only [UInt64.le_iff_toNat_le, clamp_toNat] at order ⊢ <;> omega

/-- What a histogram holds of the durations that were recorded. -/
structure Holds (durations : List Duration) (histogram : LatencyHistogram) : Prop where
  samples : histogram.samples.toNat = durations.length
  counts : ∀ j (inside : j < 10), histogram.buckets[j].toNat =
    (durations.map Duration.asMicros).countP (Statistics.bucket bounds · = j)
  max : histogram.maxUs = clamp ((durations.map Duration.asMicros).foldl Max.max 0)

theorem holds_default : Holds [] default := by
  refine ⟨rfl, ?_, rfl⟩
  intro j inside
  simp [default]

theorem holds_record {durations : List Duration} {histogram : LatencyHistogram}
    {duration : Duration} (holds : Holds durations histogram)
    (few : durations.length + 1 < 2 ^ 64) :
    Holds (durations ++ [duration]) (histogram.record duration) := by
  refine ⟨?_, ?_, ?_⟩
  · rw [record, UInt64.toNat_add, holds.samples, List.length_append]
    exact Nat.mod_eq_of_lt few
  · intro j inside
    have seen := holds.counts j inside
    have few_ : histogram.buckets[j].toNat ≤ durations.length := by
      rw [seen]
      exact List.countP_le_length.trans (Nat.le_of_eq (List.length_map ..))
    simp only [record, bucket_clamp, Vector.getElem_set, List.map_append, List.countP_append,
      List.map_cons, List.map_nil, List.countP_singleton, decide_eq_true_eq]
    split
    · rename_i here
      subst here
      rw [UInt64.toNat_add, seen]
      rw [seen] at few_
      exact Nat.mod_eq_of_lt (Nat.lt_of_le_of_lt (Nat.succ_le_succ few_) few)
    · rw [seen, Nat.add_zero]
  · rw [record, holds.max, max_clamp, List.map_append, List.foldl_append]
    rfl

theorem holds_foldl (durations : List Duration) (few : durations.length < 2 ^ 64) :
    Holds durations (durations.foldl record default) := by
  induction durations using List.reverseRecOn with
  | nil => exact holds_default
  | append_singleton durations duration ih =>
      rw [List.length_append, List.length_singleton] at few
      rw [List.foldl_append]
      exact holds_record (ih (by omega)) few

end Recorded

section Percentile

theorem target_toNat {samples : UInt64} (few : samples.toNat < 2 ^ 57) :
    (target samples).toNat = (99 * samples.toNat) ⌈/⌉ 100 := by
  have product : (saturatingMul samples 99).toNat = samples.toNat * 99 := by
    have below : samples.toNat * 99 < UInt64.size := by
      rw [UInt64.size]
      omega
    have factor : (99 : UInt64).toNat = 99 := rfl
    rw [saturatingMul, factor, Nat.min_eq_left (Nat.le_sub_one_of_lt below),
      UInt64.toNat_ofNat_of_lt' below]
  have sum : (saturatingAdd (saturatingMul samples 99) 99).toNat = samples.toNat * 99 + 99 := by
    rw [saturatingAdd_exact, product]
    rw [product, UInt64.size]
    omega
  rw [target, UInt64.toNat_div, sum, Nat.ceilDiv_eq_add_pred_div, Nat.mul_comm]
  rfl

theorem p99Us_eq {goal maxUs cumulative : UInt64} {index r : Nat} {counts : List UInt64}
    (positive : 0 < goal)
    (fits : cumulative.toNat + (counts.map UInt64.toNat).sum < 2 ^ 64)
    (reached : ∀ i < counts.length,
      goal.toNat ≤ cumulative.toNat + ((counts.map UInt64.toNat).take (i + 1)).sum ↔ r ≤ index + i)
    (from_ : index ≤ r) (to_ : r < index + counts.length) :
    p99Us goal maxUs index cumulative counts = LATENCY_BUCKET_UPPER_US[r]?.getD maxUs := by
  induction counts generalizing index cumulative with
  | nil => exact absurd to_ (Nat.not_lt_of_le from_)
  | cons count counts ih =>
      rw [List.map_cons, List.sum_cons] at fits
      have sum : (saturatingAdd cumulative count.toNat).toNat =
          cumulative.toNat + count.toNat := saturatingAdd_exact (by rw [UInt64.size]; omega)
      have here := reached 0 (Nat.succ_pos _)
      rw [List.map_cons, List.take_succ_cons, List.take_zero, List.sum_singleton, ← sum,
        ← UInt64.le_iff_toNat_le] at here
      rw [p99Us]
      by_cases stop : goal ≤ saturatingAdd cumulative count.toNat
      · have last : r = index := Nat.le_antisymm (here.mp stop) from_
        rw [if_pos ⟨positive, stop⟩, last]
      · have later : ¬ r ≤ index := fun le => stop (here.mpr le)
        rw [if_neg fun both => stop both.2]
        refine ih (by rw [sum]; omega) ?_ (by omega) (by simp at to_; omega)
        intro i inside
        have next := reached (i + 1) (Nat.succ_lt_succ inside)
        rw [List.map_cons, List.take_succ_cons, List.sum_cons, ← Nat.add_assoc, ← sum] at next
        rw [next]
        omega

theorem bounds_ascending : bounds.Pairwise (· < ·) := by
  decide

theorem Holds.counts_buckets {durations : List Duration} {histogram : LatencyHistogram}
    (holds : Holds durations histogram) :
    Statistics.Counts bounds (durations.map Duration.asMicros)
      (histogram.buckets.toList.map UInt64.toNat) := by
  refine ⟨by simp [bounds, LATENCY_BUCKET_UPPER_US], ?_⟩
  intro j c there
  obtain ⟨inside, rfl⟩ := List.getElem?_eq_some_iff.mp there
  have bounded : j < 10 := by simpa using inside
  rw [List.getElem_map, Vector.getElem_toList, holds.counts j bounded]

/-- The percentile is the bound of the bucket of the sample with this rank. -/
theorem Holds.p99Us_snapshot {durations : List Duration} {histogram : LatencyHistogram}
    (holds : Holds durations histogram) (few : durations.length < 2 ^ 57) {v : Nat}
    (found : Statistics.smallest (durations.map Duration.asMicros)
      ((99 * durations.length) ⌈/⌉ 100) = some v)
    (some_ : durations ≠ []) :
    histogram.snapshot.p99Us =
      LATENCY_BUCKET_UPPER_US[Statistics.bucket bounds v]?.getD histogram.maxUs := by
  have goal : (target histogram.samples).toNat = (99 * durations.length) ⌈/⌉ 100 := by
    rw [target_toNat (by rw [holds.samples]; exact few), holds.samples]
  have positive : 0 < (target histogram.samples).toNat := by
    have one := List.length_pos_iff.mpr some_
    rw [goal, Nat.ceilDiv_eq_add_pred_div]
    omega
  rw [← goal] at found
  have counts := holds.counts_buckets
  have long : bounds.length = 9 := rfl
  have within : Statistics.bucket bounds v ≤ 9 := Statistics.bucket_le_length
  refine p99Us_eq (UInt64.lt_iff_toNat_lt.mpr positive) ?_ ?_ (Nat.zero_le _) ?_
  · rw [Statistics.sum_counts counts, List.length_map]
    exact Nat.lt_of_le_of_lt (Nat.le_of_eq (Nat.zero_add _)) (Nat.lt_trans few (by decide))
  · intro i inside
    rw [Vector.length_toList] at inside
    have zero : (0 : UInt64).toNat = 0 := rfl
    rw [zero, Nat.zero_add, Nat.zero_add]
    exact Statistics.rank_le_sum_iff bounds_ascending counts positive found (by omega)
  · rw [Vector.length_toList]
    omega

theorem getElem?_bounds {i : Nat} {upper : UInt64}
    (there : LATENCY_BUCKET_UPPER_US[i]? = some upper) : bounds[i]? = some upper.toNat := by
  rw [bounds, List.getElem?_map, there]
  rfl

theorem getD_bucket {v : Nat} (maxUs : UInt64)
    (below : ∃ upper ∈ LATENCY_BUCKET_UPPER_US, v ≤ upper.toNat) :
    IsLeast {upper | upper ∈ LATENCY_BUCKET_UPPER_US ∧ v ≤ upper.toNat}
      (LATENCY_BUCKET_UPPER_US[Statistics.bucket bounds v]?.getD maxUs) := by
  obtain ⟨upper, mem, le⟩ := below
  have inside : Statistics.bucket bounds v < LATENCY_BUCKET_UPPER_US.length := by
    have found := Statistics.bucket_lt_iff.mpr ⟨_, List.mem_map_of_mem mem, le⟩
    rwa [← List.length_map (f := UInt64.toNat)]
  have there := List.getElem?_eq_getElem inside
  obtain ⟨-, own, least⟩ := Statistics.bucket_least bounds_ascending (getElem?_bounds there)
  rw [there, Option.getD_some]
  refine ⟨⟨List.getElem_mem inside, own⟩, ?_⟩
  rintro other ⟨mem', le'⟩
  exact UInt64.le_iff_toNat_le.mpr (least _ (List.mem_map_of_mem mem') le')

theorem getD_bucket_above {v : Nat} (maxUs : UInt64)
    (above : ∀ upper ∈ LATENCY_BUCKET_UPPER_US, upper.toNat < v) :
    LATENCY_BUCKET_UPPER_US[Statistics.bucket bounds v]?.getD maxUs = maxUs := by
  have beyond : ¬ Statistics.bucket bounds v < bounds.length := by
    rw [Statistics.bucket_lt_iff]
    rintro ⟨b, among, le⟩
    obtain ⟨upper, mem, rfl⟩ := List.mem_map.mp among
    exact absurd (above upper mem) (Nat.not_lt_of_le le)
  have long : bounds.length = LATENCY_BUCKET_UPPER_US.length := rfl
  rw [long] at beyond
  rw [List.getElem?_eq_none (Nat.le_of_not_lt beyond), Option.getD_none]

theorem exists_rank {durations : List Duration} (some_ : durations ≠ []) :
    ∃ v, Statistics.smallest (durations.map Duration.asMicros)
      ((99 * durations.length) ⌈/⌉ 100) = some v := by
  have one := List.length_pos_iff.mpr some_
  apply Statistics.exists_smallest
  · rw [Nat.ceilDiv_eq_add_pred_div]
    omega
  · rw [Nat.ceilDiv_eq_add_pred_div, List.length_map]
    omega

theorem le_foldl_max {v : Nat} {l : List Nat} (mem : v ∈ l) : v ≤ l.foldl max 0 := by
  induction l using List.reverseRecOn with
  | nil => cases mem
  | append_singleton l u ih =>
      rw [List.foldl_append]
      rcases List.mem_append.mp mem with earlier | last
      · exact (ih earlier).trans (Nat.le_max_left _ _)
      · rw [List.mem_singleton.mp last]
        exact Nat.le_max_right _ _

/-- Only an empty histogram reports zero: a bound is positive, and so is a sample above all
bounds. -/
theorem Holds.p99Us_ne_zero {durations : List Duration} {histogram : LatencyHistogram}
    (holds : Holds durations histogram) (few : durations.length < 2 ^ 57)
    (some_ : durations ≠ []) : histogram.snapshot.p99Us ≠ 0 := by
  obtain ⟨v, found⟩ := exists_rank some_
  rw [holds.p99Us_snapshot few found some_]
  by_cases below : ∃ upper ∈ LATENCY_BUCKET_UPPER_US, v ≤ upper.toNat
  · have positive : ∀ upper ∈ LATENCY_BUCKET_UPPER_US, upper ≠ 0 := by
      simp [LATENCY_BUCKET_UPPER_US]
    exact positive _ (getD_bucket histogram.maxUs below).1.1
  · have above : ∀ upper ∈ LATENCY_BUCKET_UPPER_US, upper.toNat < v := by
      intro upper mem
      by_contra le
      exact below ⟨upper, mem, Nat.le_of_not_lt le⟩
    have large := above 250 (by decide)
    have largest := le_foldl_max (Statistics.smallest_mem found)
    rw [getD_bucket_above _ above, holds.max, ne_eq, ← UInt64.toNat_inj, clamp_toNat]
    simp only [UInt64.reduceToNat] at large ⊢
    omega

end Percentile

/-- The histogram after any durations. The counts sum up to the number of samples; the maximum
is the largest duration in microseconds, of which 64 bits are kept at most; the percentile is
the least bound that the sample with the nearest rank does not exceed, or the maximum; and it
is zero without samples only. -/
theorem latency_percentile (durations : List Duration) (few : durations.length < 2 ^ 57) :
    let snapshot := (durations.foldl record default).snapshot
    let micros := durations.map Duration.asMicros
    (snapshot.bucketCounts.map UInt64.toNat).sum = snapshot.samples.toNat ∧
    snapshot.samples.toNat = durations.length ∧
    snapshot.maxUs.toNat = min (micros.foldl max 0) (2 ^ 64 - 1) ∧
    (durations ≠ [] → ∃ v, Statistics.smallest micros ((99 * durations.length) ⌈/⌉ 100) = some v ∧
      ((∃ upper ∈ snapshot.bucketUpperUs, v ≤ upper.toNat) →
        IsLeast {upper | upper ∈ snapshot.bucketUpperUs ∧ v ≤ upper.toNat} snapshot.p99Us) ∧
      ((∀ upper ∈ snapshot.bucketUpperUs, upper.toNat < v) → snapshot.p99Us = snapshot.maxUs)) ∧
    (snapshot.p99Us = 0 ↔ durations = []) := by
  intro snapshot micros
  have holds := holds_foldl durations (Nat.lt_trans few (by decide))
  refine ⟨?_, holds.samples, ?_, ?_, ?_⟩
  · exact (Statistics.sum_counts holds.counts_buckets).trans
      ((List.length_map ..).trans holds.samples.symm)
  · exact (congrArg UInt64.toNat holds.max).trans (clamp_toNat _)
  · intro some_
    obtain ⟨v, found⟩ := exists_rank some_
    have percentile := holds.p99Us_snapshot few found some_
    refine ⟨v, found, ?_, ?_⟩
    · intro below
      exact percentile ▸ getD_bucket _ below
    · intro above
      exact percentile.trans (getD_bucket_above _ above)
  · constructor
    · intro zero
      by_contra some_
      exact holds.p99Us_ne_zero few some_ zero
    · intro none
      change (durations.foldl record default).snapshot.p99Us = 0
      rw [none]
      decide

/-- Two samples, 300 microseconds and one second. -/
theorem latency_percentile_two :
    let snapshot :=
      ([⟨0, ⟨300000, by decide⟩⟩, ⟨1, ⟨0, by decide⟩⟩].foldl record default).snapshot
    snapshot.samples.toNat = 2 ∧ snapshot.maxUs.toNat = 1000000 ∧ snapshot.p99Us ≠ 0 ∧
      snapshot.p99Us = snapshot.maxUs := by
  intro snapshot
  obtain ⟨-, samples, largest, -, empty⟩ :=
    latency_percentile [⟨0, ⟨300000, by decide⟩⟩, ⟨1, ⟨0, by decide⟩⟩] (by decide)
  refine ⟨samples, largest.trans (by decide), ?_, by decide⟩
  intro zero
  exact List.cons_ne_nil _ _ (empty.mp zero)

/-- A duration of more microseconds than 64 bits hold is recorded as their largest value. -/
theorem max_us_clamped :
    ¬ ∀ durations : List Duration, durations.length < 2 ^ 57 →
      (durations.foldl record default).snapshot.maxUs.toNat =
        (durations.map Duration.asMicros).foldl max 0 := by
  intro exact_
  exact absurd (exact_ [⟨18446744073709551615, ⟨0, by decide⟩⟩] (by decide)) (by decide)

end LatencyHistogram

end QuestVdWired.Host.Diagnostics
