import CrossFlow.Integration.E2ELatencyProbe
import Mathlib.Data.Rat.Floor

/-!
# `CrossFlow.Proofs.Integration.LatencyStats`: the statistics are order statistics

* `p50Idx_lt`, `p99Idx_eq`: the indices are in range, so the cap on the second one does nothing.
* `computeStats_eq`: what `computeStats` returns, as elements of the sorted list.
* `computeStats_perm`: the order of the values does not matter.
* `isOrderStatistics_of_computeStats`: the bounds on its results.
* `generateReport_total`: a report is always there, and counts its complete records.
-/

set_option autoImplicit false

namespace CrossFlow.E2ELatencyProbe

open Lib.OrderStatistic (sorted length_sorted mem_sorted perm_sorted pairwise_sorted)

/-- The index of the median is in the list. -/
theorem p50Idx_lt {size : Nat} (h : 0 < size) : p50Idx size < size := by
  rw [p50Idx]
  omega

/-- The index of the 99th percentile. -/
theorem p99Idx_eq {size : Nat} (h : 0 < size) : p99Idx size = size * 99 / 100 := by
  simp only [p99Idx]
  exact if_neg (by omega)

/-- The median comes before the 99th percentile. -/
theorem p50Idx_le_p99Idx {size : Nat} (h : 0 < size) : p50Idx size ≤ p99Idx size := by
  rw [p99Idx_eq h, p50Idx]
  omega

/-- The index of the 99th percentile is in the list. -/
theorem p99Idx_lt {size : Nat} (h : 0 < size) : p99Idx size < size := by
  rw [p99Idx_eq h]
  omega

/-- The number rounded down. -/
theorem floor_eq (size : Nat) : ⌊(99 / 100 : ℚ) * size⌋ = (size * 99 / 100 : Nat) := by
  have h : (99 / 100 : ℚ) * size = ((size * 99 : Nat) : ℚ) / (100 : Nat) := by
    push_cast
    ring
  rw [h, Rat.floor_natCast_div_natCast]
  norm_cast

variable {values : List UInt64}

/-- The values in ascending order. -/
abbrev ascending (values : List UInt64) : List UInt64 := sorted (· ≤ ·) values

/-- Sorting keeps the length. -/
theorem length_ascending (values : List UInt64) : (ascending values).length = values.length :=
  length_sorted values

/-- A list that is not empty has an element. -/
theorem length_pos (h : values ≠ []) : 0 < values.length := List.length_pos_iff.mpr h

/-- What `computeStats` returns for the values in ascending order. -/
theorem computeStats_eq (h : values ≠ []) {stats : LatencyStats}
    (hstats : computeStats values = some stats) :
    (ascending values).head? = some stats.min ∧ (ascending values).getLast? = some stats.max ∧
      (ascending values)[p50Idx values.length]? = some stats.p50 ∧
      (ascending values)[p99Idx values.length]? = some stats.p99 ∧
      stats.count = values.length.toUInt64 := by
  simp only [computeStats, if_neg h, Option.bind_eq_bind, Option.bind_eq_some_iff,
    Option.some.injEq] at hstats
  obtain ⟨min, hmin, max, hmax, p50, hp50, p99, hp99, rfl⟩ := hstats
  exact ⟨hmin, hmax, hp50, hp99, rfl⟩

/-- No index is out of range. -/
theorem exists_computeStats (values : List UInt64) : ∃ stats, computeStats values = some stats := by
  by_cases h : values = []
  · exact ⟨{}, if_pos h⟩
  · have hpos := length_pos h
    have hne : ascending values ≠ [] := by
      intro hnil
      have hlength := length_ascending values
      rw [hnil, List.length_nil] at hlength
      omega
    have hp50 : p50Idx values.length < (ascending values).length := by
      rw [length_ascending]
      exact p50Idx_lt hpos
    have hp99 : p99Idx values.length < (ascending values).length := by
      rw [length_ascending]
      exact p99Idx_lt hpos
    simp [computeStats, h, List.head?_eq_some_head hne, List.getLast?_eq_some_getLast hne,
      List.getElem?_eq_getElem hp50, List.getElem?_eq_getElem hp99]

/-- The order of the values does not matter. -/
theorem computeStats_perm {values' : List UInt64} (h : values'.Perm values) :
    computeStats values' = computeStats values := by
  have hnil : values' = [] ↔ values = [] := by
    rw [← List.length_eq_zero_iff, h.length_eq, List.length_eq_zero_iff]
  simp only [computeStats, hnil, Lib.OrderStatistic.sorted_eq_of_perm h, h.length_eq]

/-- The statistics are members of the list, in order, with the shares of it below and above them
that their names say. -/
structure IsOrderStatistics (values : List UInt64) (stats : LatencyStats) : Prop where
  min_mem : stats.min ∈ values
  p50_mem : stats.p50 ∈ values
  p99_mem : stats.p99 ∈ values
  max_mem : stats.max ∈ values
  min_le_p50 : stats.min ≤ stats.p50
  p50_le_p99 : stats.p50 ≤ stats.p99
  p99_le_max : stats.p99 ≤ stats.max
  half_le : values.length ≤ 2 * values.countP (· ≤ stats.p50)
  half_ge : values.length ≤ 2 * values.countP (stats.p50 ≤ ·)
  p99_share : ⌊(99 / 100 : ℚ) * values.length⌋ + 1 ≤ values.countP (· ≤ stats.p99)

/-- The element at an index of the list in ascending order, with its share of the list. -/
theorem getElem?_ascending {k : Nat} {x : UInt64} (hx : (ascending values)[k]? = some x) :
    x ∈ values ∧ k + 1 ≤ values.countP (· ≤ x) ∧ values.length - k ≤ values.countP (x ≤ ·) := by
  obtain ⟨hk, rfl⟩ := List.getElem?_eq_some_iff.mp hx
  have hsorted := pairwise_sorted (r := (· ≤ ·)) values
  have hperm := perm_sorted (r := (· ≤ ·)) values
  have hle := Lib.OrderStatistic.succ_le_countP hsorted hk
  have hge := Lib.OrderStatistic.length_sub_le_countP hsorted hk
  refine ⟨mem_sorted.mp (List.getElem_mem hk), ?_, ?_⟩
  · rwa [hperm.countP_eq] at hle
  · rwa [hperm.countP_eq, length_sorted] at hge

/-- Two elements of the list in ascending order. -/
theorem le_of_getElem?_ascending {i j : Nat} {x y : UInt64} (hij : i ≤ j)
    (hx : (ascending values)[i]? = some x) (hy : (ascending values)[j]? = some y) : x ≤ y := by
  obtain ⟨hi, rfl⟩ := List.getElem?_eq_some_iff.mp hx
  obtain ⟨hj, rfl⟩ := List.getElem?_eq_some_iff.mp hy
  exact Lib.OrderStatistic.rel_of_le (pairwise_sorted values) hij hj

/-- The statistics of a list that is not empty are its order statistics. -/
theorem isOrderStatistics_of_computeStats (h : values ≠ []) {stats : LatencyStats}
    (hstats : computeStats values = some stats) : IsOrderStatistics values stats := by
  obtain ⟨hmin, hmax, hp50, hp99, -⟩ := computeStats_eq h hstats
  have hpos := length_pos h
  rw [List.head?_eq_getElem?] at hmin
  rw [List.getLast?_eq_getElem?, length_ascending] at hmax
  have hp99_lt := p99Idx_lt hpos
  obtain ⟨hp50_mem, hp50_le, hp50_ge⟩ := getElem?_ascending hp50
  obtain ⟨hp99_mem, hp99_le, -⟩ := getElem?_ascending hp99
  rw [p50Idx] at hp50_le hp50_ge
  refine
    { min_mem := (getElem?_ascending hmin).1
      p50_mem := hp50_mem
      p99_mem := hp99_mem
      max_mem := (getElem?_ascending hmax).1
      min_le_p50 := le_of_getElem?_ascending (Nat.zero_le _) hmin hp50
      p50_le_p99 := le_of_getElem?_ascending (p50Idx_le_p99Idx hpos) hp50 hp99
      p99_le_max := le_of_getElem?_ascending (by omega) hp99 hmax
      half_le := by omega
      half_ge := by omega
      p99_share := ?_ }
  -- The index of the 99th percentile in whole numbers is the floor of the share.
  rw [floor_eq, ← p99Idx_eq hpos]
  exact_mod_cast hp99_le

/-- For a list of values that is not empty the statistics are there, the same for every order of the
list, and order statistics of it. -/
theorem computeStats_spec (values : List UInt64) (h : values ≠ []) :
    ∃ stats, computeStats values = some stats ∧
      (∀ values', values'.Perm values → computeStats values' = some stats) ∧
        IsOrderStatistics values stats := by
  obtain ⟨stats, hstats⟩ := exists_computeStats values
  refine ⟨stats, hstats, ?_, isOrderStatistics_of_computeStats h hstats⟩
  intro values' hperm
  rw [computeStats_perm hperm, hstats]

/-- The statistics of two latencies. -/
theorem computeStats_spec_two :
    ∃ stats, computeStats [20, 10] = some stats ∧
      (∀ values', values'.Perm [20, 10] → computeStats values' = some stats) ∧
        IsOrderStatistics [20, 10] stats :=
  computeStats_spec [20, 10] (by decide)

/-- There is a report of any records. Each of its statistics counts the complete ones. -/
theorem generateReport_total (probe : E2ELatencyProbe) :
    ∃ report, probe.generateReport = some report ∧
      ∀ stats ∈ [report.captureToQueue, report.queueToTransport, report.receiveToInjection,
        report.totalE2E], stats.count = report.completeRecords := by
  have hcount (f : SegmentedLatencyRecord → UInt64) (records : List SegmentedLatencyRecord) :
      ∃ stats, computeStats (records.map f) = some stats ∧
        stats.count = records.length.toUInt64 := by
    obtain ⟨stats, hstats⟩ := exists_computeStats (records.map f)
    refine ⟨stats, hstats, ?_⟩
    -- Of no values nothing is computed, and there are none to count.
    by_cases hnil : records = []
    · obtain rfl : {} = stats := by simpa [hnil, computeStats] using hstats
      simp [hnil]
    · have h := (computeStats_eq (by simpa using hnil) hstats).2.2.2.2
      simpa using h
  generalize hcomplete : ((probe.records.toList.map (·.2)).filter
    SegmentedLatencyRecord.isComplete) = complete
  obtain ⟨s₁, h₁, hc₁⟩ := hcount (·.captureToQueueUs) complete
  obtain ⟨s₂, h₂, hc₂⟩ := hcount (·.queueToTransportUs) complete
  obtain ⟨s₃, h₃, hc₃⟩ := hcount (·.receiveToInjectionUs) complete
  obtain ⟨s₄, h₄, hc₄⟩ := hcount (·.totalE2ELatencyUs) complete
  refine
    ⟨{ captureToQueue := s₁, queueToTransport := s₂, receiveToInjection := s₃, totalE2E := s₄
       totalRecords := probe.records.size.toUInt64
       completeRecords := complete.length.toUInt64 }, ?_, ?_⟩
  · simp [generateReport, hcomplete, h₁, h₂, h₃, h₄]
  · simp [hc₁, hc₂, hc₃, hc₄]

end CrossFlow.E2ELatencyProbe
