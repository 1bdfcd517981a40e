import WorkspaceLink.Session.Liveness
import Mathlib.Data.Nat.Find
import Mathlib.Order.Monotone.Basic

/-!
# When probes start

A probe starts when it is due and the probe before it has ended. How late it starts decides when the
next one is due, so a slow probe can move all that follow.

`slot` says when each probe of an endless series is due and free to start, as if nothing stopped the
series. Main statement: these times keep their distance whatever the durations are, and do not drift
while no probe is too slow; a series follows them until its first failure or until it is cancelled,
whichever comes first, and then starts no more probes.
-/
namespace WorkspaceLink.Liveness

/-! ### The times of an endless series -/

section

variable (interval : Nat) (probe : Nat → Probe)

/-- When a probe is due, and when the one before it has ended. -/
def slot : Nat → Nat × Nat
  | 0 => (interval, 0)
  | k + 1 =>
    let (due, free) := slot k
    (nextDue interval due (max due free), max due free + (probe k).durationMs)

def begins (k : Nat) : Nat :=
  max (slot interval probe k).1 (slot interval probe k).2

def ends (k : Nat) : Nat :=
  begins interval probe k + (probe k).durationMs

theorem slot_succ (k : Nat) :
    slot interval probe (k + 1) =
      (nextDue interval (slot interval probe k).1 (begins interval probe k),
        ends interval probe k) := rfl

theorem due_le_begins (k : Nat) : (slot interval probe k).1 ≤ begins interval probe k :=
  Nat.le_max_left _ _

/-- A probe waits for the one before it. -/
theorem ends_le_begins_succ (k : Nat) : ends interval probe k ≤ begins interval probe (k + 1) :=
  Nat.le_max_right _ _

theorem begins_le_ends (k : Nat) : begins interval probe k ≤ ends interval probe k :=
  Nat.le_add_right _ _

/-- A probe that starts late costs the next one no more than the tolerance. -/
theorem begins_add_le (k : Nat) :
    begins interval probe k + interval ≤ begins interval probe (k + 1) + toleranceMs := by
  have hnext := due_le_begins interval probe (k + 1)
  rw [slot_succ, nextDue] at hnext
  split at hnext <;> omega

/-- Deadlines are an interval apart at least. -/
theorem due_add_le (k : Nat) :
    (slot interval probe k).1 + interval ≤ (slot interval probe (k + 1)).1 := by
  have hdue := due_le_begins interval probe k
  rw [slot_succ, nextDue]
  split <;> omega

theorem mul_le_due (k : Nat) : (k + 1) * interval ≤ (slot interval probe k).1 := by
  induction k with
  | zero => simp [slot]
  | succ k ih =>
    have hstep := due_add_le interval probe k
    rw [Nat.succ_mul]
    omega

theorem begins_mono : Monotone (begins interval probe) :=
  monotone_nat_of_le_succ fun k =>
    (begins_le_ends interval probe k).trans (ends_le_begins_succ interval probe k)

theorem ends_mono : Monotone (ends interval probe) :=
  monotone_nat_of_le_succ fun k =>
    (ends_le_begins_succ interval probe k).trans (begins_le_ends interval probe (k + 1))

end

variable {interval : Nat} {cancel : Option Nat} {probe : Nat → Probe}

theorem lt_ends (hpos : 0 < interval) (k : Nat) : k < ends interval probe k :=
  calc
    k < (k + 1) * interval := Nat.lt_of_succ_le (Nat.le_mul_of_pos_right (k + 1) hpos)
    _ ≤ (slot interval probe k).1 := mul_le_due interval probe k
    _ ≤ begins interval probe k := due_le_begins interval probe k
    _ ≤ ends interval probe k := begins_le_ends interval probe k

/-- While no probe takes longer than the interval, each starts when it is due. -/
theorem slot_of_fast {k : Nat} (h : ∀ j < k, (probe j).durationMs ≤ interval) :
    (slot interval probe k).1 = (k + 1) * interval ∧
      (slot interval probe k).2 ≤ (k + 1) * interval := by
  induction k with
  | zero => simp [slot]
  | succ k ih =>
    obtain ⟨hdue, hfree⟩ := ih fun j hj => h j (Nat.lt_succ_of_lt hj)
    have hstart : begins interval probe k = (k + 1) * interval := by
      rw [begins, hdue, Nat.max_eq_left hfree]
    have hfast := h k (Nat.lt_succ_self k)
    rw [slot_succ, ends, hstart, hdue, nextDue, Nat.succ_mul (k + 1)]
    refine ⟨if_neg (by omega), ?_⟩
    dsimp only
    omega

/-! ### One probe -/

theorem runFrom_slot (k : Nat) (rest : List Probe) :
    runFrom interval cancel (slot interval probe k).1 (slot interval probe k).2
        (probe k :: rest) =
      if cancelledBy cancel (begins interval probe k) then
        ⟨[], .cancelled,
          max (slot interval probe k).2 (cancel.getD (slot interval probe k).2)⟩
      else if (probe k).durationMs ≠ 0 ∧ cancelledBy cancel (ends interval probe k) then
        ⟨[begins interval probe k], .cancelled, cancel.getD (ends interval probe k)⟩
      else
        match (probe k).error with
        | some error =>
          ⟨[begins interval probe k], .dead error.message, ends interval probe k⟩
        | none =>
          (runFrom interval cancel (slot interval probe (k + 1)).1
            (slot interval probe (k + 1)).2 rest).startingAt (begins interval probe k) := rfl

theorem not_cancelledBy_begins {k : Nat} (h : cancelledBy cancel (ends interval probe k) = false) :
    cancelledBy cancel (begins interval probe k) = false := by
  cases cancel with
  | none => rfl
  | some time =>
    simp only [cancelledBy, decide_eq_false_iff_not, Nat.not_le] at h ⊢
    exact Nat.lt_of_le_of_lt (begins_le_ends interval probe k) h

/-- A probe that ends before the series is cancelled decides how the series goes on. -/
theorem runFrom_uncancelled {k : Nat} (h : cancelledBy cancel (ends interval probe k) = false)
    (rest : List Probe) :
    runFrom interval cancel (slot interval probe k).1 (slot interval probe k).2
        (probe k :: rest) =
      match (probe k).error with
      | some error => ⟨[begins interval probe k], .dead error.message, ends interval probe k⟩
      | none =>
        (runFrom interval cancel (slot interval probe (k + 1)).1
          (slot interval probe (k + 1)).2 rest).startingAt (begins interval probe k) := by
  rw [runFrom_slot, not_cancelledBy_begins h, h]
  simp

/-- A series that is cancelled before a probe ends is over then, whether the probe has started or
not. -/
theorem runFrom_cancelled {k time : Nat} (hfree : (slot interval probe k).2 ≤ time)
    (h : time ≤ ends interval probe k) (rest : List Probe) :
    runFrom interval (some time) (slot interval probe k).1 (slot interval probe k).2
        (probe k :: rest) =
      ⟨[begins interval probe k].filter (· < time), .cancelled, time⟩ := by
  rw [runFrom_slot]
  by_cases hstart : time ≤ begins interval probe k
  · simp [cancelledBy, hstart, hfree]
  · have hruns : (probe k).durationMs ≠ 0 := by
      intro hzero
      rw [ends, hzero] at h
      exact hstart h
    simp [cancelledBy, hstart, h, hruns, Nat.lt_of_not_le hstart]

/-! ### A series -/

/-- Put starts in front of a trace. -/
def Trace.after (starts : List Nat) (trace : Trace) : Trace :=
  { trace with starts := starts ++ trace.starts }

/-- Whether a series is cancelled before it starts makes no difference. -/
theorem run_eq (interval : Nat) (cancel : Option Nat) (probes : List Probe) :
    run interval cancel probes = runFrom interval cancel interval 0 probes := by
  unfold run
  split
  · rename_i h
    cases cancel with
    | none => cases h
    | some time =>
      obtain rfl : time = 0 := by simpa [cancelledBy] using h
      cases probes with
      | nil => rfl
      | cons probe rest => simp [runFrom, cancelledBy]
  · rfl

/-- A series whose first probes succeed goes on with those that come next. -/
theorem run_passes (count rest : Nat) (hgood : ∀ j < count, (probe j).error = none ∧
      cancelledBy cancel (ends interval probe j) = false) :
    run interval cancel ((List.range (count + rest)).map probe) =
      (runFrom interval cancel (slot interval probe count).1 (slot interval probe count).2
        ((List.range' count rest).map probe)).after
          ((List.range count).map (begins interval probe)) := by
  induction count generalizing rest with
  | zero =>
    rw [run_eq, Nat.zero_add, List.range_eq_range']
    rfl
  | succ count ih =>
    obtain ⟨hnone, hends⟩ := hgood count (Nat.lt_succ_self count)
    have hbefore := ih (rest + 1) fun j hlt => hgood j (Nat.lt_succ_of_lt hlt)
    rw [Nat.succ_add_eq_add_succ, hbefore, List.range'_succ, List.map_cons,
      runFrom_uncancelled hends, hnone]
    simp [Trace.after, Trace.startingAt, List.range_succ]

theorem run_alive (hnone : ∀ m, (probe m).error = none) (n : Nat) :
    run interval none ((List.range n).map probe) =
      ⟨(List.range n).map (begins interval probe), .alive, (slot interval probe n).2⟩ := by
  refine (run_passes n 0 fun j _ => ⟨hnone j, rfl⟩).trans ?_
  simp [runFrom, Trace.after]

/-- A series that is not cancelled by the end of the first probe that fails. -/
theorem run_dead {m n : Nat} {error : ProbeError} (hnone : ∀ j < m, (probe j).error = none)
    (herror : (probe m).error = some error)
    (htime : ∀ time, cancel = some time → ends interval probe m < time) (hn : m < n) :
    run interval cancel ((List.range n).map probe) =
      ⟨(List.range (m + 1)).map (begins interval probe), .dead error.message,
        ends interval probe m⟩ := by
  have hends : ∀ j ≤ m, cancelledBy cancel (ends interval probe j) = false := by
    intro j hj
    cases cancel with
    | none => rfl
    | some time =>
      have hearly := Nat.lt_of_le_of_lt (ends_mono interval probe hj) (htime time rfl)
      exact decide_eq_false (Nat.not_le_of_lt hearly)
  obtain ⟨rest, rfl⟩ : ∃ rest, n = m + (rest + 1) := ⟨n - (m + 1), by omega⟩
  rw [run_passes m (rest + 1) fun j hlt => ⟨hnone j hlt, hends j (Nat.le_of_lt hlt)⟩,
    List.range'_succ, List.map_cons, runFrom_uncancelled (hends m (Nat.le_refl m)), herror]
  simp [Trace.after, List.range_succ]

/-- A series in which no probe fails before it is cancelled. -/
theorem run_cancelled {time n : Nat} (hpos : 0 < interval)
    (hnone : ∀ m, ends interval probe m < time → (probe m).error = none) (hn : time < n) :
    run interval (some time) ((List.range n).map probe) =
      ⟨((List.range n).map (begins interval probe)).filter (· < time), .cancelled, time⟩ := by
  -- The first probe that does not end in time is the last that can have started.
  have hlate : ∃ m, time ≤ ends interval probe m := ⟨time, Nat.le_of_lt (lt_ends hpos time)⟩
  obtain ⟨m, hm, hearly⟩ : ∃ m, time ≤ ends interval probe m ∧
      ∀ j < m, ends interval probe j < time :=
    ⟨Nat.find hlate, Nat.find_spec hlate, fun j hj => Nat.lt_of_not_le (Nat.find_min hlate hj)⟩
  have hlt : m < n := by
    by_contra hle
    have hends := hearly time (by omega)
    exact Nat.lt_asymm hends (lt_ends hpos time)
  obtain ⟨rest, rfl⟩ : ∃ rest, n = m + (rest + 1) := ⟨n - (m + 1), by omega⟩
  have hfree : (slot interval probe m).2 ≤ time := by
    cases m with
    | zero => exact Nat.zero_le time
    | succ m => exact Nat.le_of_lt (hearly m (Nat.lt_succ_self m))
  have hgood : ∀ j < m, (probe j).error = none ∧
      cancelledBy (some time) (ends interval probe j) = false :=
    fun j hj => ⟨hnone j (hearly j hj), decide_eq_false (Nat.not_le_of_lt (hearly j hj))⟩
  have hbefore : ((List.range m).map (begins interval probe)).filter (· < time) =
      (List.range m).map (begins interval probe) := by
    simpa [List.filter_eq_self] using
      fun j hj => Nat.lt_of_le_of_lt (begins_le_ends interval probe j) (hearly j hj)
  have hafter : ((List.range' (m + 1) rest).map (begins interval probe)).filter (· < time) =
      [] := by
    rw [List.filter_eq_nil_iff]
    intro start hstart
    obtain ⟨j, hj, rfl⟩ := List.mem_map.mp hstart
    have hlater := begins_mono interval probe (List.mem_range'_1.mp hj).1
    have hnext := hm.trans (ends_le_begins_succ interval probe m)
    simpa using hnext.trans hlater
  have hsplit : List.range (m + (rest + 1)) =
      List.range m ++ ([m] ++ List.range' (m + 1) rest) := by
    rw [List.range_eq_range', List.range_eq_range', ← List.range'_append_1, Nat.zero_add,
      List.range'_succ, List.singleton_append]
  rw [run_passes m (rest + 1) hgood, List.range'_succ, List.map_cons, runFrom_cancelled hfree hm,
    hsplit, List.map_append, List.map_append, List.filter_append, List.filter_append, hbefore,
    hafter, List.append_nil]
  rfl

/-- No probe starts after the end of its series. -/
theorem runFrom_endedAt (due now : Nat) (probes : List Probe) :
    let trace := runFrom interval cancel due now probes
    now ≤ trace.endedAt ∧ ∀ start ∈ trace.starts, start ≤ trace.endedAt := by
  induction probes generalizing due now with
  | nil =>
    cases cancel with
    | none => exact ⟨Nat.le_refl now, by simp [runFrom]⟩
    | some time => exact ⟨Nat.le_max_left now time, by simp [runFrom]⟩
  | cons probe rest ih =>
    have hstart : now ≤ max due now := Nat.le_max_right due now
    have hfinish : max due now ≤ max due now + probe.durationMs := Nat.le_add_right _ _
    dsimp only [runFrom]
    split
    · exact ⟨Nat.le_max_left _ _, by simp⟩
    rename_i hearly
    split
    · rename_i hcancelled
      cases cancel with
      | none => simp [cancelledBy] at hcancelled
      | some time =>
        have htime : max due now ≤ time := Nat.le_of_not_le (by simpa [cancelledBy] using hearly)
        exact ⟨hstart.trans htime, by simpa using htime⟩
    split
    · exact ⟨hstart.trans hfinish, by simp⟩
    · obtain ⟨hended, hstarts⟩ := ih (nextDue interval due (max due now))
        (max due now + probe.durationMs)
      refine ⟨(hstart.trans hfinish).trans hended, ?_⟩
      intro start hmem
      rcases List.mem_cons.mp hmem with rfl | hlater
      · exact hfinish.trans hended
      · exact hstarts start hlater

/-- For every interval and all probes, one after the other, with any cancellation:
* the first probe starts after one interval, none before the one before it has ended, and two in a
  row are an interval less the tolerance apart at least; as long as none takes longer than the
  interval, each starts at its own multiple of it;
* a series ends with the first probe that fails, when that ends, if it is not cancelled by then;
* if no probe has failed when it is cancelled it ends at that time, also in the middle of a probe;
* without failure and cancellation it goes on, and in no case a probe starts after the end. -/
theorem probes_keep_time (interval : Nat) (probe : Nat → Probe) (cancel : Option Nat)
    (hpos : 0 < interval) :
    let begins := begins interval probe
    let ends := fun k => begins k + (probe k).durationMs
    let series := fun n => run interval cancel ((List.range n).map probe)
    begins 0 = interval ∧
    (∀ k, ends k ≤ begins (k + 1)) ∧
    (∀ k, begins k + interval ≤ begins (k + 1) + toleranceMs) ∧
    (∀ k, (∀ j < k, (probe j).durationMs ≤ interval) → begins k = (k + 1) * interval) ∧
    (∀ m error, (∀ j < m, (probe j).error = none) → (probe m).error = some error →
      (∀ time, cancel = some time → ends m < time) →
      ∀ n, m < n →
        series n = ⟨(List.range (m + 1)).map begins, .dead error.message, ends m⟩) ∧
    (∀ time, cancel = some time → (∀ m, ends m < time → (probe m).error = none) →
      ∀ n, time < n →
        series n = ⟨((List.range n).map begins).filter (· < time), .cancelled, time⟩) ∧
    (cancel = none → (∀ m, (probe m).error = none) →
      ∀ n, (series n).starts = (List.range n).map begins ∧ (series n).verdict = .alive) ∧
    ∀ n, ∀ start ∈ (series n).starts, start ≤ (series n).endedAt := by
  intro begins ends series
  refine ⟨Nat.max_eq_left (Nat.zero_le interval), ends_le_begins_succ interval probe,
    begins_add_le interval probe, ?_, ?_, ?_, ?_, ?_⟩
  · intro k hfast
    obtain ⟨hdue, hfree⟩ := slot_of_fast hfast
    exact (Nat.max_eq_left (hdue ▸ hfree)).trans hdue
  · intro m error hnone herror htime n hn
    exact run_dead hnone herror htime hn
  · rintro time rfl hnone n hn
    exact run_cancelled hpos hnone hn
  · rintro rfl hnone n
    have halive : series n = _ := run_alive hnone n
    exact ⟨congrArg Trace.starts halive, congrArg Trace.verdict halive⟩
  · intro n
    dsimp only [series]
    rw [run_eq]
    exact (runFrom_endedAt interval 0 _).2

/-- The second probe takes 37 ms, and the third fails. A cancellation after 3 ms finds the second in
flight. -/
theorem slow_probe_keeps_time :
    let probe : Nat → Probe := fun k =>
      ⟨if k = 1 then 37 else 1, if k = 2 then some (.timeout 5) else none⟩
    0 < 1 ∧
    run 1 (some 100) ((List.range 3).map probe) =
      ⟨[1, 2, 39], .dead (ProbeError.timeout 5).message, 40⟩ ∧
    run 1 (some 3) ((List.range 4).map probe) = ⟨[1, 2], .cancelled, 3⟩ := by
  intro probe
  refine ⟨by decide, ?_, ?_⟩
  · obtain ⟨_, _, _, _, hdead, _⟩ := probes_keep_time 1 probe (some 100) (by decide)
    exact hdead 2 (.timeout 5) (by decide) rfl (by decide) 3 (by decide)
  · obtain ⟨_, _, _, _, _, hcancelled, _⟩ := probes_keep_time 1 probe (some 3) (by decide)
    have hnone : ∀ m, ends 1 probe m < 3 → (probe m).error = none := by
      intro m hends
      have hm : m ≠ 2 := by
        rintro rfl
        exact absurd hends (by decide)
      simp [probe, hm]
    exact (hcancelled 3 rfl hnone 4 (by decide)).trans rfl

end WorkspaceLink.Liveness
