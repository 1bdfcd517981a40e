import WorkspaceLink.Proofs.Session.Resources

/-!
# How often a session tries

Failed cycles are counted, and the count starts again when a connection opens, when a user revives
the session and when it is closed. Between two such moves a session is in a stretch. `Paced` ties
the cycles charged in a stretch to the attempts started and the timers set in it; every move that
does not end the stretch keeps it, so a stretch has a bounded number of attempts.
-/
namespace WorkspaceLink.Session

variable {config : SessionConfig} {s : Session}

/-- How many cycles fail before the session gives up: at least one. -/
def limit (config : SessionConfig) : Nat := max 1 config.settings.maxReconnectAttempts

/-- The delays of the first timers of a stretch. -/
def schedule (config : SessionConfig) (count : Nat) : List Nat :=
  (List.range count).map fun k =>
    if k = 0 then config.settings.firstReconnectDelayMs else config.settings.reconnectDelayMs

theorem schedule_succ (config : SessionConfig) (count : Nat) :
    schedule config (count + 1) =
      schedule config count ++ [config.settings.reconnectDelay (count + 1)] := by
  unfold schedule SessionSettings.reconnectDelay
  rw [List.range_succ, List.map_append]
  by_cases h : count = 0 <;> simp [h]

/-! ### The count -/

/-- The count is below the limit until the session gives up, and then at the limit. -/
def WithinLimit (config : SessionConfig) (s : Session) : Prop :=
  if s.phase = .failed then s.attempts = limit config else s.attempts < limit config

theorem limit_pos (config : SessionConfig) : 0 < limit config := by
  unfold limit
  omega

theorem withinLimit_reacts (h : s.Consistent) (hcount : s.WithinLimit config) {input : Input}
    {step : Step} (hreacts : Reacts config s input step) : step.session.WithinLimit config := by
  have hpos := limit_pos config
  have hcharged : ∀ {input}, s.charges input → s.attempts < limit config := by
    intro input hcharges
    have hphase : s.phase ≠ .failed := by
      rcases h.phase_of_charges hcharges with hp | hp <;> simp [hp]
    simpa [WithinLimit, hphase] using hcount
  cases hreacts with
  | begins hphase => simpa [WithinLimit, beginConnect_eq, hphase] using hcount
  | revives hphase => simpa [WithinLimit, beginConnect_eq] using hpos
  | shuts ticket => simpa [WithinLimit, Step.doing, shut_eq] using hpos
  | opens hphase => simpa [WithinLimit, Step.doing, cancelReconnect_eq, hphase] using hpos
  | identifies id hphase => simpa [WithinLimit, identified_eq, hphase] using hcount
  | retries entry hcharges hmax =>
    have hlt : s.attempts + 1 < limit config := Nat.lt_of_lt_of_le hmax (Nat.le_max_right _ _)
    simpa [WithinLimit, Step.andThen, retry] using hlt
  | givesUp entry hcharges hmax =>
    have heq : s.attempts + 1 = limit config := by
      have := hcharged hcharges
      unfold limit at *
      omega
    simpa [WithinLimit, Step.andThen, giveUp] using heq
  | redials timer htimer =>
    have hphase := h.phase_of_timer htimer
    simpa [WithinLimit, beginConnect_eq, hphase] using hcount
  | ignores entries => exact hcount

theorem withinLimit_run (config : SessionConfig) (moves : List Move) :
    (run config {} moves).session.WithinLimit config := by
  have hstart : Consistent {} ∧ WithinLimit config {} :=
    ⟨consistent_initial, by simpa [WithinLimit] using limit_pos config⟩
  refine (run_invariant (P := fun s => s.Consistent ∧ s.WithinLimit config) ?_ moves hstart).2
  rintro s m ⟨h, hcount⟩
  cases m with
  | input input => exact ⟨h.move _, withinLimit_reacts h hcount (handle_reacts config s input)⟩
  | subscriptions table => exact ⟨h.move _, hcount⟩

/-! ### Stretches -/

/-- The input starts a stretch: a user starts or revives the session, or a connection opens. -/
def startsStretch (s : Session) : Input → Bool
  | .connect => s.phase = .disconnected ∨ s.phase = .failed
  | .opened => s.phase = .connecting
  | _ => false

/-- The move ends a stretch: it closes the session or starts another stretch. -/
def interrupts (s : Session) : Move → Bool
  | .input (.close _) => true
  | .input input => s.startsStretch input
  | .subscriptions _ => false

/-- None of these moves ends the stretch. -/
def Uninterrupted (config : SessionConfig) : Session → List Move → Prop
  | _, [] => True
  | s, m :: rest => s.interrupts m = false ∧ Uninterrupted config (s.move config m).session rest

/-- How many failed cycles a move counts. -/
def charge (s : Session) : Move → Nat
  | .input input => if s.charges input then 1 else 0
  | .subscriptions _ => 0

/-- How many failed cycles moves count. -/
def charged (config : SessionConfig) : Session → List Move → Nat
  | _, [] => 0
  | s, m :: rest => s.charge m + charged config (s.move config m).session rest

def delays (effects : List Effect) : List Nat := (Effect.timers effects).map Prod.snd

@[simp] theorem delays_append (first second : List Effect) :
    delays (first ++ second) = delays first ++ delays second := by
  simp [delays]

/-- Timers set so far in a stretch with so many cycles: one for each cycle but the last allowed. -/
def timersDue (s : Session) (cycles : Nat) : Nat :=
  if s.phase = .failed then cycles - 1 else cycles

/-- In a stretch: so many cycles were charged, timers of these delays were set, and so many
attempts were started. -/
structure Paced (config : SessionConfig) (cycles : Nat) (waits : List Nat) (dials : Nat)
    (s : Session) : Prop where
  consistent : s.Consistent
  within : s.WithinLimit config
  started : s.phase ≠ .disconnected
  attempts : s.attempts = cycles
  waits : waits = schedule config (s.timersDue cycles)
  /-- Every timer but one that still runs was followed by an attempt. -/
  dials : dials + (if s.phase = .reconnecting then 1 else 0) = s.timersDue cycles

section Stretch

variable {cycles dials : Nat} {waits : List Nat}

theorem delays_of_tally {step : Step} {timers : List (Nat × Nat)}
    (h : step.Tally timers dials) : delays step.effects = timers.map Prod.snd :=
  congrArg (List.map Prod.snd) h.timers

/-- A move that counts no cycle, sets no timer and starts no attempt, and leaves a running timer
and a failed session alone. -/
theorem Paced.of_idle (h : Paced config cycles waits dials s) {m : Move} {step : Step}
    (htally : step.Tally [] 0) (hcharge : s.charge m = 0)
    (hconsistent : step.session.Consistent) (hwithin : step.session.WithinLimit config)
    (hattempts : step.session.attempts = s.attempts)
    (hphase : step.session.phase ≠ .disconnected ∧
      (step.session.phase = .reconnecting ↔ s.phase = .reconnecting) ∧
      (step.session.phase = .failed ↔ s.phase = .failed)) :
    Paced config (cycles + s.charge m) (waits ++ delays step.effects)
      (dials + Effect.dials step.effects) step.session := by
  obtain ⟨hstarted, hreconnecting, hfailed⟩ := hphase
  rw [hcharge, delays_of_tally htally, htally.dials]
  refine ⟨hconsistent, hwithin, hstarted, hattempts.trans h.attempts, ?_, ?_⟩
  · simpa [timersDue, hfailed] using h.waits
  · simpa [timersDue, hfailed, hreconnecting] using h.dials

theorem Paced.reacts (h : Paced config cycles waits dials s) {input : Input} {step : Step}
    (hreacts : Reacts config s input step) (hgoes : s.interrupts (.input input) = false) :
    Paced config (cycles + s.charge (.input input)) (waits ++ delays step.effects)
      (dials + Effect.dials step.effects) step.session := by
  have hconsistent := h.consistent.reacts hreacts
  have hwithin := withinLimit_reacts h.consistent h.within hreacts
  have hwaits := h.waits
  have hdials := h.dials
  cases hreacts with
  | begins hphase => exact absurd hphase h.started
  | revives hphase => simp [interrupts, startsStretch, hphase] at hgoes
  | shuts ticket => simp [interrupts] at hgoes
  | opens hphase => simp [interrupts, startsStretch, hphase] at hgoes
  | identifies id hphase =>
    refine h.of_idle (tally_identified config id s) rfl hconsistent hwithin ?_ ?_ <;>
      simp [identified_eq, hphase]
  | retries entry hcharges hmax =>
    have hphase := h.consistent.phase_of_charges hcharges
    have hdue : s.timersDue cycles = cycles := by
      rcases hphase with hp | hp <;> simp [timersDue, hp]
    rw [delays_of_tally (tally_retries config s entry), (tally_retries config s entry).dials,
      charge, if_pos hcharges]
    refine ⟨hconsistent, hwithin, ?_, ?_, ?_, ?_⟩
    · simp [Step.andThen, retry]
    · simp [Step.andThen, retry, h.attempts]
    · rw [hwaits, hdue, h.attempts]
      exact (schedule_succ config cycles).symm
    · rw [hdue] at hdials
      rcases hphase with hp | hp <;> simp_all [Step.andThen, retry, timersDue]
  | givesUp entry hcharges hmax =>
    have hphase := h.consistent.phase_of_charges hcharges
    have hdue : s.timersDue cycles = cycles := by
      rcases hphase with hp | hp <;> simp [timersDue, hp]
    rw [delays_of_tally (tally_givesUp config s entry), (tally_givesUp config s entry).dials,
      charge, if_pos hcharges]
    refine ⟨hconsistent, hwithin, ?_, ?_, ?_, ?_⟩
    · simp [Step.andThen, giveUp]
    · simp [Step.andThen, giveUp, h.attempts]
    · -- The last cycle is counted but sets no timer.
      rw [hwaits, hdue]
      simp [Step.andThen, giveUp, timersDue]
    · rw [hdue] at hdials
      rcases hphase with hp | hp <;> simp_all [Step.andThen, giveUp, timersDue]
  | redials timer htimer =>
    have hphase := h.consistent.phase_of_timer htimer
    have htally := tally_beginConnect config { s with reconnect := none }
    have hcharge : s.charge (.input (.reconnectDue timer)) = 0 := rfl
    rw [delays_of_tally htally, htally.dials, hcharge]
    refine ⟨hconsistent, hwithin, ?_, ?_, ?_, ?_⟩
    · simp [beginConnect_eq]
    · simpa [beginConnect_eq] using h.attempts
    · simpa [beginConnect_eq, timersDue, hphase] using hwaits
    · simpa [beginConnect_eq, timersDue, hphase] using hdials
  | @ignores input entries hcharges =>
    refine h.of_idle (tally_logs s entries) ?_ hconsistent hwithin rfl ⟨h.started, Iff.rfl, Iff.rfl⟩
    simp [charge, hcharges]

theorem Paced.move (h : Paced config cycles waits dials s) {m : Move}
    (hgoes : s.interrupts m = false) :
    Paced config (cycles + s.charge m) (waits ++ delays (s.move config m).effects)
      (dials + Effect.dials (s.move config m).effects) (s.move config m).session := by
  cases m with
  | input input => exact h.reacts (handle_reacts config s input) hgoes
  | subscriptions table =>
    exact h.of_idle (tally_logs { s with table } []) rfl (h.consistent.move (.subscriptions table))
      h.within rfl ⟨h.started, Iff.rfl, Iff.rfl⟩

theorem Paced.run (h : Paced config cycles waits dials s) (moves : List Move)
    (hgoes : Uninterrupted config s moves) :
    Paced config (cycles + charged config s moves)
      (waits ++ delays (Session.run config s moves).effects)
      (dials + Effect.dials (Session.run config s moves).effects)
      (Session.run config s moves).session := by
  induction moves generalizing s cycles waits dials with
  | nil => simpa [charged, delays, Effect.timers, Effect.dials] using h
  | cons m rest ih =>
    have hrest := ih (h.move hgoes.1) hgoes.2
    simpa [charged, delays, Nat.add_assoc] using hrest

/-! ### What a stretch amounts to -/

theorem Paced.timersDue_eq (h : Paced config cycles waits dials s) :
    s.timersDue cycles = min cycles (limit config - 1) := by
  have hwithin := h.within
  rw [WithinLimit, h.attempts] at hwithin
  unfold timersDue
  split at hwithin
  next hfailed => rw [if_pos hfailed]; omega
  next hfailed => rw [if_neg hfailed]; omega

theorem Paced.failed_iff (h : Paced config cycles waits dials s) :
    cycles ≤ limit config ∧ (s.phase = .failed ↔ cycles = limit config) := by
  have hwithin := h.within
  rw [WithinLimit, h.attempts] at hwithin
  split at hwithin
  next hfailed => exact ⟨Nat.le_of_eq hwithin, iff_of_true hfailed hwithin⟩
  next hfailed => exact ⟨Nat.le_of_lt hwithin, iff_of_false hfailed (Nat.ne_of_lt hwithin)⟩

theorem Paced.dials_le (h : Paced config cycles waits dials s) : dials ≤ limit config - 1 := by
  have hdials := h.dials
  rw [h.timersDue_eq] at hdials
  omega

end Stretch

theorem paced_fresh (h : s.Consistent) (hphase : s.phase = .connecting)
    (hattempts : s.attempts = 0) : Paced config 0 [] 0 s := by
  refine ⟨h, ?_, by simp [hphase], hattempts, ?_, ?_⟩
  · simpa [WithinLimit, hphase, hattempts] using limit_pos config
  · simp [timersDue, schedule]
  · simp [timersDue, hphase]

/-- A stretch starts with a session that is connecting and counts from zero. -/
theorem Consistent.starts (h : s.Consistent) (config : SessionConfig) {input : Input}
    (hstart : s.startsStretch input) :
    Paced config 0 [] 0 (s.handle config input).session ∧
      (s.handle config input).Tally [] (if s.phase = .connecting then 0 else 1) := by
  have hconsistent : (s.handle config input).session.Consistent := h.move (.input input)
  cases input with
  | connect =>
    have hphase : s.phase = .disconnected ∨ s.phase = .failed := by
      simpa [startsStretch] using hstart
    rcases hphase with hp | hp
    · have heq : s.handle config .connect = beginConnect config s := by
        simp [Session.handle, onConnect, hp]
      rw [heq] at hconsistent ⊢
      refine ⟨paced_fresh hconsistent ?_ ?_, ?_⟩
      · simp [beginConnect_eq]
      · simpa [beginConnect_eq] using (h.cleared hp).1
      · simpa [hp] using tally_beginConnect config s
    · have heq : s.handle config .connect =
          beginConnect config
            { s with
              attempts := 0
              replayPending := config.settings.replaySubscriptions && !s.table.isEmpty } := by
        simp [Session.handle, onConnect, hp]
      rw [heq] at hconsistent ⊢
      refine ⟨paced_fresh hconsistent ?_ ?_, ?_⟩
      · simp [beginConnect_eq]
      · simp [beginConnect_eq]
      · simpa [hp] using tally_beginConnect config _
  | opened =>
    have hp : s.phase = .connecting := by simpa [startsStretch] using hstart
    have heq : s.handle config .opened =
        (cancelReconnect { s with attempts := 0 }).doing [.fetchId s.generation] := by
      simp [Session.handle, onOpened, hp]
    rw [heq] at hconsistent ⊢
    refine ⟨paced_fresh hconsistent ?_ ?_, ?_⟩
    · simp [Step.doing, cancelReconnect_eq, hp]
    · simp [Step.doing, cancelReconnect_eq]
    · simpa [hp] using tally_opens s
  | _ => simp [startsStretch] at hstart

/-- While a timer runs, a failure is not counted and changes nothing. -/
theorem handle_while_waiting {input : Input} (htimer : s.reconnect.isSome)
    (hinput : input = .closed ∨ ∃ generation reason, input = .livenessFailed generation reason) :
    s.charge (.input input) = 0 ∧ (s.handle config input).session = s := by
  have hcharges : s.charges input = false := by
    cases hr : s.reconnect <;> simp_all [charges]
  refine ⟨by simp [charge, hcharges], ?_⟩
  have hreacts := handle_reacts config s input
  generalize s.handle config input = step at hreacts
  rcases hinput with rfl | ⟨generation, reason, rfl⟩
  · cases hreacts with
    | ignores => rfl
    | _ => simp_all
  · cases hreacts with
    | ignores => rfl
    | _ => simp_all

/-- The count of failed cycles is below the limit until the session gives up. A stretch that a
user's connect starts has at most as many attempts as the limit says, one that an opened connection
starts has one less; the session gives up exactly with the last cycle that is allowed, and no
attempt follows. The first timer of a stretch has a delay of its own, and failures while a timer
runs are not counted. -/
theorem attempts_bounded (config : SessionConfig) (before : List Move) :
    let s := (run config {} before).session
    (s.phase ≠ .failed → s.attempts < limit config) ∧
    (s.phase = .failed → s.attempts = limit config) ∧
    (config.settings.maxReconnectAttempts < UInt32.size → s.attempts < UInt32.size) ∧
    (∀ input, s.reconnect.isSome →
      (input = .closed ∨ ∃ generation reason, input = .livenessFailed generation reason) →
        s.charge (.input input) = 0 ∧ (s.handle config input).session = s) ∧
    ∀ start rest, s.startsStretch start →
      let first := s.handle config start
      Uninterrupted config first.session rest →
      let stretch := run config first.session rest
      let cycles := charged config first.session rest
      Effect.dials first.effects = (if s.phase = .connecting then 0 else 1) ∧
      Effect.dials stretch.effects ≤ limit config - 1 ∧
      Effect.dials (first.effects ++ stretch.effects) ≤ limit config ∧
      stretch.session.attempts = cycles ∧ cycles ≤ limit config ∧
      (stretch.session.phase = .failed ↔ cycles = limit config) ∧
      delays (first.effects ++ stretch.effects) =
        schedule config (min cycles (limit config - 1)) ∧
      (stretch.session.phase = .failed → ∀ later, Uninterrupted config stretch.session later →
        Effect.dials (run config stretch.session later).effects = 0) := by
  intro s
  have hconsistent : s.Consistent := consistent_initial.run before
  have hwithin : s.WithinLimit config := withinLimit_run config before
  have hle : s.attempts ≤ limit config := by
    unfold WithinLimit at hwithin
    split at hwithin <;> omega
  refine ⟨?_, ?_, ?_, fun input => handle_while_waiting, ?_⟩
  · intro hphase
    simpa [WithinLimit, hphase] using hwithin
  · intro hphase
    simpa [WithinLimit, hphase] using hwithin
  · intro hmax
    have hword : UInt32.size = 4294967296 := rfl
    unfold limit at hle
    omega
  · intro start rest hstart first hgoes stretch cycles
    obtain ⟨hfresh, htally⟩ := hconsistent.starts config hstart
    have hpaced : Paced config cycles (delays stretch.effects) (Effect.dials stretch.effects)
        stretch.session := by
      simpa using hfresh.run rest hgoes
    obtain ⟨hcycles, hfailed⟩ := hpaced.failed_iff
    refine ⟨htally.dials, hpaced.dials_le, ?_, hpaced.attempts, hcycles, hfailed, ?_, ?_⟩
    · have hdials := hpaced.dials_le
      have hpos := limit_pos config
      rw [Effect.dials_append, htally.dials]
      split <;> omega
    · rw [delays_append, delays_of_tally htally, hpaced.waits, hpaced.timersDue_eq]
      rfl
    · intro hphase later hlater
      -- The stretch has dialed as often as it may, and what follows only makes it longer.
      have hmore := (hpaced.run later hlater).dials_le
      have hdials := hpaced.dials
      rw [hpaced.timersDue_eq, hfailed.mp hphase, if_neg (by simp [hphase])] at hdials
      omega

end WorkspaceLink.Session
