import WorkspaceLink.Session.Core

/-!
# What a session does with an input

The parts of a step are given in closed form, and `handle_reacts` says in which of nine ways a
session reacts to an input, and when. Everything that holds along a run is derived from it.

A session moves when it handles an input, and when its users change the table of subscriptions
between two inputs.
-/
namespace WorkspaceLink.Session

variable {config : SessionConfig} {s : Session}

/-! ### Parts of a step -/

/-- What entering a phase brings about. -/
def transition (config : SessionConfig) (source target : Phase) : List Effect :=
  if source = target then []
  else
    [entry config .debug "state change" [("from", source.name), ("to", target.name)],
      .publish target]

theorem enter_eq (config : SessionConfig) (phase : Phase) (s : Session) :
    enter config phase s = ⟨{ s with phase }, transition config s.phase phase⟩ := by
  unfold enter transition
  split
  next h => rw [← h]
  next => rfl

theorem cancelAttempt_eq (s : Session) :
    cancelAttempt s = ⟨{ s with attempt := none }, (s.attempt.map Effect.cancel).toList⟩ := by
  unfold cancelAttempt
  split
  next h => simp [h]
  next h =>
    simp only [h, Option.map_none, Option.toList_none]
    rw [← h]

theorem stopLiveness_eq (s : Session) :
    stopLiveness s = ⟨{ s with liveness := none }, (s.liveness.map Effect.cancel).toList⟩ := by
  unfold stopLiveness
  split
  next h => simp [h]
  next h =>
    simp only [h, Option.map_none, Option.toList_none]
    rw [← h]

theorem cancelReconnect_eq (s : Session) :
    cancelReconnect s =
      ⟨{ s with reconnect := none }, (s.reconnect.map Effect.cancelTimer).toList⟩ := by
  unfold cancelReconnect
  split
  next h => simp [h]
  next h =>
    simp only [h, Option.map_none, Option.toList_none]
    rw [← h]

theorem beginConnect_eq (config : SessionConfig) (s : Session) :
    beginConnect config s =
      ⟨{ s with
          phase := .connecting, generation := s.generation + 1
          attempt := some s.nextToken, nextToken := s.nextToken + 1 },
        (s.attempt.map Effect.cancel).toList ++ transition config s.phase .connecting ++
          [.attempt s.nextToken (s.generation + 1) s.clientId]⟩ := by
  simp only [beginConnect, cancelAttempt_eq, enter_eq, Step.andThen]

theorem startLiveness_eq (s : Session) :
    startLiveness s =
      ⟨{ s with liveness := some s.nextToken, nextToken := s.nextToken + 1 },
        (s.liveness.map Effect.cancel).toList ++ [.probe s.nextToken s.generation]⟩ := by
  simp only [startLiveness, stopLiveness_eq, Step.andThen]

theorem shut_eq (config : SessionConfig) (s : Session) :
    shut config s =
      ⟨{ s with
          phase := .disconnected, clientId := none, generation := s.generation + 1, attempts := 0
          attempt := none, reconnect := none, liveness := none, replayPending := false
          table := [] },
        (s.reconnect.map Effect.cancelTimer).toList ++ (s.liveness.map Effect.cancel).toList ++
          (s.attempt.map Effect.cancel).toList ++ [.disconnect, .clearHandlers] ++
          transition config s.phase .disconnected ++ [entry config .info "session closed" []]⟩ := by
  simp only [shut, stopTasks, cancelReconnect_eq, stopLiveness_eq, cancelAttempt_eq, enter_eq,
    Step.andThen, Step.doing]

/-- The topics that are asked for again, if that is pending. -/
def replays (config : SessionConfig) (s : Session) : List Effect :=
  if s.replayPending then
    [entry config .info "replaying subscriptions" [("count", Nat.repr s.table.length)],
      .replay (SubscriptionTable.topics s.table)]
  else []

theorem replayIfPending_eq (config : SessionConfig) (s : Session) :
    replayIfPending config s = ⟨{ s with replayPending := false }, replays config s⟩ := by
  unfold replayIfPending replays
  split
  next => rfl
  next h => rw [Bool.not_eq_true] at h; rw [← h]

theorem identified_eq (config : SessionConfig) (id : ClientId) (s : Session) :
    identified config id s =
      ⟨{ s with
          phase := .connected, clientId := some id, liveness := some s.nextToken
          nextToken := s.nextToken + 1, replayPending := false },
        [entry config .info "connected" [("client_id", id.text)]] ++
          transition config s.phase .connected ++ ((s.liveness.map Effect.cancel).toList ++
          [.probe s.nextToken s.generation]) ++ replays config s⟩ := by
  simp only [identified, enter_eq, startLiveness_eq, replayIfPending_eq, Step.andThen, replays]

/-- A failed cycle that is the last one allowed. -/
def giveUp (config : SessionConfig) (s : Session) : Step :=
  ⟨{ s with phase := .failed, attempts := s.attempts + 1, liveness := none, attempt := none },
    (s.liveness.map Effect.cancel).toList ++ ((s.attempt.map Effect.cancel).toList ++
      transition config s.phase .failed ++
      [entry config .warn "giving up after max reconnect attempts"
        [("attempts", Nat.repr (s.attempts + 1))]])⟩

/-- A failed cycle after which a timer is set. -/
def retry (config : SessionConfig) (s : Session) : Step :=
  let delay := config.settings.reconnectDelay (s.attempts + 1)
  ⟨{ s with
      phase := .reconnecting, attempts := s.attempts + 1, liveness := none
      lastTimer := s.lastTimer + 1, reconnect := some (s.lastTimer + 1) },
    (s.liveness.map Effect.cancel).toList ++ (transition config s.phase .reconnecting ++
      [entry config .warn "scheduling reconnect"
        [("attempt", Nat.repr (s.attempts + 1)), ("delay_ms", Nat.repr delay)]] ++
      [.timer (s.lastTimer + 1) delay])⟩

theorem reconnectCycle_eq (config : SessionConfig) (s : Session) :
    reconnectCycle config s =
      if s.reconnect.isSome then ⟨s, []⟩
      else if config.settings.maxReconnectAttempts ≤ s.attempts + 1 then giveUp config s
      else retry config s := by
  unfold reconnectCycle
  split
  · rfl
  · simp only [stopLiveness_eq, Step.andThen]
    split
    · simp only [giveUp, cancelAttempt_eq, enter_eq, Step.doing]
    · simp only [retry, enter_eq, Step.doing]

/-! ### Reactions -/

/-- The input reports that the connection, or the attempt to open one, failed. -/
def reportsFailure (s : Session) : Input → Bool
  | .closed => s.phase ≠ .disconnected ∧ s.phase ≠ .failed
  | .clientId generation (.error _) => generation = s.generation ∧ s.phase = .connecting
  | .livenessFailed generation _ => generation = s.generation ∧ s.phase = .connected
  | _ => false

/-- The input reports a failure that counts as a failed cycle: no timer runs yet. -/
def charges (s : Session) (input : Input) : Bool :=
  s.reportsFailure input && s.reconnect.isNone

/-- How a session reacts to an input. -/
inductive Reacts (config : SessionConfig) (s : Session) : Input → Step → Prop where
  | begins (hphase : s.phase = .disconnected) : Reacts config s .connect (beginConnect config s)
  | revives (hphase : s.phase = .failed) :
    Reacts config s .connect
      (beginConnect config
        { s with
          attempts := 0
          replayPending := config.settings.replaySubscriptions && !s.table.isEmpty })
  | shuts (ticket : Nat) :
    Reacts config s (.close ticket) ((shut config s).doing [.confirmClose ticket])
  | opens (hphase : s.phase = .connecting) :
    Reacts config s .opened
      ((cancelReconnect { s with attempts := 0 }).doing [.fetchId s.generation])
  | identifies (id : ClientId) (hphase : s.phase = .connecting) :
    Reacts config s (.clientId s.generation (.ok id)) (identified config id s)
  | retries {input : Input} (entry : LogEntry) (hcharges : s.charges input)
    (hmax : s.attempts + 1 < config.settings.maxReconnectAttempts) :
    Reacts config s input ((Step.mk s [.log entry]).andThen (retry config))
  | givesUp {input : Input} (entry : LogEntry) (hcharges : s.charges input)
    (hmax : config.settings.maxReconnectAttempts ≤ s.attempts + 1) :
    Reacts config s input ((Step.mk s [.log entry]).andThen (giveUp config))
  | redials (timer : Nat) (htimer : s.reconnect = some timer) :
    Reacts config s (.reconnectDue timer) (beginConnect config { s with reconnect := none })
  /-- Nothing but entries in the log. -/
  | ignores {input : Input} (entries : List LogEntry) (hcharges : s.charges input = false)
    (hconnect : input = .connect → s.phase ≠ .disconnected ∧ s.phase ≠ .failed)
    (hopened : input = .opened → s.phase ≠ .connecting)
    (hclose : ∀ ticket, input ≠ .close ticket)
    (hid : ∀ id, input = .clientId s.generation (.ok id) → s.phase ≠ .connecting)
    (hdue : ∀ timer, input = .reconnectDue timer → s.reconnect ≠ some timer) :
    Reacts config s input ⟨s, entries.map .log⟩

theorem not_charges {input : Input} (h : s.reportsFailure input = false) :
    s.charges input = false := by
  simp [charges, h]

/-- A report of a failure starts a cycle, which counts unless a timer runs. -/
theorem reacts_failure {input : Input} (entry : LogEntry) (h : s.reportsFailure input) :
    Reacts config s input ((Step.mk s [.log entry]).andThen (reconnectCycle config)) := by
  by_cases htimer : s.reconnect.isSome
  · have heq : (Step.mk s [.log entry]).andThen (reconnectCycle config) =
        ⟨s, [entry].map Effect.log⟩ := by
      simp [Step.andThen, reconnectCycle_eq, htimer]
    rw [heq]
    refine .ignores [entry] ?_ ?_ ?_ ?_ ?_ ?_
    · cases hr : s.reconnect <;> simp_all [charges]
    · rintro rfl
      simp [reportsFailure] at h
    · rintro rfl
      simp [reportsFailure] at h
    · rintro ticket rfl
      simp [reportsFailure] at h
    · rintro id rfl
      simp [reportsFailure] at h
    · rintro timer rfl
      simp [reportsFailure] at h
  · have hnone : s.reconnect = none := by simpa using htimer
    have hcharges : s.charges input := by simp [charges, h, hnone]
    by_cases hmax : config.settings.maxReconnectAttempts ≤ s.attempts + 1
    · have heq : (Step.mk s [.log entry]).andThen (reconnectCycle config) =
          (Step.mk s [.log entry]).andThen (giveUp config) := by
        simp [Step.andThen, reconnectCycle_eq, hnone, hmax]
      rw [heq]
      exact .givesUp entry hcharges hmax
    · have heq : (Step.mk s [.log entry]).andThen (reconnectCycle config) =
          (Step.mk s [.log entry]).andThen (retry config) := by
        simp [Step.andThen, reconnectCycle_eq, hnone, hmax]
      rw [heq]
      exact .retries entry hcharges (Nat.lt_of_not_le hmax)

/-- A session reacts to every input in one of these ways. -/
theorem handle_reacts (config : SessionConfig) (s : Session) (input : Input) :
    Reacts config s input (s.handle config input) := by
  cases input with
  | connect =>
    simp only [handle, onConnect]
    split
    next h => exact .begins h
    next h => exact .revives h
    next hd hf => exact .ignores [] rfl (fun _ => ⟨hd, hf⟩) nofun nofun nofun nofun
  | close ticket => exact .shuts ticket
  | opened =>
    simp only [handle, onOpened]
    split
    next h => exact .opens h
    next h => exact .ignores [] rfl nofun (fun _ => h) nofun nofun nofun
  | closed =>
    simp only [handle, onClosed]
    split
    next h =>
      refine .ignores [] (not_charges ?_) nofun nofun nofun nofun nofun
      simp [reportsFailure, h]
    next h =>
      refine .ignores [] (not_charges ?_) nofun nofun nofun nofun nofun
      simp [reportsFailure, h]
    next hd hf => exact reacts_failure _ (by simpa [reportsFailure] using ⟨hd, hf⟩)
  | clientId generation result =>
    simp only [handle, onClientId]
    split
    next h =>
      obtain ⟨rfl, hphase⟩ := h
      cases result with
      | ok id => exact .identifies id hphase
      | error error => exact reacts_failure _ (by simp [reportsFailure, hphase])
    next h =>
      refine .ignores [] (not_charges ?_) nofun nofun nofun ?_ nofun
      · cases result with
        | ok id => rfl
        | error error => simpa [reportsFailure] using h
      · intro id heq hphase
        obtain ⟨rfl, _⟩ := Input.clientId.inj heq
        exact h ⟨rfl, hphase⟩
  | livenessFailed generation reason =>
    simp only [handle, onLivenessFailed]
    split
    next h => exact reacts_failure _ (by simpa [reportsFailure] using h)
    next h =>
      refine .ignores [] (not_charges ?_) nofun nofun nofun nofun nofun
      simpa [reportsFailure] using h
  | reconnectDue timer =>
    simp only [handle, onReconnectDue]
    split
    next h => exact .redials timer h
    next h =>
      refine .ignores [] rfl nofun nofun nofun nofun ?_
      intro other heq
      obtain rfl := Input.reconnectDue.inj heq
      exact h

/-! ### Moves -/

/-- What can happen to a session. -/
inductive Move where
  | input (input : Input)
  /-- Users subscribe and unsubscribe. -/
  | subscriptions (table : SubscriptionTable)

def move (config : SessionConfig) (s : Session) : Move → Step
  | .input input => s.handle config input
  | .subscriptions table => ⟨{ s with table }, []⟩

def run (config : SessionConfig) : Session → List Move → Step
  | s, [] => ⟨s, []⟩
  | s, m :: rest => (s.move config m).andThen fun s => run config s rest

@[simp] theorem run_nil (config : SessionConfig) (s : Session) : run config s [] = ⟨s, []⟩ := rfl

@[simp] theorem run_cons_session (config : SessionConfig) (s : Session) (m : Move)
    (rest : List Move) :
    (run config s (m :: rest)).session = (run config (s.move config m).session rest).session := rfl

@[simp] theorem run_cons_effects (config : SessionConfig) (s : Session) (m : Move)
    (rest : List Move) :
    (run config s (m :: rest)).effects =
      (s.move config m).effects ++ (run config (s.move config m).session rest).effects := rfl

theorem run_append (config : SessionConfig) (s : Session) (first second : List Move) :
    run config s (first ++ second) =
      (run config s first).andThen fun s => run config s second := by
  induction first generalizing s with
  | nil => rfl
  | cons m rest ih => simp [run, ih, Step.andThen, List.append_assoc]

/-- What every move keeps, every run keeps. -/
theorem run_invariant {P : Session → Prop} (hmove : ∀ s m, P s → P (s.move config m).session)
    (moves : List Move) (h : P s) : P (run config s moves).session := by
  induction moves generalizing s with
  | nil => exact h
  | cons m rest ih => exact ih (hmove s m h)

end WorkspaceLink.Session
