import WorkspaceLink.Log
import WorkspaceLink.Session.Liveness
import WorkspaceLink.Session.Phase
import WorkspaceLink.Session.Table
import WorkspaceLink.Settings.Basic

/-!
# The state machine of a session

Everything that happens to a session reaches it as an input, one at a time: commands of its users,
the opening and closing of the connection, and the results of the tasks it started. Handling an
input changes the session and names what is to be done: tasks to start or stop, entries to log, a
phase to publish. Results of tasks carry the generation of the connection they belong to, so that
what concerns an abandoned connection is recognised.
-/
namespace WorkspaceLink

/-- What happens to a session. -/
inductive Input where
  | connect
  /-- Close, and tell the holder of the ticket when it is done. -/
  | close (ticket : Nat)
  | opened
  | closed
  | clientId (generation : Nat) (result : Except ProbeError ClientId)
  | livenessFailed (generation : Nat) (reason : String)
  | reconnectDue (timer : Nat)

/-- What is to be done after an input. -/
inductive Effect where
  | log (entry : LogEntry)
  /-- The session entered this phase. -/
  | publish (phase : Phase)
  /-- Open a connection that presents this client identifier. -/
  | attempt (token generation : Nat) (clientId : Option ClientId)
  /-- Ask the server for the identifier of the connection. -/
  | fetchId (generation : Nat)
  | probe (token generation : Nat)
  | timer (number delayMs : Nat)
  /-- Stop the attempt or the probes with this token. -/
  | cancel (token : Nat)
  | cancelTimer (number : Nat)
  /-- Ask the server again for these topics. -/
  | replay (topics : List Topic)
  | disconnect
  | clearHandlers
  /-- The close with this ticket is done. -/
  | confirmClose (ticket : Nat)

/-- What does not change in the life of a session. -/
structure SessionConfig where
  entrypoint : String
  settings : SessionSettings := {}
  deriving DecidableEq, Repr, Inhabited

structure Session where
  phase : Phase := .disconnected
  /-- The identifier that the server gave last. -/
  clientId : Option ClientId := none
  /-- Grows with every connection attempt and every close. -/
  generation : Nat := 0
  /-- Failed cycles since the last opening. -/
  attempts : Nat := 0
  /-- The token of the next attempt or series of probes. -/
  nextToken : Nat := 0
  /-- The number of the latest timer. -/
  lastTimer : Nat := 0
  attempt : Option Nat := none
  reconnect : Option Nat := none
  liveness : Option Nat := none
  /-- Ask again for all topics when the session is connected next. -/
  replayPending : Bool := false
  table : SubscriptionTable := []
  deriving DecidableEq, Repr, Inhabited

namespace Session

/-- A session after a step, and what is to be done. -/
structure Step where
  session : Session
  effects : List Effect := []

def Step.andThen (step : Step) (next : Session → Step) : Step :=
  let after := next step.session
  ⟨after.session, step.effects ++ after.effects⟩

def Step.doing (step : Step) (effects : List Effect) : Step :=
  ⟨step.session, step.effects ++ effects⟩

/-! ### Log entries -/

def entry (config : SessionConfig) (level : Level) (message : String)
    (fields : List (String × String)) : Effect :=
  .log {
    level, message
    target := "che_session::manager"
    fields := ("entrypoint", config.entrypoint) :: fields }

/-! ### Parts of a step -/

/-- Enter a phase; nothing is published if the session is in it already. -/
def enter (config : SessionConfig) (phase : Phase) (s : Session) : Step :=
  if s.phase = phase then ⟨s, []⟩
  else
    ⟨{ s with phase },
      [entry config .debug "state change" [("from", s.phase.name), ("to", phase.name)],
        .publish phase]⟩

def cancelAttempt (s : Session) : Step :=
  match s.attempt with
  | some token => ⟨{ s with attempt := none }, [.cancel token]⟩
  | none => ⟨s, []⟩

def stopLiveness (s : Session) : Step :=
  match s.liveness with
  | some token => ⟨{ s with liveness := none }, [.cancel token]⟩
  | none => ⟨s, []⟩

def cancelReconnect (s : Session) : Step :=
  match s.reconnect with
  | some number => ⟨{ s with reconnect := none }, [.cancelTimer number]⟩
  | none => ⟨s, []⟩

def stopTasks (s : Session) : Step :=
  ((cancelReconnect s).andThen stopLiveness).andThen cancelAttempt

/-- Start a connection attempt of a new generation. -/
def beginConnect (config : SessionConfig) (s : Session) : Step :=
  ((cancelAttempt { s with generation := s.generation + 1 }).andThen
    (enter config .connecting)).andThen fun s =>
      ⟨{ s with attempt := some s.nextToken, nextToken := s.nextToken + 1 },
        [.attempt s.nextToken s.generation s.clientId]⟩

/-- Start the probes of an identified connection. -/
def startLiveness (s : Session) : Step :=
  (stopLiveness s).andThen fun s =>
    ⟨{ s with liveness := some s.nextToken, nextToken := s.nextToken + 1 },
      [.probe s.nextToken s.generation]⟩

/-- The connection failed in some way: wait and try again, or give up. A failure while a timer runs
changes nothing. -/
def reconnectCycle (config : SessionConfig) (s : Session) : Step :=
  if s.reconnect.isSome then ⟨s, []⟩
  else
    (stopLiveness { s with attempts := s.attempts + 1 }).andThen fun s =>
      if config.settings.maxReconnectAttempts ≤ s.attempts then
        ((cancelAttempt s).andThen (enter config .failed)).doing
          [entry config .warn "giving up after max reconnect attempts"
            [("attempts", Nat.repr s.attempts)]]
      else
        let delay := config.settings.reconnectDelay s.attempts
        ((enter config .reconnecting s).doing
          [entry config .warn "scheduling reconnect"
            [("attempt", Nat.repr s.attempts), ("delay_ms", Nat.repr delay)]]).andThen
          fun s =>
            ⟨{ s with lastTimer := s.lastTimer + 1, reconnect := some (s.lastTimer + 1) },
              [.timer (s.lastTimer + 1) delay]⟩

/-- Forget everything: tasks, identifier, subscriptions. -/
def shut (config : SessionConfig) (s : Session) : Step :=
  (((stopTasks s).andThen fun s =>
      ⟨{ s with
          generation := s.generation + 1, attempts := 0, replayPending := false,
          clientId := none, table := [] },
        [.disconnect, .clearHandlers]⟩).andThen (enter config .disconnected)).doing
    [entry config .info "session closed" []]

/-- Ask again for every topic, if that is pending. -/
def replayIfPending (config : SessionConfig) (s : Session) : Step :=
  if s.replayPending then
    ⟨{ s with replayPending := false },
      [entry config .info "replaying subscriptions" [("count", Nat.repr s.table.length)],
        .replay (SubscriptionTable.topics s.table)]⟩
  else ⟨s, []⟩

/-- The server told the identifier of the connection. -/
def identified (config : SessionConfig) (id : ClientId) (s : Session) : Step :=
  (((Step.mk { s with clientId := some id }
      [entry config .info "connected" [("client_id", id.text)]]).andThen
        (enter config .connected)).andThen startLiveness).andThen (replayIfPending config)

/-! ### Inputs -/

def onConnect (config : SessionConfig) (s : Session) : Step :=
  match s.phase with
  | .disconnected => beginConnect config s
  | .failed =>
    beginConnect config
      { s with
        attempts := 0
        replayPending := config.settings.replaySubscriptions && !s.table.isEmpty }
  | _ => ⟨s, []⟩

def onOpened (s : Session) : Step :=
  if s.phase = .connecting then
    (cancelReconnect { s with attempts := 0 }).doing [.fetchId s.generation]
  else ⟨s, []⟩

def onClosed (config : SessionConfig) (s : Session) : Step :=
  match s.phase with
  | .disconnected | .failed => ⟨s, []⟩
  | _ =>
    (Step.mk s [entry config .warn "connection closed" []]).andThen (reconnectCycle config)

def onClientId (config : SessionConfig) (generation : Nat) (result : Except ProbeError ClientId)
    (s : Session) : Step :=
  if generation = s.generation ∧ s.phase = .connecting then
    match result with
    | .ok id => identified config id s
    | .error error =>
      (Step.mk s [entry config .warn "client id fetch failed" [("error", error.message)]]).andThen
        (reconnectCycle config)
  else ⟨s, []⟩

def onLivenessFailed (config : SessionConfig) (generation : Nat) (reason : String)
    (s : Session) : Step :=
  if generation = s.generation ∧ s.phase = .connected then
    (Step.mk s [entry config .warn "liveness check failed" [("reason", reason)]]).andThen
      (reconnectCycle config)
  else ⟨s, []⟩

def onReconnectDue (config : SessionConfig) (timer : Nat) (s : Session) : Step :=
  if s.reconnect = some timer then beginConnect config { s with reconnect := none }
  else ⟨s, []⟩

def handle (config : SessionConfig) (s : Session) : Input → Step
  | .connect => onConnect config s
  | .close ticket => (shut config s).doing [.confirmClose ticket]
  | .opened => onOpened s
  | .closed => onClosed config s
  | .clientId generation result => onClientId config generation result s
  | .livenessFailed generation reason => onLivenessFailed config generation reason s
  | .reconnectDue timer => onReconnectDue config timer s

def summary (config : SessionConfig) (s : Session) : String :=
  let id := match s.clientId with
    | some id => "Some(ClientId(" ++ Text.quoted id.text ++ "))"
    | none => "None"
  "SessionManager \x7b entrypoint: " ++ Text.quoted config.entrypoint ++ ", state: " ++
    s.phase.title ++ ", client_id: " ++ id ++ ", .. \x7d"

end Session

end WorkspaceLink
