import WorkspaceLink.Link.Task
import WorkspaceLink.Transport.Scripted

/-!
# A connection and everything around it

A link is one transport with its listeners, the client on it, the session that keeps it alive, the
status waiter, and the tasks that work for them. Its operations are what a running task can do: send
and receive, emit events, start and stop tasks, raise signals. An operation never runs another task;
it only notes which tasks were woken.
-/
namespace WorkspaceLink

/-- Tokens for the connection attempts to come, the last one for all that follow. -/
structure TokenSource where
  upcoming : List (Option String) := []
  deriving DecidableEq, Repr, Inhabited

def TokenSource.next (source : TokenSource) : Option String × TokenSource :=
  match source.upcoming with
  | [] => (none, source)
  | [token] => (token, source)
  | token :: rest => (token, ⟨rest⟩)

/-- What all links have in common: the time in milliseconds, the tokens, and a count of the alarms
that were set. -/
structure Ambient where
  clock : Nat := 0
  tokens : TokenSource := {}
  alarms : Nat := 0
  deriving Inhabited

inductive Carrier where
  | scripted (transport : Scripted)
  | socket (transport : Socket)

instance : Inhabited Carrier := ⟨.scripted {}⟩

inductive Listener where
  | client
  | session
  /-- Notes events under a label. -/
  | recorder (label : String)
  deriving DecidableEq, Repr

/-- What users of a link come to see, in order. -/
inductive Note where
  /-- A subscriber got an event. -/
  | event (label : String) (payload : Json)
  /-- A listener heard an event. -/
  | transport (label : String) (event : TransportEvent)
  /-- A line was printed. -/
  | line (text : String)

/-- A task is to be woken at a time; `order` counts the alarms in the order they were set. -/
structure Alarm where
  task : Nat
  due : Nat
  order : Nat
  deriving DecidableEq, Repr

structure Link where
  ambient : Ambient := {}
  config : SessionConfig := { entrypoint := "" }
  carrier : Carrier := default
  listeners : Registry EventKind Listener := {}
  /-- Registrations of the client and of the session on the transport. -/
  clientListeners : List (EventKind × HandlerId) := []
  sessionListeners : List (EventKind × HandlerId) := []
  client : Client Subscriber := {}
  session : Session := {}
  /-- Inputs that the session has not handled. -/
  inputs : List Input := []
  /-- The task that handles them was started. -/
  driving : Bool := false
  /-- How often the phase changed. -/
  version : Nat := 0
  waiter : StatusWaiter := {}
  tasks : List (Nat × Task) := []
  nextTask : Nat := 0
  alarms : List Alarm := []
  /-- Tasks that were woken since the list was last emptied. -/
  woken : List Nat := []
  /-- Answers that nobody has taken yet. -/
  answers : List (Nat × Answer) := []
  closesDone : List Nat := []
  statuses : List (Nat × StatusResult) := []
  cancelledTokens : List Nat := []
  cancelledTimers : List Nat := []
  released : Bool := false
  /-- Handshakes that ended, with their failure if they failed. -/
  handshakeResults : List (Nat × Option String) := []
  /-- What arrived on sockets and was not taken in. -/
  inbox : List (Nat × Inbound) := []
  /-- What was written to sockets. -/
  wire : List (Nat × Json) := []
  log : List LogEntry := []
  notes : List Note := []
  finished : List (Nat × Outcome) := []
  deriving Inhabited

namespace Link

/-! ### Tasks, signals and time -/

def now (link : Link) : Nat := link.ambient.clock

def task? (link : Link) (id : Nat) : Option Task := link.tasks.lookup id

/-- Wake every task that waits for a signal. -/
def raise (signal : Signal) (link : Link) : Link :=
  { link with
    woken := link.woken ++
      (link.tasks.filter fun entry => entry.2.awaits entry.1 signal).map Prod.fst }

/-- Start a task. It runs later. -/
def spawn (task : Task) (link : Link) : Link :=
  { link with
    tasks := link.tasks ++ [(link.nextTask, task)]
    nextTask := link.nextTask + 1
    woken := link.woken ++ [link.nextTask] }

/-- A task goes on waiting, from another place. -/
def setTask (id : Nat) (task : Task) (link : Link) : Link :=
  { link with
    tasks := link.tasks.map fun entry => if entry.1 = id then (id, task) else entry }

/-- A task is to be woken at a time, and at no other. -/
def arm (id due : Nat) (link : Link) : Link :=
  { link with
    alarms := link.alarms.filter (fun alarm => alarm.task ≠ id) ++
      [⟨id, due, link.ambient.alarms⟩]
    ambient := { link.ambient with alarms := link.ambient.alarms + 1 } }

/-- A task is no longer woken by time. -/
def disarm (id : Nat) (link : Link) : Link :=
  { link with alarms := link.alarms.filter fun alarm => alarm.task ≠ id }

def endTask (id : Nat) (link : Link) : Link :=
  { link.disarm id with tasks := link.tasks.filter fun entry => entry.1 ≠ id }

def finish (id : Nat) (outcome : Outcome) (link : Link) : Link :=
  { link.endTask id with finished := link.finished ++ [(id, outcome)] }

def pushInput (input : Input) (link : Link) : Link :=
  raise .input { link with inputs := link.inputs ++ [input] }

/-! ### What listeners and subscribers do -/

/-- Add to what users come to see. -/
def addNote (note : Note) (link : Link) : Link := { link with notes := link.notes ++ [note] }

/-- Waits for a status end. -/
def settleStatuses (settled : StatusWaiter.Settled) (link : Link) : Link :=
  settled.foldl
    (fun link entry =>
      raise (.statusSettled entry.1) { link with statuses := link.statuses ++ [entry] })
    link

def noteStatus (event : WorkspaceStatusEvent) (link : Link) : Link :=
  let (waiter, settled) := link.waiter.handle event
  settleStatuses settled { link with waiter }

def deliver (sink : Sink) (event : ChannelEvent) (link : Link) : Link :=
  match sink with
  | .record label => link.addNote (.event label event.toJson)
  | .print => link.addNote (.line event.line)
  | .waiter =>
    match event with
    | .workspaceStatus event => link.noteStatus event
    | _ => link

def hear (subscriber : Subscriber) (params : Json) (link : Link) : Link :=
  match subscriber.selection.accept? params with
  | some event => link.deliver subscriber.sink event
  | none => link

/-- How the client acts on the rest of the link. -/
def host : ClientHost Subscriber Link where
  invoke subscriber params state := (state.1, state.2.hear subscriber params)
  settle number answer link :=
    raise (.answered number) { link with answers := link.answers ++ [(number, answer)] }

def withClient (act : Client Subscriber × Link → Client Subscriber × Link) (link : Link) : Link :=
  let (client, link) := act (link.client, link)
  { link with client }

def clientHears (event : TransportEvent) (link : Link) : Link :=
  link.withClient (Client.hear host event)

def sessionHears (event : TransportEvent) (link : Link) : Link :=
  match event with
  | .opened => link.pushInput .opened
  | .closed _ _ => link.pushInput .closed
  | _ => link

def listen (event : TransportEvent) (listener : Listener) (link : Link) : Link :=
  match listener with
  | .client => link.clientHears event
  | .session => link.sessionHears event
  | .recorder label => link.addNote (.transport label event)

def emit (event : TransportEvent) (link : Link) : Link :=
  link.listeners.dispatch event.kind (listen event) link

def emitAll (events : List TransportEvent) (link : Link) : Link :=
  events.foldl (fun link event => link.emit event) link

/-! ### The transport -/

/-- Change a scripted transport and emit the events of that. -/
def script (act : Scripted → Scripted × List TransportEvent) (link : Link) : Link :=
  match link.carrier with
  | .scripted t =>
    let (t, events) := act t
    emitAll events { link with carrier := .scripted t }
  | .socket _ => link

/-- Wake the tasks of all sockets. -/
def raiseTraffic (link : Link) : Link :=
  match link.carrier with
  | .scripted _ => link
  | .socket t => t.streams.foldl (fun link s => link.raise (.traffic s.generation)) link

/-- Put a socket transport in its new state and emit the events of that. -/
def updateSocket (t : Socket) (emissions : List Emission) (link : Link) : Link :=
  emitAll (emissions.map (·.event)) (raiseTraffic { link with carrier := .socket t })

def send (message : Json) (link : Link) : Link :=
  match link.carrier with
  | .scripted t =>
    let (t, events) := t.send message
    emitAll events { link with carrier := .scripted t }
  | .socket t =>
    let (t, delivery?) := t.send message
    let link := link.updateSocket t []
    match delivery? with
    | some delivery => link.spawn (.delivery delivery)
    | none => link

/-- Close the connection from this side. -/
def disconnect (link : Link) : Link :=
  match link.carrier with
  | .scripted _ => link.script Scripted.disconnect
  | .socket t =>
    let (t, emissions) := t.disconnect
    link.updateSocket t emissions

/-! ### Requests -/

/-- Send a request; its answer may be there at once. -/
def request (method : String) (params : Option Json) (link : Link) : Nat × Link :=
  let (number, client) := link.client.issue
  (number, send (Message.request (Client.idText number) method params) { link with client })

def answer? (link : Link) (number : Nat) : Option Answer := link.answers.lookup number

/-- Nobody waits for the answer of a request any more. -/
def forget (number : Nat) (link : Link) : Link :=
  { link with
    client := link.client.forget number
    answers := link.answers.filter fun entry => entry.1 ≠ number }

def notify (method : String) (params : Option Json) (link : Link) : Link :=
  link.send (Message.notification method params)

def addHandler (method : String) (subscriber : Subscriber) (link : Link) : HandlerId × Link :=
  let (id, handlers) := link.client.handlers.add method subscriber
  (id, { link with client := { link.client with handlers } })

/-- Remove a subscriber of a method, and say whether it was there. -/
def removeHandler (method : String) (id : HandlerId) (link : Link) : Bool × Link :=
  let (found, handlers) := link.client.handlers.remove method id
  (found, { link with client := { link.client with handlers } })

def clearHandlers (link : Link) : Link :=
  { link with client := { link.client with handlers := link.client.handlers.clear } }

/-! ### Listeners -/

def addListener (kind : EventKind) (listener : Listener) (link : Link) : HandlerId × Link :=
  let (id, listeners) := link.listeners.add kind listener
  (id, { link with listeners })

/-- Stop listening, and say whether the listener was there. -/
def removeListener (kind : EventKind) (id : HandlerId) (link : Link) : Bool × Link :=
  let (found, listeners) := link.listeners.remove kind id
  (found, { link with listeners })

def addListeners (kinds : List EventKind) (listener : Listener) (link : Link) :
    List (EventKind × HandlerId) × Link :=
  kinds.foldl
    (fun (ids, link) kind =>
      let (id, link) := link.addListener kind listener
      (ids ++ [(kind, id)], link))
    ([], link)

def removeListeners (ids : List (EventKind × HandlerId)) (link : Link) : Link :=
  ids.foldl (fun link entry => (link.removeListener entry.1 entry.2).2) link

/-- A client on a transport, without a session. -/
def plain (carrier : Carrier) : Link :=
  let (ids, link) := ({ carrier } : Link).addListeners [.received, .closed, .reset, .failed] .client
  { link with clientListeners := ids }

/-- A session on a transport. The client listens first, so requests that fail with the connection
have failed before the session hears of its end. -/
def withSession (carrier : Carrier) (config : SessionConfig) : Link :=
  let (ids, link) := (plain carrier).addListeners [.opened, .closed] .session
  { link with config, sessionListeners := ids }

/-- The client lets go of the transport. -/
def detachClient (link : Link) : Link :=
  { link.removeListeners link.clientListeners with clientListeners := [] }

/-- The session has no user left: its tasks are told to end and the connection is closed. -/
def release (link : Link) : Link :=
  let link := raise .released { link with released := true }
  disconnect { link.removeListeners link.sessionListeners with sessionListeners := [] }

/-- Let go of the transport once a released session has no task that needs it. -/
def detachIfUnused (link : Link) : Link :=
  if link.released ∧ ¬ (link.tasks.any fun entry => entry.2.usesClient) then link.detachClient
  else link

end Link

end WorkspaceLink
