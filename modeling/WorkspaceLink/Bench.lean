import WorkspaceLink.Connections

/-!
# A bench for scripted runs

Calls, handlers, listeners and subscriptions on a bench have labels, by which a script refers to
them; a label that is given again names the new thing. After each step of a script the bench says
what is new since the last one.
-/
namespace WorkspaceLink

/-- Links under a script, and the labels of what happens on them, the newest first. -/
structure Bench where
  connections : Connections := {}
  /-- Calls, by the position of their link and their number. -/
  calls : List (String × (Nat × Nat)) := []
  handlers : List (String × HandlerId) := []
  listeners : List (String × HandlerId) := []
  subscriptions : List (String × Subscription) := []
  /-- Handles of sessions. -/
  held : List (String × Nat) := []
  /-- How many connects, disconnects and frames of the first transport were reported. -/
  connectsSeen : Nat := 0
  disconnectsSeen : Nat := 0
  sentSeen : Nat := 0
  deriving Inhabited

structure News where
  connects : List String := []
  disconnects : Nat := 0
  sent : List Json := []
  notes : List Note := []
  log : List LogEntry := []
  finished : List (String × Outcome) := []

namespace Bench

/-- A bench with one link, which somebody holds. -/
def ofLink (link : Link) (tokens : TokenSource) : Bench where
  connections := { fleet := { ambient := { tokens }, links := [link] }, handles := [0] }

def link (bench : Bench) (k : Nat) : Link := (bench.connections.fleet.link? k).getD default

def act {α : Type} (k : Nat) (action : Link → α × Link) (bench : Bench) : Option α × Bench :=
  let (result, fleet) := bench.connections.fleet.act k action
  (result, { bench with connections := { bench.connections with fleet } })

/-- Begin something on a link that gives back the number of a call. -/
def begin (label : String) (k : Nat) (action : Link → Nat × Link) (bench : Bench) : Bench :=
  match bench.act k action with
  | (some id, bench) => { bench with calls := (label, (k, id)) :: bench.calls }
  | (none, bench) => bench

def start (label : String) (k : Nat) (call : Call) (bench : Bench) : Bench :=
  bench.begin label k (Link.call call)

def waitForStatus (label : String) (k : Nat) (workspace : WorkspaceId) (status : Status)
    (bench : Bench) : Bench :=
  bench.begin label k (Link.waitForStatus workspace status)

/-- Drop a call, and say whether it ran. -/
def cancel (label : String) (bench : Bench) : Option Bool × Bench :=
  match bench.calls.lookup label with
  | none => (none, bench)
  | some (k, id) => bench.act k fun link => (link.isRunning id, link.abandon id)

def labelOf? (bench : Bench) (k id : Nat) : Option String :=
  (bench.calls.find? fun entry => entry.2 = (k, id)).map Prod.fst

/-- The calls of a link that ended, by their labels. -/
def finished (bench : Bench) (k : Nat) : List (String × Outcome) :=
  (bench.link k).finished.filterMap fun entry =>
    (bench.labelOf? k entry.1).map fun label => (label, entry.2)

def unfinished (bench : Bench) : List String :=
  (bench.calls.filter fun entry => (bench.link entry.2.1).isRunning entry.2.2).map Prod.fst

/-- What a call gave, under its label. -/
def adopt (bench : Bench) (entry : String × Outcome) : Bench :=
  match entry.2 with
  | .following handler => { bench with handlers := (entry.1, handler) :: bench.handlers }
  | .subscribed subscription =>
    { bench with subscriptions := (entry.1, subscription) :: bench.subscriptions }
  | _ => bench

/-- Run all tasks; subscriptions that succeeded get the labels of their calls. -/
def settle (bench : Bench) : Bench :=
  let bench := { bench with connections := bench.connections.settle }
  (bench.finished 0).foldl adopt bench

def sleep (millis : Nat) (bench : Bench) : Bench :=
  let fleet := bench.connections.fleet.sleep millis
  { bench with connections := { bench.connections with fleet } }

/-- Drop every call on a link and the last handle of its session. -/
def dropSession (k : Nat) (bench : Bench) : Bench :=
  let bench := (bench.act k fun link => ((), link.abandonAll)).2
  { bench with connections := bench.connections.release k }

/-- Drop every call on a link and the client itself; the transport stays as it is. -/
def dropClient (k : Nat) (bench : Bench) : Bench :=
  let (_, bench) := bench.act k fun link =>
    ((), { link.abandonAll.detachClient with released := true })
  { bench with connections := bench.connections.release k }

/-! ### Handles -/

/-- Give back the handle with a label, and say whether there was one. -/
def release (label : String) (bench : Bench) : Bool × Bench :=
  match bench.held.lookup label with
  | none => (false, bench)
  | some k =>
    (true,
      { bench with
        held := bench.held.filter fun entry => entry.1 ≠ label
        connections := bench.connections.release k })

/-- Hold the session of an entrypoint under a label, over a transport of its own. -/
def hold (label entrypoint : String) (bench : Bench) : Bench :=
  let (k, connections) := bench.connections.getOrCreate entrypoint (.scripted {})
  let (_, bench) := release label { bench with connections }
  { bench with held := (label, k) :: bench.held }

/-! ### What is new -/

def transport (bench : Bench) (k : Nat) : Scripted :=
  match (bench.link k).carrier with
  | .scripted t => t
  | .socket _ => {}

/-- What is new on the first link. -/
def news (bench : Bench) : News :=
  let t := bench.transport 0
  { connects := t.connects.drop bench.connectsSeen
    disconnects := t.disconnects - bench.disconnectsSeen
    sent := t.sent.drop bench.sentSeen
    notes := (bench.link 0).notes
    log := (bench.link 0).log
    finished := bench.finished 0 }

/-- Nothing of what there is counts as new any more; frames that are held back still do. -/
def reported (bench : Bench) (holdsSent : Bool) : Bench :=
  let t := bench.transport 0
  let fleet := bench.connections.fleet
  let links := fleet.links.map fun link => { link with notes := [], log := [], finished := [] }
  { bench with
    connections := { bench.connections with fleet := { fleet with links } }
    connectsSeen := t.connects.length
    disconnectsSeen := t.disconnects
    sentSeen := if holdsSent then bench.sentSeen else t.sent.length }

end Bench

end WorkspaceLink
