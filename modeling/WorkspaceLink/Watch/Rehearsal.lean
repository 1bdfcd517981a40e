import WorkspaceLink.Watch.Command

/-!
# The command and a server

A rehearsal runs the command against a server that follows a script: it answers every request at
once, sends its events when the command has subscribed and waits, and lets the user interrupt the
command after that. What the server sees is recorded.
-/
namespace WorkspaceLink

/-- A server that follows a script. -/
structure Peer where
  /-- Where it can be reached. -/
  authority : Option String := none
  /-- The body of its answer to a request for the identifier. -/
  identity : Json := .object [("result", .arr [.str "c1"])]
  /-- The bodies of its answers to other methods. -/
  replies : List (String × Json) := []
  /-- How many subscriptions it answers before it sends its events. -/
  subscribes : Nat := 0
  events : List Json := []
  /-- The user interrupts the command after the events. -/
  interrupts : Bool := false

/-- What a server sees. -/
inductive Contact where
  /-- A connection, with its path and query. -/
  | connected (target : String)
  | frame (message : Json)

/-- The body of the answer to a method. -/
def Peer.body (peer : Peer) (method : String) : Json :=
  if method = Message.clientIdMethod then peer.identity
  else (peer.replies.lookup method).getD (.object [("result", .null)])

/-- The answer to a frame, if it is a request. -/
def Peer.answer? (peer : Peer) (frame : Json) : Option Json :=
  match frame.get? "id", Message.method? frame with
  | some id, some method =>
    let members := match peer.body method with
      | .obj members => members
      | _ => []
    some (.object (members ++ [("jsonrpc", .str Message.version), ("id", id)]))
  | _, _ => none

/-- The command, the server, and how far the script has come. -/
structure Rehearsal where
  watch : Watch
  peer : Peer
  contacts : List Contact := []
  /-- How many frames the server has read. -/
  framesRead : Nat := 0
  /-- How many subscriptions it has answered. -/
  answered : Nat := 0
  eventsSent : Bool := false

namespace Rehearsal

def link (r : Rehearsal) : Link :=
  (r.watch.connections.fleet.link? r.watch.session).getD default

/-- Something reaches the link from outside. -/
def reach (change : Link → Link) (r : Rehearsal) : Rehearsal :=
  let fleet := r.watch.connections.fleet.update r.watch.session change
  { r with watch := { r.watch with connections := { r.watch.connections with fleet } } }

def openHandshake? (r : Rehearsal) : Option Handshake :=
  match r.link.carrier with
  | .socket t =>
    t.handshakes.find? fun h => (r.link.handshakeResults.lookup h.generation).isNone
  | .scripted _ => none

/-- The server accepts a connection, or nothing is reached. -/
def shakeHands (handshake : Handshake) (r : Rehearsal) : Rehearsal :=
  match (Network.mk r.peer.authority).dial handshake.url with
  | .ok address =>
    { r.reach (Link.endHandshake handshake.generation none) with
      contacts := r.contacts ++ [Contact.connected address.target] }
  | .error reason => r.reach (Link.endHandshake handshake.generation (some reason))

/-- The server reads a frame, and answers it if it is a request. -/
def readFrame (generation : Nat) (frame : Json) (r : Rehearsal) : Rehearsal :=
  let r := { r with
    contacts := r.contacts ++ [Contact.frame frame]
    framesRead := r.framesRead + 1
    answered := r.answered +
      if Message.method? frame = some Message.subscribeMethod then 1 else 0 }
  match r.peer.answer? frame with
  | some answer => r.reach (Link.arrive generation (.text answer.render))
  | none => r

def sendEvents (r : Rehearsal) : Rehearsal :=
  match r.link.carrier with
  | .socket t =>
    match t.installed with
    | some generation =>
      { r.reach fun link => r.peer.events.foldl
          (fun link event => link.arrive generation (.text event.render)) link with
        eventsSent := true }
    | none => { r with eventsSent := true }
  | .scripted _ => { r with eventsSent := true }

/-- Time passes up to the next alarm. -/
def passTime? (r : Rehearsal) : Option Rehearsal :=
  r.watch.connections.fleet.nextDue?.map fun due =>
    let fleet := r.watch.connections.fleet.ring due
    { r with watch := { r.watch with connections := { r.watch.connections with fleet } } }

/-- The next thing that happens outside of the command. -/
def step? (r : Rehearsal) : Option Rehearsal :=
  if r.watch.isEnded then none
  else
    match r.openHandshake?, r.link.wire[r.framesRead]? with
    | some handshake, _ => some (r.shakeHands handshake)
    | none, some (generation, frame) => some (r.readFrame generation frame)
    | none, none =>
      if r.watch.isWaiting && !r.eventsSent && decide (r.peer.subscribes ≤ r.answered) then
        some r.sendEvents
      else if r.watch.isWaiting && r.eventsSent && r.peer.interrupts then
        some { r with watch := r.watch.interrupt }
      else r.passTime?

/-- Run the command and the script, for at most so many steps. -/
def run : Nat → Rehearsal → Rehearsal
  | 0, r => r
  | count + 1, r =>
    let r := { r with watch := r.watch.advance Fleet.patience }
    match r.step? with
    | some next => run count next
    | none => r

/-- How many steps a rehearsal may take. -/
def patience : Nat := 100000

/-- What the server saw and how the command ended. -/
def perform (arguments : List String) (env : Environment) (file : String → SettingsFile)
    (peer : Peer) : WatchReport × List Contact :=
  match Watch.prepare arguments env file with
  | .error report => (report, [])
  | .ok watch =>
    let r := run patience { watch, peer }
    (.ofWatch r.watch, r.contacts)

end Rehearsal

end WorkspaceLink
