import WorkspaceLink.Json.Reader
import WorkspaceLink.Rpc.Client
import WorkspaceLink.Settings.Basic
import WorkspaceLink.Transport.Event
import WorkspaceLink.Url

/-!
# A transport over sockets

At most one socket is installed at a time. Connecting and disconnecting are counted; a handshake
that ends after a later count has begun is dropped, and so is the close of a socket that was
replaced. Each socket has a task of its own, which announces the opening, writes the queued frames
and takes in what arrives. Failures of sends and of handshakes are reported later, never inside the
call that caused them.

Every event names the socket it comes from, if it comes from one.
-/
namespace WorkspaceLink

structure Handshake where
  generation : Nat
  url : String
  deriving DecidableEq, Repr

/-- A socket whose task runs. -/
structure Stream where
  generation : Nat
  /-- Its opening was announced. -/
  announced : Bool := false
  /-- Its task was told to stop. -/
  cancelled : Bool := false
  /-- Frames that wait to be written. -/
  outbound : List Json := []
  deriving DecidableEq, Repr

/-- Events to be delivered later; those of a connection attempt only while it is the latest. -/
structure Delivery where
  events : List TransportEvent
  onlyIf : Option Nat := none
  deriving DecidableEq, Repr

inductive Inbound where
  | text (content : String)
  /-- A frame that carries no message. -/
  | control
  | close (code : Option Nat) (reason : String)
  | fault (reason : String)
  /-- The stream ended without a close frame. -/
  | ended
  deriving DecidableEq, Repr

/-- An event and the socket that it comes from. -/
structure Emission where
  origin : Option Nat
  event : TransportEvent
  deriving DecidableEq, Repr

structure Socket where
  settings : TransportSettings := {}
  /-- Connects and disconnects so far, fewer than `2 ^ 64`. -/
  generation : Nat := 0
  /-- The socket that sends go to. -/
  installed : Option Nat := none
  handshakes : List Handshake := []
  streams : List Stream := []
  deriving DecidableEq, Repr, Inhabited

namespace Socket

/-- Why a handshake that succeeded is dropped. -/
def superseded : String := "superseded by a newer connect or disconnect"

def modifyStream (t : Socket) (generation : Nat) (change : Stream → Stream) : Socket :=
  { t with streams := t.streams.map fun s => if s.generation = generation then change s else s }

def stream? (t : Socket) (generation : Nat) : Option Stream :=
  t.streams.find? fun s => s.generation = generation

def dropStream (t : Socket) (generation : Nat) : Socket :=
  { t with streams := t.streams.filter fun s => s.generation ≠ generation }

/-- Uninstall the socket, if there is one, and tell its task to stop. -/
def tearDown (t : Socket) : Socket × List Emission :=
  match t.installed with
  | none => (t, [])
  | some generation =>
    (({ t with installed := none }).modifyStream generation fun s => { s with cancelled := true },
      [⟨some generation, .reset⟩])

/-- Begin to connect. -/
def connect (t : Socket) (url : String) : Nat × Socket × List Emission :=
  let generation := t.generation + 1
  let (t, emissions) := ({ t with generation }).tearDown
  (generation, { t with handshakes := t.handshakes ++ [⟨generation, url⟩] }, emissions)

def endHandshake (t : Socket) (generation : Nat) : Socket :=
  { t with handshakes := t.handshakes.filter fun h => h.generation ≠ generation }

/-- A handshake succeeded: install the socket, unless the handshake is no longer the latest. -/
def accept (t : Socket) (generation : Nat) (url : String) : Socket × Except TransportError Unit :=
  let t := t.endHandshake generation
  if t.generation = generation then
    ({ t with installed := some generation, streams := t.streams ++ [{ generation }] }, .ok ())
  else (t, .error (.connect (Url.redact url) superseded))

/-- A handshake failed: the failure is the result, and is announced later. -/
def refuse (t : Socket) (generation : Nat) (url reason : String) :
    Socket × Delivery × TransportError :=
  (t.endHandshake generation,
    ⟨[.failed reason, .closed none reason], some generation⟩,
    .connect (Url.redact url) reason)

def disconnect (t : Socket) : Socket × List Emission :=
  ({ t with generation := t.generation + 1 }).tearDown

/-- How many frames may wait to be written. -/
def capacity (t : Socket) : Nat := max t.settings.outboundBuffer 1

/-- The report of a message that could not be queued. -/
def sendFailure (message : Json) (error : TransportError) : Delivery :=
  ⟨[.sendFailed (Message.id? message) error.message], none⟩

/-- Queue a message on the installed socket, or report later that it cannot be. -/
def send (t : Socket) (message : Json) : Socket × Option Delivery :=
  match t.installed.bind t.stream? with
  | none => (t, some (sendFailure message .notConnected))
  | some s =>
    if s.outbound.length < t.capacity then
      (t.modifyStream s.generation fun s => { s with outbound := s.outbound ++ [message] }, none)
    else (t, some (sendFailure message (.backpressure t.settings.outboundBuffer)))

/-- What is left of a delivery when its time comes. -/
def due (t : Socket) (delivery : Delivery) : List Emission :=
  match delivery.onlyIf with
  | some generation =>
    if t.generation = generation then delivery.events.map (⟨none, ·⟩) else []
  | none => delivery.events.map (⟨none, ·⟩)

/-! ### Steps of a socket's task -/

/-- The task starts: it announces the opening. -/
def announce (t : Socket) (generation : Nat) : Socket × List Emission :=
  (t.modifyStream generation fun s => { s with announced := true }, [⟨some generation, .opened⟩])

/-- The task was told to stop, and does. -/
def stop (t : Socket) (generation : Nat) : Socket := t.dropStream generation

/-- The task writes the first queued frame. -/
def write (t : Socket) (generation : Nat) : Socket × Option Json :=
  match t.stream? generation with
  | some s =>
    (t.modifyStream generation fun s => { s with outbound := s.outbound.drop 1 }, s.outbound.head?)
  | none => (t, none)

/-- The socket is gone: uninstall it, and announce the close if nothing replaced it. -/
def finish (t : Socket) (generation : Nat) (code : Option Nat) (reason : String) :
    Socket × List Emission :=
  let t := t.dropStream generation
  let t := if t.installed = some generation then { t with installed := none } else t
  (t, if t.generation = generation then [⟨some generation, .closed code reason⟩] else [])

def fail (t : Socket) (generation : Nat) (reason : String) : Socket × List Emission :=
  let (after, emissions) := t.finish generation none reason
  (after, ⟨some generation, .failed reason⟩ :: emissions)

/-- What is said of a message that is too long. -/
def tooLong (size limit : Nat) : String :=
  "Space limit exceeded: Message too long: " ++ Nat.repr size ++ " > " ++ Nat.repr limit

/-- The task takes in what arrived. A text that is no JSON is dropped, and one that is too long
breaks the socket. -/
def takeIn (t : Socket) (generation : Nat) : Inbound → Socket × List Emission
  | .text content =>
    if t.settings.maxMessageSize < content.utf8ByteSize then
      t.fail generation (tooLong content.utf8ByteSize t.settings.maxMessageSize)
    else
      match Json.parse content with
      | .ok message => (t, [⟨some generation, .received message⟩])
      | .error _ => (t, [])
  | .control => (t, [])
  | .close code reason => t.finish generation code reason
  | .fault reason => t.fail generation reason
  | .ended => t.finish generation none "stream ended"

def summary (t : Socket) : String :=
  "WsTransport \x7b connected: " ++ (if t.installed.isSome then "true" else "false") ++
    ", generation: " ++ Nat.repr t.generation ++ ", .. \x7d"

end Socket

end WorkspaceLink
