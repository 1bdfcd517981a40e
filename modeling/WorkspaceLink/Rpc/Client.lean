import WorkspaceLink.Rpc.ErrorPayload
import WorkspaceLink.Rpc.Message
import WorkspaceLink.Rpc.Registry
import WorkspaceLink.Transport.Event

/-!
# Requests and notifications of one connection

A client numbers its requests and remembers which of them wait for an answer. What arrives is either
the answer of a waiting request or a notification for the handlers of its method, never both.
-/
namespace WorkspaceLink

/-! ### Errors -/

/-- Why a transport refuses an operation. -/
inductive TransportError where
  | connect (url reason : String)
  | notConnected
  | backpressure (capacity : Nat)
  deriving DecidableEq, Repr

def TransportError.message : TransportError → String
  | .connect url reason => "failed to connect to " ++ url ++ ": " ++ reason
  | .notConnected => "transport is not connected"
  | .backpressure capacity => "outbound buffer full (" ++ Nat.repr capacity ++ " frames)"

/-- Why a request has no result. -/
inductive RequestError where
  /-- The server answered with an error. -/
  | rpc (payload : ErrorPayload)
  /-- The connection went away first. -/
  | connectionClosed
  /-- The request never left. -/
  | notSent (reason : String)
  deriving DecidableEq, Repr

def RequestError.message : RequestError → String
  | .rpc payload => "rpc error " ++ payload.text
  | .connectionClosed => "connection closed before a response arrived"
  | .notSent reason => "request could not be sent: " ++ reason

/-- How a request ends. -/
abbrev Answer := Except RequestError Json

/-! ### The client -/

/-- A client: the number of the next request, the requests that wait, and the handlers of
notifications by method. -/
structure Client (η : Type) where
  /-- There are fewer than `2 ^ 64` requests, so no number comes twice. -/
  nextId : Nat := 1
  pending : List Nat := []
  handlers : Registry String η := {}
  deriving Inhabited

/-- What a client acts on beside itself: how a handler runs, and who hears of an answer. -/
structure ClientHost (η ε : Type) where
  /-- Run a handler on the parameters of a notification. -/
  invoke : η → Json → Client η × ε → Client η × ε
  /-- Hand the answer of a request to whoever waits for it. -/
  settle : Nat → Answer → ε → ε

namespace Client

variable {η ε : Type}

/-- The identifier of a request on the wire. -/
def idText (number : Nat) : String := Nat.repr number

/-- Number a new request and let it wait. -/
def issue (client : Client η) : Nat × Client η :=
  (client.nextId,
    { client with nextId := client.nextId + 1, pending := client.pending ++ [client.nextId] })

/-- The waiting request with that identifier. -/
def waiting? (client : Client η) (id : String) : Option Nat :=
  client.pending.find? fun number => idText number = id

/-- Let a request wait no longer. -/
def forget (client : Client η) (number : Nat) : Client η :=
  { client with pending := client.pending.filter (· ≠ number) }

def conclude (host : ClientHost η ε) (number : Nat) (answer : Answer) (state : Client η × ε) :
    Client η × ε :=
  (state.1.forget number, host.settle number answer state.2)

/-- Receive one message that is not a batch. -/
def receiveOne (host : ClientHost η ε) (message : Json) (state : Client η × ε) : Client η × ε :=
  match (Message.id? message).bind state.1.waiting? with
  | some number =>
    match Message.body message with
    | .result value => conclude host number (.ok value) state
    | .error value => conclude host number (.error (.rpc (.ofWire value))) state
    | .empty => state
  | none =>
    match Message.method? message with
    | some method =>
      state.1.handlers.dispatch method
        (fun handler state => host.invoke handler (Message.params message) state) state
    | none => state

mutual

/-- Receive a message: the messages of a batch one after the other, however deeply batches nest. -/
def receive (host : ClientHost η ε) : Json → Client η × ε → Client η × ε
  | .arr items, state => receiveAll host items state
  | message, state => receiveOne host message state

def receiveAll (host : ClientHost η ε) : List Json → Client η × ε → Client η × ε
  | [], state => state
  | message :: rest, state => receiveAll host rest (receive host message state)

end

/-- A message could not be sent: its request fails, if it still waits. -/
def failOne (host : ClientHost η ε) (id reason : String) (state : Client η × ε) : Client η × ε :=
  match state.1.waiting? id with
  | some number => conclude host number (.error (.notSent reason)) state
  | none => state

/-- The connection is lost: every waiting request fails. The oldest is the first here, but the order
is of no account, and nothing that is proved of a client depends on it. -/
def failAll (host : ClientHost η ε) (state : Client η × ε) : Client η × ε :=
  state.1.pending.foldl
    (fun state number => conclude host number (.error .connectionClosed) state) state

def hear (host : ClientHost η ε) (event : TransportEvent) (state : Client η × ε) : Client η × ε :=
  match event with
  | .received message => receive host message state
  | .closed _ _ | .reset => failAll host state
  | .sendFailed (some id) reason => failOne host id reason state
  | _ => state

def summary (client : Client η) : String :=
  "JsonRpcClient \x7b pending: " ++ Nat.repr client.pending.length ++ ", notifications: " ++
    client.handlers.summary ++ ", .. \x7d"

end Client

end WorkspaceLink
