import WorkspaceLink.Session.Audience
import WorkspaceLink.Session.Core
import WorkspaceLink.Session.StatusWaiter
import WorkspaceLink.Transport.Socket

/-!
# Tasks and calls

The work on a connection is split into tasks. A task runs until it has to wait, and says for what;
what it still has to do is part of its value, so a task is plain data. Some tasks belong to the
session, some to the transport, and some are calls of users.
-/
namespace WorkspaceLink

/-- What a user can ask for. -/
inductive Call where
  /-- Connect, and wait until the session is connected. -/
  | connect
  | close
  /-- Wait until the session is in a phase. -/
  | awaitPhase (phase : Phase)
  /-- Send a request, and wait for its answer at most so many milliseconds. -/
  | request (method : String) (params : Option Json) (limitMs : Option Nat)
  /-- Ask for the identifier of the connection. -/
  | identify (limitMs : Nat)
  /-- Register a handler for a method, then send a request for it. -/
  | follow (method : String) (subscriber : Subscriber) (request : String) (params : Option Json)
  /-- Remove a handler, then send a request about that. -/
  | unfollow (method : String) (handler : HandlerId) (request : String) (params : Option Json)
  | subscribe (topic : Topic) (subscriber : Subscriber)
  | unsubscribe (subscription : Subscription)
  /-- Let the status waiter hear of a workspace. -/
  | track (workspace : WorkspaceId)
  | untrack (workspace : WorkspaceId)

inductive Outcome where
  | done
  | value (result : Json)
  | identified (id : ClientId)
  | following (handler : HandlerId)
  | subscribed (subscription : Subscription)
  /-- The status is reached, by this event if it was not reached before. -/
  | status (event : Option WorkspaceStatusEvent)
  | abandoned
  /-- The time allowed is over. -/
  | elapsed
  | unidentified (error : ProbeError)
  | failed (error : SessionError)
  deriving DecidableEq

/-- A request for the identifier of the connection, and until when its answer is waited for. -/
structure Inquiry where
  number : Nat
  limitMs : Nat
  due : Nat
  deriving DecidableEq, Repr

inductive Stage where
  | fresh (call : Call)
  /-- A change of phase after the version seen is waited for. -/
  | connecting (seen : Nat)
  | closing
  | phase (target : Phase)
  | answer (number : Nat) (due : Option Nat)
  | identity (inquiry : Inquiry)
  | following (number : Nat) (method : String) (handler : HandlerId)
  /-- The first subscriber of a topic, tracking a workspace or not. -/
  | subscribing (number : Nat) (subscription : Subscription) (tracking : Option WorkspaceId)
  /-- A request whose result says nothing more. -/
  | confirmation (number : Nat)
  | status (ticket : Nat)

inductive ProbeStage where
  | fresh
  | resting (due : Nat)
  /-- A probe is out; the one after it is due at `next`. -/
  | probing (inquiry : Inquiry) (next : Nat)

inductive Task where
  /-- Handles the inputs of the session. -/
  | driver
  /-- Opens a connection. -/
  | attempt (token : Nat) (clientId : Option ClientId)
  /-- Waits for the end of a handshake. -/
  | handshake (token generation : Nat)
  /-- Asks for the identifier of a connection. -/
  | identify (generation : Nat) (inquiry : Option Inquiry)
  | probes (token generation : Nat) (stage : ProbeStage)
  /-- Waits before the next attempt; the end is known once the task has run. -/
  | delay (number delayMs : Nat) (due : Option Nat)
  /-- Asks again for topics, one after the other. -/
  | replay (current : Option (Nat × Topic)) (rest : List Topic)
  /-- Announces events that were put off. -/
  | delivery (delivery : Delivery)
  /-- Serves a socket. -/
  | stream (generation : Nat)
  | call (stage : Stage)

/-- What a task can wait for, the passing of time apart. -/
inductive Signal where
  | answered (number : Nat)
  | phaseChanged
  | closeDone (ticket : Nat)
  | statusSettled (ticket : Nat)
  | cancelled (token : Nat)
  | timerCancelled (number : Nat)
  | input
  /-- The session has no user left. -/
  | released
  | handshakeEnded (generation : Nat)
  /-- A socket has something to write, to take in or to end. -/
  | traffic (generation : Nat)
  deriving DecidableEq, Repr

namespace Stage

/-- The request whose answer the call waits for. -/
def request? : Stage → Option Nat
  | .answer number _ => some number
  | .identity inquiry => some inquiry.number
  | .following number _ _ => some number
  | .subscribing number _ _ => some number
  | .confirmation number => some number
  | _ => none

/-- The call with this number waits for the signal. -/
def awaits (id : Nat) (stage : Stage) : Signal → Bool
  | .answered number => stage.request? = some number
  | .phaseChanged => match stage with
    | .connecting _ | .phase _ => true
    | _ => false
  | .closeDone ticket => match stage with
    | .closing => ticket = id
    | _ => false
  | .statusSettled ticket => match stage with
    | .status own => own = ticket
    | _ => false
  | _ => false

end Stage

namespace Task

/-- The request whose answer the task waits for. -/
def request? : Task → Option Nat
  | .identify _ inquiry => inquiry.map (·.number)
  | .probes _ _ (.probing inquiry _) => some inquiry.number
  | .replay current _ => current.map Prod.fst
  | .call stage => stage.request?
  | _ => none

/-- The token that stops the task. -/
def token? : Task → Option Nat
  | .attempt token _ => some token
  | .handshake token _ => some token
  | .probes token _ _ => some token
  | _ => none

/-- The task ends when the session has no user left. -/
def endsOnRelease : Task → Bool
  | .driver | .attempt _ _ | .handshake _ _ | .identify _ _ | .probes _ _ _ | .delay _ _ _ => true
  | _ => false

/-- The task keeps the client of the connection in use. -/
def usesClient : Task → Bool
  | .attempt _ _ | .handshake _ _ | .identify _ _ | .probes _ _ _ | .replay _ _ | .call _ => true
  | _ => false

/-- The task with this number waits for the signal. -/
def awaits (id : Nat) (task : Task) : Signal → Bool
  | .answered number => task.request? = some number
  | .cancelled token => task.token? = some token
  | .released => task.endsOnRelease
  | .timerCancelled number => match task with
    | .delay own _ _ => own = number
    | _ => false
  | .input => match task with
    | .driver => true
    | _ => false
  | .handshakeEnded generation => match task with
    | .handshake _ own => own = generation
    | _ => false
  | .traffic generation => match task with
    | .stream own => own = generation
    | _ => false
  | signal => match task with
    | .call stage => stage.awaits id signal
    | _ => false

end Task

end WorkspaceLink
