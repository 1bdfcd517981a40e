import WorkspaceLink.Rpc.Client
import WorkspaceLink.Transport.Event

/-!
# A transport that follows a script

It records what it is asked to do and emits an event only when told to. A send that is scripted to
fail is reported at once, inside the call.
-/
namespace WorkspaceLink

/-- A scripted transport: what was asked of it, and the failures that wait. -/
structure Scripted where
  connects : List String := []
  sent : List Json := []
  disconnects : Nat := 0
  connected : Bool := false
  connectFailures : List String := []
  sendFailures : List String := []
  deriving Inhabited

namespace Scripted

/-- The event of tearing down a connection, if one was open. -/
def resetIf (wasOpen : Bool) : List TransportEvent := if wasOpen then [.reset] else []

/-- Connect: an open connection is replaced, and a scripted failure is the result. -/
def connect (t : Scripted) (url : String) :
    Scripted × List TransportEvent × Except TransportError Unit :=
  let after := { t with
    connects := t.connects ++ [url], connected := false
    connectFailures := t.connectFailures.drop 1 }
  (after, resetIf t.connected,
    match t.connectFailures.head? with
    | some reason => .error (.connect url reason)
    | none => .ok ())

def disconnect (t : Scripted) : Scripted × List TransportEvent :=
  ({ t with disconnects := t.disconnects + 1, connected := false }, resetIf t.connected)

/-- Send a message; it is recorded unless a failure is scripted. -/
def send (t : Scripted) (message : Json) : Scripted × List TransportEvent :=
  match t.sendFailures with
  | reason :: rest => ({ t with sendFailures := rest }, [.sendFailed (Message.id? message) reason])
  | [] => ({ t with sent := t.sent ++ [message] }, [])

def opens (t : Scripted) : Scripted × List TransportEvent :=
  ({ t with connected := true }, [.opened])

def drops (t : Scripted) : Scripted × List TransportEvent :=
  ({ t with connected := false }, [.closed (some 1006) "abnormal closure"])

def fails (t : Scripted) (reason : String) : Scripted × List TransportEvent :=
  ({ t with connected := false }, [.failed reason, .closed none reason])

def sentWithMethod (t : Scripted) (method : String) : List Json :=
  t.sent.filter fun message => Message.method? message = some method

def lastRequestId? (t : Scripted) (method : String) : Option String :=
  ((t.sentWithMethod method).getLast?.bind fun message => message.get? "id").bind Json.text?

def summary (t : Scripted) : String :=
  "MockTransport \x7b connects: " ++ Nat.repr t.connects.length ++ ", sent: " ++
    Nat.repr t.sent.length ++ ", connected: " ++ (if t.connected then "true" else "false") ++
    " \x7d"

end Scripted

end WorkspaceLink
