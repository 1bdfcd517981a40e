import WorkspaceLink.Json.Basic

/-!
# Events of a transport

What a transport tells its listeners about the connection that it carries.
-/
namespace WorkspaceLink

/-- The kinds of events that a listener can choose from. -/
inductive EventKind where
  | opened
  | closed
  | failed
  | received
  | reset
  deriving DecidableEq, Repr

def EventKind.all : List EventKind := [.opened, .closed, .failed, .received, .reset]

inductive TransportEvent where
  /-- The connection opened. -/
  | opened
  /-- The connection closed or could not be opened; the code is that of a close frame. -/
  | closed (code : Option Nat) (reason : String)
  | failed (reason : String)
  /-- A message could not be written; only that message is affected. -/
  | sendFailed (id : Option String) (reason : String)
  | received (message : Json)
  /-- The open connection was torn down from this side. -/
  | reset
  deriving DecidableEq, Repr

/-- The listeners that hear the event. -/
def TransportEvent.kind : TransportEvent → EventKind
  | .opened => .opened
  | .closed _ _ => .closed
  | .failed _ => .failed
  | .sendFailed _ _ => .failed
  | .received _ => .received
  | .reset => .reset

end WorkspaceLink
