import WorkspaceLink.Rpc.Client

/-!
# Phases of a session

Where a session is in its life, and how calls on it fail.
-/
namespace WorkspaceLink

inductive Phase where
  /-- Not connected, and not trying to be. -/
  | disconnected
  /-- A connection is being opened or identified. -/
  | connecting
  /-- Open, identified and probed. -/
  | connected
  /-- Waiting before the next attempt. -/
  | reconnecting
  /-- Given up; only a call to connect leaves this phase. -/
  | failed
  deriving DecidableEq, Repr, Inhabited

namespace Phase

def name : Phase → String
  | .disconnected => "disconnected"
  | .connecting => "connecting"
  | .connected => "connected"
  | .reconnecting => "reconnecting"
  | .failed => "failed"

def all : List Phase := [.disconnected, .connecting, .connected, .reconnecting, .failed]

def ofName? (name : String) : Option Phase := all.find? fun phase => phase.name = name

/-- The name of a phase as summaries show it. -/
def title : Phase → String
  | .disconnected => "Disconnected"
  | .connecting => "Connecting"
  | .connected => "Connected"
  | .reconnecting => "Reconnecting"
  | .failed => "Failed"

end Phase

inductive SessionError where
  /-- Reconnecting was given up after the configured number of attempts. -/
  | exhausted (attempts : Nat)
  /-- The session was closed meanwhile. -/
  | closed
  | request (error : RequestError)
  deriving DecidableEq, Repr

def SessionError.message : SessionError → String
  | .exhausted attempts => "gave up after " ++ Nat.repr attempts ++ " reconnect attempts"
  | .closed => "session closed"
  | .request error => error.message

end WorkspaceLink
