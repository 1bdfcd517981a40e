import WorkspaceLink.Decode

/-!
# Workspace statuses

The life cycle of a workspace. A status that this library does not know is kept as `unknown` when
it arrives on the wire, and refused when a person names it.
-/
namespace WorkspaceLink

inductive Status where
  | running
  | stopped
  | paused
  | starting
  | stopping
  | error
  | unknown
  deriving DecidableEq, Repr, Inhabited

namespace Status

/-- The statuses that a server is known to send. -/
def known : List Status := [.running, .stopped, .paused, .starting, .stopping, .error]

/-- Spelling on the wire. -/
def name : Status → String
  | .running => "RUNNING"
  | .stopped => "STOPPED"
  | .paused => "PAUSED"
  | .starting => "STARTING"
  | .stopping => "STOPPING"
  | .error => "ERROR"
  | .unknown => "UNKNOWN"

/-- The status with exactly this spelling; any other text is `unknown`. -/
def ofName (name : String) : Status :=
  (known.find? fun status => status.name = name).getD .unknown

/-- The status that a person names, in any mixture of upper and lower case ASCII letters. -/
def parse? (text : String) : Option Status :=
  known.find? fun status => status.name = text.map Char.toUpper

/-- Read a status: a text, or an object whose one key is the status and whose value is `null`. -/
def decode : Json → Except DecodeError Status
  | .str s => .ok (ofName s)
  | .obj [(name, value)] =>
    match value with
    | .null => .ok (ofName name)
    | other => .error (.type (.of other) .unit)
  | .obj _ => .error (.value .map .oneKeyMap)
  | other => .error (.type (.of other) .textOrMap)

def toJson (status : Status) : Json := .str status.name

@[simp] theorem ofName_name (status : Status) : ofName status.name = status := by
  cases status <;> decide

@[simp] theorem decode_toJson (status : Status) : decode status.toJson = .ok status := by
  simp [decode, toJson]

/-- What is said about a text that names no status. -/
def unknownMessage (text : String) : String := "unknown workspace status: " ++ text

end Status

end WorkspaceLink
