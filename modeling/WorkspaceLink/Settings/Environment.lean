import WorkspaceLink.Log
import WorkspaceLink.Settings.Basic

/-!
# Settings from the environment

Each variable sets one member. A text that does not read as the member's type, or lies outside its
range, is reported and otherwise ignored; an empty log level is ignored without a word.
-/
namespace WorkspaceLink

/-- Texts that a truth value may have. -/
def parseFlag? (text : String) : Option Bool :=
  let lower := text.map Char.toLower
  if ["true", "1", "yes", "on"].contains lower then some true
  else if ["false", "0", "no", "off"].contains lower then some false
  else none

/-- An unsigned number: digits, perhaps behind a plus sign, that fit the type. -/
def parseWord? (kind : Word) (text : String) : Option Nat :=
  let digits :=
    match text.toList with
    | '+' :: rest => rest
    | cs => cs
  if digits.isEmpty ∨ digits.any (fun c => !c.isDigit) then none
  else
    let n : Nat := digits.foldl (fun n c => n * 10 + (c.toNat - '0'.toNat)) 0
    if (n : Int) ≤ kind.greatest then some n else none

/-- An unsigned number within bounds. -/
def parseWordIn? (kind : Word) (least greatest : Nat) (text : String) : Option Nat :=
  (parseWord? kind text).filter fun n => least ≤ n && n ≤ greatest

/-- A variable that overrides a member of the settings. -/
inductive Variable where
  | livenessInterval
  | livenessTimeout
  | firstReconnectDelay
  | reconnectDelay
  | maxReconnectAttempts
  | replaySubscriptions
  | outboundBuffer
  | maxMessageSize
  | logLevel
  | logJson
  deriving DecidableEq, Repr

namespace Variable

/-- Every variable, in the order in which they are applied. -/
def all : List Variable :=
  [.livenessInterval, .livenessTimeout, .firstReconnectDelay, .reconnectDelay,
    .maxReconnectAttempts, .replaySubscriptions, .outboundBuffer, .maxMessageSize, .logLevel,
    .logJson]

def key : Variable → String
  | .livenessInterval => "CHE_LIVENESS_INTERVAL_MS"
  | .livenessTimeout => "CHE_LIVENESS_TIMEOUT_MS"
  | .firstReconnectDelay => "CHE_FIRST_RECONNECT_DELAY_MS"
  | .reconnectDelay => "CHE_RECONNECT_DELAY_MS"
  | .maxReconnectAttempts => "CHE_MAX_RECONNECT_ATTEMPTS"
  | .replaySubscriptions => "CHE_REPLAY_SUBSCRIPTIONS"
  | .outboundBuffer => "CHE_OUTBOUND_BUFFER"
  | .maxMessageSize => "CHE_MAX_MESSAGE_SIZE"
  | .logLevel => "CHE_LOG_LEVEL"
  | .logJson => "CHE_LOG_JSON"

/-- The name of the type that its text is read as. -/
def kind : Variable → String
  | .maxReconnectAttempts => Word.word32.name
  | .replaySubscriptions | .logJson => "bool"
  | .outboundBuffer | .maxMessageSize => Word.size.name
  | .logLevel => "string"
  | _ => Word.word64.name

/-- One hour in milliseconds, the longest time that a variable may set. -/
def hourMs : Nat := 3600000

/-- The settings with the text applied, or none when the text is refused. -/
def override? (v : Variable) (text : String) (s : ClientSettings) : Option ClientSettings :=
  match v with
  | .livenessInterval => (parseWordIn? .word64 100 hourMs text).map fun n =>
    { s with session.livenessIntervalMs := n }
  | .livenessTimeout => (parseWordIn? .word64 50 hourMs text).map fun n =>
    { s with session.livenessTimeoutMs := n }
  | .firstReconnectDelay => (parseWordIn? .word64 0 hourMs text).map fun n =>
    { s with session.firstReconnectDelayMs := n }
  | .reconnectDelay => (parseWordIn? .word64 0 hourMs text).map fun n =>
    { s with session.reconnectDelayMs := n }
  | .maxReconnectAttempts => (parseWordIn? .word32 1 1000000 text).map fun n =>
    { s with session.maxReconnectAttempts := n }
  | .replaySubscriptions => (parseFlag? text).map fun b =>
    { s with session.replaySubscriptions := b }
  | .outboundBuffer => (parseWordIn? .size 1 1000000 text).map fun n =>
    { s with transport.outboundBuffer := n }
  | .maxMessageSize => (parseWordIn? .size 1024 (Nat.pow 2 30) text).map fun n =>
    { s with transport.maxMessageSize := n }
  | .logLevel => some (if text.isEmpty then s else { s with logging.level := text })
  | .logJson => (parseFlag? text).map fun b => { s with logging.json := b }

/-- The warning about a refused text. -/
def warning (v : Variable) (text : String) : LogEntry where
  level := .warn
  target := "che_settings::loader"
  message := "invalid env var, ignoring"
  fields := [("key", v.key), ("value", text), ("kind", v.kind)]

end Variable

abbrev Environment := String → Option String

namespace Environment

def applyOne (env : Environment) (state : ClientSettings × List LogEntry)
    (v : Variable) : ClientSettings × List LogEntry :=
  match env v.key with
  | none => state
  | some text =>
    match v.override? text state.1 with
    | some settings => (settings, state.2)
    | none => (state.1, state.2 ++ [v.warning text])

/-- Apply every variable; the warnings come in the order of the variables. -/
def apply (env : Environment) (settings : ClientSettings) :
    ClientSettings × List LogEntry :=
  Variable.all.foldl (applyOne env) (settings, [])

end Environment

end WorkspaceLink
