import WorkspaceLink.Decode

/-!
# Settings

What a user can choose: how patiently a session probes and reconnects, how much the transport
buffers, and how much is logged. Every member has a default, so that any part may be left out.
-/
namespace WorkspaceLink

/-! ### The records -/

/-- How a session probes its connection and reconnects. Times are in milliseconds. -/
structure SessionSettings where
  livenessIntervalMs : Nat := 10000
  livenessTimeoutMs : Nat := 5000
  firstReconnectDelayMs : Nat := 0
  reconnectDelayMs : Nat := 30000
  maxReconnectAttempts : Nat := 100
  replaySubscriptions : Bool := true
  deriving DecidableEq, Repr, Inhabited

structure TransportSettings where
  /-- Frames that may wait to be written. -/
  outboundBuffer : Nat := 1024
  /-- The longest message that is accepted, in bytes. -/
  maxMessageSize : Nat := 16777216
  deriving DecidableEq, Repr, Inhabited

structure LoggingSettings where
  level : String := "warn"
  json : Bool := false
  deriving DecidableEq, Repr, Inhabited

structure ClientSettings where
  session : SessionSettings := {}
  transport : TransportSettings := {}
  logging : LoggingSettings := {}
  deriving DecidableEq, Repr, Inhabited

/-! ### Reading and writing -/

namespace SessionSettings

def ofMembers (members : List (String × Json)) : Except DecodeError SessionSettings := do
  let base : SessionSettings := {}
  let first ← Decode.field (Decode.word .word64) base.firstReconnectDelayMs
    (members.lookup "firstReconnectDelayMs")
  let interval ← Decode.field (Decode.word .word64) base.livenessIntervalMs
    (members.lookup "livenessIntervalMs")
  let timeout ← Decode.field (Decode.word .word64) base.livenessTimeoutMs
    (members.lookup "livenessTimeoutMs")
  let attempts ← Decode.field (Decode.word .word32) base.maxReconnectAttempts
    (members.lookup "maxReconnectAttempts")
  let delay ← Decode.field (Decode.word .word64) base.reconnectDelayMs
    (members.lookup "reconnectDelayMs")
  let replay ← Decode.field Decode.flag base.replaySubscriptions
    (members.lookup "replaySubscriptions")
  return ⟨interval, timeout, first, delay, attempts, replay⟩

def ofItems (items : List Json) : Except DecodeError SessionSettings := do
  let base : SessionSettings := {}
  let interval ← Decode.field (Decode.word .word64) base.livenessIntervalMs items[0]?
  let timeout ← Decode.field (Decode.word .word64) base.livenessTimeoutMs items[1]?
  let first ← Decode.field (Decode.word .word64) base.firstReconnectDelayMs items[2]?
  let delay ← Decode.field (Decode.word .word64) base.reconnectDelayMs items[3]?
  let attempts ← Decode.field (Decode.word .word32) base.maxReconnectAttempts items[4]?
  let replay ← Decode.field Decode.flag base.replaySubscriptions items[5]?
  return ⟨interval, timeout, first, delay, attempts, replay⟩

def decode : Json → Except DecodeError SessionSettings :=
  Decode.record "SessionSettings" 6 ofMembers ofItems

def toJson (s : SessionSettings) : Json :=
  .object [
    ("livenessIntervalMs", .nat s.livenessIntervalMs),
    ("livenessTimeoutMs", .nat s.livenessTimeoutMs),
    ("firstReconnectDelayMs", .nat s.firstReconnectDelayMs),
    ("reconnectDelayMs", .nat s.reconnectDelayMs),
    ("maxReconnectAttempts", .nat s.maxReconnectAttempts),
    ("replaySubscriptions", .bool s.replaySubscriptions)]

/-- The wait before the reconnection of that number: the first has a delay of its own. -/
def reconnectDelay (s : SessionSettings) (attempt : Nat) : Nat :=
  if attempt ≤ 1 then s.firstReconnectDelayMs else s.reconnectDelayMs

end SessionSettings

namespace TransportSettings

def ofMembers (members : List (String × Json)) : Except DecodeError TransportSettings := do
  let base : TransportSettings := {}
  let size ← Decode.field (Decode.word .size) base.maxMessageSize (members.lookup "maxMessageSize")
  let buffer ← Decode.field (Decode.word .size) base.outboundBuffer
    (members.lookup "outboundBuffer")
  return ⟨buffer, size⟩

def ofItems (items : List Json) : Except DecodeError TransportSettings := do
  let base : TransportSettings := {}
  let buffer ← Decode.field (Decode.word .size) base.outboundBuffer items[0]?
  let size ← Decode.field (Decode.word .size) base.maxMessageSize items[1]?
  return ⟨buffer, size⟩

def decode : Json → Except DecodeError TransportSettings :=
  Decode.record "TransportSettings" 2 ofMembers ofItems

def toJson (s : TransportSettings) : Json :=
  .object [("outboundBuffer", .nat s.outboundBuffer), ("maxMessageSize", .nat s.maxMessageSize)]

end TransportSettings

namespace LoggingSettings

def ofMembers (members : List (String × Json)) : Except DecodeError LoggingSettings := do
  let base : LoggingSettings := {}
  let json ← Decode.field Decode.flag base.json (members.lookup "json")
  let level ← Decode.field Decode.text base.level (members.lookup "level")
  return ⟨level, json⟩

def ofItems (items : List Json) : Except DecodeError LoggingSettings := do
  let base : LoggingSettings := {}
  let level ← Decode.field Decode.text base.level items[0]?
  let json ← Decode.field Decode.flag base.json items[1]?
  return ⟨level, json⟩

def decode : Json → Except DecodeError LoggingSettings :=
  Decode.record "LoggingSettings" 2 ofMembers ofItems

def toJson (s : LoggingSettings) : Json :=
  .object [("level", .str s.level), ("json", .bool s.json)]

end LoggingSettings

namespace ClientSettings

def ofMembers (members : List (String × Json)) : Except DecodeError ClientSettings := do
  let logging ← Decode.field LoggingSettings.decode {} (members.lookup "logging")
  let session ← Decode.field SessionSettings.decode {} (members.lookup "session")
  let transport ← Decode.field TransportSettings.decode {} (members.lookup "transport")
  return { session, transport, logging }

def ofItems (items : List Json) : Except DecodeError ClientSettings := do
  let session ← Decode.field SessionSettings.decode {} items[0]?
  let transport ← Decode.field TransportSettings.decode {} items[1]?
  let logging ← Decode.field LoggingSettings.decode {} items[2]?
  return { session, transport, logging }

def decode : Json → Except DecodeError ClientSettings :=
  Decode.record "ClientSettings" 3 ofMembers ofItems

def toJson (s : ClientSettings) : Json :=
  .object [("session", s.session.toJson), ("transport", s.transport.toJson),
    ("logging", s.logging.toJson)]

end ClientSettings

/-! ### Validation -/

/-- A constraint that settings break. -/
inductive Violation where
  | noInterval
  | timeoutTooLong (timeoutMs intervalMs : Nat)
  | noAttempts
  | noBuffer
  deriving DecidableEq, Repr

def Violation.message : Violation → String
  | .noInterval => "session.livenessIntervalMs must be positive"
  | .timeoutTooLong timeoutMs intervalMs =>
    "session.livenessTimeoutMs (" ++ Nat.repr timeoutMs ++
      ") must be shorter than session.livenessIntervalMs (" ++ Nat.repr intervalMs ++ ")"
  | .noAttempts => "session.maxReconnectAttempts must be at least 1"
  | .noBuffer => "transport.outboundBuffer must be at least 1"

/-- The first constraint that the settings break, if any. -/
def ClientSettings.violation? (s : ClientSettings) : Option Violation :=
  if s.session.livenessIntervalMs = 0 then some .noInterval
  else if s.session.livenessIntervalMs ≤ s.session.livenessTimeoutMs then
    some (.timeoutTooLong s.session.livenessTimeoutMs s.session.livenessIntervalMs)
  else if s.session.maxReconnectAttempts = 0 then some .noAttempts
  else if s.transport.outboundBuffer = 0 then some .noBuffer
  else none

end WorkspaceLink
