/-!
# Log entries

What the session and the settings report while they work: a level, where it comes from, a fixed
message, and named values. A log is the list of its entries, oldest first.
-/
namespace WorkspaceLink

inductive Level where
  | error | warn | info | debug | trace
  deriving DecidableEq, Repr

def Level.name : Level → String
  | .error => "ERROR"
  | .warn => "WARN"
  | .info => "INFO"
  | .debug => "DEBUG"
  | .trace => "TRACE"

def Level.ofName? (name : String) : Option Level :=
  [Level.error, .warn, .info, .debug, .trace].find? fun level => level.name = name

structure LogEntry where
  level : Level
  /-- The part of the program that speaks. -/
  target : String
  message : String
  fields : List (String × String) := []
  deriving DecidableEq, Repr

def LogEntry.field? (entry : LogEntry) (name : String) : Option String :=
  entry.fields.lookup name

namespace Log

/-- `needle` occurs in `text` as a run of characters. -/
def occurs (needle text : List Char) : Bool :=
  needle.isPrefixOf text ||
    match text with
    | [] => false
    | _ :: rest => occurs needle rest

/-- The message of an entry contains `needle`. -/
def mentions (needle : String) (entry : LogEntry) : Bool :=
  occurs needle.toList entry.message.toList

def hasMessage (log : List LogEntry) (needle : String) : Bool :=
  log.any (mentions needle)

def hasEntry (log : List LogEntry) (level : Level) (needle : String) : Bool :=
  log.any fun entry => entry.level = level && mentions needle entry

def countAt (log : List LogEntry) (level : Level) : Nat :=
  log.countP fun entry => entry.level = level

/-- The entries whose target starts so. -/
def fromTarget (log : List LogEntry) (start : String) : List LogEntry :=
  log.filter fun entry => start.toList.isPrefixOf entry.target.toList

def warnings (log : List LogEntry) : List LogEntry :=
  log.filter fun entry => entry.level = .warn

end Log

end WorkspaceLink
