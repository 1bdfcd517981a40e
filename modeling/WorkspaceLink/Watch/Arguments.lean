import WorkspaceLink.Status

/-!
# Arguments of the command

Options are written `--name value` or `--name=value`; two of them have a letter, as in `-w value`,
`-wvalue` and `-w=value`. What follows `--` is no option. The value of an option is looked at when
the next option or the entrypoint comes, so of two mistakes the one that is noticed first is
reported.
-/
namespace WorkspaceLink

/-- What the command can be told by name. -/
inductive Switch where
  | workspace
  | machine
  | noLogs
  | organization
  | user
  | goal
  | token
  | settings
  | logLevel
  | jsonLogs
  | help
  | version
  deriving DecidableEq, Repr

namespace Switch

def all : List Switch :=
  [.workspace, .machine, .noLogs, .organization, .user, .goal, .token, .settings, .logLevel,
    .jsonLogs, .help, .version]

/-- The name, without its dashes. -/
def name : Switch → String
  | .workspace => "workspace"
  | .machine => "machine"
  | .noLogs => "no-logs"
  | .organization => "organization"
  | .user => "user"
  | .goal => "until"
  | .token => "token"
  | .settings => "settings"
  | .logLevel => "log-level"
  | .jsonLogs => "json-logs"
  | .help => "help"
  | .version => "version"

/-- The word for the value, if it takes one. -/
def placeholder? : Switch → Option String
  | .workspace => some "WORKSPACES"
  | .machine => some "MACHINE"
  | .organization => some "ORGANIZATIONS"
  | .user => some "USER"
  | .goal => some "UNTIL"
  | .token => some "TOKEN"
  | .settings => some "SETTINGS"
  | .logLevel => some "LOG_LEVEL"
  | .noLogs | .jsonLogs | .help | .version => none

def repeats : Switch → Bool
  | .workspace | .organization => true
  | _ => false

/-- How messages name it. -/
def label (switch : Switch) : String :=
  "--" ++ switch.name ++
    match switch.placeholder? with
    | some word => " <" ++ word ++ ">"
    | none => ""

def ofName? (name : String) : Option Switch := all.find? fun switch => switch.name = name

def ofLetter? : Char → Option Switch
  | 'w' => some .workspace
  | 'o' => some .organization
  | 'h' => some .help
  | 'V' => some .version
  | _ => none

end Switch

inductive ArgumentFault where
  | missingEntrypoint
  | valueRequired (switch : Switch)
  | unexpected (argument : String)
  | repeated (switch : Switch)
  /-- A value was given to a switch that takes none. -/
  | unneededValue (switch : Switch) (value : String)
  | unknownStatus (value : String)
  deriving DecidableEq, Repr

def ArgumentFault.message : ArgumentFault → String
  | .missingEntrypoint => "the following required arguments were not provided:"
  | .valueRequired switch =>
    "a value is required for '" ++ switch.label ++ "' but none was supplied"
  | .unexpected argument => "unexpected argument '" ++ argument ++ "' found"
  | .repeated switch => "the argument '" ++ switch.label ++ "' cannot be used multiple times"
  | .unneededValue switch value =>
    "unexpected value '" ++ value ++ "' for '" ++ switch.label ++ "' found; no more were expected"
  | .unknownStatus value =>
    "invalid value '" ++ value ++ "' for '" ++ Switch.goal.label ++ "': " ++
      Status.unknownMessage value

inductive ArgumentStop where
  | help
  | version
  | fault (fault : ArgumentFault)
  deriving DecidableEq, Repr

structure Arguments where
  entrypoint : String
  workspaces : List String := []
  machine : Option String := none
  noLogs : Bool := false
  organizations : List String := []
  user : Option String := none
  /-- The status that every workspace is to reach. -/
  goal : Option Status := none
  token : Option String := none
  settings : Option String := none
  logLevel : Option String := none
  jsonLogs : Bool := false
  deriving DecidableEq, Repr

namespace Arguments

/-! ### Reading -/

/-- What was read: the switches that were taken up, the one whose value is due or not looked at
yet, and the entrypoint. -/
structure Reading where
  taken : List (Switch × String) := []
  pending : Option (Switch × Option String) := none
  entrypoint : Option String := none

namespace Reading

/-- Take up a switch with its value. -/
def take (reading : Reading) (switch : Switch) (value : String) : Except ArgumentStop Reading :=
  if !switch.repeats && reading.taken.any (fun entry => entry.1 = switch) then
    .error (.fault (.repeated switch))
  else if switch = .goal ∧ (Status.parse? value).isNone then
    .error (.fault (.unknownStatus value))
  else if switch = .settings ∧ value.isEmpty then .error (.fault (.valueRequired switch))
  else .ok { reading with taken := reading.taken ++ [(switch, value)] }

/-- Take up the switch that is pending. -/
def resolve (reading : Reading) : Except ArgumentStop Reading :=
  match reading.pending with
  | none => .ok reading
  | some (switch, none) => .error (.fault (.valueRequired switch))
  | some (switch, some value) => { reading with pending := none }.take switch value

/-- A switch comes with its value, or with the empty text if it takes none. -/
def give (reading : Reading) (switch : Switch) (value : String) : Except ArgumentStop Reading := do
  let reading ← reading.resolve
  match switch with
  | .help => throw .help
  | .version => throw .version
  | _ => reading.take switch value

/-- A switch comes whose value is the next argument. -/
def expect (reading : Reading) (switch : Switch) : Except ArgumentStop Reading := do
  let reading ← reading.resolve
  return { reading with pending := some (switch, none) }

/-- An argument that is no switch: the value that is due, or the entrypoint. -/
def plain (reading : Reading) (argument : String) (trailing : Bool) :
    Except ArgumentStop Reading :=
  match reading.pending, trailing, reading.entrypoint with
  | some (switch, none), false, _ =>
    .ok { reading with pending := some (switch, some argument) }
  | _, _, some _ => .error (.fault (.unexpected argument))
  | _, _, none => do
    let reading ← reading.resolve
    return { reading with entrypoint := some argument }

/-- A switch by its name, with the value behind `=` if there is one. -/
def long (reading : Reading) (name : String) (value? : Option String) :
    Except ArgumentStop Reading :=
  match Switch.ofName? name with
  | none => .error (.fault (.unexpected ("--" ++ name)))
  | some switch =>
    match switch.placeholder?, value? with
    | some _, some value => reading.give switch value
    | some _, none => reading.expect switch
    | none, some value => .error (.fault (.unneededValue switch value))
    | none, none => reading.give switch ""

/-- Switches by their letters; what follows the letter of one that takes a value is the value. -/
def letters : List Char → Reading → Except ArgumentStop Reading
  | [], reading => .ok reading
  | c :: rest, reading =>
    match Switch.ofLetter? c with
    | none => .error (.fault (.unexpected ("-" ++ String.singleton c)))
    | some switch =>
      match switch.placeholder?, rest with
      | none, _ => do letters rest (← reading.give switch "")
      | some _, [] => reading.expect switch
      | some _, '=' :: value => reading.give switch (String.ofList value)
      | some _, value => reading.give switch (String.ofList value)

/-- The name and the value on the two sides of the first `=`. -/
def splitValue (cs : List Char) : String × Option String :=
  (String.ofList (cs.takeWhile (· ≠ '=')),
    match cs.dropWhile (· ≠ '=') with
    | [] => none
    | _ :: value => some (String.ofList value))

def all : (trailing : Bool) → List String → Reading → Except ArgumentStop Reading
  | _, [], reading => reading.resolve
  | true, argument :: rest, reading => do all true rest (← reading.plain argument true)
  | false, argument :: rest, reading =>
    match argument.toList with
    | ['-', '-'] => all true rest reading
    | '-' :: '-' :: cs => do
      let (name, value?) := splitValue cs
      all false rest (← reading.long name value?)
    | '-' :: c :: cs => do all false rest (← letters (c :: cs) reading)
    | _ => do all false rest (← reading.plain argument false)

def values (reading : Reading) (switch : Switch) : List String :=
  (reading.taken.filter fun entry => entry.1 = switch).map Prod.snd

def has (reading : Reading) (switch : Switch) : Bool := !(reading.values switch).isEmpty

end Reading

def parse (arguments : List String) : Except ArgumentStop Arguments := do
  let reading ← Reading.all false arguments {}
  match reading.entrypoint with
  | none => throw (.fault .missingEntrypoint)
  | some entrypoint =>
    return {
      entrypoint
      workspaces := reading.values .workspace
      machine := (reading.values .machine).head?
      noLogs := reading.has .noLogs
      organizations := reading.values .organization
      user := (reading.values .user).head?
      goal := (reading.values .goal).head?.bind Status.parse?
      token := (reading.values .token).head?
      settings := (reading.values .settings).head?
      logLevel := (reading.values .logLevel).head?
      jsonLogs := reading.has .jsonLogs }

end Arguments

end WorkspaceLink
