import WorkspaceLink.Json.Reader
import WorkspaceLink.Settings.Environment
import WorkspaceLink.Settings.Merge

/-!
# Loading settings

Settings come in three layers: the defaults, a file laid over them, and the environment on top. The
result has to satisfy the constraints of `ClientSettings.violation?`.
-/
namespace WorkspaceLink

/-- What stands at the path of the settings file. -/
inductive SettingsFile where
  | missing
  | directory
  | bytes (content : ByteArray)

/-- Why a file cannot be read. -/
inductive ReadFault where
  | notText
  | isDirectory
  deriving DecidableEq, Repr

def ReadFault.message : ReadFault → String
  | .notText => "stream did not contain valid UTF-8"
  | .isDirectory => "Is a directory (os error 21)"

inductive SettingsError where
  | unreadable (fault : ReadFault)
  | notJson (fault : Json.Fault)
  | undecodable (error : DecodeError)
  | invalid (violation : Violation)
  deriving DecidableEq, Repr

namespace SettingsError

/-- What lies behind the error, where it has a cause of its own. -/
def cause? : SettingsError → Option String
  | .unreadable fault => some fault.message
  | .notJson .ended => some "EOF while parsing a value"
  | .notJson .malformed => some "expected value"
  | .undecodable error => some error.message
  | .invalid _ => none

def message : SettingsError → String
  | .invalid violation => "invalid settings value: " ++ violation.message
  | .unreadable fault => "failed to read settings file: " ++ fault.message
  | error => "failed to parse settings JSON: " ++ error.cause?.getD ""

end SettingsError

namespace Settings

/-- The entry that says where the file layer comes from. -/
def fileEntry (path : String) (found : Bool) : LogEntry where
  level := .debug
  target := "che_settings::loader"
  message :=
    if found then "loading settings from file" else "settings file not found, using defaults"
  fields := [("path", Text.quoted path)]

/-- The value that the file layer lays over the defaults. -/
def userValue : SettingsFile → Except SettingsError (Option Json)
  | .missing => .ok none
  | .directory => .error (.unreadable .isDirectory)
  | .bytes content =>
    match String.fromUTF8? content with
    | none => .error (.unreadable .notText)
    | some text =>
      match Json.parse text with
      | .error fault => .error (.notJson fault)
      | .ok value => .ok (some value)

/-- The defaults with a user's value laid over them. -/
def ofUserValue (user : Option Json) : Except DecodeError ClientSettings :=
  let defaults := ClientSettings.toJson {}
  ClientSettings.decode (match user with
    | some value => Json.merge defaults value
    | none => defaults)

/-- Settings that satisfy the constraints. -/
def validated (settings : ClientSettings) : Except SettingsError ClientSettings :=
  match settings.violation? with
  | some violation => .error (.invalid violation)
  | none => .ok settings

def fileLayer (file : SettingsFile) : Except SettingsError ClientSettings := do
  let user ← userValue file
  match ofUserValue user with
  | .error error => throw (.undecodable error)
  | .ok settings => return settings

/-- Load settings from what stands at a path, under an environment. -/
def load (path : String) (file : SettingsFile) (env : Environment) :
    Except SettingsError ClientSettings × List LogEntry :=
  let found := match file with
    | .missing => false
    | _ => true
  let first := fileEntry path found
  match fileLayer file with
  | .error error => (.error error, [first])
  | .ok layered =>
    let (settings, warnings) := Environment.apply env layered
    (validated settings, first :: warnings)

/-- The variable that names the settings file. -/
def pathKey : String := "CHE_SETTINGS_PATH"

def join (directory relative : String) : String :=
  if directory.isEmpty then relative
  else if directory.endsWith "/" then directory ++ relative
  else directory ++ "/" ++ relative

/-- Where the settings file is: at a path that the environment names, else below the home. -/
def path (env : Environment) : String :=
  match (env pathKey).filter (fun p => !p.isEmpty) with
  | some named => named
  | none => join (join ((env "HOME").getD "/tmp") ".che") "client.json"

end Settings

/-! ### Settings of the process -/

/-- The settings of a process: fixed at first use, or installed before it. -/
structure GlobalSettings where
  installed : Option ClientSettings := none
  log : List LogEntry := []

namespace GlobalSettings

/-- The warning about settings that could not be loaded. -/
def loadWarning (error : SettingsError) : LogEntry where
  level := .warn
  target := "che_settings"
  message := "failed to load settings, using defaults"
  fields := [("error", error.message)]

/-- The settings, loaded on the first call; what cannot be loaded gives the defaults. -/
def get (state : GlobalSettings) (path : String) (file : SettingsFile) (env : Environment) :
    ClientSettings × GlobalSettings :=
  match state.installed with
  | some settings => (settings, state)
  | none =>
    match Settings.load path file env with
    | (.ok settings, entries) => (settings, ⟨some settings, state.log ++ entries⟩)
    | (.error error, entries) =>
      ({}, ⟨some {}, state.log ++ entries ++ [loadWarning error]⟩)

/-- Install settings; refused once there are some. -/
def install? (state : GlobalSettings) (settings : ClientSettings) : Option GlobalSettings :=
  match state.installed with
  | some _ => none
  | none => some { state with installed := some settings }

end GlobalSettings

end WorkspaceLink
