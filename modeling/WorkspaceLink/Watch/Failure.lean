import WorkspaceLink.Session.Phase
import WorkspaceLink.Settings.Load

/-!
# Failures of the command

A failure has a message and the causes behind it, the nearest first. It is shown on several lines:
the message, then the causes, indented, and numbered if there are several.
-/
namespace WorkspaceLink

structure Failure where
  message : String
  causes : List String := []
  deriving DecidableEq, Repr

namespace Failure

def textLines (text : String) : List String := text.splitOn "\n"

/-- A text, indented; the number stands before its first line. -/
def indented (number? : Option Nat) (text : String) : List String :=
  match number?, textLines text with
  | some number, first :: rest =>
    ("    " ++ Nat.repr number ++ ": " ++ first) :: rest.map ("       " ++ ·)
  | _, lines => lines.map ("    " ++ ·)

/-- The causes of a failure, as they are shown. -/
def causeLines (causes : List String) : List String :=
  match causes with
  | [] => []
  | [cause] => ["", "Caused by:"] ++ indented none cause
  | _ =>
    ["", "Caused by:"] ++ causes.zipIdx.flatMap fun (cause, number) => indented (some number) cause

def lines (failure : Failure) : List String :=
  textLines ("Error: " ++ failure.message) ++ causeLines failure.causes

def requestCauses : RequestError → List String
  | .rpc payload => [payload.text]
  | _ => []

def sessionCauses : SessionError → List String
  | .request error => requestCauses error
  | _ => []

def ofSession (error : SessionError) : Failure := ⟨error.message, sessionCauses error⟩

def ofConnect (entrypoint : String) (error : SessionError) : Failure :=
  ⟨"failed to connect to " ++ entrypoint, error.message :: sessionCauses error⟩

def ofSettings (path : String) (error : SettingsError) : Failure :=
  ⟨"failed to load settings from " ++ path, error.message :: error.cause?.toList⟩

def nothingToWatch : Failure :=
  { message := "nothing to watch: pass --workspace, --organization or --user" }

/-- A status is to be reached, but by no workspace. -/
def goalWithoutWorkspace : Failure := { message := "--until needs at least one --workspace" }

end Failure

end WorkspaceLink
