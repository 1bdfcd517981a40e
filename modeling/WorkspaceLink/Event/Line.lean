import WorkspaceLink.Event.Basic
import WorkspaceLink.Text.Blank

/-!
# Events as lines

The line that a watcher prints for an event. What an event does not say is shown as a question
mark.
-/
namespace WorkspaceLink

/-- Stands for what is not known. -/
def Event.unsaid : String := "?"

def Event.failure : Option String → String
  | some error => ": " ++ error
  | none => ""

def WorkspaceStatusEvent.line (event : WorkspaceStatusEvent) : String :=
  let status := (event.effectiveStatus.map Status.name).getD Event.unsaid
  let change :=
    match event.prevStatus with
    | some prev => prev.name ++ " -> " ++ status
    | none => status
  "[" ++ event.workspaceId.text ++ "] status " ++ change ++ Event.failure event.error

def MachineStatusEvent.line (event : MachineStatusEvent) : String :=
  let workspace := (event.workspace?.map Id.text).getD Event.unsaid
  "[" ++ workspace ++ "] machine " ++ event.machineName.getD Event.unsaid ++ " " ++
    event.eventType.getD Event.unsaid ++ Event.failure event.error

/-- The line of some output, named for its source. -/
def LogEvent.line (source : String) (event : LogEvent) : String :=
  let workspace := (event.workspace?.map Id.text).getD Event.unsaid
  let origin := (event.installer.or event.machineName).getD Event.unsaid
  "[" ++ workspace ++ "] " ++ source ++ " " ++ origin ++ " | " ++ Text.trimEnd event.text

/-- The fullest name of an organization. -/
def Organization.label (organization : Organization) : String :=
  (organization.qualifiedName.or organization.name).getD organization.id.text

def OrganizationEvent.line (event : OrganizationEvent) : String :=
  let kind := event.eventType.getD Event.unsaid
  match event.organization with
  | some organization =>
    "[org " ++ organization.id.text ++ "] " ++ kind ++ " " ++ organization.label
  | none => "[org] " ++ kind

def MembershipEvent.line (event : MembershipEvent) : String :=
  let organization := (event.organization.map (·.id.text)).getD Event.unsaid
  let member := (event.member.map Id.text).getD Event.unsaid
  "[org " ++ organization ++ "] " ++ event.eventType.getD Event.unsaid ++ " " ++ member

end WorkspaceLink
