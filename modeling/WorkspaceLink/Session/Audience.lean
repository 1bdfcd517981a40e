import WorkspaceLink.Channel
import WorkspaceLink.Event.Line

/-!
# Who hears which notifications

A subscriber of a channel takes the notifications that decode as the channel's events and do not
name another scope than its own. An event that names no scope is for everybody.
-/
namespace WorkspaceLink

/-- An event as a subscriber gets it. -/
inductive ChannelEvent where
  | raw (params : Json)
  | workspaceStatus (event : WorkspaceStatusEvent)
  | machineStatus (event : MachineStatusEvent)
  | output (source : String) (event : LogEvent)
  | organization (event : OrganizationEvent)
  | membership (event : MembershipEvent)

namespace ChannelEvent

def toJson : ChannelEvent → Json
  | .raw params => params
  | .workspaceStatus event => event.toJson
  | .machineStatus event => event.toJson
  | .output _ event => event.toJson
  | .organization event => event.toJson
  | .membership event => event.toJson

def line : ChannelEvent → String
  | .raw params => params.render
  | .workspaceStatus event => event.line
  | .machineStatus event => event.line
  | .output source event => event.line source
  | .organization event => event.line
  | .membership event => event.line

end ChannelEvent

/-- Which notifications a subscriber takes. -/
inductive Selection where
  /-- Every notification, as it is. -/
  | everything
  /-- Output of a workspace's machines, or of one of them. -/
  | output (workspace : WorkspaceId) (machine : Option String)
  | machineStatus (workspace : WorkspaceId)
  | installerOutput (workspace : WorkspaceId)
  | workspaceStatus (workspace : WorkspaceId)
  | organization (own : OrganizationId)
  | membership (user : UserId)
  deriving DecidableEq, Repr

namespace Selection

/-- The topic that is subscribed to for this selection; one of everything fits any topic. -/
def topic? : Selection → Option Topic
  | .everything => none
  | .output workspace _ => some ⟨.runtimeLog, workspace.text⟩
  | .machineStatus workspace => some ⟨.machineStatus, workspace.text⟩
  | .installerOutput workspace => some ⟨.installerLog, workspace.text⟩
  | .workspaceStatus workspace => some ⟨.workspaceStatus, workspace.text⟩
  | .organization own => some ⟨.organizationStatus, own.text⟩
  | .membership user => some ⟨.organizationMembership, user.text⟩

/-- What is named is not something else. -/
def agrees {α : Type} [DecidableEq α] (named : Option α) (own : α) : Bool :=
  match named with
  | some other => other = own
  | none => true

/-- The event in the parameters of a notification, if it decodes and is for this subscriber. -/
def accept? : Selection → Json → Option ChannelEvent
  | .everything, params => some (.raw params)
  | .output workspace machine, params =>
    match LogEvent.decode params with
    | .error _ => none
    | .ok event =>
      if agrees event.workspace? workspace &&
          (machine.isNone || decide (event.machineName = machine)) then
        some (.output "runtime" event)
      else none
  | .machineStatus workspace, params =>
    match MachineStatusEvent.decode params with
    | .error _ => none
    | .ok event =>
      if agrees event.workspace? workspace then some (.machineStatus event) else none
  | .installerOutput workspace, params =>
    match LogEvent.decode params with
    | .error _ => none
    | .ok event =>
      if agrees event.workspace? workspace then some (.output "installer" event) else none
  | .workspaceStatus workspace, params =>
    match WorkspaceStatusEvent.decode params with
    | .error _ => none
    | .ok event => if event.workspaceId = workspace then some (.workspaceStatus event) else none
  | .organization own, params =>
    match OrganizationEvent.decode params with
    | .error _ => none
    | .ok event =>
      if agrees (event.organization.map (·.id)) own then some (.organization event) else none
  | .membership _, params =>
    match MembershipEvent.decode params with
    | .error _ => none
    | .ok event => some (.membership event)

end Selection

/-- Where the events of a subscriber go. -/
inductive Sink where
  /-- Noted under a label. -/
  | record (label : String)
  /-- Printed as lines. -/
  | print
  /-- Taken in by the status waiter. -/
  | waiter
  deriving DecidableEq, Repr

/-- A subscriber: what it takes and where that goes. -/
structure Subscriber where
  selection : Selection
  sink : Sink
  deriving DecidableEq, Repr

end WorkspaceLink
