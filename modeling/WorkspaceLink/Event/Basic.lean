import WorkspaceLink.Event.Identity
import WorkspaceLink.Status

/-!
# Events of the channels

The payloads of the five kinds of notifications. Servers add members over time, so each event keeps
the members that it does not model, and nearly every modelled member is optional.
-/
namespace WorkspaceLink

/-- The members whose names are not among `modelled`. An event keeps them and writes them last. -/
def Event.extraMembers (modelled : List String) (members : List (String × Json)) :
    List (String × Json) :=
  members.filter fun member => !modelled.contains member.1

/-! ### Workspace status -/

structure WorkspaceStatusEvent where
  workspaceId : WorkspaceId
  status : Option Status := none
  prevStatus : Option Status := none
  transitional : Option Bool := none
  error : Option String := none
  extra : List (String × Json) := []
  deriving DecidableEq, Repr, Inhabited

namespace WorkspaceStatusEvent

def modelled : List String := ["error", "prevStatus", "status", "transitional", "workspaceId"]

def ofMembers (members : List (String × Json)) : Except DecodeError WorkspaceStatusEvent := do
  let error ← Decode.optionalField Decode.text (members.lookup "error")
  let prevStatus ← Decode.optionalField Status.decode (members.lookup "prevStatus")
  let status ← Decode.optionalField Status.decode (members.lookup "status")
  let transitional ← Decode.optionalField Decode.flag (members.lookup "transitional")
  let workspaceId ←
    Decode.field (fun v => (Id.decode v).map some) none (members.lookup "workspaceId")
  return {
    workspaceId := ← Decode.required "workspaceId" workspaceId
    status, prevStatus, transitional, error
    extra := Event.extraMembers modelled members }

def decode : Json → Except DecodeError WorkspaceStatusEvent :=
  Decode.openRecord "WorkspaceStatusEvent" ofMembers

def toJson (event : WorkspaceStatusEvent) : Json :=
  .object ([("workspaceId", event.workspaceId.toJson)] ++
    Encode.optional "status" Status.toJson event.status ++
    Encode.optional "prevStatus" Status.toJson event.prevStatus ++
    Encode.optional "transitional" Json.bool event.transitional ++
    Encode.optional "error" Json.str event.error ++ event.extra)

/-- The status that the event puts the workspace in: an event with an error counts as `error`,
whatever status it names. -/
def effectiveStatus (event : WorkspaceStatusEvent) : Option Status :=
  if event.error.isSome then some .error else event.status

end WorkspaceStatusEvent

/-! ### Machine status -/

structure MachineStatusEvent where
  eventType : Option String := none
  machineName : Option String := none
  identity : Option Ownership := none
  workspaceId : Option WorkspaceId := none
  error : Option String := none
  extra : List (String × Json) := []
  deriving DecidableEq, Repr, Inhabited

namespace MachineStatusEvent

def modelled : List String := ["error", "eventType", "identity", "machineName", "workspaceId"]

def ofMembers (members : List (String × Json)) : Except DecodeError MachineStatusEvent := do
  let error ← Decode.optionalField Decode.text (members.lookup "error")
  let eventType ← Decode.optionalField Decode.text (members.lookup "eventType")
  let identity ←
    Decode.optionalField (Ownership.decode "MachineIdentity") (members.lookup "identity")
  let machineName ← Decode.optionalField Decode.text (members.lookup "machineName")
  let workspaceId ← Decode.optionalField Id.decode (members.lookup "workspaceId")
  return {
    eventType, machineName, identity, workspaceId, error
    extra := Event.extraMembers modelled members }

def decode : Json → Except DecodeError MachineStatusEvent :=
  Decode.openRecord "MachineStatusEvent" ofMembers

def toJson (event : MachineStatusEvent) : Json :=
  .object (Encode.optional "eventType" Json.str event.eventType ++
    Encode.optional "machineName" Json.str event.machineName ++
    Encode.optional "identity" Ownership.toJson event.identity ++
    Encode.optional "workspaceId" Id.toJson event.workspaceId ++
    Encode.optional "error" Json.str event.error ++ event.extra)

/-- The workspace of the machine, under either spelling. -/
def workspace? (event : MachineStatusEvent) : Option WorkspaceId :=
  event.workspaceId.or (event.identity.bind (·.workspaceId))

end MachineStatusEvent

/-! ### Output -/

/-- A line of output, of a machine or of an installer. -/
structure LogEvent where
  runtimeId : Option Ownership := none
  machineName : Option String := none
  text : String := ""
  time : Option String := none
  stream : Option String := none
  installer : Option String := none
  extra : List (String × Json) := []
  deriving DecidableEq, Repr, Inhabited

namespace LogEvent

def modelled : List String := ["installer", "machineName", "runtimeId", "stream", "text", "time"]

def ofMembers (members : List (String × Json)) : Except DecodeError LogEvent := do
  let installer ← Decode.optionalField Decode.text (members.lookup "installer")
  let machineName ← Decode.optionalField Decode.text (members.lookup "machineName")
  let runtimeId ←
    Decode.optionalField (Ownership.decode "RuntimeIdentity") (members.lookup "runtimeId")
  let stream ← Decode.optionalField Decode.text (members.lookup "stream")
  let text ← Decode.field Decode.text "" (members.lookup "text")
  let time ← Decode.optionalField Decode.text (members.lookup "time")
  return {
    runtimeId, machineName, text, time, stream, installer
    extra := Event.extraMembers modelled members }

def decode : Json → Except DecodeError LogEvent :=
  Decode.openRecord "LogEvent" ofMembers

def toJson (event : LogEvent) : Json :=
  .object (Encode.optional "runtimeId" Ownership.toJson event.runtimeId ++
    Encode.optional "machineName" Json.str event.machineName ++
    [("text", .str event.text)] ++
    Encode.optional "time" Json.str event.time ++
    Encode.optional "stream" Json.str event.stream ++
    Encode.optional "installer" Json.str event.installer ++ event.extra)

/-- The workspace of the runtime that wrote the line. -/
def workspace? (event : LogEvent) : Option WorkspaceId :=
  event.runtimeId.bind (·.workspaceId)

end LogEvent

/-! ### Organizations -/

structure OrganizationEvent where
  eventType : Option String := none
  organization : Option Organization := none
  initiator : Option String := none
  extra : List (String × Json) := []
  deriving DecidableEq, Repr, Inhabited

namespace OrganizationEvent

def modelled : List String := ["initiator", "organization", "type"]

def ofMembers (members : List (String × Json)) : Except DecodeError OrganizationEvent := do
  let initiator ← Decode.optionalField Decode.text (members.lookup "initiator")
  let organization ← Decode.optionalField Organization.decode (members.lookup "organization")
  let eventType ← Decode.optionalField Decode.text (members.lookup "type")
  return {
    eventType, organization, initiator
    extra := Event.extraMembers modelled members }

def decode : Json → Except DecodeError OrganizationEvent :=
  Decode.openRecord "OrganizationEvent" ofMembers

def toJson (event : OrganizationEvent) : Json :=
  .object (Encode.optional "type" Json.str event.eventType ++
    Encode.optional "organization" Organization.toJson event.organization ++
    Encode.optional "initiator" Json.str event.initiator ++ event.extra)

end OrganizationEvent

structure MembershipEvent where
  eventType : Option String := none
  organization : Option Organization := none
  member : Option UserId := none
  initiator : Option String := none
  extra : List (String × Json) := []
  deriving DecidableEq, Repr, Inhabited

namespace MembershipEvent

def modelled : List String := ["initiator", "member", "organization", "type"]

def ofMembers (members : List (String × Json)) : Except DecodeError MembershipEvent := do
  let initiator ← Decode.optionalField Decode.text (members.lookup "initiator")
  let member ← Decode.optionalField Id.decode (members.lookup "member")
  let organization ← Decode.optionalField Organization.decode (members.lookup "organization")
  let eventType ← Decode.optionalField Decode.text (members.lookup "type")
  return {
    eventType, organization, member, initiator
    extra := Event.extraMembers modelled members }

def decode : Json → Except DecodeError MembershipEvent :=
  Decode.openRecord "MembershipEvent" ofMembers

def toJson (event : MembershipEvent) : Json :=
  .object (Encode.optional "type" Json.str event.eventType ++
    Encode.optional "organization" Organization.toJson event.organization ++
    Encode.optional "member" Id.toJson event.member ++
    Encode.optional "initiator" Json.str event.initiator ++ event.extra)

end MembershipEvent

end WorkspaceLink
