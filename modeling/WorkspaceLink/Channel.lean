import WorkspaceLink.Json.Basic

/-!
# Event channels

The kinds of events that the server pushes. A channel is followed for one scope at a time: a
workspace, an organization or a user, whose identifier stands under the channel's scope key.
-/
namespace WorkspaceLink

inductive Channel where
  | runtimeLog
  | machineStatus
  | installerLog
  | workspaceStatus
  | organizationStatus
  | organizationMembership
  deriving DecidableEq, Repr, Inhabited

namespace Channel

/-- Every channel, in the order of the catalogue. -/
def all : List Channel :=
  [.runtimeLog, .machineStatus, .installerLog, .workspaceStatus, .organizationStatus,
    .organizationMembership]

/-- The method that its notifications carry. -/
def method : Channel → String
  | .runtimeLog => "runtime/log"
  | .machineStatus => "machine/statusChanged"
  | .installerLog => "installer/log"
  | .workspaceStatus => "workspace/statusChanged"
  | .organizationStatus => "organization/statusChanged"
  | .organizationMembership => "organization/membershipChanged"

/-- The key under which a request names the scope. -/
def scopeKey : Channel → String
  | .organizationStatus => "organizationId"
  | .organizationMembership => "userId"
  | _ => "workspaceId"

def ofMethod? (method : String) : Option Channel :=
  all.find? fun channel => channel.method = method

/-- Parameters of a request about this channel and one scope. -/
def scopeParams (channel : Channel) (scope : String) : Json :=
  .object [("method", .str channel.method), ("scope", .object [(channel.scopeKey, .str scope)])]

theorem ofMethod?_method (channel : Channel) : ofMethod? channel.method = some channel := by
  cases channel <;> decide

/-- Methods tell channels apart. -/
theorem method_injective {a b : Channel} (h : a.method = b.method) : a = b := by
  have hsame : ofMethod? a.method = ofMethod? b.method := congrArg ofMethod? h
  simpa only [ofMethod?_method, Option.some.injEq] using hsame

end Channel

/-- What a subscription is about: a channel and one scope. -/
structure Topic where
  channel : Channel
  scope : String
  deriving DecidableEq, Repr, Inhabited

def Topic.params (topic : Topic) : Json := topic.channel.scopeParams topic.scope

end WorkspaceLink
