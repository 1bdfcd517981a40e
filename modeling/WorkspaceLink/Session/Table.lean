import WorkspaceLink.Channel
import WorkspaceLink.Rpc.Registry

/-!
# Subscriptions

The local subscribers of each topic, by the identifiers of their handlers. A topic without
subscribers is not listed.
-/
namespace WorkspaceLink

structure Subscription where
  topic : Topic
  handler : HandlerId
  deriving DecidableEq, Repr, Inhabited

/-- The subscribers of each topic, in order of arrival. -/
abbrev SubscriptionTable := List (Topic × List HandlerId)

namespace SubscriptionTable

def subscribers (table : SubscriptionTable) (topic : Topic) : List HandlerId :=
  (table.lookup topic).getD []

def follows (table : SubscriptionTable) (topic : Topic) : Bool :=
  (table.lookup topic).isSome

/-- Every topic with a subscriber. The oldest is the first here, but the order is of no account, and
nothing that is proved of a replay depends on it. -/
def topics (table : SubscriptionTable) : List Topic := table.map Prod.fst

def add (topic : Topic) (handler : HandlerId) : SubscriptionTable → SubscriptionTable
  | [] => [(topic, [handler])]
  | (other, handlers) :: rest =>
    if other = topic then (other, handlers ++ [handler]) :: rest
    else (other, handlers) :: add topic handler rest

/-- Remove a subscriber; a topic left without one goes. -/
def remove (topic : Topic) (handler : HandlerId) : SubscriptionTable → SubscriptionTable
  | [] => []
  | (other, handlers) :: rest =>
    if other = topic then
      let kept := handlers.filter (· ≠ handler)
      if kept.isEmpty then rest else (other, kept) :: rest
    else (other, handlers) :: remove topic handler rest

end SubscriptionTable

end WorkspaceLink
