import WorkspaceLink.Link.Upkeep

/-!
# The calls of users

A call that waits for the answer of a request checks, after sending it, whether the answer is there
already; a failure to send can be known at once.
-/
namespace WorkspaceLink.Link

/-! ### Requests -/

def outcomeOf : Answer → Outcome
  | .ok value => .value value
  | .error error => .failed (.request error)

/-- The outcome of a request whose result says nothing. -/
def confirmationOf : Answer → Outcome
  | .ok _ => .done
  | .error error => .failed (.request error)

/-- Wait for an answer, if it is not there and time is left. -/
def awaitAnswer (id number : Nat) (due? : Option Nat) (fresh : Bool) (link : Link) : Link :=
  match link.answer? number, due? with
  | some answer, _ => (link.forget number).finish id (outcomeOf answer)
  | none, none => link.setTask id (.call (.answer number none))
  | none, some due =>
    if due ≤ link.now then (link.forget number).finish id .elapsed
    else if fresh then (link.setTask id (.call (.answer number (some due)))).arm id due
    else link

def awaitIdentity (id : Nat) (inquiry : Inquiry) (fresh : Bool) (link : Link) : Link :=
  match link.inquiryResult? inquiry with
  | some (.ok clientId) => (link.forget inquiry.number).finish id (.identified clientId)
  | some (.error error) => (link.forget inquiry.number).finish id (.unidentified error)
  | none =>
    if fresh then (link.setTask id (.call (.identity inquiry))).arm id inquiry.due else link

/-- Wait for an answer that says nothing. -/
def awaitConfirmation (id number : Nat) (link : Link) : Link :=
  match link.answer? number with
  | some answer => (link.forget number).finish id (confirmationOf answer)
  | none => link.setTask id (.call (.confirmation number))

/-! ### Handlers with requests -/

/-- Wait for the answer to the request of a handler; the handler goes if it fails. -/
def awaitFollowing (id number : Nat) (method : String) (handler : HandlerId) (link : Link) :
    Link :=
  match link.answer? number with
  | some (.ok _) => (link.forget number).finish id (.following handler)
  | some (.error error) =>
    ((link.forget number).removeHandler method handler).2.finish id (.failed (.request error))
  | none => link.setTask id (.call (.following number method handler))

/-- Register a handler, then send the request for it. -/
def follow (id : Nat) (method : String) (subscriber : Subscriber) (request : String)
    (params : Option Json) (link : Link) : Link :=
  let (handler, link) := link.addHandler method subscriber
  let (number, link) := link.request request params
  link.awaitFollowing id number method handler

/-- Remove a handler, then send the request about it. -/
def unfollow (id : Nat) (method : String) (handler : HandlerId) (request : String)
    (params : Option Json) (link : Link) : Link :=
  let (_, link) := link.removeHandler method handler
  let (number, link) := link.request request params
  link.awaitConfirmation id number

/-! ### Subscriptions -/

def updateTable (change : SubscriptionTable → SubscriptionTable) (link : Link) : Link :=
  { link with session := { link.session with table := change link.session.table } }

/-- End a subscription. The server is told if it was the last of its topic and the session is
connected. -/
def endSubscription (id : Nat) (subscription : Subscription) (link : Link) : Link :=
  let { topic, handler } := subscription
  let subscribers := SubscriptionTable.subscribers link.session.table topic
  if ¬ handler ∈ subscribers then link.finish id .done
  else
    let link := link.updateTable (SubscriptionTable.remove topic handler)
    if ¬ SubscriptionTable.follows link.session.table topic ∧ link.session.phase = .connected then
      link.unfollow id topic.channel.method handler Message.unsubscribeMethod (some topic.params)
    else (link.removeHandler topic.channel.method handler).2.finish id .done

/-- A subscriber is registered: list it, and let the waiter track with it. A subscription that
tracked the workspace before is ended. -/
def completeSubscription (id : Nat) (subscription : Subscription) (tracking : Option WorkspaceId)
    (link : Link) : Link :=
  let link := link.updateTable (SubscriptionTable.add subscription.topic subscription.handler)
  match tracking with
  | none => link.finish id (.subscribed subscription)
  | some workspace =>
    let (before, waiter) := link.waiter.setTracked workspace subscription
    let link := { link with waiter }
    match before with
    | some extra => link.endSubscription id extra
    | none => link.finish id .done

/-- Wait for the answer to the request of a topic's first subscriber; its handler goes if it
fails. -/
def awaitSubscription (id number : Nat) (subscription : Subscription)
    (tracking : Option WorkspaceId) (link : Link) : Link :=
  match link.answer? number with
  | some (.ok _) => (link.forget number).completeSubscription id subscription tracking
  | some (.error error) =>
    ((link.forget number).removeHandler subscription.topic.channel.method
      subscription.handler).2.finish id (.failed (.request error))
  | none => link.setTask id (.call (.subscribing number subscription tracking))

/-- Subscribe to a topic. The server is asked only if the topic has no subscriber yet. -/
def beginSubscription (id : Nat) (topic : Topic) (subscriber : Subscriber)
    (tracking : Option WorkspaceId) (link : Link) : Link :=
  let isFirst := !SubscriptionTable.follows link.session.table topic
  let (handler, link) := link.addHandler topic.channel.method subscriber
  if isFirst then
    let (number, link) := link.request Message.subscribeMethod (some topic.params)
    link.awaitSubscription id number ⟨topic, handler⟩ tracking
  else link.completeSubscription id ⟨topic, handler⟩ tracking

/-! ### The status waiter -/

/-- How the waiter hears of a workspace. -/
def trackingSubscriber (workspace : WorkspaceId) : Subscriber :=
  ⟨.workspaceStatus workspace, .waiter⟩

def track (id : Nat) (workspace : WorkspaceId) (link : Link) : Link :=
  if link.waiter.isTracked workspace then link.finish id .done
  else
    link.beginSubscription id ⟨.workspaceStatus, workspace.text⟩ (trackingSubscriber workspace)
      (some workspace)

def untrack (id : Nat) (workspace : WorkspaceId) (link : Link) : Link :=
  let (subscription?, waiter, settled) := link.waiter.untrack workspace
  let link := settleStatuses settled { link with waiter }
  match subscription? with
  | some subscription => link.endSubscription id subscription
  | none => link.finish id .done

def statusOutcome : StatusResult → Outcome
  | .already => .status none
  | .reached event => .status (some event)
  | .abandoned => .abandoned

def awaitStatus (id ticket : Nat) (link : Link) : Link :=
  match link.statuses.lookup ticket with
  | some result =>
    finish id (statusOutcome result)
      { link with statuses := link.statuses.filter fun entry => entry.1 ≠ ticket }
  | none => link.setTask id (.call (.status ticket))

/-! ### Phases -/

/-- Wait until the session is connected, or will not be. -/
def awaitConnected (id seen : Nat) (link : Link) : Link :=
  if link.version = seen then link
  else
    match link.session.phase with
    | .connected => link.finish id .done
    | .failed => link.finish id (.failed (.exhausted link.config.settings.maxReconnectAttempts))
    | .disconnected => link.finish id (.failed .closed)
    | .connecting | .reconnecting => link.setTask id (.call (.connecting link.version))

def beginConnect (id : Nat) (link : Link) : Link :=
  if link.session.phase = .connected then link.finish id .done
  else (link.ensureDriver.pushInput .connect).setTask id (.call (.connecting link.version))

def beginClose (id : Nat) (link : Link) : Link :=
  (link.ensureDriver.pushInput (.close id)).setTask id (.call .closing)

def awaitClosed (id : Nat) (link : Link) : Link :=
  if link.closesDone.contains id then link.finish id .done else link

def awaitPhase (id : Nat) (target : Phase) (link : Link) : Link :=
  if link.session.phase = target then link.finish id .done
  else link.setTask id (.call (.phase target))

/-! ### Running a call -/

def startCall (id : Nat) (call : Call) (link : Link) : Link :=
  match call with
  | .connect => link.beginConnect id
  | .close => link.beginClose id
  | .awaitPhase phase => link.awaitPhase id phase
  | .request method params limitMs =>
    let (number, link) := link.request method params
    link.awaitAnswer id number (limitMs.map (link.now + ·)) true
  | .identify limitMs =>
    let (inquiry, link) := link.inquire limitMs
    link.awaitIdentity id inquiry true
  | .follow method subscriber request params => link.follow id method subscriber request params
  | .unfollow method handler request params => link.unfollow id method handler request params
  | .subscribe topic subscriber => link.beginSubscription id topic subscriber none
  | .unsubscribe subscription => link.endSubscription id subscription
  | .track workspace => link.track id workspace
  | .untrack workspace => link.untrack id workspace

def runCall (id : Nat) (stage : Stage) (link : Link) : Link :=
  match stage with
  | .fresh call => link.startCall id call
  | .connecting seen => link.awaitConnected id seen
  | .closing => link.awaitClosed id
  | .phase target => link.awaitPhase id target
  | .answer number due => link.awaitAnswer id number due false
  | .identity inquiry => link.awaitIdentity id inquiry false
  | .following number method handler => link.awaitFollowing id number method handler
  | .subscribing number subscription tracking =>
    link.awaitSubscription id number subscription tracking
  | .confirmation number => link.awaitConfirmation id number
  | .status ticket => link.awaitStatus id ticket

/-- Undo what a call holds, wherever it stands: its request and the handler that depends on it. -/
def undo (stage : Stage) (link : Link) : Link :=
  match stage with
  | .answer number _ => link.forget number
  | .identity inquiry => link.forget inquiry.number
  | .confirmation number => link.forget number
  | .following number method handler => ((link.forget number).removeHandler method handler).2
  | .subscribing number subscription _ =>
    ((link.forget number).removeHandler subscription.topic.channel.method
      subscription.handler).2
  | _ => link

/-- Begin a call; its number is given back. -/
def call (call : Call) (link : Link) : Nat × Link :=
  (link.nextTask, link.spawn (.call (.fresh call)))

/-- Begin to wait for a status; the number of the call that hears of it is given back. What happens
from now on counts, also before that call has run. -/
def waitForStatus (workspace : WorkspaceId) (status : Status) (link : Link) : Nat × Link :=
  let (ticket, waiter, settled) := link.waiter.waitFor workspace status
  (link.nextTask, (settleStatuses settled { link with waiter }).spawn (.call (.status ticket)))

def isRunning (link : Link) (id : Nat) : Bool :=
  match link.task? id with
  | some (.call _) => true
  | _ => false

def abandon (id : Nat) (link : Link) : Link :=
  match link.task? id with
  | some (.call stage) => (link.undo stage).endTask id
  | _ => link

def runningCalls (link : Link) : List Nat :=
  (link.tasks.filter fun entry => match entry.2 with
    | .call _ => true
    | _ => false).map Prod.fst

def abandonAll (link : Link) : Link := link.runningCalls.foldl (fun link id => link.abandon id) link

end WorkspaceLink.Link
