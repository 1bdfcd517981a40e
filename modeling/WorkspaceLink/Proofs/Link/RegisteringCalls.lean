import WorkspaceLink.Proofs.Link.Lockstep
import WorkspaceLink.Proofs.Link.RegisteredHandlers

/-!
# Bids for notifications

A call that follows a method, subscribes to a topic or tracks a workspace makes a bid: it registers
a handler, sends a request for it, and waits for the answer. A call of a session makes its bid only
if the topic has no subscriber yet; otherwise it is granted what it asks for at once.

What a turn of such a call does is said once, in `Poised.turn`: the call waits on, or it has failed
and what it held is undone, or it has succeeded. `Poised.drop` says the same of a call that is
dropped.
-/
namespace WorkspaceLink

/-- A handler for a method, and the request that asks the server to serve it. -/
structure Bid where
  method : String
  subscriber : Subscriber
  request : String
  params : Option Json

def Topic.bid (topic : Topic) (subscriber : Subscriber) : Bid where
  method := topic.channel.method
  subscriber := subscriber
  request := Message.subscribeMethod
  params := some topic.params

/-- The bid that a call makes, unless it is granted what it asks for at once. -/
def Call.bid? : Call → Option Bid
  | .follow method subscriber name params => some ⟨method, subscriber, name, params⟩
  | .subscribe topic subscriber => some (topic.bid subscriber)
  | .track workspace =>
    some ((Link.trackingTopic workspace).bid (Link.trackingSubscriber workspace))
  | _ => none

/-- The call has made its bid and waits for the answer to a request, with a handler for a method. -/
inductive Stage.Bids (number : Nat) : String → HandlerId → Stage → Prop where
  | following (method : String) (handler : HandlerId) :
    Bids number method handler (.following number method handler)
  | subscribing (topic : Topic) (handler : HandlerId) (tracking : Option WorkspaceId) :
    Bids number topic.channel.method handler (.subscribing number ⟨topic, handler⟩ tracking)

def Outcome.isFailure : Outcome → Bool
  | .failed _ => true
  | _ => false

namespace Link

variable {margin : Margin} {link image : Link} {id number : Nat} {method : String}
  {handler : HandlerId} {stage : Stage} {call : Call} {bid : Bid} {subscription : Subscription}
  {tracking : Option WorkspaceId} {subscriber : Subscriber}

def register (bid : Bid) (link : Link) : Link := (link.addHandler bid.method bid.subscriber).2

/-- A bid is made: first the handler is registered, then the request is sent. -/
def bidding (bid : Bid) (link : Link) : Link :=
  ((link.register bid).request bid.request bid.params).2

/-- The call has to make its bid. -/
def Bids (link : Link) : Call → Prop
  | .follow _ _ _ _ => True
  | .subscribe topic _ => ¬ SubscriptionTable.follows link.session.table topic
  | .track workspace => ¬ link.waiter.isTracked workspace ∧
    ¬ SubscriptionTable.follows link.session.table (trackingTopic workspace)
  | _ => False

/-- The call is over, with success. -/
def Succeeds (link : Link) (id : Nat) : Prop :=
  ∃ outcome, (id, outcome) ∈ link.finished ∧ outcome.isFailure = false

/-- A call ends with success, and nothing else happens to tasks and outcomes. -/
structure Fulfils (id : Nat) (first second : Link) : Prop where
  finished : ∃ outcome, outcome.isFailure = false ∧
    second.finished = first.finished ++ [(id, outcome)]
  tasks : second.tasks = (first.endTask id).tasks

theorem Fulfils.succeeds (h : Fulfils id link image) : image.Succeeds id := by
  obtain ⟨outcome, hsuccess, hfinished⟩ := h.finished
  exact ⟨outcome, hfinished ▸ List.mem_append_right _ (List.mem_singleton.mpr rfl), hsuccess⟩

theorem Fulfils.absent (h : Fulfils id link image) : image.task? id = none := by
  rw [task?, h.tasks]
  exact (task?_endTask id id link).trans (if_pos rfl)

theorem Fulfils.uncarried (h : Fulfils id link image) {other : Nat}
    (hfree : ¬ (link.endTask id).Carries other handler) : ¬ image.Carries other handler := by
  rintro ⟨stage, hmem, hcarried⟩
  exact hfree ⟨stage, h.tasks ▸ hmem, hcarried⟩

theorem fulfils_finish {mid : Link} {outcome : Outcome} (h : outcome.isFailure = false)
    (hfinished : mid.finished = link.finished) (htasks : mid.tasks = link.tasks) :
    Fulfils id link (mid.finish id outcome) where
  finished := ⟨outcome, h, by rw [← hfinished]; rfl⟩
  tasks := by
    change mid.tasks.filter _ = link.tasks.filter _
    rw [htasks]

theorem not_succeeds_of_task (h : link.Concluded) {task : Task}
    (htask : link.task? id = some task) : ¬ link.Succeeds id := by
  rintro ⟨outcome, hmem, _⟩
  rw [(h _ hmem).2] at htask
  cases htask

/-! ### Bids that are granted -/

/-- What was bid for is granted: the handler stays, and is listed if it is for a topic. -/
def grant (id : Nat) (stage : Stage) (link : Link) : Link :=
  match stage with
  | .following _ _ handler => link.finish id (.following handler)
  | .subscribing _ subscription tracking => link.completeSubscription id subscription tracking
  | _ => link

/-- The waiter remembers, in place of the subscription that it is about to remember, none at all or
another one for the same topic. -/
def Replaces (link : Link) (subscription : Subscription) (tracking : Option WorkspaceId) : Prop :=
  ∀ workspace extra, tracking = some workspace → link.Remembers workspace extra →
    extra.topic = subscription.topic ∧ extra.handler ≠ subscription.handler

theorem Recalled.replaces (h : link.Recalled)
    (hmem : (id, .call (.subscribing number subscription tracking)) ∈ link.tasks) :
    link.Replaces subscription tracking := by
  rintro workspace extra rfl hextra
  refine ⟨?_, fun heq => h.uncarried workspace extra hextra id ⟨_, hmem, congrArg some heq.symm⟩⟩
  rw [h.topic workspace extra hextra, h.pledged id number subscription workspace hmem]

/-- The subscription that is replaced is ended without a request: the topic has the new one. -/
theorem fulfils_completeSubscription (hsound : Grouped.Sound link.session.table)
    (hreplaces : link.Replaces subscription tracking) :
    Fulfils id link (link.completeSubscription id subscription tracking) := by
  unfold Link.completeSubscription
  dsimp only
  split
  · exact fulfils_finish rfl rfl rfl
  next workspace =>
    split
    next extra hextra =>
      obtain ⟨htopic, hne⟩ := hreplaces workspace extra rfl hextra
      have hstays := SubscriptionTable.follows_replace hsound extra.topic hne.symm
      rw [htopic] at hstays
      unfold Link.endSubscription
      dsimp only
      split
      · exact fulfils_finish rfl rfl rfl
      · rw [if_neg ?_]
        · exact fulfils_finish rfl rfl rfl
        · rw [htopic]
          exact fun hnot => hnot.1 hstays
    next => exact fulfils_finish rfl rfl rfl

theorem Endures.grant (h : Endures method (handler, subscriber) link) (id : Nat)
    (hbids : stage.Bids number method handler)
    (hreplaces : ∀ own subscription tracking, stage = .subscribing own subscription tracking →
      link.Replaces subscription tracking) :
    Endures method (handler, subscriber) (link.grant id stage) := by
  cases hbids with
  | following method handler => exact h.finish id _
  | subscribing topic handler tracking =>
    refine h.completeSubscription id _ fun workspace htracking extra hextra htakes => ?_
    exact (hreplaces number _ tracking rfl workspace extra htracking hextra).2 htakes.1

/-! ### The first turn -/

/-- A call that has to make its bid makes it and looks for the answer. -/
theorem beat_bid (htask : link.task? id = some (.call (.fresh call))) (hbid : call.bid? = some bid)
    (hmust : link.Bids call) :
    ∃ stage, stage.Bids link.client.nextId bid.method ⟨link.client.handlers.next⟩ ∧
      link.beat (.task id) = (link.bidding bid).runCall id stage ∧
      ∀ own subscription tracking, stage = .subscribing own subscription tracking →
        link.Replaces subscription tracking := by
  rw [beat_task_call htask]
  cases call with
  | follow method subscriber request params =>
    obtain rfl := Option.some.inj hbid
    exact ⟨_, .following method ⟨link.client.handlers.next⟩, rfl, nofun⟩
  | subscribe topic subscriber =>
    obtain rfl := Option.some.inj hbid
    have hfirst : SubscriptionTable.follows link.session.table topic = false := by
      simpa [Bids] using hmust
    refine ⟨_, .subscribing topic ⟨link.client.handlers.next⟩ none, ?_, ?_⟩
    · simp only [Link.runCall, startCall, Link.beginSubscription, hfirst, Bool.not_false, if_true]
      rfl
    · rintro own subscription tracking heq workspace extra rfl
      cases heq
  | track workspace =>
    obtain rfl := Option.some.inj hbid
    obtain ⟨huntracked, hfirst⟩ := hmust
    have hfirst : SubscriptionTable.follows link.session.table
        ⟨.workspaceStatus, workspace.text⟩ = false := by
      simpa [trackingTopic] using hfirst
    refine ⟨_, .subscribing (trackingTopic workspace) ⟨link.client.handlers.next⟩ (some workspace),
      ?_, ?_⟩
    · simp only [Link.runCall, startCall, Link.track, if_neg huntracked, Link.beginSubscription,
        hfirst, Bool.not_false, if_true]
      rfl
    · rintro own subscription tracking heq other extra rfl hextra
      cases heq
      exact absurd (Option.isSome_of_eq_some hextra) huntracked
  | _ => exact hmust.elim

/-- A call that does not have to make its bid is granted what it asks for at once. -/
theorem succeeds_of_not_bids (hsound : Grouped.Sound link.session.table)
    (htask : link.task? id = some (.call (.fresh call))) (hbid : call.bid? = some bid)
    (hmust : ¬ link.Bids call) : (link.beat (.task id)).Succeeds id := by
  rw [beat_task_call htask]
  have hadded : ∀ method subscriber,
      Grouped.Sound (link.addHandler method subscriber).2.session.table := fun _ _ => hsound
  cases call with
  | follow method subscriber request params => exact absurd trivial hmust
  | subscribe topic subscriber =>
    have hmore : SubscriptionTable.follows link.session.table topic = true := by
      simpa [Bids] using hmust
    simp only [Link.runCall, startCall, Link.beginSubscription, hmore, Bool.not_true,
      Bool.false_eq_true, if_false]
    exact (fulfils_completeSubscription (hadded _ _) (by rintro _ _ ⟨⟩)).succeeds
  | track workspace =>
    simp only [Link.runCall, startCall, Link.track]
    split
    · have hdone : Fulfils id link (link.finish id .done) := fulfils_finish rfl rfl rfl
      exact hdone.succeeds
    next huntracked =>
      have hmore : SubscriptionTable.follows link.session.table
          ⟨.workspaceStatus, workspace.text⟩ = true := by
        by_contra hfirst
        exact hmust ⟨huntracked, hfirst⟩
      simp only [Link.beginSubscription, hmore, Bool.not_true, Bool.false_eq_true, if_false]
      refine Fulfils.succeeds (fulfils_completeSubscription (hadded _ _) ?_)
      rintro other extra ⟨⟩ hextra
      exact absurd (Option.isSome_of_eq_some hextra) huntracked
  | _ => cases hbid

/-! ### Turns -/

/-- The call waits with its bid, and its handler is registered for no other method. -/
structure Waits (link : Link) (id number : Nat) (method : String) (handler : HandlerId) : Prop where
  stands : ∃ stage, link.task? id = some (.call stage) ∧ stage.Bids number method handler
  only : ∀ other, link.client.handlers.contains other handler → other = method

/-- The call is over without success, and its handler is in no place. -/
structure Gone (link : Link) (id : Nat) (handler : HandlerId) : Prop where
  absent : link.task? id = none
  failed : ¬ link.Succeeds id
  unlisted : ∀ topic, ¬ link.Lists topic handler
  uncarried : ∀ other, ¬ link.Carries other handler

/-- A call that bids, right before it looks for the answer. -/
structure Poised (link : Link) (id number : Nat) (method : String) (handler : HandlerId)
    (stage : Stage) : Prop where
  bids : stage.Bids number method handler
  running : ∃ task, link.task? id = some task
  concluded : link.Concluded
  table : Grouped.Sound link.session.table
  registry : Grouped.Sound link.client.handlers.lists
  only : ∀ other, link.client.handlers.contains other handler → other = method
  unlisted : handler ∉ Grouped.all link.session.table
  uncarried : ∀ other, ¬ (link.endTask id).Carries other handler
  replaces : ∀ number subscription tracking, stage = .subscribing number subscription tracking →
    link.Replaces subscription tracking

theorem carried?_of_bids (h : stage.Bids number method handler) :
    stage.carried? = some handler := by
  cases h <;> rfl

theorem undo_bids (h : stage.Bids number method handler) (link : Link) :
    link.undo stage = ((link.forget number).removeHandler method handler).2 := by
  cases h <;> rfl

theorem runCall_bids (h : stage.Bids number method handler) (id : Nat) (link : Link) :
    link.runCall id stage = link.setTask id (.call stage) ∨
      (∃ error, link.runCall id stage = (link.undo stage).finish id (.failed error)) ∨
        link.runCall id stage = (link.forget number).grant id stage := by
  cases h with
  | following method handler =>
    simp only [Link.runCall, Link.awaitFollowing]
    split
    · exact .inr (.inr rfl)
    · exact .inr (.inl ⟨_, rfl⟩)
    · exact .inl rfl
  | subscribing topic handler tracking =>
    simp only [Link.runCall, Link.awaitSubscription]
    split
    · exact .inr (.inr rfl)
    · exact .inr (.inl ⟨_, rfl⟩)
    · exact .inl rfl

/-- A beat that concerns a call: it has its turn, it is dropped, or nothing happens. -/
theorem beat_of_call {b : Beat} (htask : link.task? id = some (.call stage))
    (hb : concerns? b = some id) :
    link.beat b = link.runCall id stage ∨ link.beat b = (link.undo stage).endTask id ∨
      link.beat b = link := by
  cases b with
  | task other =>
    obtain rfl := Option.some.inj hb
    exact .inl (beat_task_call htask)
  | abandon other =>
    obtain rfl := Option.some.inj hb
    refine .inr (.inl ?_)
    simp only [beat, abandon, htask]
  | socket turn =>
    cases turn with
    | deliver other =>
      obtain rfl := Option.some.inj hb
      exact .inr (.inr (beat_deliver_call htask))
    | _ => cases hb
  | _ => cases hb

namespace Poised

variable (h : Poised link id number method handler stage)
include h

theorem grant : Fulfils id link ((link.forget number).grant id stage) := by
  have hbids := h.bids
  cases hbids with
  | following method handler => exact fulfils_finish rfl rfl rfl
  | subscribing topic handler tracking =>
    have hreplaces := h.replaces number _ tracking rfl
    have hforgot : Fulfils id (link.forget number)
        ((link.forget number).completeSubscription id ⟨topic, handler⟩ tracking) :=
      fulfils_completeSubscription h.table hreplaces
    exact ⟨hforgot.finished, hforgot.tasks⟩

/-- What the call held is undone: nobody waits for its request, and its handler is nowhere. -/
theorem undone :
    number ∉ (link.undo stage).client.pending ∧
      (∀ other, ¬ (link.undo stage).client.handlers.contains other handler) ∧
      (∀ topic, ¬ (link.undo stage).Lists topic handler) ∧
      ∀ other, ¬ ((link.undo stage).endTask id).Carries other handler := by
  rw [undo_bids h.bids]
  refine ⟨?_, fun other hcontains => ?_, fun topic hlists => ?_, h.uncarried⟩
  · change number ∉ (link.client.forget number).pending
    simp [Client.forget_pending]
  · obtain ⟨hold, hkept⟩ := (Registry.contains_remove h.registry method handler).mp hcontains
    exact hkept ⟨h.only other hold, rfl⟩
  · exact h.unlisted (Grouped.mem_all_of_mem_items hlists)

/-- The call is dropped. -/
theorem gone_endTask : Gone ((link.undo stage).endTask id) id handler := by
  obtain ⟨task, htask⟩ := h.running
  obtain ⟨_, _, hunlisted, huncarried⟩ := h.undone
  refine ⟨(task?_endTask id id _).trans (if_pos rfl), ?_, hunlisted, huncarried⟩
  rw [undo_bids h.bids]
  exact fun hsucceeds => not_succeeds_of_task h.concluded htask hsucceeds

/-- The call fails. -/
theorem gone_finish (error : SessionError) :
    Gone ((link.undo stage).finish id (.failed error)) id handler := by
  have hgone := h.gone_endTask
  refine ⟨hgone.absent, ?_, hgone.unlisted, hgone.uncarried⟩
  rintro ⟨outcome, hmem, hsuccess⟩
  rcases List.mem_append.mp hmem with hold | hnew
  · exact hgone.failed ⟨outcome, hold, hsuccess⟩
  · obtain rfl : outcome = .failed error := by simpa using hnew
    cases hsuccess

theorem waits_setTask : Waits (link.setTask id (.call stage)) id number method handler := by
  obtain ⟨task, htask⟩ := h.running
  refine ⟨⟨stage, ?_, h.bids⟩, h.only⟩
  rw [task?_setTask, if_pos rfl, htask]
  rfl

/-- In a turn of the call its handler stays registered, unless the call fails. -/
theorem endures (he : Endures method (handler, subscriber) link) :
    let after := link.runCall id stage
    Endures method (handler, subscriber) after ∧
        (Waits after id number method handler ∨ Fulfils id link after) ∨
      ∃ error, after = (link.undo stage).finish id (.failed error) := by
  intro after
  rcases runCall_bids h.bids id link with heq | hfails | heq
  · rw [show after = _ from heq]
    exact .inl ⟨he.of_same rfl, .inl h.waits_setTask⟩
  · exact .inr hfails
  · have hforgot : Endures method (handler, subscriber) (link.forget number) := he.of_same rfl
    rw [show after = _ from heq]
    exact .inl ⟨hforgot.grant id h.bids h.replaces, .inr h.grant⟩

end Poised

/-! ### Mirrored -/

theorem Mirrors.forget_own (h : Mirrors margin link image) :
    Mirrors margin (link.forget margin.number) image where
  outline := by
    rw [← h.outline]
    simp only [Link.outline, Link.forget, List.filter_filter, Bool.and_self]
  client := h.client.forget_own
  permits := h.permits

theorem Mirrors.removeHandler_own (h : Mirrors margin link image) (method : String) :
    Mirrors margin (link.removeHandler method margin.handler).2 image :=
  ⟨h.outline, h.client.remove_own method, h.permits⟩

theorem Mirrors.setTask_own (h : Mirrors margin link image) (hown : id ∈ margin.tasks)
    (task : Task) : Mirrors margin (link.setTask id task) image :=
  h.congr ⟨setTask_outline_own hown task link, rfl⟩ ⟨rfl, rfl⟩

theorem Mirrors.endTask_own (h : Mirrors margin link image) (hown : id ∈ margin.tasks) :
    Mirrors margin (link.endTask id) image :=
  h.congr ⟨endTask_outline_own hown link, rfl⟩ ⟨rfl, rfl⟩

/-- Without a trace of the request and the handler in the margin, a link is its own image. -/
theorem Mirrors.self (h : Mirrors margin link image)
    (hpending : margin.number ∉ link.client.pending)
    (hregistered : ∀ method, ¬ link.client.handlers.contains method margin.handler) :
    Mirrors margin link link where
  outline := rfl
  client := by
    have hkept : link.client.pending.filter (· ≠ margin.number) = link.client.pending := by
      refine List.filter_eq_self.mpr fun number hmem => ?_
      have hne : number ≠ margin.number := by
        rintro rfl
        exact hpending hmem
      simpa using hne
    refine ⟨rfl, hkept, rfl, fun method => ?_, h.client.sound, h.client.sound, ?_, ?_, ?_⟩
    · refine List.filter_eq_self.mpr fun entry hmem => ?_
      have hne : entry.1 ≠ margin.handler := fun heq =>
        hregistered method (Registry.contains_iff.mpr ⟨entry, hmem, heq⟩)
      simpa using hne
    · rw [h.client.nextId, ← hkept, h.client.pending]
      exact h.client.waiting_lt
    · rw [h.client.nextId]
      exact h.client.number_lt
    · rw [h.client.next]
      exact h.client.handler_lt
  permits := by
    rw [h.outline, h.client.nextId]
    exact h.permits

namespace Poised

variable (h : Poised link id margin.number method margin.handler stage)
include h

theorem mirrors_undo (hmirrors : Mirrors margin link image) :
    Mirrors margin (link.undo stage) image ∧
      Mirrors margin (link.undo stage) (link.undo stage) := by
  have hundo : Mirrors margin (link.undo stage) image := by
    rw [undo_bids h.bids]
    exact hmirrors.forget_own.removeHandler_own method
  obtain ⟨hpending, hregistered, _⟩ := h.undone
  exact ⟨hundo, hundo.self hpending hregistered⟩

/-- A turn of the call: it waits on, or it is over without success and without a trace, or it has
succeeded. -/
theorem turn (hmirrors : Mirrors margin link image) (hown : id ∈ margin.tasks) :
    let after := link.runCall id stage
    Mirrors margin after image ∧ (Waits after id margin.number method margin.handler ∨
      Gone after id margin.handler ∧ Mirrors margin after after) ∨ after.Succeeds id := by
  intro after
  rcases runCall_bids h.bids id link with heq | ⟨error, heq⟩ | heq
  · rw [show after = _ from heq]
    exact .inl ⟨hmirrors.setTask_own hown _, .inl h.waits_setTask⟩
  · obtain ⟨hundo, hself⟩ := h.mirrors_undo hmirrors
    rw [show after = _ from heq]
    refine .inl ⟨?_, .inr ⟨h.gone_finish error, hself.finish id _⟩⟩
    exact (hundo.endTask_own hown).congr ⟨rfl, rfl⟩ ⟨rfl, rfl⟩
  · rw [show after = _ from heq]
    exact .inr h.grant.succeeds

/-- The call is dropped. -/
theorem drop (hmirrors : Mirrors margin link image) (hown : id ∈ margin.tasks) :
    let after := (link.undo stage).endTask id
    Mirrors margin after image ∧ Gone after id margin.handler ∧ Mirrors margin after after := by
  obtain ⟨hundo, hself⟩ := h.mirrors_undo hmirrors
  exact ⟨hundo.endTask_own hown, h.gone_endTask, hself.endTask id⟩

end Poised

end Link

end WorkspaceLink
