import WorkspaceLink.Proofs.Link.Hearing
import WorkspaceLink.Proofs.Link.Scopes
import WorkspaceLink.Proofs.Link.ConnectWakeups

/-!
# Tracked workspaces

The status waiter remembers which workspaces it tracks, each with the subscription whose handler
feeds it. A call that tracks a workspace returns at once if the workspace is in that memory, and
otherwise subscribes, enters its own subscription and ends one that was entered meanwhile.

The subscriptions that calls wait for and those that the waiter remembers have different handlers,
so nobody removes the handler of another. Only a close removes them all, and the waiter is not told.
Main statement: when a call that tracks a workspace returns with success, the waiter remembers a
subscription for it whose handler feeds the waiter, exactly unless the session was closed while that
handler was registered; and with the handler in place the next status of the workspace is noted and
ends the waits for it.
-/
namespace WorkspaceLink

namespace StatusWaiter

variable {w : StatusWaiter}

theorem lookup_untrack (workspace other : WorkspaceId) :
    (w.untrack workspace).2.1.tracked.lookup other =
      if other = workspace then none else w.tracked.lookup other := by
  simp only [untrack]
  exact lookup_filter_ne workspace other w.tracked

/-! ### What the waiter learns -/

variable {events : List WorkspaceStatusEvent} {wait : StatusWait}

theorem mem_waits_handle (event : WorkspaceStatusEvent) :
    wait ∈ (w.handle event).1.waits ↔ wait ∈ w.waits ∧ ¬ Ends event wait := by
  rw [waits_handle, List.mem_filter]
  simp

theorem mem_handle_of_ends {event : WorkspaceStatusEvent} (hwait : wait ∈ w.waits)
    (h : Ends event wait) : (wait.ticket, .reached event) ∈ (w.handle event).2 := by
  rw [settled_handle]
  exact List.mem_map_of_mem (List.mem_filter.mpr ⟨hwait, decide_eq_true h⟩)

variable (state : StatusWaiter × Settled)

/-- The waits that are open are those that no event has ended. -/
theorem mem_waits_learn :
    wait ∈ (events.foldl learn state).1.waits ↔
      wait ∈ state.1.waits ∧ ∀ event ∈ events, ¬ Ends event wait := by
  induction events generalizing state with
  | nil => simp
  | cons event rest ih =>
    rw [List.foldl_cons, ih, learn, mem_waits_handle, List.forall_mem_cons, and_assoc]

theorem prefix_learn : state.2 <+: (events.foldl learn state).2 := by
  induction events generalizing state with
  | nil => exact List.prefix_refl _
  | cons event rest ih =>
    rw [List.foldl_cons]
    exact List.IsPrefix.trans (List.prefix_append _ _) (ih (learn state event))

/-- A wait ends with the first event that brings its workspace to its status. -/
theorem mem_learn_of_ends (hwait : wait ∈ state.1.waits) (h : ∃ event ∈ events, Ends event wait) :
    ∃ event ∈ events, Ends event wait ∧
      (wait.ticket, .reached event) ∈ (events.foldl learn state).2 := by
  induction events generalizing state with
  | nil => simp at h
  | cons event rest ih =>
    by_cases hends : Ends event wait
    · refine ⟨event, List.mem_cons_self, hends, ?_⟩
      rw [List.foldl_cons]
      apply (prefix_learn (learn state event)).subset
      exact List.mem_append_right _ (mem_handle_of_ends hwait hends)
    · have hrest : ∃ event ∈ rest, Ends event wait := by simpa [hends] using h
      have hstill : wait ∈ (learn state event).1.waits :=
        (mem_waits_handle event).mpr ⟨hwait, hends⟩
      obtain ⟨other, hmem, hother⟩ := ih _ hstill hrest
      exact ⟨other, List.mem_cons_of_mem _ hmem, hother⟩

theorem learn_tracked : (events.foldl learn state).1.tracked = state.1.tracked := by
  induction events generalizing state with
  | nil => rfl
  | cons event rest ih =>
    refine (ih _).trans ?_
    simp only [learn, handle]
    split <;> rfl

/-- One event, heard any number of times. -/
theorem knownStatus?_learn {event : WorkspaceStatusEvent} {status : Status}
    (hsome : events ≠ []) (hall : ∀ other ∈ events, other = event)
    (hstatus : event.effectiveStatus = some status) :
    (events.foldl learn state).1.knownStatus? event.workspaceId = some status := by
  induction events using List.reverseRecOn with
  | nil => exact absurd rfl hsome
  | append_singleton rest last =>
    obtain rfl := hall last (List.mem_append_right _ (List.mem_singleton.mpr rfl))
    rw [List.foldl_append, List.foldl_cons, List.foldl_nil, learn, knownStatus?_handle, if_pos rfl,
      hstatus]
    rfl

end StatusWaiter

namespace Link

variable {link first second : Link} {id : Nat} {task : Task} {subscription : Subscription}
  {workspace : WorkspaceId} {severed : HandlerId → Prop}

/-! ### Who holds a handler -/

/-- Who relies on the handler of a subscription: a call that waits for the server, or the status
waiter for a workspace. -/
inductive Holder where
  | call (id : Nat)
  | waiter (workspace : WorkspaceId)

/-- The holder relies on the subscription. -/
def Holds (link : Link) : Holder → Subscription → Prop
  | .call id, subscription => link.Pledges id subscription
  | .waiter workspace, subscription => link.waiter.tracked.lookup workspace = some subscription

def trackingTopic (workspace : WorkspaceId) : Topic := ⟨.workspaceStatus, workspace.text⟩

/-- The handler is registered, and feeds the status waiter with what happens to a workspace. -/
def Feeds (link : Link) (workspace : WorkspaceId) (handler : HandlerId) : Prop :=
  (handler, trackingSubscriber workspace) ∈
    link.client.handlers.entries Channel.workspaceStatus.method

/-- The subscription is for tracking a workspace, and feeds the waiter unless it was severed. -/
structure Tracks (severed : HandlerId → Prop) (link : Link) (workspace : WorkspaceId)
    (subscription : Subscription) : Prop where
  topic : subscription.topic = trackingTopic workspace
  feeds : link.Feeds workspace subscription.handler ↔ ¬ severed subscription.handler

theorem Tracks.congr (h : Tracks severed first workspace subscription)
    (hhandlers : second.client.handlers = first.client.handlers) :
    Tracks severed second workspace subscription := by
  refine ⟨h.topic, ?_⟩
  unfold Feeds
  rw [hhandlers]
  exact h.feeds

/-- A call that may run beside calls that track workspaces: it removes no handler of its own
choice. -/
def isTrackingCall : Call → Bool
  | .follow _ _ _ _ | .unfollow _ _ _ _ | .unsubscribe _ => false
  | _ => true

/-- Where such calls stand. -/
def standsTracking : Stage → Bool
  | .fresh call => isTrackingCall call
  | .following _ _ _ => false
  | _ => true

/-- Every holder has a handler of its own, and those for tracking feed the waiter unless they were
severed. -/
structure Kept (severed : HandlerId → Prop) (link : Link) : Prop where
  calls : ∀ id stage, (id, .call stage) ∈ link.tasks → standsTracking stage
  registry : Grouped.Sound link.client.handlers.lists
  severed_lt : ∀ handler, severed handler → handler.number < link.client.handlers.next
  held_lt : ∀ holder subscription, link.Holds holder subscription →
    subscription.handler.number < link.client.handlers.next
  held_once : ∀ holder subscription holder' subscription', link.Holds holder subscription →
    link.Holds holder' subscription' → subscription.handler = subscription'.handler →
      holder = holder'
  tracked : ∀ workspace subscription, link.waiter.tracked.lookup workspace = some subscription →
    Tracks severed link workspace subscription
  pledged : ∀ id number subscription workspace,
    (id, .call (.subscribing number subscription (some workspace))) ∈ link.tasks →
      Tracks severed link workspace subscription

/-- The handler of a subscription may be held: nobody does. -/
structure Unheld (link : Link) (subscription : Subscription) : Prop where
  lt_next : subscription.handler.number < link.client.handlers.next
  free : ∀ holder other, link.Holds holder other → other.handler ≠ subscription.handler

/-! ### What leaves handlers and holders alone -/

/-- The second link has the handlers and the tracked workspaces of the first, and no further
holders. -/
structure Retains (first second : Link) : Prop where
  handlers : second.client.handlers = first.client.handlers
  tracked : second.waiter.tracked = first.waiter.tracked
  tasks : ∀ entry ∈ second.tasks, entry ∈ first.tasks ∨ isEmptyHanded entry.2

theorem Retains.of_leaves (h : Leaves first second)
    (htracked : second.waiter.tracked = first.waiter.tracked) : Retains first second :=
  ⟨h.handlers, htracked, h.tasks⟩

theorem Retains.of_same (hhandlers : second.client.handlers = first.client.handlers)
    (htracked : second.waiter.tracked = first.waiter.tracked)
    (htasks : second.tasks = first.tasks) : Retains first second :=
  ⟨hhandlers, htracked, fun _ hmem => .inl (htasks ▸ hmem)⟩

theorem Retains.holds (h : Retains first second) {holder : Holder}
    (hh : second.Holds holder subscription) : first.Holds holder subscription := by
  cases holder with
  | call id =>
    obtain ⟨number, tracking, hmem⟩ := hh
    rcases h.tasks _ hmem with hold | hempty
    · exact ⟨number, tracking, hold⟩
    · simp [isEmptyHanded] at hempty
  | waiter workspace =>
    simp only [Holds, h.tracked] at hh
    exact hh

theorem standsTracking_of_isEmptyHanded {stage : Stage} (h : isEmptyHanded (.call stage)) :
    standsTracking stage := by
  cases stage with
  | fresh call => simp [isEmptyHanded] at h
  | following number method handler => simp [isEmptyHanded] at h
  | _ => rfl

theorem Kept.retains (hk : Kept severed first) (h : Retains first second) :
    Kept severed second where
  calls id stage hmem := by
    rcases h.tasks _ hmem with hold | hempty
    · exact hk.calls id stage hold
    · exact standsTracking_of_isEmptyHanded hempty
  registry := h.handlers ▸ hk.registry
  severed_lt := h.handlers ▸ hk.severed_lt
  held_lt holder subscription hh := by
    rw [h.handlers]
    exact hk.held_lt holder subscription (h.holds hh)
  held_once _ _ _ _ hh hh' := hk.held_once _ _ _ _ (h.holds hh) (h.holds hh')
  tracked workspace subscription hlookup := by
    rw [h.tracked] at hlookup
    exact (hk.tracked workspace subscription hlookup).congr h.handlers
  pledged id number subscription workspace hmem := by
    rcases h.tasks _ hmem with hold | hempty
    · exact (hk.pledged id number subscription workspace hold).congr h.handlers
    · simp [isEmptyHanded] at hempty

theorem Unheld.retains (hu : Unheld first subscription) (h : Retains first second) :
    Unheld second subscription where
  lt_next := h.handlers ▸ hu.lt_next
  free holder other hh := hu.free holder other (h.holds hh)

theorem retains_endTask (id : Nat) (link : Link) : Retains link (link.endTask id) :=
  ⟨rfl, rfl, fun _ hmem => .inl (mem_endTask.mp hmem).1⟩

theorem retains_setTask (h : isEmptyHanded task) (id : Nat) (link : Link) :
    Retains (link.endTask id) (link.setTask id task) :=
  .of_leaves (leaves_setTask h id link) rfl

theorem Retains.endTask (h : Retains first second) (id : Nat) :
    Retains (first.endTask id) (second.endTask id) := by
  refine ⟨h.handlers, h.tracked, fun entry hmem => ?_⟩
  obtain ⟨hmem, hne⟩ := mem_endTask.mp hmem
  rcases h.tasks entry hmem with hold | hempty
  · exact .inl (mem_endTask.mpr ⟨hold, hne⟩)
  · exact .inr hempty

theorem Attached.retains_request (h : link.Attached) (method : String) (params : Option Json) :
    Retains link (link.request method params).2 ∧ (link.request method params).2.Attached := by
  have hhushed : Hushed (fun _ => False) link (link.request method params).2 :=
    h.hushed_request method params
  have htracked := hhushed.tracked (fun _ => not_false) (fun _ _ => not_false)
  exact ⟨.of_leaves (leaves_request method params link) htracked, hhushed.attached h⟩

/-! ### Handlers come and go -/

theorem Kept.addHandler (h : Kept severed link) (method : String) (subscriber : Subscriber) :
    Kept severed (link.addHandler method subscriber).2 := by
  have hfeeds : ∀ workspace handler, handler.number < link.client.handlers.next →
      ((link.addHandler method subscriber).2.Feeds workspace handler ↔
        link.Feeds workspace handler) := by
    intro workspace handler hlt
    change (handler, trackingSubscriber workspace) ∈
      (link.client.handlers.add method subscriber).2.entries _ ↔ _
    rw [Registry.entries_add]
    split
    · simp [HandlerId.ne_of_lt hlt, Feeds]
    · rfl
  have hlists : (link.addHandler method subscriber).2.client.handlers.lists =
      Grouped.insert method (⟨link.client.handlers.next⟩, subscriber)
        link.client.handlers.lists :=
    Registry.append_eq _ _ _
  refine ⟨h.calls, hlists ▸ h.registry.insert _ _, ?_, ?_, h.held_once, ?_, ?_⟩
  · exact fun handler hsevered => Nat.lt_succ_of_lt (h.severed_lt handler hsevered)
  · exact fun holder subscription hh => Nat.lt_succ_of_lt (h.held_lt holder subscription hh)
  · intro workspace subscription hlookup
    have ht := h.tracked workspace subscription hlookup
    have hlt := h.held_lt (.waiter workspace) subscription hlookup
    exact ⟨ht.topic, (hfeeds workspace _ hlt).trans ht.feeds⟩
  · intro id number subscription workspace hmem
    have ht := h.pledged id number subscription workspace hmem
    have hlt := h.held_lt (.call id) subscription ⟨number, _, hmem⟩
    exact ⟨ht.topic, (hfeeds workspace _ hlt).trans ht.feeds⟩

/-- A new handler is held by nobody. -/
theorem Kept.unheld_addHandler (h : Kept severed link) (topic : Topic) (subscriber : Subscriber) :
    Unheld (link.addHandler topic.channel.method subscriber).2
      ⟨topic, (link.addHandler topic.channel.method subscriber).1⟩ where
  lt_next := Nat.lt_succ_self _
  free holder other hh heq := by
    have hlt := h.held_lt holder other hh
    rw [heq] at hlt
    exact Nat.lt_irrefl _ hlt

/-- A new handler for tracking feeds the waiter. -/
theorem Kept.tracks_addHandler (h : Kept severed link) (workspace : WorkspaceId) :
    let added := link.addHandler (trackingTopic workspace).channel.method
      (trackingSubscriber workspace)
    Tracks severed added.2 workspace ⟨trackingTopic workspace, added.1⟩ := by
  intro added
  have hnew : added.2.Feeds workspace added.1 := by
    change _ ∈ (link.client.handlers.add Channel.workspaceStatus.method
      (trackingSubscriber workspace)).2.entries Channel.workspaceStatus.method
    rw [Registry.entries_add, if_pos rfl]
    exact List.mem_append_right _ (List.mem_singleton.mpr rfl)
  have hfresh : ¬ severed added.1 := fun hsevered => Nat.lt_irrefl _ (h.severed_lt _ hsevered)
  exact ⟨rfl, iff_of_true hnew hfresh⟩

theorem Kept.removeHandler (h : Kept severed link) (method : String)
    (hu : Unheld link subscription) :
    Kept severed (link.removeHandler method subscription.handler).2 := by
  have hfeeds : ∀ workspace handler, handler ≠ subscription.handler →
      ((link.removeHandler method subscription.handler).2.Feeds workspace handler ↔
        link.Feeds workspace handler) := by
    intro workspace handler hne
    change (handler, trackingSubscriber workspace) ∈
      (link.client.handlers.remove method subscription.handler).2.entries _ ↔ _
    rw [Registry.entries_remove h.registry]
    split
    · simp [hne, Feeds]
    · rfl
  have hlists : (link.removeHandler method subscription.handler).2.client.handlers.lists =
      Grouped.prune method (fun entry => entry.1 ≠ subscription.handler)
        link.client.handlers.lists :=
    Registry.discard_eq _ _ _
  refine ⟨h.calls, hlists ▸ h.registry.prune _ _, h.severed_lt, h.held_lt, h.held_once, ?_, ?_⟩
  · intro workspace other hlookup
    have ht := h.tracked workspace other hlookup
    have hne := hu.free (.waiter workspace) other hlookup
    exact ⟨ht.topic, (hfeeds workspace _ hne).trans ht.feeds⟩
  · intro id number other workspace hmem
    have ht := h.pledged id number other workspace hmem
    have hne := hu.free (.call id) other ⟨number, _, hmem⟩
    exact ⟨ht.topic, (hfeeds workspace _ hne).trans ht.feeds⟩

/-! ### Holders come and go -/

/-- Without its call, a pledged subscription is held by nobody. -/
theorem Kept.unheld_endTask (h : Kept severed link) (hp : link.Pledges id subscription) :
    Unheld (link.endTask id) subscription where
  lt_next := h.held_lt (.call id) subscription hp
  free holder other hh heq := by
    have hold := (retains_endTask id link).holds hh
    obtain rfl := h.held_once holder other (.call id) subscription hold hp heq
    exact (pledges_endTask.mp hh).2 rfl

/-- The call pledges a subscription. -/
theorem Kept.pledge (h : Kept severed (link.endTask id))
    (hu : Unheld (link.endTask id) subscription) (number : Nat) (tracking : Option WorkspaceId)
    (ht : ∀ workspace, tracking = some workspace →
      Tracks severed (link.endTask id) workspace subscription) :
    Kept severed (link.setTask id (.call (.subscribing number subscription tracking))) := by
  have hholds : ∀ holder other,
      (link.setTask id (.call (.subscribing number subscription tracking))).Holds holder other →
      (link.endTask id).Holds holder other ∨ holder = .call id ∧ other = subscription := by
    intro holder other hh
    cases holder with
    | waiter workspace => exact .inl hh
    | call caller =>
      obtain ⟨number', tracking', hmem⟩ := hh
      rcases mem_setTask hmem with ⟨hold, hne⟩ | ⟨heq, _⟩
      · exact .inl (pledges_endTask.mpr ⟨⟨number', tracking', hold⟩, hne⟩)
      · simp only [Prod.mk.injEq, Task.call.injEq, Stage.subscribing.injEq] at heq
        exact .inr ⟨by rw [heq.1], heq.2.2.1⟩
  refine ⟨?_, h.registry, h.severed_lt, ?_, ?_,
    fun _ _ hlookup => (h.tracked _ _ hlookup).congr rfl, ?_⟩
  · intro other stage hmem
    rcases mem_setTask hmem with hold | ⟨heq, _⟩
    · exact h.calls other stage (mem_endTask.mpr hold)
    · simp only [Prod.mk.injEq, Task.call.injEq] at heq
      rw [heq.2]
      rfl
  · intro holder other hh
    rcases hholds holder other hh with hold | ⟨_, rfl⟩
    · exact h.held_lt holder other hold
    · exact hu.lt_next
  · intro a first b second ha hb heq
    rcases hholds a first ha with hold | ⟨rfl, rfl⟩ <;>
      rcases hholds b second hb with hold' | ⟨rfl, rfl⟩
    · exact h.held_once _ _ _ _ hold hold' heq
    · exact absurd heq (hu.free _ _ hold)
    · exact absurd heq.symm (hu.free _ _ hold')
    · rfl
  · intro other number' subscription' workspace hmem
    rcases mem_setTask hmem with hold | ⟨heq, _⟩
    · exact (h.pledged other number' subscription' workspace (mem_endTask.mpr hold)).congr rfl
    · simp only [Prod.mk.injEq, Task.call.injEq, Stage.subscribing.injEq] at heq
      obtain ⟨_, _, rfl, rfl⟩ := heq
      exact (ht workspace rfl).congr rfl

/-- The waiter remembers a subscription in place of another, which nobody holds then. -/
theorem Kept.remember (h : Kept severed link) (hu : Unheld link subscription)
    (ht : Tracks severed link workspace subscription) :
    let after : Link := { link with waiter := (link.waiter.setTracked workspace subscription).2 }
    Kept severed after ∧ ∀ extra, link.waiter.tracked.lookup workspace = some extra →
      Unheld after extra := by
  intro after
  have hholds : ∀ holder other, after.Holds holder other →
      holder ≠ .waiter workspace ∧ link.Holds holder other ∨
        holder = .waiter workspace ∧ other = subscription := by
    intro holder other hh
    cases holder with
    | call id => exact .inl ⟨nofun, hh⟩
    | waiter tracked =>
      simp only [Holds, after, StatusWaiter.lookup_setTracked] at hh
      split at hh
      next heq => exact .inr ⟨by rw [heq], (Option.some.inj hh).symm⟩
      next hne => exact .inl ⟨fun heq => hne (by simpa using heq), hh⟩
  refine ⟨⟨h.calls, h.registry, h.severed_lt, ?_, ?_, ?_,
    fun _ _ _ _ hmem => (h.pledged _ _ _ _ hmem).congr rfl⟩, ?_⟩
  · intro holder other hh
    rcases hholds holder other hh with ⟨_, hold⟩ | ⟨_, rfl⟩
    · exact h.held_lt holder other hold
    · exact hu.lt_next
  · intro a first b second ha hb heq
    rcases hholds a first ha with ⟨_, hold⟩ | ⟨rfl, rfl⟩ <;>
      rcases hholds b second hb with ⟨_, hold'⟩ | ⟨rfl, rfl⟩
    · exact h.held_once _ _ _ _ hold hold' heq
    · exact absurd heq (hu.free _ _ hold)
    · exact absurd heq.symm (hu.free _ _ hold')
    · rfl
  · intro other subscription' hlookup
    rcases hholds (.waiter other) subscription' hlookup with ⟨_, hold⟩ | ⟨heq, rfl⟩
    · exact (h.tracked other subscription' hold).congr rfl
    · obtain rfl : other = workspace := by simpa using heq
      exact ht.congr rfl
  · intro extra hextra
    refine ⟨h.held_lt (.waiter workspace) extra hextra, fun holder other hh heq => ?_⟩
    rcases hholds holder other hh with ⟨hne, hold⟩ | ⟨_, rfl⟩
    · exact hne (h.held_once _ _ (.waiter workspace) extra hold hextra heq)
    · exact hu.free (.waiter workspace) extra hextra heq.symm

/-- The waiter forgets a workspace, and nobody holds its subscription then. -/
theorem Kept.forgetWorkspace (h : Kept severed link) (workspace : WorkspaceId) :
    let after : Link := { link with waiter := (link.waiter.untrack workspace).2.1 }
    Kept severed after ∧ ∀ extra, link.waiter.tracked.lookup workspace = some extra →
      Unheld after extra := by
  intro after
  have hholds : ∀ holder other, after.Holds holder other →
      holder ≠ .waiter workspace ∧ link.Holds holder other := by
    intro holder other hh
    cases holder with
    | call id => exact ⟨nofun, hh⟩
    | waiter tracked =>
      simp only [Holds, after, StatusWaiter.lookup_untrack] at hh
      split at hh
      next => simp at hh
      next hne => exact ⟨fun heq => hne (by simpa using heq), hh⟩
  refine ⟨⟨h.calls, h.registry, h.severed_lt, ?_, ?_, ?_,
    fun _ _ _ _ hmem => (h.pledged _ _ _ _ hmem).congr rfl⟩, ?_⟩
  · exact fun holder other hh => h.held_lt holder other (hholds holder other hh).2
  · exact fun _ _ _ _ ha hb => h.held_once _ _ _ _ (hholds _ _ ha).2 (hholds _ _ hb).2
  · exact fun other subscription' hlookup =>
      (h.tracked other subscription' (hholds (.waiter other) subscription' hlookup).2).congr rfl
  · intro extra hextra
    refine ⟨h.held_lt (.waiter workspace) extra hextra, fun holder other hh heq => ?_⟩
    obtain ⟨hne, hold⟩ := hholds holder other hh
    exact hne (h.held_once _ _ (.waiter workspace) extra hold hextra heq)

/-! ### Calls -/

theorem Kept.finish (h : Kept severed (link.endTask id)) (outcome : Outcome) :
    Kept severed (link.finish id outcome) :=
  h.retains (.of_same rfl rfl rfl)

theorem Kept.awaitConfirmation (h : Kept severed (link.endTask id)) (number : Nat) :
    Kept severed (link.awaitConfirmation id number) := by
  have hforgot : Retains (link.endTask id) ((link.forget number).endTask id) :=
    .of_same rfl rfl rfl
  unfold Link.awaitConfirmation
  split
  · exact (h.retains hforgot).finish _
  · exact h.retains (retains_setTask rfl id link)

/-- A subscription ends that nobody holds. -/
theorem Kept.endSubscription (h : Kept severed (link.endTask id)) (hlink : link.Attached)
    (hu : Unheld (link.endTask id) subscription) :
    Kept severed (link.endSubscription id subscription) := by
  let delisted :=
    link.updateTable (SubscriptionTable.remove subscription.topic subscription.handler)
  let method := subscription.topic.channel.method
  let removed := (delisted.removeHandler method subscription.handler).2
  have hdelisted : Retains (link.endTask id) (delisted.endTask id) := .of_same rfl rfl rfl
  have hremoved : Kept severed (removed.endTask id) :=
    (h.retains hdelisted).removeHandler method (hu.retains hdelisted)
  have hattached : removed.Attached := hlink.congr rfl
  unfold Link.endSubscription
  dsimp only
  split
  · exact h.finish _
  · split
    · have hasked := (hattached.retains_request Message.unsubscribeMethod
        (some subscription.topic.params)).1.endTask id
      exact Kept.awaitConfirmation (hremoved.retains hasked) _
    · exact Kept.finish hremoved _

theorem Kept.completeSubscription (h : Kept severed (link.endTask id)) (hlink : link.Attached)
    (hu : Unheld (link.endTask id) subscription) (tracking : Option WorkspaceId)
    (ht : ∀ workspace, tracking = some workspace →
      Tracks severed (link.endTask id) workspace subscription) :
    Kept severed (link.completeSubscription id subscription tracking) := by
  let listed :=
    link.updateTable (SubscriptionTable.add subscription.topic subscription.handler)
  have hlisted : Retains (link.endTask id) (listed.endTask id) := .of_same rfl rfl rfl
  have hkept := h.retains hlisted
  have hunheld := hu.retains hlisted
  unfold Link.completeSubscription
  cases tracking with
  | none => exact hkept.finish _
  | some workspace =>
    obtain ⟨hremembers, hextra⟩ := hkept.remember hunheld ((ht workspace rfl).congr rfl)
    dsimp only
    split
    next extra hbefore =>
      exact Kept.endSubscription hremembers (hlink.congr rfl) (hextra extra hbefore)
    next => exact Kept.finish hremembers _

theorem Kept.awaitSubscription (h : Kept severed (link.endTask id)) (hlink : link.Attached)
    (hu : Unheld (link.endTask id) subscription) (number : Nat) (tracking : Option WorkspaceId)
    (ht : ∀ workspace, tracking = some workspace →
      Tracks severed (link.endTask id) workspace subscription) :
    Kept severed (link.awaitSubscription id number subscription tracking) := by
  have hforgot : Retains (link.endTask id) ((link.forget number).endTask id) :=
    .of_same rfl rfl rfl
  unfold Link.awaitSubscription
  split
  · exact Kept.completeSubscription (h.retains hforgot) (hlink.congr rfl) (hu.retains hforgot)
      tracking fun workspace heq => (ht workspace heq).congr rfl
  · exact Kept.finish ((h.retains hforgot).removeHandler _ (hu.retains hforgot)) _
  · exact h.pledge hu number tracking ht

theorem Kept.beginSubscription (h : Kept severed (link.endTask id)) (hlink : link.Attached)
    (topic : Topic) (subscriber : Subscriber) (tracking : Option WorkspaceId)
    (ht : ∀ workspace, tracking = some workspace →
      topic = trackingTopic workspace ∧ subscriber = trackingSubscriber workspace) :
    Kept severed (link.beginSubscription id topic subscriber tracking) := by
  let added := link.addHandler topic.channel.method subscriber
  have hadded : Kept severed (added.2.endTask id) := h.addHandler topic.channel.method subscriber
  have hunheld : Unheld (added.2.endTask id) ⟨topic, added.1⟩ :=
    h.unheld_addHandler topic subscriber
  have htracks : ∀ workspace, tracking = some workspace →
      Tracks severed (added.2.endTask id) workspace ⟨topic, added.1⟩ := by
    intro workspace heq
    obtain ⟨rfl, rfl⟩ := ht workspace heq
    exact h.tracks_addHandler workspace
  have hattached : added.2.Attached := hlink.congr rfl
  unfold Link.beginSubscription
  dsimp only
  split
  · obtain ⟨hretains, hafter⟩ :=
      hattached.retains_request Message.subscribeMethod (some topic.params)
    have hasked := hretains.endTask id
    exact Kept.awaitSubscription (hadded.retains hasked) hafter (hunheld.retains hasked) _ tracking
      fun workspace heq => (htracks workspace heq).congr hasked.handlers
  · exact Kept.completeSubscription hadded hattached hunheld tracking htracks

theorem Kept.track (h : Kept severed (link.endTask id)) (hlink : link.Attached)
    (workspace : WorkspaceId) : Kept severed (link.track id workspace) := by
  unfold Link.track
  split
  · exact h.finish _
  · refine h.beginSubscription hlink _ _ _ fun other heq => ?_
    obtain rfl := Option.some.inj heq
    exact ⟨rfl, rfl⟩

theorem Kept.untrack (h : Kept severed (link.endTask id)) (hlink : link.Attached)
    (workspace : WorkspaceId) : Kept severed (link.untrack id workspace) := by
  obtain ⟨hforgets, hextra⟩ := h.forgetWorkspace workspace
  let forgetful : Link := { link with waiter := (link.waiter.untrack workspace).2.1 }
  let settled := settleStatuses (link.waiter.untrack workspace).2.2 forgetful
  have hsettled : Retains (forgetful.endTask id) (settled.endTask id) := by
    have hsame : Retains forgetful settled := by
      refine .of_leaves (leaves_settleStatuses _ _) ?_
      rw [settleStatuses_waiter]
    exact hsame.endTask id
  unfold Link.untrack
  dsimp only
  split
  next extra hbefore =>
    exact Kept.endSubscription (hforgets.retains hsettled)
      (hlink.congr (settleStatuses_listeners _ _)) ((hextra extra hbefore).retains hsettled)
  next => exact Kept.finish (hforgets.retains hsettled) _

/-! ### Beats -/

theorem Wired.tracked_beat (h : link.Wired) {b : Beat}
    (huntrack : ∀ workspace, ¬ link.dealings b (.untrack workspace))
    (htrack : ∀ workspace subscription, ¬ link.dealings b (.track workspace subscription)) :
    (link.beat b).waiter.tracked = link.waiter.tracked := by
  rcases h.beat_cases b with ⟨_, hhushed⟩ | ⟨workspace, status, rfl⟩ | ⟨carrier, heq⟩
  · exact hhushed.tracked huntrack htrack
  · refine (congrArg StatusWaiter.tracked (settleStatuses_waiter _ _)).trans ?_
    change (link.waiter.waitFor workspace status).2.1.tracked = _
    unfold StatusWaiter.waitFor
    dsimp only
    split <;> rfl
  · have hattached : Attached { link with carrier } := h.attached
    have hlearned := congrArg (·.1.tracked) (hattached.emitAll_waiter (link.arrivals b))
    rw [heq]
    exact hlearned.trans (StatusWaiter.learn_tracked _)

/-- A beat that has nothing to do with subscriptions. -/
theorem Wired.retains_beat (h : link.Wired) {b : Beat} (hopen : link.closes b = false)
    (hplain : link.isPlainBeat b) : Retains link (link.beat b) := by
  have hdeals : ∀ dealing, link.dealings b dealing →
      (∃ ticket, dealing = .takeStatus ticket) ∨ dealing = .close := by
    intro dealing hdealing
    cases b with
    | task id =>
      obtain ⟨stage, htask, hstage⟩ := hdealing
      have hplain := hplain stage htask
      unfold deals at hstage
      split at hstage
      · exact .inl ⟨_, rfl⟩
      · exact hplain.elim
      · exact hplain.elim
      · exact hplain.elim
      · exact .inr rfl
      · exact hstage.elim
    | _ => exact hdealing.elim
  refine .of_leaves (leaves_beat hopen hplain) (h.tracked_beat ?_ ?_)
  · intro workspace hdealing
    simpa using hdeals _ hdealing
  · intro workspace subscription hdealing
    simpa using hdeals _ hdealing

theorem Kept.runCall (h : Kept severed link) (hwired : link.Wired) {stage : Stage}
    (htask : link.task? id = some (.call stage)) : Kept severed (link.beat (.task id)) := by
  have hmem := mem_of_task? htask
  have hstands := h.calls id stage hmem
  have hlink := hwired.attached
  have hfree : Kept severed (link.endTask id) := h.retains (retains_endTask id link)
  have hplain : isPlainStage (fun _ => True) stage → Kept severed (link.beat (.task id)) := by
    intro hstage
    have hopen : link.closes (.task id) = false := by simp [closes, htask]
    refine h.retains (hwired.retains_beat hopen fun other hother => ?_)
    obtain rfl : other = stage := by simpa [hother] using htask
    exact hstage
  have hrun : Kept severed (link.runCall id stage) → Kept severed (link.beat (.task id)) :=
    fun hk => (beat_task_call htask).symm ▸ hk
  cases stage with
  | fresh call =>
    cases call with
    | subscribe topic subscriber =>
      exact hrun (hfree.beginSubscription hlink topic subscriber none (by simp))
    | track workspace => exact hrun (hfree.track hlink workspace)
    | untrack workspace => exact hrun (hfree.untrack hlink workspace)
    | unsubscribe subscription => simp [standsTracking, isTrackingCall] at hstands
    | follow method subscriber request params => simp [standsTracking, isTrackingCall] at hstands
    | unfollow method handler request params => simp [standsTracking, isTrackingCall] at hstands
    | _ => exact hplain trivial
  | subscribing number subscription tracking =>
    refine hrun (hfree.awaitSubscription hlink (h.unheld_endTask ⟨number, tracking, hmem⟩) number
      tracking fun workspace heq => ?_)
    subst heq
    exact (h.pledged id number subscription workspace hmem).congr rfl
  | following number method handler => simp [standsTracking] at hstands
  | _ => exact hplain trivial

theorem Kept.spawnCall (h : Kept severed link) {call : Call} (hcall : isTrackingCall call) :
    Kept severed (link.call call).2 := by
  have hmem : ∀ {id stage}, (id, .call stage) ∈ (link.call call).2.tasks →
      (id, .call stage) ∈ link.tasks ∨ stage = .fresh call := by
    intro id stage hmem
    rcases mem_spawn.mp hmem with hold | heq
    · exact .inl hold
    · simp only [Prod.mk.injEq, Task.call.injEq] at heq
      exact .inr heq.2
  have hholds : ∀ holder subscription, (link.call call).2.Holds holder subscription →
      link.Holds holder subscription := by
    intro holder subscription hh
    cases holder with
    | waiter workspace => exact hh
    | call id =>
      obtain ⟨number, tracking, hnew⟩ := hh
      exact ⟨number, tracking, (hmem hnew).resolve_right nofun⟩
  refine ⟨?_, h.registry, h.severed_lt, ?_, ?_, ?_, ?_⟩
  · intro id stage hnew
    rcases hmem hnew with hold | rfl
    · exact h.calls id stage hold
    · exact hcall
  · exact fun holder subscription hh => h.held_lt holder subscription (hholds _ _ hh)
  · exact fun _ _ _ _ hh hh' => h.held_once _ _ _ _ (hholds _ _ hh) (hholds _ _ hh')
  · exact fun workspace subscription hlookup => (h.tracked workspace subscription hlookup).congr rfl
  · intro id number subscription workspace hnew
    exact (h.pledged id number subscription workspace ((hmem hnew).resolve_right nofun)).congr rfl

theorem Kept.abandon (h : Kept severed link) (hwired : link.Wired) (id : Nat) :
    Kept severed (link.abandon id) := by
  by_cases hplain : link.isPlainTask id
  · exact h.retains (hwired.retains_beat (b := .abandon id) rfl hplain)
  · simp only [isPlainTask, Classical.not_forall] at hplain
    obtain ⟨stage, htask, hstage⟩ := hplain
    have hmem := mem_of_task? htask
    have hfree : Kept severed (link.endTask id) := h.retains (retains_endTask id link)
    simp only [Link.abandon, htask]
    cases stage with
    | subscribing number subscription tracking =>
      have hforgot : Retains (link.endTask id) ((link.forget number).endTask id) :=
        .of_same rfl rfl rfl
      exact (hfree.retains hforgot).removeHandler subscription.topic.channel.method
        ((h.unheld_endTask ⟨number, tracking, hmem⟩).retains hforgot)
    | following number method handler => simpa [standsTracking] using h.calls id _ hmem
    | fresh call => exact hfree
    | _ => exact absurd trivial hstage

/-- With the handlers, everybody who holds one loses it. -/
theorem Kept.emptied (h : Kept severed link) :
    Kept (fun handler => severed handler ∨ ∃ holder topic, link.Holds holder ⟨topic, handler⟩)
      link.emptied := by
  have htracks : ∀ holder workspace subscription, link.Holds holder subscription →
      subscription.topic = trackingTopic workspace →
      Tracks (fun handler => severed handler ∨ ∃ holder topic, link.Holds holder ⟨topic, handler⟩)
        link.emptied workspace subscription := by
    intro holder workspace subscription hh htopic
    have hgone : ¬ link.emptied.Feeds workspace subscription.handler := List.not_mem_nil
    exact ⟨htopic, iff_of_false hgone fun hnot => hnot (.inr ⟨holder, subscription.topic, hh⟩)⟩
  refine ⟨h.calls, Grouped.sound_nil, ?_, h.held_lt, h.held_once, ?_, ?_⟩
  · rintro handler (hsevered | ⟨holder, topic, hh⟩)
    · exact h.severed_lt handler hsevered
    · exact h.held_lt holder _ hh
  · intro workspace subscription hlookup
    exact htracks (.waiter workspace) workspace subscription hlookup
      (h.tracked workspace subscription hlookup).topic
  · intro id number subscription workspace hmem
    exact htracks (.call id) workspace subscription ⟨number, _, hmem⟩
      (h.pledged id number subscription workspace hmem).topic

/-- The handlers that are removed in a beat although somebody holds them. -/
def severs (link : Link) (b : Beat) (handler : HandlerId) : Prop :=
  link.closes b ∧ ∃ holder topic, link.Holds holder ⟨topic, handler⟩

/-- The calls that are begun remove no handler of their own choice. -/
def beginsTrackingCall : Beat → Bool
  | .call call => isTrackingCall call
  | _ => true

theorem Kept.congr {severed' : HandlerId → Prop} (h : Kept severed link)
    (hiff : ∀ handler, severed' handler ↔ severed handler) : Kept severed' link := by
  obtain rfl : severed' = severed := funext fun handler => propext (hiff handler)
  exact h

theorem Kept.beat_close (h : Kept severed link) (hwired : link.Wired) {b : Beat}
    (hcloses : link.closes b) :
    Kept (fun handler => severed handler ∨ link.severs b handler) (link.beat b) := by
  have hemptied := leaves_beat_close hcloses
  have htracked : (link.beat b).waiter.tracked = link.waiter.tracked := by
    obtain ⟨id, ticket, rest, rfl, hdriver, _⟩ := closes_iff.mp hcloses
    refine hwired.tracked_beat ?_ ?_
    · rintro workspace ⟨stage, htask, _⟩
      simp [hdriver] at htask
    · rintro workspace subscription ⟨stage, htask, _⟩
      simp [hdriver] at htask
  refine (h.emptied.retains (.of_leaves hemptied htracked)).congr fun handler => ?_
  simp [severs, hcloses]

theorem Kept.beat (h : Kept severed link) (hwired : link.Wired) {b : Beat}
    (hcall : beginsTrackingCall b) :
    Kept (fun handler => severed handler ∨ link.severs b handler) (link.beat b) := by
  by_cases hcloses : link.closes b
  · exact h.beat_close hwired hcloses
  · rw [Bool.not_eq_true] at hcloses
    suffices Kept severed (link.beat b) from this.congr fun _ => by simp [severs, hcloses]
    by_cases hplain : link.isPlainBeat b
    · exact h.retains (hwired.retains_beat hcloses hplain)
    · cases b with
      | call call => exact h.spawnCall hcall
      | abandon id => exact h.abandon hwired id
      | task id =>
        simp only [isPlainBeat, isPlainTask, Classical.not_forall] at hplain
        obtain ⟨stage, htask, _⟩ := hplain
        exact h.runCall hwired htask
      | _ => exact absurd trivial hplain

/-- The handlers that were removed by a close while somebody held them. -/
def Severed (start : Link) (beats : List Beat) (handler : HandlerId) : Prop :=
  ∃ before b after, beats = before ++ b :: after ∧ (start.play before).severs b handler

theorem kept_withSession (carrier : Carrier) (config : SessionConfig) :
    Kept (fun _ => False) (withSession carrier config) := by
  have hholds : ∀ holder subscription,
      ¬ (withSession carrier config).Holds holder subscription := by
    intro holder subscription hh
    cases holder with
    | call id =>
      obtain ⟨number, tracking, hmem⟩ := hh
      exact absurd hmem List.not_mem_nil
    | waiter workspace => exact absurd hh nofun
  refine ⟨?_, Grouped.sound_nil, ?_, ?_, ?_, ?_, ?_⟩
  · exact fun _ _ hmem => absurd hmem List.not_mem_nil
  · exact fun _ hnot => hnot.elim
  · exact fun holder subscription hh => (hholds holder subscription hh).elim
  · exact fun holder subscription _ _ hh => (hholds holder subscription hh).elim
  · exact fun workspace subscription hlookup => (hholds (.waiter workspace) _ hlookup).elim
  · exact fun _ _ _ _ hmem => absurd hmem List.not_mem_nil

theorem kept_play (carrier : Carrier) (config : SessionConfig) (beats : List Beat)
    (hcalls : ∀ b ∈ beats, beginsTrackingCall b) :
    let start := withSession carrier config
    Kept (Severed start beats) (start.play beats) := by
  intro start
  induction beats using List.reverseRecOn with
  | nil =>
    refine (kept_withSession carrier config).congr fun handler => ?_
    simp [Severed]
  | append_singleton beats b ih =>
    have hbefore := ih fun b hmem => hcalls b (List.mem_append_left _ hmem)
    have hwired : (start.play beats).Wired := (wired_withSession carrier config).play beats
    have hlast := hcalls b (List.mem_append_right _ (List.mem_singleton.mpr rfl))
    rw [play_snoc]
    exact (hbefore.beat hwired hlast).congr fun handler =>
      exists_turn_snoc fun (link : Link) (b : Beat) => link.severs b handler

/-! ### A call that tracks a workspace -/

def isTrackingOf (workspace : WorkspaceId) : Stage → Prop
  | .fresh (.track other) => other = workspace
  | .subscribing _ _ tracking => tracking = some workspace
  | _ => False

/-- What a turn of such a call leaves: it goes on to track the workspace, or has ended, and unless
it has failed the waiter remembers a subscription then. -/
structure Tries (workspace : WorkspaceId) (id : Nat) (before after : Link) : Prop where
  goesOn : ∀ task, after.task? id = some task →
    ∃ stage, task = .call stage ∧ isTrackingOf workspace stage
  remembers : ∀ outcome, (id, outcome) ∈ after.finished → (id, outcome) ∈ before.finished ∨
    (∃ error, outcome = .failed error) ∨
      ∃ subscription, after.waiter.tracked.lookup workspace = some subscription

theorem tries_done {before : Link}
    (htracked : link.waiter.tracked.lookup workspace = some subscription) :
    Tries workspace id before (link.finish id .done) where
  goesOn task htask := by simp [task?_finish] at htask
  remembers _ _ := .inr (.inr ⟨subscription, htracked⟩)

theorem tries_failed (hsame : ∀ entry ∈ second.finished, entry ∈ first.finished)
    (error : SessionError) : Tries workspace id first (second.finish id (.failed error)) where
  goesOn task htask := by simp [task?_finish] at htask
  remembers outcome hmem := by
    rcases List.mem_append.mp hmem with hold | hnew
    · exact .inl (hsame _ hold)
    · exact .inr (.inl ⟨error, by simpa using hnew⟩)

/-- The subscription that tracked the workspace before is ended without a request: the topic has
the new subscriber. -/
theorem Kept.tries_complete (h : Kept severed (link.endTask id))
    (hsound : Grouped.Sound link.session.table) (hu : Unheld (link.endTask id) subscription)
    (ht : Tracks severed (link.endTask id) workspace subscription) (before : Link) :
    Tries workspace id before (link.completeSubscription id subscription (some workspace)) := by
  let listed :=
    link.updateTable (SubscriptionTable.add subscription.topic subscription.handler)
  let remembering : Link :=
    { listed with waiter := (listed.waiter.setTracked workspace subscription).2 }
  have hlookup : remembering.waiter.tracked.lookup workspace = some subscription := by
    rw [StatusWaiter.lookup_setTracked, if_pos rfl]
  unfold Link.completeSubscription
  dsimp only
  split
  next extra hbefore =>
    have hextra : extra.topic = subscription.topic := by
      rw [(h.tracked workspace extra hbefore).topic, ht.topic]
    have hne : extra.handler ≠ subscription.handler := hu.free (.waiter workspace) extra hbefore
    have hstays : SubscriptionTable.follows
        (SubscriptionTable.remove extra.topic extra.handler listed.session.table) extra.topic := by
      rw [hextra]
      exact SubscriptionTable.follows_replace hsound subscription.topic hne.symm
    unfold Link.endSubscription
    dsimp only
    split
    · exact tries_done hlookup
    · rw [if_neg (fun hnot => hnot.1 hstays)]
      exact tries_done hlookup
  next => exact tries_done hlookup

theorem Kept.tries_await (h : Kept severed (link.endTask id))
    (hsound : Grouped.Sound link.session.table) (hu : Unheld (link.endTask id) subscription)
    (ht : Tracks severed (link.endTask id) workspace subscription) (number : Nat) {before : Link}
    (hsame : ∀ entry ∈ link.finished, entry ∈ before.finished) :
    Tries workspace id before
      (link.awaitSubscription id number subscription (some workspace)) := by
  have hforgot : Retains (link.endTask id) ((link.forget number).endTask id) :=
    .of_same rfl rfl rfl
  unfold Link.awaitSubscription
  split
  · exact Kept.tries_complete (h.retains hforgot) hsound (hu.retains hforgot) (ht.congr rfl) before
  · refine tries_failed ?_ _
    exact hsame
  · refine ⟨fun task htask => ?_, fun _ hmem => .inl (hsame _ hmem)⟩
    exact ⟨_, eq_of_task?_setTask htask, rfl⟩

theorem Kept.tries_track (h : Kept severed (link.endTask id)) (hlink : link.Attached)
    (hsound : Grouped.Sound link.session.table) (workspace : WorkspaceId) :
    Tries workspace id link (link.track id workspace) := by
  let topic := trackingTopic workspace
  let added := link.addHandler topic.channel.method (trackingSubscriber workspace)
  have hadded : Kept severed (added.2.endTask id) := h.addHandler _ _
  have hunheld : Unheld (added.2.endTask id) ⟨topic, added.1⟩ := h.unheld_addHandler topic _
  have htracks : Tracks severed (added.2.endTask id) workspace ⟨topic, added.1⟩ :=
    h.tracks_addHandler workspace
  have hattached : added.2.Attached := hlink.congr rfl
  unfold Link.track
  split
  next hold =>
    obtain ⟨subscription, hlookup⟩ := Option.isSome_iff_exists.mp hold
    exact tries_done hlookup
  · unfold Link.beginSubscription
    dsimp only
    split
    · obtain ⟨hretains, _⟩ :=
        hattached.retains_request Message.subscribeMethod (some topic.params)
      have hasked := hretains.endTask id
      have htable := (leaves_request Message.subscribeMethod (some topic.params) added.2).table
      have hfinished := (spares_request none Message.subscribeMethod (some topic.params)
        added.2).finished
      exact Kept.tries_await (hadded.retains hasked) (htable ▸ hsound) (hunheld.retains hasked)
        (htracks.congr hasked.handlers) _ fun entry hmem =>
          (hfinished entry hmem).resolve_right nofun
    · exact Kept.tries_complete hadded hsound hunheld htracks link

theorem Kept.tries_runCall (h : Kept severed link) (hlink : link.Attached)
    (hsound : Grouped.Sound link.session.table) {stage : Stage}
    (htask : link.task? id = some (.call stage)) (hstage : isTrackingOf workspace stage) :
    Tries workspace id link (link.runCall id stage) := by
  have hmem := mem_of_task? htask
  have hfree : Kept severed (link.endTask id) := h.retains (retains_endTask id link)
  unfold isTrackingOf at hstage
  split at hstage
  · subst hstage
    exact hfree.tries_track hlink hsound _
  next number subscription tracking =>
    subst hstage
    exact hfree.tries_await hsound (h.unheld_endTask ⟨number, _, hmem⟩)
      ((h.pledged id number subscription workspace hmem).congr rfl) number fun _ hold => hold
  · exact hstage.elim

/-- The task with this number is a call that tracks the workspace, or has ended. -/
structure Pursues (workspace : WorkspaceId) (id : Nat) (link : Link) : Prop where
  lt_next : id < link.nextTask
  stands : ∀ task, link.task? id = some task → ∃ stage, task = .call stage ∧
    isTrackingOf workspace stage

theorem Pursues.tries_beat (hp : Pursues workspace id link) (h : Kept severed link)
    (hlink : link.Attached) (hsound : Grouped.Sound link.session.table) (b : Beat) :
    Tries workspace id link (link.beat b) := by
  have hsame : (link.beat b).finished = link.finished →
      (∀ task, (link.beat b).task? id = some task → link.task? id = some task) →
      Tries workspace id link (link.beat b) := by
    intro hfinished htasks
    exact ⟨fun task htask => hp.stands task (htasks task htask),
      fun _ hmem => .inl (hfinished ▸ hmem)⟩
  by_cases hruns : runs? b = some id
  · obtain rfl := eq_task_of_runs? hruns
    cases htask : link.task? id with
    | none =>
      have hidle := beat_task_none htask
      exact hsame (by rw [hidle]) (by rw [hidle]; exact fun _ hold => hold)
    | some task =>
      obtain ⟨stage, rfl, hstage⟩ := hp.stands task htask
      rw [beat_task_call htask]
      exact h.tries_runCall hlink hsound htask hstage
  · by_cases hconcerns : concerns? b = some id
    · have hcall : ∀ task, link.task? id = some task → ∃ stage, task = .call stage := by
        intro task htask
        obtain ⟨stage, heq, _⟩ := hp.stands task htask
        exact ⟨stage, heq⟩
      obtain ⟨hfinished, htasks⟩ := beat_of_concerned hcall hconcerns hruns
      exact hsame hfinished htasks
    · have hkeeps := keeps_beat link b
      refine ⟨fun task htask => hp.stands task ?_, fun _ hmem => .inl ?_⟩
      · rw [← hkeeps.tasks id hp.lt_next hconcerns]
        exact htask
      · exact (hkeeps.finished _ hmem).resolve_right hconcerns

theorem Pursues.beat (hp : Pursues workspace id link) (h : Kept severed link)
    (hlink : link.Attached) (hsound : Grouped.Sound link.session.table) (b : Beat) :
    Pursues workspace id (link.beat b) :=
  ⟨Nat.lt_of_lt_of_le hp.lt_next (keeps_beat link b).nextTask_le,
    (hp.tries_beat h hlink hsound b).goesOn⟩

/-! ### The next status -/

/-- A status of the workspace that arrives next is noted, and ends the waits for it. -/
def Attentive (link : Link) (workspace : WorkspaceId) : Prop :=
  ∀ b params event status,
    TransportEvent.allNotices link.client.pending (link.arrivals b) =
      [⟨Channel.workspaceStatus.method, params⟩] →
    WorkspaceStatusEvent.decode params = .ok event → event.workspaceId = workspace →
    event.effectiveStatus = some status →
    (link.beat b).waiter.knownStatus? workspace = some status ∧
      ∀ wait ∈ link.waiter.waits, wait.workspace = workspace → wait.status = status →
        wait ∉ (link.beat b).waiter.waits ∧ (wait.ticket, .reached event) ∈ (link.beat b).statuses

theorem decode_of_accept? {selection : Selection} {params : Json} {event : WorkspaceStatusEvent}
    (h : selection.accept? params = some (.workspaceStatus event)) :
    WorkspaceStatusEvent.decode params = .ok event := by
  cases selection with
  | workspaceStatus workspace =>
    simp only [Selection.accept?] at h
    split at h <;> grind
  | everything => simp [Selection.accept?] at h
  | _ =>
    simp only [Selection.accept?] at h
    split at h <;> grind

/-- Whoever lets the waiter hear a notification lets it hear the event that it decodes to. -/
theorem decode_of_heeds? {subscriber : Subscriber} {params : Json} {event : WorkspaceStatusEvent}
    (h : subscriber.heeds? params = some event) :
    WorkspaceStatusEvent.decode params = .ok event := by
  obtain ⟨accepted, haccepts, hevent⟩ := Option.bind_eq_some_iff.mp h
  split at hevent
  · obtain rfl := Option.some.inj hevent
    exact decode_of_accept? haccepts
  · simp at hevent

theorem heeds?_tracking {params : Json} {event : WorkspaceStatusEvent}
    (hdecodes : WorkspaceStatusEvent.decode params = .ok event) :
    (trackingSubscriber event.workspaceId).heeds? params = some event := by
  simp [trackingSubscriber, Subscriber.heeds?, Selection.accept?, hdecodes]

/-- What the waiter makes of the events that a beat brings. -/
theorem Wired.beat_waiter (h : link.Wired) {b : Beat} (hsome : link.arrivals b ≠ []) :
    ((link.beat b).waiter, (link.beat b).statuses) =
      (link.heeded (link.arrivals b)).foldl StatusWaiter.learn (link.waiter, link.statuses) := by
  rcases h.beat_cases b with ⟨hnone, _⟩ | ⟨workspace, status, rfl⟩ | ⟨carrier, heq⟩
  · exact absurd hnone hsome
  · exact absurd rfl hsome
  · have hattached : Attached { link with carrier } := h.attached
    rw [heq]
    exact hattached.emitAll_waiter (link.arrivals b)

/-- The waiter hears the status of a workspace that a registered handler feeds it with. -/
theorem Feeds.mem_heeded {handler : HandlerId} (h : link.Feeds workspace handler)
    {events : List TransportEvent} {params : Json} {event : WorkspaceStatusEvent}
    (hnotice : ⟨Channel.workspaceStatus.method, params⟩ ∈
      TransportEvent.allNotices link.client.pending events)
    (hdecodes : WorkspaceStatusEvent.decode params = .ok event)
    (hworkspace : event.workspaceId = workspace) : event ∈ link.heeded events := by
  refine List.mem_flatMap.mpr
    ⟨_, hnotice, List.mem_filterMap.mpr ⟨trackingSubscriber workspace, ?_, ?_⟩⟩
  · exact List.mem_map.mpr ⟨_, h, rfl⟩
  · subst hworkspace
    exact heeds?_tracking hdecodes

theorem Wired.attentive (h : link.Wired) {handler : HandlerId}
    (hfeeds : link.Feeds workspace handler) : link.Attentive workspace := by
  intro b params event status hnotices hdecodes hworkspace hstatus
  have hsome : link.arrivals b ≠ [] := by
    intro hnone
    rw [hnone] at hnotices
    simp [TransportEvent.allNotices] at hnotices
  have hheard := h.beat_waiter hsome
  have hmem : event ∈ link.heeded (link.arrivals b) :=
    hfeeds.mem_heeded (hnotices ▸ List.mem_singleton.mpr rfl) hdecodes hworkspace
  have hall : ∀ other ∈ link.heeded (link.arrivals b), other = event := by
    intro other hother
    rw [heeded, yield, hnotices] at hother
    obtain ⟨_, hnotice, hgotten⟩ := List.mem_flatMap.mp hother
    obtain rfl := List.mem_singleton.mp hnotice
    obtain ⟨subscriber, _, hheeds⟩ := List.mem_filterMap.mp hgotten
    have hsame := (decode_of_heeds? hheeds).symm.trans hdecodes
    exact Except.ok.inj hsame
  have hwaiter := congrArg Prod.fst hheard
  have hstatuses := congrArg Prod.snd hheard
  dsimp only at hwaiter hstatuses
  rw [hwaiter, hstatuses]
  constructor
  · rw [← hworkspace]
    exact StatusWaiter.knownStatus?_learn _ (List.ne_nil_of_mem hmem) hall hstatus
  · intro wait hwait hown hreached
    have hends : StatusWaiter.Ends event wait :=
      ⟨hworkspace.trans hown.symm, hstatus.trans (congrArg some hreached.symm)⟩
    refine ⟨fun hstill => ((StatusWaiter.mem_waits_learn _).mp hstill).2 event hmem hends, ?_⟩
    obtain ⟨other, hother, _, hsettled⟩ := StatusWaiter.mem_learn_of_ends
      (link.waiter, link.statuses) hwait ⟨event, hmem, hends⟩
    rw [hall other hother] at hsettled
    exact hsettled

/-! ### Tracked workspaces are heard of -/

theorem beginsSessionCall_of_tracking {b : Beat} (h : beginsTrackingCall b) :
    beginsSessionCall b := by
  cases b with
  | call call =>
    cases call <;>
      simp_all [beginsTrackingCall, isTrackingCall, beginsSessionCall, isSessionCall]
  | _ => rfl

theorem enrolled_play (carrier : Carrier) (config : SessionConfig) (beats : List Beat) :
    ((withSession carrier config).play beats).Enrolled := by
  induction beats using List.reverseRecOn with
  | nil => exact fun _ hmem => absurd hmem List.not_mem_nil
  | append_singleton beats b ih =>
    rw [play_snoc]
    exact (keeps_beat _ b).enrolled ih

/-- A call begins that tracks a workspace. -/
theorem Enrolled.pursues_track (h : link.Enrolled) (workspace : WorkspaceId) :
    Pursues workspace link.nextTask (link.beat (.call (.track workspace))) := by
  refine ⟨Nat.lt_succ_self _, fun task htask => ?_⟩
  have hspawned := task?_spawn (.call (.fresh (.track workspace))) link.nextTask link
  rw [h.task?_nextTask, if_pos rfl, Option.none_or] at hspawned
  obtain rfl : task = .call (.fresh (.track workspace)) := by
    simpa using htask.symm.trans hspawned
  exact ⟨_, rfl, rfl⟩

/-- After a call that tracks a workspace has begun. -/
theorem pursues_play (carrier : Carrier) (config : SessionConfig) (before between : List Beat)
    (workspace : WorkspaceId)
    (hcalls : ∀ b ∈ before ++ .call (.track workspace) :: between, beginsTrackingCall b) :
    let start := withSession carrier config
    Pursues workspace (start.play before).nextTask
      (start.play (before ++ .call (.track workspace) :: between)) := by
  intro start
  induction between using List.reverseRecOn with
  | nil =>
    rw [play_snoc]
    exact (enrolled_play carrier config before).pursues_track workspace
  | append_singleton between b ih =>
    let beats := before ++ .call (.track workspace) :: between
    have hsplit : before ++ .call (.track workspace) :: (between ++ [b]) = beats ++ [b] := by
      simp [beats]
    rw [hsplit] at hcalls ⊢
    have hearlier : ∀ b ∈ beats, beginsTrackingCall b :=
      fun b hmem => hcalls b (List.mem_append_left _ hmem)
    have hbooked := (booked_withSession carrier config).play beats
      fun b hmem => beginsSessionCall_of_tracking (hearlier b hmem)
    have hwired := (wired_withSession carrier config).play beats
    rw [play_snoc]
    exact (ih hearlier).beat (kept_play carrier config beats hearlier) hwired.attached
      hbooked.table b

/-- A call that tracks a workspace returns with success only when the waiter remembers a
subscription for the workspace. Whatever calls that track, calls that untrack, the session and its
transport do before and after that: the handler of the subscription that is remembered feeds the
waiter, unless the session was closed while the waiter or a call relied on that handler; then it is
gone. With the
handler in place, the status of the workspace that arrives next is noted and ends the waits for
it. -/
theorem tracked_workspaces_heard (carrier : Carrier) (config : SessionConfig)
    (before between : List Beat) (b : Beat) (workspace : WorkspaceId) :
    let start := withSession carrier config
    let id := (start.play before).nextTask
    let beats := before ++ .call (.track workspace) :: between
    (∀ other ∈ beats ++ [b], beginsTrackingCall other) →
    (id, .done) ∈ (start.play (beats ++ [b])).finished →
    (id, .done) ∉ (start.play beats).finished →
    (∃ subscription,
      (start.play (beats ++ [b])).waiter.tracked.lookup workspace = some subscription) ∧
    ∀ later, (∀ other ∈ later, beginsTrackingCall other) →
      let link := start.play (beats ++ [b] ++ later)
      ∀ subscription, link.waiter.tracked.lookup workspace = some subscription →
        (link.Feeds workspace subscription.handler ↔
          ¬ Severed start (beats ++ [b] ++ later) subscription.handler) ∧
        (link.Feeds workspace subscription.handler → link.Attentive workspace) := by
  intro start id beats hcalls hdone hnew
  constructor
  · have hearlier : ∀ other ∈ beats, beginsTrackingCall other :=
      fun other hmem => hcalls other (List.mem_append_left _ hmem)
    have hbooked := (booked_withSession carrier config).play beats
      fun other hmem => beginsSessionCall_of_tracking (hearlier other hmem)
    have hwired := (wired_withSession carrier config).play beats
    have hpursues := pursues_play carrier config before between workspace hearlier
    have htries := hpursues.tries_beat (kept_play carrier config beats hearlier) hwired.attached
      hbooked.table b
    rw [play_snoc] at hdone ⊢
    exact ((htries.remembers _ hdone).resolve_left hnew).resolve_left nofun
  · intro later hlater link subscription hlookup
    have hall : ∀ other ∈ beats ++ [b] ++ later, beginsTrackingCall other :=
      fun other hmem => (List.mem_append.mp hmem).elim (hcalls other) (hlater other)
    have hkept := kept_play carrier config (beats ++ [b] ++ later) hall
    have hwired : link.Wired := (wired_withSession carrier config).play _
    exact ⟨(hkept.tracked workspace subscription hlookup).feeds, hwired.attentive⟩

/-! ### A waiter that is not told of a close -/

/-- A call tracks a workspace, and returns when the server has confirmed that. -/
def tracking : List Beat :=
  connecting ++ .call (.track ⟨"w1"⟩) :: [.task 5, confirms 2] ++ [.task 5]

theorem tracking_attentive : (rehearsed.play tracking).Attentive ⟨"w1"⟩ := by
  have hheard := (tracked_workspaces_heard (.scripted {}) { entrypoint := "wss://example/api" }
    connecting [.task 5, confirms 2] (.task 5) ⟨"w1"⟩ (by decide) (by decide +kernel)
    (by decide +kernel)).2 [] (by decide) ⟨trackingTopic ⟨"w1"⟩, ⟨1⟩⟩ (by decide +kernel)
  apply hheard.2
  unfold Feeds
  decide +kernel

/-- The session is closed, and connects again. -/
def reopening : List Beat :=
  [.call .close, .task 6, .task 1, .task 6, .call .connect, .task 7, .task 1, .task 8,
    .script Scripted.opens, .task 1, .task 9, answered 3 (.arr [.str "c2"]), .task 9, .task 1,
    .task 7]

/-- A workspace that was tracked before the session was closed counts as tracked: the call returns
at once, no handler is registered, and the waiter does not hear that the workspace runs. -/
theorem reopened_tracking_unheard :
    let link := rehearsed.play (tracking ++ reopening)
    let again := link.play [.call (.track ⟨"w1"⟩), .task 11]
    let running := .object [("status", .str "RUNNING"), ("workspaceId", .str "w1")]
    let later := again.play [notifies [⟨"workspace/statusChanged", running⟩]]
    link.session.phase = .connected ∧ (11, .done) ∈ again.finished ∧
      again.client.handlers.lists = [] ∧ again.sent.length = link.sent.length ∧
      later.waiter.knownStatus? ⟨"w1"⟩ = none := by
  decide +kernel

end Link

end WorkspaceLink
