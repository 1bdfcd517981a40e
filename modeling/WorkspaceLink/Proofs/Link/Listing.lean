import WorkspaceLink.Proofs.Grouped
import WorkspaceLink.Proofs.Link.TransportSteps
import WorkspaceLink.Proofs.Session.Reaction

/-!
# Listed subscribers are registered

The subscribers of a topic are listed in the table of the session, and their handlers are registered
with the client. A subscriber that waits for the server is registered and not yet listed; we say
that its call pledges the subscription. Closing empties the table and removes all handlers, but a
call that waits is not told, and may list a subscriber afterwards whose handler is gone.

Main statement: along all beats, no handler is listed twice, and a listed handler is registered
exactly unless the session was closed while the call of its subscription waited.
-/
namespace WorkspaceLink.Link

/-! ### The books of a link -/

/-- A call waits for the answer to the request of a subscription. -/
def Pledges (link : Link) (id : Nat) (subscription : Subscription) : Prop :=
  ∃ number tracking, (id, .call (.subscribing number subscription tracking)) ∈ link.tasks

/-- The handler of a subscription is registered under the method of its channel. -/
def Registered (link : Link) (subscription : Subscription) : Prop :=
  link.client.handlers.contains subscription.topic.channel.method subscription.handler

/-- The task is no call, or a call that has begun and holds no handler. -/
def isEmptyHanded : Task → Bool
  | .call (.fresh _) | .call (.subscribing _ _ _) | .call (.following _ _ _) => false
  | _ => true

/-- The second link has the table and the handlers of the first; its tasks are those of the first or
hold no handler. -/
structure Leaves (first second : Link) : Prop where
  table : second.session.table = first.session.table
  handlers : second.client.handlers = first.client.handlers
  tasks : ∀ entry ∈ second.tasks, entry ∈ first.tasks ∨ isEmptyHanded entry.2

variable {link first second third : Link} {id number : Nat} {task : Task}
  {subscription : Subscription}

theorem Leaves.refl (link : Link) : Leaves link link := ⟨rfl, rfl, fun _ => .inl⟩

theorem Leaves.trans (h : Leaves first second) (h' : Leaves second third) : Leaves first third := by
  refine ⟨h'.table.trans h.table, h'.handlers.trans h.handlers, fun entry hmem => ?_⟩
  rcases h'.tasks entry hmem with hmid | hempty
  · exact h.tasks entry hmid
  · exact .inr hempty

theorem Leaves.pledges (h : Leaves first second) (hp : second.Pledges id subscription) :
    first.Pledges id subscription := by
  obtain ⟨number, tracking, hmem⟩ := hp
  rcases h.tasks _ hmem with hold | hempty
  · exact ⟨number, tracking, hold⟩
  · simp [isEmptyHanded] at hempty

theorem Leaves.of_tasks (htable : second.session.table = first.session.table)
    (hhandlers : second.client.handlers = first.client.handlers)
    (htasks : second.tasks = first.tasks) : Leaves first second :=
  ⟨htable, hhandlers, fun _ hmem => .inl (htasks ▸ hmem)⟩

theorem Leaves.of_essence (h : second.essence = first.essence) : Leaves first second :=
  .of_tasks (congrArg (·.session.table) h :) (congrArg (·.client.handlers) h :)
    (congrArg Link.tasks h :)

theorem leaves_emit (event : TransportEvent) (link : Link) : Leaves link (link.emit event) := by
  have h := emit_scenery event link
  exact .of_tasks (congrArg (·.session.table) h :) (congrArg (·.client.handlers) h :)
    (congrArg Link.tasks h :)

theorem pledges_endTask {other : Nat} : (link.endTask id).Pledges other subscription ↔
    link.Pledges other subscription ∧ other ≠ id := by
  simp only [Pledges, mem_endTask]
  constructor
  · rintro ⟨number, tracking, hmem, hne⟩
    exact ⟨⟨number, tracking, hmem⟩, hne⟩
  · rintro ⟨⟨number, tracking, hmem⟩, hne⟩
    exact ⟨number, tracking, hmem, hne⟩

theorem leaves_endTask (id : Nat) (link : Link) : Leaves link (link.endTask id) :=
  ⟨rfl, rfl, fun _ hmem => .inl (mem_endTask.mp hmem).1⟩

theorem Leaves.endTask (h : Leaves first second) (id : Nat) :
    Leaves (first.endTask id) (second.endTask id) := by
  refine ⟨h.table, h.handlers, fun entry hmem => ?_⟩
  obtain ⟨hmem, hne⟩ := mem_endTask.mp hmem
  rcases h.tasks entry hmem with hold | hempty
  · exact .inl (mem_endTask.mpr ⟨hold, hne⟩)
  · exact .inr hempty

/-- The call gave up its handler and goes on with something else. -/
theorem leaves_setTask (h : isEmptyHanded task) (id : Nat) (link : Link) :
    Leaves (link.endTask id) (link.setTask id task) := by
  refine ⟨rfl, rfl, fun entry hmem => ?_⟩
  rcases mem_setTask hmem with hold | ⟨rfl, _⟩
  · exact .inl (mem_endTask.mpr hold)
  · exact .inr h

theorem leaves_finish (id : Nat) (outcome : Outcome) (link : Link) :
    Leaves (link.endTask id) (link.finish id outcome) :=
  .of_tasks rfl rfl rfl

theorem leaves_spawn (h : isEmptyHanded task) (link : Link) : Leaves link (link.spawn task) := by
  refine ⟨rfl, rfl, fun entry hmem => ?_⟩
  rcases mem_spawn.mp hmem with hold | rfl
  · exact .inl hold
  · exact .inr h

theorem isEmptyHanded_of_isCarrierTask (h : isCarrierTask task) : isEmptyHanded task := by
  cases task with
  | call stage => simp [isCarrierTask] at h
  | _ => rfl

/-- Whatever the transport does leaves the books alone. -/
theorem keptByTransport_leaves (who : Option Nat) (start : Link) :
    KeptByTransport who (Leaves start) where
  put _ _ h := h.trans (.of_tasks rfl rfl rfl)
  fetch _ h := h.trans (.of_tasks rfl rfl rfl)
  issue h := h.trans (.of_tasks rfl rfl rfl)
  forget _ h := h.trans (.of_tasks rfl rfl rfl)
  raise _ h := h.trans (.of_tasks rfl rfl rfl)
  emit event h := h.trans (leaves_emit event _)
  spawn hcarrier h := h.trans (leaves_spawn (isEmptyHanded_of_isCarrierTask hcarrier) _)
  setTask id _ hcarrier h := h.trans ((leaves_endTask id _).trans
    (leaves_setTask (isEmptyHanded_of_isCarrierTask hcarrier) id _))
  endTask id _ h := h.trans (leaves_endTask id _)

theorem leaves_script (act : Scripted → Scripted × List TransportEvent) (link : Link) :
    Leaves link (link.script act) :=
  (keptByTransport_leaves none link).script act (.refl link)

theorem leaves_request (method : String) (params : Option Json) (link : Link) :
    Leaves link (link.request method params).2 :=
  (keptByTransport_leaves none link).request method params (.refl link)

theorem leaves_disconnect (link : Link) : Leaves link link.disconnect :=
  (keptByTransport_leaves none link).disconnect (.refl link)

theorem leaves_settleStatuses (settled : StatusWaiter.Settled) (link : Link) :
    Leaves link (settleStatuses settled link) :=
  .of_essence (settleStatuses_essence settled link)

theorem isEmptyHanded_of_isAside (h : isAside task) : isEmptyHanded task := by
  unfold isAside at h
  unfold isEmptyHanded
  split at h <;> simp_all

/-- Whatever asks, waits and reports leaves the books alone. -/
theorem essenceKeptByRequests_leaves (id : Nat) (start : Link) :
    EssenceKeptByRequests id (fun _ => True) (Leaves start) where
  idle h heq := h.trans (.of_essence heq)
  request params _ h := h.trans (leaves_request _ params _)
  forget _ h := h.trans (.of_tasks rfl rfl rfl)
  setTask haside _ h := by
    refine h.trans ((leaves_endTask id _).trans (leaves_setTask ?_ id _))
    exact isEmptyHanded_of_isAside haside
  endTask h := h.trans (leaves_endTask id _)
  finish _ h := h.trans ((leaves_endTask id _).trans (.of_tasks rfl rfl rfl))
  pushInput _ _ h := h.trans (.of_tasks rfl rfl rfl)
  spawnDriver h := h.trans (leaves_spawn rfl _)

/-! ### What has nothing to do with subscriptions -/

theorem leaves_noteReplay (number : Nat) (topic : Topic) (answer : Answer) (link : Link) :
    Leaves link (link.noteReplay number topic answer) := by
  cases answer <;> exact .of_tasks rfl rfl rfl

theorem leaves_replayFrom (id : Nat) (topics : List Topic) (link : Link) :
    Leaves link (link.replayFrom id topics) := by
  induction topics generalizing link with
  | nil => exact leaves_endTask id link
  | cons topic rest ih =>
    have hasked := leaves_request Message.subscribeMethod (some topic.params) link
    simp only [replayFrom]
    split
    · exact hasked.trans ((leaves_noteReplay _ _ _ _).trans (ih _))
    · exact hasked.trans ((leaves_endTask id _).trans (leaves_setTask rfl id _))

theorem leaves_runReplay (id : Nat) (current : Option (Nat × Topic)) (rest : List Topic)
    (link : Link) : Leaves link (link.runReplay id current rest) := by
  unfold runReplay
  split
  · exact leaves_replayFrom id rest link
  · split
    · exact (leaves_noteReplay _ _ _ _).trans (leaves_replayFrom id rest _)
    · exact .refl link

/-! ### Books in order -/

/-- A call of a session: it does not register or remove handlers on its own. -/
def isSessionCall : Call → Bool
  | .follow _ _ _ _ | .unfollow _ _ _ _ => false
  | _ => true

/-- Where such calls stand. -/
def usesSession : Stage → Bool
  | .fresh call => isSessionCall call
  | .following _ _ _ => false
  | _ => true

theorem usesSession_of_isEmptyHanded {stage : Stage} (h : isEmptyHanded (.call stage)) :
    usesSession stage := by
  cases stage with
  | fresh call => simp [isEmptyHanded] at h
  | following number method handler => simp [isEmptyHanded] at h
  | _ => rfl

/-- The books of a link are in order; the handlers of some subscriptions were removed although
these are listed or pledged. -/
structure Booked (orphaned : HandlerId → Prop) (link : Link) : Prop where
  calls : ∀ id stage, (id, .call stage) ∈ link.tasks → usesSession stage
  table : Grouped.Sound link.session.table
  registry : Grouped.Sound link.client.handlers.lists
  once : (Grouped.all link.session.table).Nodup
  orphaned_lt : ∀ handler, orphaned handler → handler.number < link.client.handlers.next
  listed_lt : ∀ handler ∈ Grouped.all link.session.table,
    handler.number < link.client.handlers.next
  listed_registered : ∀ subscription : Subscription,
    subscription.handler ∈ SubscriptionTable.subscribers link.session.table subscription.topic →
      (link.Registered subscription ↔ ¬ orphaned subscription.handler)
  pledged_lt : ∀ id subscription, link.Pledges id subscription →
    subscription.handler.number < link.client.handlers.next
  pledged_unlisted : ∀ id subscription, link.Pledges id subscription →
    subscription.handler ∉ Grouped.all link.session.table
  pledged_registered : ∀ id subscription, link.Pledges id subscription →
    (link.Registered subscription ↔ ¬ orphaned subscription.handler)
  pledged_once : ∀ id subscription id' subscription', link.Pledges id subscription →
    link.Pledges id' subscription' → subscription.handler = subscription'.handler → id = id'

/-- A subscription that may be pledged or listed: nothing stands in the books under its handler. -/
structure Claimable (orphaned : HandlerId → Prop) (link : Link) (subscription : Subscription) :
    Prop where
  lt_next : subscription.handler.number < link.client.handlers.next
  unlisted : subscription.handler ∉ Grouped.all link.session.table
  unpledged : ∀ id other, link.Pledges id other → other.handler ≠ subscription.handler
  registered : link.Registered subscription ↔ ¬ orphaned subscription.handler

variable {orphaned : HandlerId → Prop}

theorem Leaves.registered (h : Leaves first second) (subscription : Subscription) :
    second.Registered subscription ↔ first.Registered subscription := by
  unfold Registered
  rw [h.handlers]

theorem Booked.leaves (hb : Booked orphaned first) (h : Leaves first second) :
    Booked orphaned second where
  calls id stage hmem := by
    rcases h.tasks _ hmem with hold | hempty
    · exact hb.calls id stage hold
    · exact usesSession_of_isEmptyHanded hempty
  table := h.table ▸ hb.table
  registry := h.handlers ▸ hb.registry
  once := h.table ▸ hb.once
  orphaned_lt := h.handlers ▸ hb.orphaned_lt
  listed_lt := by rw [h.table, h.handlers]; exact hb.listed_lt
  listed_registered subscription hmem := by
    rw [h.registered]
    exact hb.listed_registered subscription (h.table ▸ hmem)
  pledged_lt id subscription hp := by
    rw [h.handlers]
    exact hb.pledged_lt id subscription (h.pledges hp)
  pledged_unlisted id subscription hp := by
    rw [h.table]
    exact hb.pledged_unlisted id subscription (h.pledges hp)
  pledged_registered id subscription hp := by
    rw [h.registered]
    exact hb.pledged_registered id subscription (h.pledges hp)
  pledged_once id subscription id' subscription' hp hp' :=
    hb.pledged_once id subscription id' subscription' (h.pledges hp) (h.pledges hp')

theorem Claimable.leaves (hc : Claimable orphaned first subscription) (h : Leaves first second) :
    Claimable orphaned second subscription where
  lt_next := h.handlers ▸ hc.lt_next
  unlisted := h.table ▸ hc.unlisted
  unpledged id other hp := hc.unpledged id other (h.pledges hp)
  registered := (h.registered subscription).trans hc.registered

/-- Without its call, a pledged subscription may be listed or pledged again. -/
theorem Booked.claimable (h : Booked orphaned link) (hp : link.Pledges id subscription) :
    Claimable orphaned (link.endTask id) subscription where
  lt_next := h.pledged_lt id subscription hp
  unlisted := h.pledged_unlisted id subscription hp
  unpledged other subscription' hp' heq := by
    obtain ⟨hold, hne⟩ := pledges_endTask.mp hp'
    exact hne (h.pledged_once _ _ _ _ hold hp heq)
  registered := h.pledged_registered id subscription hp

/-- The call pledges a subscription. -/
theorem Booked.pledge (h : Booked orphaned (link.endTask id))
    (hc : Claimable orphaned (link.endTask id) subscription) (number : Nat)
    (tracking : Option WorkspaceId) :
    Booked orphaned (link.setTask id (.call (.subscribing number subscription tracking))) := by
  have hpledges : ∀ other subscription',
      (link.setTask id (.call (.subscribing number subscription tracking))).Pledges other
        subscription' →
      (link.endTask id).Pledges other subscription' ∨
        other = id ∧ subscription' = subscription := by
    rintro other subscription' ⟨number', tracking', hmem⟩
    rcases mem_setTask hmem with ⟨hold, hne⟩ | ⟨heq, _⟩
    · exact .inl (pledges_endTask.mpr ⟨⟨number', tracking', hold⟩, hne⟩)
    · simp only [Prod.mk.injEq, Task.call.injEq, Stage.subscribing.injEq] at heq
      exact .inr ⟨heq.1, heq.2.2.1⟩
  refine ⟨?_, h.table, h.registry, h.once, h.orphaned_lt, h.listed_lt, h.listed_registered, ?_, ?_,
    ?_, ?_⟩
  · intro other stage hmem
    rcases mem_setTask hmem with hold | ⟨heq, _⟩
    · exact h.calls other stage (mem_endTask.mpr hold)
    · simp only [Prod.mk.injEq, Task.call.injEq] at heq
      rw [heq.2]
      rfl
  · intro other subscription' hp
    rcases hpledges other subscription' hp with hold | ⟨_, rfl⟩
    · exact h.pledged_lt other subscription' hold
    · exact hc.lt_next
  · intro other subscription' hp
    rcases hpledges other subscription' hp with hold | ⟨_, rfl⟩
    · exact h.pledged_unlisted other subscription' hold
    · exact hc.unlisted
  · intro other subscription' hp
    rcases hpledges other subscription' hp with hold | ⟨_, rfl⟩
    · exact h.pledged_registered other subscription' hold
    · exact hc.registered
  · intro a subscription₁ b subscription₂ hp hp' heq
    rcases hpledges a subscription₁ hp with hold | ⟨rfl, rfl⟩ <;>
      rcases hpledges b subscription₂ hp' with hold' | ⟨rfl, rfl⟩
    · exact h.pledged_once _ _ _ _ hold hold' heq
    · exact absurd heq (hc.unpledged _ _ hold)
    · exact absurd heq.symm (hc.unpledged _ _ hold')
    · rfl

/-! ### Registering and listing -/

theorem HandlerId.ne_of_lt {handler : HandlerId} {n : Nat} (h : handler.number < n) :
    handler ≠ ⟨n⟩ := by
  rintro rfl
  exact Nat.lt_irrefl _ h

/-- Registering a handler leaves all that stands in the books as it is. -/
theorem Booked.addHandler (h : Booked orphaned link) (method : String) (subscriber : Subscriber) :
    Booked orphaned (link.addHandler method subscriber).2 := by
  have hkept : ∀ subscription : Subscription,
      subscription.handler.number < link.client.handlers.next →
      ((link.addHandler method subscriber).2.Registered subscription ↔
        link.Registered subscription) := by
    intro subscription hlt
    change (link.client.handlers.add method subscriber).2.contains _ _ ↔ _
    rw [Registry.contains_add]
    simp [HandlerId.ne_of_lt hlt, Registered]
  have hlists : (link.addHandler method subscriber).2.client.handlers.lists =
      Grouped.insert method (⟨link.client.handlers.next⟩, subscriber)
        link.client.handlers.lists :=
    Registry.append_eq _ _ _
  refine ⟨h.calls, h.table, ?_, h.once, ?_, ?_, ?_, ?_, h.pledged_unlisted, ?_, h.pledged_once⟩
  · rw [hlists]
    exact h.registry.insert _ _
  · exact fun handler ho => Nat.lt_succ_of_lt (h.orphaned_lt handler ho)
  · exact fun handler hmem => Nat.lt_succ_of_lt (h.listed_lt handler hmem)
  · intro subscription hmem
    rw [hkept subscription (h.listed_lt _ (Grouped.mem_all_of_mem_items hmem))]
    exact h.listed_registered subscription hmem
  · exact fun id subscription hp => Nat.lt_succ_of_lt (h.pledged_lt id subscription hp)
  · intro id subscription hp
    rw [hkept subscription (h.pledged_lt id subscription hp)]
    exact h.pledged_registered id subscription hp

/-- A new handler may be pledged or listed. -/
theorem Booked.claimable_addHandler (h : Booked orphaned link) (topic : Topic)
    (subscriber : Subscriber) :
    Claimable orphaned (link.addHandler topic.channel.method subscriber).2
      ⟨topic, (link.addHandler topic.channel.method subscriber).1⟩ where
  lt_next := Nat.lt_succ_self _
  unlisted hmem := Nat.lt_irrefl _ (h.listed_lt _ hmem)
  unpledged id other hp heq := Nat.lt_irrefl _ (heq ▸ h.pledged_lt id other hp)
  registered := by
    have hnew : (link.addHandler topic.channel.method subscriber).2.Registered
        ⟨topic, (link.addHandler topic.channel.method subscriber).1⟩ := by
      change (link.client.handlers.add topic.channel.method subscriber).2.contains _ _
      rw [Registry.contains_add]
      exact .inr ⟨rfl, rfl⟩
    have hfree : ¬ orphaned ⟨link.client.handlers.next⟩ :=
      fun ho => Nat.lt_irrefl _ (h.orphaned_lt _ ho)
    exact iff_of_true hnew hfree

/-- Removing a handler that stands nowhere in the books. -/
theorem Booked.removeHandler (h : Booked orphaned link) (method : String) {handler : HandlerId}
    (hlisted : handler ∉ Grouped.all link.session.table)
    (hpledged : ∀ id subscription, link.Pledges id subscription → subscription.handler ≠ handler) :
    Booked orphaned (link.removeHandler method handler).2 := by
  have hkept : ∀ subscription : Subscription, subscription.handler ≠ handler →
      ((link.removeHandler method handler).2.Registered subscription ↔
        link.Registered subscription) := by
    intro subscription hne
    change (link.client.handlers.remove method handler).2.contains _ _ ↔ _
    rw [Registry.contains_remove h.registry]
    simp [hne, Registered]
  have hlists : (link.removeHandler method handler).2.client.handlers.lists =
      Grouped.prune method (fun entry => entry.1 ≠ handler) link.client.handlers.lists :=
    Registry.discard_eq _ _ _
  refine ⟨h.calls, h.table, ?_, h.once, h.orphaned_lt, h.listed_lt, ?_, h.pledged_lt,
    h.pledged_unlisted, ?_, h.pledged_once⟩
  · rw [hlists]
    exact h.registry.prune _ _
  · intro subscription hmem
    have hne : subscription.handler ≠ handler :=
      fun heq => hlisted (heq ▸ Grouped.mem_all_of_mem_items hmem)
    rw [hkept subscription hne]
    exact h.listed_registered subscription hmem
  · intro id subscription hp
    rw [hkept subscription (hpledged id subscription hp)]
    exact h.pledged_registered id subscription hp

theorem Booked.enlist (h : Booked orphaned link) (hc : Claimable orphaned link subscription) :
    Booked orphaned
      (link.updateTable (SubscriptionTable.add subscription.topic subscription.handler)) := by
  have hperm := Grouped.all_insert subscription.topic subscription.handler link.session.table
  rw [← SubscriptionTable.add_eq] at hperm
  have hmem : ∀ handler, handler ∈ Grouped.all
      (SubscriptionTable.add subscription.topic subscription.handler link.session.table) ↔
        handler = subscription.handler ∨ handler ∈ Grouped.all link.session.table :=
    fun handler => hperm.mem_iff.trans List.mem_cons
  refine ⟨h.calls, ?_, h.registry, ?_, h.orphaned_lt, ?_, ?_, h.pledged_lt, ?_,
    h.pledged_registered, h.pledged_once⟩
  · exact SubscriptionTable.sound_add h.table _ _
  · exact hperm.nodup_iff.mpr (List.nodup_cons.mpr ⟨hc.unlisted, h.once⟩)
  · intro handler hlisted
    rcases (hmem handler).mp hlisted with rfl | hold
    · exact hc.lt_next
    · exact h.listed_lt handler hold
  · intro other hlisted
    rcases SubscriptionTable.mem_subscribers_add.mp hlisted with hold | ⟨htopic, hhandler⟩
    · exact h.listed_registered other hold
    · obtain rfl : other = subscription := by
        cases other; cases subscription; simp_all
      exact hc.registered
  · intro id other hp hlisted
    rcases (hmem _).mp hlisted with heq | hold
    · exact hc.unpledged id other hp heq
    · exact h.pledged_unlisted id other hp hold

/-- A subscription that leaves the table stands nowhere in the books. -/
theorem Booked.delist (h : Booked orphaned link)
    (hlisted : subscription.handler ∈
      SubscriptionTable.subscribers link.session.table subscription.topic) :
    let after :=
      link.updateTable (SubscriptionTable.remove subscription.topic subscription.handler)
    Booked orphaned after ∧ subscription.handler ∉ Grouped.all after.session.table ∧
      ∀ id other, after.Pledges id other → other.handler ≠ subscription.handler := by
  intro after
  have hsound : Grouped.Sound after.session.table := SubscriptionTable.sound_remove h.table _ _
  have hsub : (Grouped.all after.session.table).Sublist (Grouped.all link.session.table) := by
    change (Grouped.all (SubscriptionTable.remove _ _ _)).Sublist _
    rw [SubscriptionTable.remove_eq]
    exact Grouped.all_prune _ _ _
  refine ⟨⟨h.calls, hsound, h.registry, h.once.sublist hsub, h.orphaned_lt, ?_, ?_, h.pledged_lt,
    ?_, h.pledged_registered, h.pledged_once⟩, ?_, ?_⟩
  · exact fun handler hmem => h.listed_lt handler (hsub.subset hmem)
  · intro other hmem
    exact h.listed_registered other ((SubscriptionTable.mem_subscribers_remove h.table).mp hmem).1
  · exact fun id other hp hmem => h.pledged_unlisted id other hp (hsub.subset hmem)
  · intro hmem
    obtain ⟨topic, htopic⟩ := hsound.mem_all.mp hmem
    obtain ⟨hold, hne⟩ := (SubscriptionTable.mem_subscribers_remove h.table).mp htopic
    exact hne ⟨h.table.key_unique h.once hold hlisted, rfl⟩
  · intro id other hp heq
    exact h.pledged_unlisted id other hp (heq ▸ Grouped.mem_all_of_mem_items hlisted)

/-! ### Calls on subscriptions -/

theorem Booked.finish (h : Booked orphaned (link.endTask id)) (outcome : Outcome) :
    Booked orphaned (link.finish id outcome) :=
  h.leaves (leaves_finish id outcome link)

theorem leaves_forget (id number : Nat) (link : Link) :
    Leaves (link.endTask id) ((link.forget number).endTask id) :=
  .of_tasks rfl rfl rfl

theorem Booked.awaitConfirmation (h : Booked orphaned (link.endTask id)) (number : Nat) :
    Booked orphaned (link.awaitConfirmation id number) := by
  unfold Link.awaitConfirmation
  split
  · exact (h.leaves (leaves_forget id number link)).finish _
  · exact h.leaves (leaves_setTask rfl id link)

theorem Booked.request (h : Booked orphaned (link.endTask id)) (method : String)
    (params : Option Json) : Booked orphaned ((link.request method params).2.endTask id) :=
  h.leaves ((leaves_request method params link).endTask id)

theorem Booked.endSubscription (h : Booked orphaned (link.endTask id))
    (subscription : Subscription) : Booked orphaned (link.endSubscription id subscription) := by
  unfold Link.endSubscription
  dsimp only
  split
  · exact h.finish _
  next hlisted =>
    rw [Decidable.not_not] at hlisted
    obtain ⟨hafter, hunlisted, hunpledged⟩ := h.delist hlisted
    have hremoved := hafter.removeHandler subscription.topic.channel.method hunlisted hunpledged
    split
    · exact Booked.awaitConfirmation (Booked.request hremoved _ _) _
    · exact Booked.finish hremoved _

theorem Booked.completeSubscription (h : Booked orphaned (link.endTask id))
    (hc : Claimable orphaned (link.endTask id) subscription) (tracking : Option WorkspaceId) :
    Booked orphaned (link.completeSubscription id subscription tracking) := by
  let listed :=
    link.updateTable (SubscriptionTable.add subscription.topic subscription.handler)
  have hlisted : Booked orphaned (listed.endTask id) := h.enlist hc
  have hset : ∀ waiter,
      Leaves (listed.endTask id) (Link.endTask id { listed with waiter }) :=
    fun _ => .of_tasks rfl rfl rfl
  unfold Link.completeSubscription
  dsimp only
  split
  · exact hlisted.finish _
  · split
    · exact (hlisted.leaves (hset _)).endSubscription _
    · exact (hlisted.leaves (hset _)).finish _

theorem Booked.awaitSubscription (h : Booked orphaned (link.endTask id))
    (hc : Claimable orphaned (link.endTask id) subscription) (number : Nat)
    (tracking : Option WorkspaceId) :
    Booked orphaned (link.awaitSubscription id number subscription tracking) := by
  have hforgot := leaves_forget id number link
  unfold Link.awaitSubscription
  split
  · exact Booked.completeSubscription (h.leaves hforgot) (hc.leaves hforgot) tracking
  · have hc := hc.leaves hforgot
    exact Booked.finish ((h.leaves hforgot).removeHandler _ hc.unlisted hc.unpledged) _
  · exact h.pledge hc number tracking

theorem Booked.beginSubscription (h : Booked orphaned (link.endTask id)) (topic : Topic)
    (subscriber : Subscriber) (tracking : Option WorkspaceId) :
    Booked orphaned (link.beginSubscription id topic subscriber tracking) := by
  have hadded := h.addHandler topic.channel.method subscriber
  have hc := h.claimable_addHandler topic subscriber
  unfold Link.beginSubscription
  dsimp only
  split
  · let mid := (link.addHandler topic.channel.method subscriber).2
    have hasked := (leaves_request Message.subscribeMethod (some topic.params) mid).endTask id
    exact Booked.awaitSubscription (hadded.leaves hasked) (hc.leaves hasked) _ _
  · exact Booked.completeSubscription hadded hc tracking

theorem Booked.track (h : Booked orphaned (link.endTask id)) (workspace : WorkspaceId) :
    Booked orphaned (link.track id workspace) := by
  unfold Link.track
  split
  · exact h.finish _
  · exact h.beginSubscription _ _ _

theorem Booked.untrack (h : Booked orphaned (link.endTask id)) (workspace : WorkspaceId) :
    Booked orphaned (link.untrack id workspace) := by
  have hsettled : Booked orphaned (Link.endTask id
      (settleStatuses (link.waiter.untrack workspace).2.2
        { link with waiter := (link.waiter.untrack workspace).2.1 })) := by
    have hset : Leaves link { link with waiter := (link.waiter.untrack workspace).2.1 } :=
      .of_tasks rfl rfl rfl
    exact h.leaves ((hset.trans (leaves_settleStatuses _ _)).endTask id)
  unfold Link.untrack
  dsimp only
  split
  · exact hsettled.endSubscription _
  · exact hsettled.finish _

theorem Booked.runCall (h : Booked orphaned link) {stage : Stage}
    (hmem : (id, .call stage) ∈ link.tasks) : Booked orphaned (link.runCall id stage) := by
  have hsession := h.calls id stage hmem
  have hfree : Booked orphaned (link.endTask id) := h.leaves (leaves_endTask id link)
  have hplain : isPlainStage (fun _ => True) stage → Booked orphaned (link.runCall id stage) :=
    fun hstage =>
      h.leaves ((essenceKeptByRequests_leaves id link).runCall trivial hstage (.refl link))
  cases stage with
  | fresh call =>
    cases call with
    | subscribe topic subscriber => exact hfree.beginSubscription topic subscriber none
    | unsubscribe subscription => exact hfree.endSubscription subscription
    | track workspace => exact hfree.track workspace
    | untrack workspace => exact hfree.untrack workspace
    | follow method subscriber request params => simp [usesSession, isSessionCall] at hsession
    | unfollow method handler request params => simp [usesSession, isSessionCall] at hsession
    | _ => exact hplain trivial
  | subscribing number subscription tracking =>
    exact hfree.awaitSubscription (h.claimable ⟨number, tracking, hmem⟩) number tracking
  | following number method handler => simp [usesSession] at hsession
  | _ => exact hplain trivial

theorem Booked.spawnCall (h : Booked orphaned link) {call : Call} (hcall : isSessionCall call) :
    Booked orphaned (link.call call).2 := by
  have hpledges : ∀ id subscription, (link.call call).2.Pledges id subscription →
      link.Pledges id subscription := by
    rintro id subscription ⟨number, tracking, hmem⟩
    rcases mem_spawn.mp hmem with hold | heq
    · exact ⟨number, tracking, hold⟩
    · simp at heq
  refine ⟨?_, h.table, h.registry, h.once, h.orphaned_lt, h.listed_lt, h.listed_registered, ?_, ?_,
    ?_, ?_⟩
  · intro id stage hmem
    rcases mem_spawn.mp hmem with hold | heq
    · exact h.calls id stage hold
    · simp only [Prod.mk.injEq, Task.call.injEq] at heq
      rw [heq.2]
      exact hcall
  · exact fun id subscription hp => h.pledged_lt id subscription (hpledges _ _ hp)
  · exact fun id subscription hp => h.pledged_unlisted id subscription (hpledges _ _ hp)
  · exact fun id subscription hp => h.pledged_registered id subscription (hpledges _ _ hp)
  · exact fun _ _ _ _ hp hp' => h.pledged_once _ _ _ _ (hpledges _ _ hp) (hpledges _ _ hp')

theorem Booked.abandon (h : Booked orphaned link) (id : Nat) :
    Booked orphaned (link.abandon id) := by
  unfold Link.abandon
  split
  next stage htask =>
    have hmem := mem_of_task? htask
    have hfree : Booked orphaned (link.endTask id) := h.leaves (leaves_endTask id link)
    have hforgot : ∀ number, Booked orphaned ((link.forget number).endTask id) :=
      fun number => hfree.leaves (leaves_forget id number link)
    cases stage with
    | subscribing number subscription tracking =>
      have hc := (h.claimable ⟨number, tracking, hmem⟩).leaves (leaves_forget id number link)
      exact (hforgot number).removeHandler subscription.topic.channel.method hc.unlisted
        hc.unpledged
    | following number method handler => simpa [usesSession] using h.calls id _ hmem
    | answer number due => exact hforgot number
    | identity inquiry => exact hforgot inquiry.number
    | confirmation number => exact hforgot number
    | _ => exact hfree
  next => exact h

/-! ### Inputs -/

theorem leaves_runEffect {effect : Effect} (h : effect ≠ .clearHandlers) (link : Link) :
    Leaves link (link.runEffect effect) := by
  cases effect with
  | clearHandlers => exact absurd rfl h
  | disconnect => exact leaves_disconnect link
  | attempt token generation clientId => exact leaves_spawn rfl link
  | fetchId generation => exact leaves_spawn rfl link
  | probe token generation => exact leaves_spawn rfl link
  | timer number delayMs => exact leaves_spawn rfl link
  | replay topics => exact leaves_spawn rfl link
  | _ => exact .of_tasks rfl rfl rfl

theorem leaves_runEffects {effects : List Effect} (h : Effect.clearHandlers ∉ effects)
    (link : Link) : Leaves link (link.runEffects effects) := by
  induction effects generalizing link with
  | nil => exact .refl link
  | cons effect rest ih =>
    simp only [List.mem_cons, not_or] at h
    exact (leaves_runEffect (Ne.symm h.1) link).trans (ih h.2 _)

theorem clearHandlers_not_mem_transition (config : SessionConfig) (source target : Phase) :
    Effect.clearHandlers ∉ Session.transition config source target := by
  unfold Session.transition
  split <;> simp [Session.entry]

/-- Only a close empties the table and removes the handlers. -/
theorem handle_keeps_books (config : SessionConfig) (s : Session) {input : Input}
    (h : ∀ ticket, input ≠ .close ticket) :
    (s.handle config input).session.table = s.table ∧
      Effect.clearHandlers ∉ (s.handle config input).effects := by
  have hreacts := Session.handle_reacts config s input
  generalize s.handle config input = step at hreacts
  have hclear := clearHandlers_not_mem_transition config
  cases hreacts with
  | shuts ticket => exact absurd rfl (h ticket)
  | begins => simp [Session.beginConnect_eq, hclear]
  | revives => simp [Session.beginConnect_eq, hclear]
  | redials => simp [Session.beginConnect_eq, hclear]
  | opens => simp [Session.cancelReconnect_eq, Session.Step.doing]
  | identifies id =>
    have hreplays : Effect.clearHandlers ∉ Session.replays config s := by
      unfold Session.replays
      split <;> simp [Session.entry]
    simp [Session.identified_eq, hclear, hreplays, Session.entry]
  | retries entry => simp [Session.Step.andThen, Session.retry, hclear, Session.entry]
  | givesUp entry => simp [Session.Step.andThen, Session.giveUp, hclear, Session.entry]
  | ignores entries => simp

/-- A link whose table is empty and whose handlers are removed. -/
def emptied (link : Link) : Link :=
  { link with
    session := { link.session with table := [] }
    client := { link.client with handlers := link.client.handlers.clear } }

/-- A close empties the table and removes the handlers; the calls are not told. -/
theorem leaves_close (ticket : Nat) (link : Link) :
    Leaves link.emptied (link.handleInput (.close ticket)) := by
  let s := link.session
  let before := (s.reconnect.map Effect.cancelTimer).toList ++
    (s.liveness.map Effect.cancel).toList ++ (s.attempt.map Effect.cancel).toList ++ [.disconnect]
  let after := Session.transition link.config s.phase .disconnected ++
    [Session.entry link.config .info "session closed" []] ++ [.confirmClose ticket]
  let shut : Link := { link with session := (Session.shut link.config s).session }
  have heffects : ((Session.shut link.config s).doing [.confirmClose ticket]).effects =
      before ++ .clearHandlers :: after := by
    simp [Session.shut_eq, Session.Step.doing, before, after]
  have hrun : link.handleInput (.close ticket) =
      runEffects after (clearHandlers (runEffects before shut)) := by
    change runEffects ((Session.shut link.config s).doing [.confirmClose ticket]).effects shut = _
    rw [heffects, runEffects, List.foldl_append]
    rfl
  have hbefore : Leaves shut (runEffects before shut) := by
    apply leaves_runEffects
    simp [before]
  have hafter : Leaves (clearHandlers (runEffects before shut))
      (runEffects after (clearHandlers (runEffects before shut))) := by
    apply leaves_runEffects
    simp [after, clearHandlers_not_mem_transition, Session.entry]
  have hcleared : Leaves link.emptied (clearHandlers (runEffects before shut)) := by
    refine ⟨?_, ?_, hbefore.tasks⟩
    · have hshut : shut.session.table = [] := by simp only [shut, Session.shut_eq]
      exact hbefore.table.trans hshut
    · exact congrArg Registry.clear hbefore.handlers
  rw [hrun]
  exact hcleared.trans hafter

/-- With the handlers, every pledge loses its own. -/
theorem Booked.emptied (h : Booked orphaned link) :
    Booked (fun handler => orphaned handler ∨ ∃ id topic, link.Pledges id ⟨topic, handler⟩)
      link.emptied where
  calls := h.calls
  table := Grouped.sound_nil
  registry := Grouped.sound_nil
  once := List.nodup_nil
  orphaned_lt handler ho := by
    rcases ho with ho | ⟨id, topic, hp⟩
    · exact h.orphaned_lt handler ho
    · exact h.pledged_lt id _ hp
  listed_lt handler hmem := absurd hmem List.not_mem_nil
  listed_registered subscription hmem := absurd hmem List.not_mem_nil
  pledged_lt := h.pledged_lt
  pledged_unlisted _ _ _ := List.not_mem_nil
  pledged_registered id subscription hp := by
    have hgone : ¬ link.emptied.Registered subscription := by
      simp [Registered, Link.emptied, Registry.contains_clear]
    exact iff_of_false hgone fun hnot => hnot (.inr ⟨id, subscription.topic, hp⟩)
  pledged_once := h.pledged_once

/-! ### Beats -/

/-- The session handles a close in this beat. -/
def closes (link : Link) : Beat → Bool
  | .task id =>
    match link.task? id, link.inputs with
    | some .driver, .close _ :: _ => true
    | _, _ => false
  | _ => false

theorem closes_iff {b : Beat} : link.closes b ↔ ∃ id ticket rest,
    b = .task id ∧ link.task? id = some .driver ∧ link.inputs = .close ticket :: rest := by
  constructor
  · intro h
    cases b with
    | task id =>
      simp only [closes] at h
      split at h
      next ticket rest hdriver hinputs => exact ⟨id, ticket, rest, rfl, hdriver, hinputs⟩
      next => simp at h
    | _ => simp [closes] at h
  · rintro ⟨id, ticket, rest, rfl, hdriver, hinputs⟩
    simp [closes, hdriver, hinputs]

/-- The calls that are begun are calls of a session. -/
def beginsSessionCall : Beat → Bool
  | .call call => isSessionCall call
  | _ => true

theorem Booked.congr {orphaned' : HandlerId → Prop} (h : Booked orphaned link)
    (hiff : ∀ handler, orphaned' handler ↔ orphaned handler) : Booked orphaned' link := by
  obtain rfl : orphaned' = orphaned := funext fun handler => propext (hiff handler)
  exact h

theorem leaves_handleNext (hopen : ∀ ticket rest, link.inputs ≠ .close ticket :: rest) :
    Leaves link link.handleNext := by
  unfold Link.handleNext
  split
  · exact .refl link
  next input rest hinputs =>
    have hclose : ∀ ticket, input ≠ .close ticket := by
      rintro ticket rfl
      exact hopen ticket rest hinputs
    obtain ⟨htable, hclear⟩ := handle_keeps_books link.config link.session hclose
    have hstep : Leaves link { link with
        inputs := rest, session := (link.session.handle link.config input).session } :=
      .of_tasks htable rfl rfl
    exact hstep.trans (leaves_runEffects hclear _)

/-- The task is no call that has to do with subscriptions. -/
def isPlainTask (link : Link) (id : Nat) : Prop :=
  ∀ stage, link.task? id = some (.call stage) → isPlainStage (fun _ => True) stage

/-- No call begins, and none that has to do with subscriptions runs or is dropped. -/
def isPlainBeat (link : Link) : Beat → Prop
  | .call _ => False
  | .task id | .abandon id => link.isPlainTask id
  | _ => True

theorem leaves_runTask (hopen : link.closes (.task id) = false) (hplain : link.isPlainTask id) :
    Leaves link (link.runTask id) := by
  have hbyRequests := essenceKeptByRequests_leaves id link
  have hbyTransport := keptByTransport_leaves (some id) link
  cases htask : link.task? id with
  | none => simpa only [Link.runTask, poll, htask] using .refl link
  | some task =>
    simp only [Link.runTask, poll, htask]
    cases task with
    | driver =>
      refine leaves_handleNext fun ticket rest hinputs => ?_
      simp [closes, htask, hinputs] at hopen
    | attempt token clientId => exact hbyTransport.runAttempt rfl token clientId (.refl link)
    | handshake token g => exact hbyTransport.runHandshake rfl token g (.refl link)
    | identify g inquiry? => exact hbyRequests.runIdentify trivial g inquiry? (.refl link)
    | probes token g stage => exact hbyRequests.runProbes trivial token g stage (.refl link)
    | delay number delayMs due? => exact hbyRequests.runDelay _ _ due? (.refl link)
    | replay current rest => exact leaves_runReplay id current rest link
    | delivery delivery => exact hbyTransport.runDelivery rfl delivery (.refl link)
    | stream g => exact .refl link
    | call stage => exact hbyRequests.runCall trivial (hplain stage htask) (.refl link)

theorem leaves_abandon (hplain : link.isPlainTask id) : Leaves link (link.abandon id) := by
  have hforgot : ∀ number, Leaves link (link.forget number) := fun _ => .of_tasks rfl rfl rfl
  unfold Link.abandon
  split
  next stage htask =>
    refine Leaves.trans ?_ (leaves_endTask id _)
    have hstage := hplain stage htask
    cases stage with
    | following number method handler => exact hstage.elim
    | subscribing number subscription tracking => exact hstage.elim
    | answer number due => exact hforgot number
    | identity inquiry => exact hforgot inquiry.number
    | confirmation number => exact hforgot number
    | _ => exact .refl link
  next => exact .refl link

theorem leaves_beat {b : Beat} (hopen : link.closes b = false) (hplain : link.isPlainBeat b) :
    Leaves link (link.beat b) := by
  cases b with
  | call call => exact hplain.elim
  | waitForStatus workspace status =>
    have hset : Leaves link { link with waiter := (link.waiter.waitFor workspace status).2.1 } :=
      .of_tasks rfl rfl rfl
    exact hset.trans ((leaves_settleStatuses _ _).trans (leaves_spawn rfl _))
  | abandon id => exact leaves_abandon hplain
  | task id => exact leaves_runTask hopen hplain
  | elapse millis => exact .of_tasks rfl rfl rfl
  | handshakeEnds g failure => exact .of_tasks rfl rfl rfl
  | socket turn => exact (keptByTransport_leaves _ link).take (.refl link)
  | script act => exact leaves_script act link

/-- The handlers that lose their registration in a beat although their subscriptions are pledged. -/
def orphans (link : Link) (b : Beat) (handler : HandlerId) : Prop :=
  link.closes b ∧ ∃ id topic, link.Pledges id ⟨topic, handler⟩

theorem leaves_beat_close {b : Beat} (hcloses : link.closes b) :
    Leaves link.emptied (link.beat b) := by
  obtain ⟨id, ticket, rest, rfl, hdriver, hinputs⟩ := closes_iff.mp hcloses
  have hbeat : link.beat (.task id) =
      handleInput { link with inputs := rest } (.close ticket) := by
    simp only [Link.beat, Link.runTask, hdriver, Link.handleNext, hinputs]
  have hleaves := leaves_close ticket { link with inputs := rest }
  rw [hbeat]
  exact ⟨hleaves.table, hleaves.handlers, hleaves.tasks⟩

theorem Booked.beat_close (h : Booked orphaned link) {b : Beat} (hcloses : link.closes b) :
    Booked (fun handler => orphaned handler ∨ link.orphans b handler) (link.beat b) := by
  refine (h.emptied.leaves (leaves_beat_close hcloses)).congr fun handler => ?_
  simp [orphans, hcloses]

theorem Booked.beat (h : Booked orphaned link) {b : Beat} (hcall : beginsSessionCall b) :
    Booked (fun handler => orphaned handler ∨ link.orphans b handler) (link.beat b) := by
  by_cases hcloses : link.closes b
  · exact h.beat_close hcloses
  · rw [Bool.not_eq_true] at hcloses
    suffices Booked orphaned (link.beat b) from this.congr fun _ => by simp [orphans, hcloses]
    by_cases hplain : link.isPlainBeat b
    · exact h.leaves (leaves_beat hcloses hplain)
    · cases b with
      | call call => exact h.spawnCall hcall
      | abandon id => exact h.abandon id
      | task id =>
        simp only [isPlainBeat, isPlainTask, Classical.not_forall] at hplain
        obtain ⟨stage, htask, _⟩ := hplain
        simp only [Link.beat, Link.runTask, poll, htask]
        exact h.runCall (mem_of_task? htask)
      | _ => exact absurd trivial hplain

/-- The handlers that lost their registration while a call waited with them. -/
def Orphaned (start : Link) (beats : List Beat) (handler : HandlerId) : Prop :=
  ∃ before b after, beats = before ++ b :: after ∧ (start.play before).orphans b handler

/-- What holds of some turn of a run, holds of an earlier one or of the last. -/
theorem exists_turn_snoc {σ τ : Type} {step : σ → τ → σ} {start : σ} {turns : List τ} {turn : τ}
    (what : σ → τ → Prop) :
    (∃ before turn' after, turns ++ [turn] = before ++ turn' :: after ∧
        what (before.foldl step start) turn') ↔
      (∃ before turn' after, turns = before ++ turn' :: after ∧
        what (before.foldl step start) turn') ∨ what (turns.foldl step start) turn := by
  constructor
  · rintro ⟨before, turn', after, heq, hwhat⟩
    rcases List.eq_nil_or_concat after with rfl | ⟨init, last, rfl⟩
    · obtain ⟨rfl, hturn⟩ := List.append_inj' heq rfl
      obtain rfl : turn = turn' := by simpa using hturn
      exact .inr hwhat
    · have hsplit : turns ++ [turn] = (before ++ turn' :: init) ++ [last] := by simpa using heq
      obtain ⟨rfl, _⟩ := List.append_inj' hsplit rfl
      exact .inl ⟨before, turn', init, rfl, hwhat⟩
  · rintro (⟨before, turn', after, rfl, hwhat⟩ | hwhat)
    · exact ⟨before, turn', after ++ [turn], by simp, hwhat⟩
    · exact ⟨turns, turn, [], rfl, hwhat⟩

theorem orphaned_snoc {start : Link} {beats : List Beat} {b : Beat} {handler : HandlerId} :
    Orphaned start (beats ++ [b]) handler ↔
      Orphaned start beats handler ∨ (start.play beats).orphans b handler :=
  exists_turn_snoc fun (link : Link) (b : Beat) => link.orphans b handler

theorem Booked.play {start : Link} (hstart : Booked (fun _ => False) start) (beats : List Beat)
    (hcalls : ∀ b ∈ beats, beginsSessionCall b) :
    Booked (Orphaned start beats) (start.play beats) := by
  have hnone : ∀ handler, ¬ Orphaned start [] handler := by
    rintro handler ⟨before, b, after, heq, _⟩
    simp at heq
  -- The beats already played are carried along: what was orphaned is a fact about them.
  have hrun : ∀ done, Booked (Orphaned start done) (start.play done) →
      Booked (Orphaned start (done ++ beats)) (start.play (done ++ beats)) := by
    induction beats with
    | nil => simp
    | cons b rest ih =>
      intro done hdone
      have hb := hdone.beat (hcalls b List.mem_cons_self)
      have hnext : Booked (Orphaned start (done ++ [b])) (start.play (done ++ [b])) := by
        rw [play_snoc]
        exact hb.congr fun _ => orphaned_snoc
      have := ih (fun b hmem => hcalls b (List.mem_cons_of_mem _ hmem)) (done ++ [b]) hnext
      simpa using this
  exact hrun [] (hstart.congr fun handler => by simp [hnone handler])

theorem booked_withSession (carrier : Carrier) (config : SessionConfig) :
    Booked (fun _ => False) (withSession carrier config) := by
  have htasks : (withSession carrier config).tasks = [] := rfl
  have hpledges : ∀ id subscription, ¬ (withSession carrier config).Pledges id subscription := by
    rintro id subscription ⟨number, tracking, hmem⟩
    simp [htasks] at hmem
  have htable : (withSession carrier config).session.table = [] := rfl
  refine ⟨?_, htable ▸ Grouped.sound_nil, Grouped.sound_nil, htable ▸ List.nodup_nil, ?_, ?_, ?_,
    ?_, ?_, ?_, ?_⟩
  · simp [htasks]
  · exact fun _ h => h.elim
  · simp [htable, Grouped.all]
  · simp [htable, SubscriptionTable.subscribers]
  · exact fun id subscription hp => (hpledges id subscription hp).elim
  · exact fun id subscription hp => (hpledges id subscription hp).elim
  · exact fun id subscription hp => (hpledges id subscription hp).elim
  · exact fun id subscription _ _ hp => (hpledges id subscription hp).elim

/-- After all beats of a session and its transport, in any order, no handler is listed twice, and a
listed handler is registered under the method of its channel, unless the session was closed while
the call of its subscription waited; then it is not. -/
theorem listed_handlers_registered (carrier : Carrier) (config : SessionConfig)
    (beats : List Beat) (hcalls : ∀ b ∈ beats, beginsSessionCall b) :
    let start := withSession carrier config
    let link := start.play beats
    (link.session.table.flatMap Prod.snd).Nodup ∧
      ∀ topic handler, handler ∈ SubscriptionTable.subscribers link.session.table topic →
        (link.client.handlers.contains topic.channel.method handler ↔
          ¬ Orphaned start beats handler) := by
  intro start link
  have h : Booked (Orphaned start beats) link :=
    (booked_withSession carrier config).play beats hcalls
  exact ⟨h.once, fun topic handler hmem => h.listed_registered ⟨topic, handler⟩ hmem⟩

/-! ### A subscriber that is listed too late -/

/-- A subscription is confirmed, then the session is closed, and only then the call goes on. -/
def lateListing : List Beat :=
  [.script Scripted.opens, subscribeStatus, .task 0, confirms 1, .call .close, .task 1, .task 2,
    .task 2, .task 0]

/-- The subscriber is listed although its handler is gone, and the next one of the topic sends no
request. -/
theorem late_listing_unregistered :
    let link := rehearsed.play lateListing
    let later := link.play [subscribeStatus, .task 3]
    SubscriptionTable.subscribers link.session.table statusTopic = [⟨1⟩] ∧
      link.client.handlers.contains statusTopic.channel.method ⟨1⟩ = false ∧
      SubscriptionTable.subscribers later.session.table statusTopic = [⟨1⟩, ⟨2⟩] ∧
      later.sent.length = 1 ∧ link.sent.length = 1 := by
  decide +kernel

/-- A session that is never closed orphans nobody. -/
theorem not_orphaned_of_open {start : Link} {beats : List Beat}
    (h : ∀ n (hn : n < beats.length), (start.play (beats.take n)).closes beats[n] = false)
    (handler : HandlerId) : ¬ Orphaned start beats handler := by
  rintro ⟨before, b, after, rfl, hcloses, -⟩
  have hopen := h before.length (by simp)
  rw [List.take_left, List.getElem_append_right (Nat.le_refl _)] at hopen
  simp [hcloses] at hopen

/-- A subscription is confirmed and goes on at once. -/
def timelyListing : List Beat :=
  [.script Scripted.opens, subscribeStatus, .task 0, confirms 1, .task 0]

/-- In the first run the session is closed while the call waits. In the second it is not, and the
handler is registered. -/
theorem late_listing_orphaned :
    (∀ b ∈ lateListing, beginsSessionCall b) ∧ Orphaned rehearsed lateListing ⟨1⟩ ∧
      (∀ b ∈ timelyListing, beginsSessionCall b) ∧ ¬ Orphaned rehearsed timelyListing ⟨1⟩ ∧
      (rehearsed.play timelyListing).client.handlers.contains statusTopic.channel.method ⟨1⟩ := by
  have hlate : ∀ b ∈ lateListing, beginsSessionCall b := by
    simp [lateListing, beginsSessionCall, subscribeStatus, confirms, answered, isSessionCall]
  have htimely : ∀ b ∈ timelyListing, beginsSessionCall b := by
    simp [timelyListing, beginsSessionCall, subscribeStatus, confirms, answered, isSessionCall]
  have hregistered := fun beats hcalls =>
    (listed_handlers_registered (.scripted {}) { entrypoint := "wss://example/api" } beats
      hcalls).2 statusTopic ⟨1⟩
  have hgone : ¬ (rehearsed.play lateListing).client.handlers.contains statusTopic.channel.method
      ⟨1⟩ := by
    decide +kernel
  have hopen : ¬ Orphaned rehearsed timelyListing ⟨1⟩ :=
    not_orphaned_of_open (by decide +kernel) ⟨1⟩
  refine ⟨hlate, ?_, htimely, hopen, ?_⟩
  · have hlisted := hregistered lateListing hlate (by decide +kernel)
    exact Classical.not_not.mp fun hnot => hgone (hlisted.mpr hnot)
  · have hlisted := hregistered timelyListing htimely (by decide +kernel)
    exact hlisted.mpr hopen

end WorkspaceLink.Link
