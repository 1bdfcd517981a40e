import WorkspaceLink.Proofs.Link.Listing

/-!
# Handlers are filed once

Calls may also follow and unfollow on their own, without the session, so a handler that is listed
need not be registered. What holds in any case is that a handler is in one place: it is listed under
one topic, or a call carries it until its request is answered, or neither. Numbers of handlers are
not used again, so what was taken out of its place never comes back.

`Filed start link` says that the books of a link are in order in this sense, and that they descend
from those of an earlier one.
-/
namespace WorkspaceLink

/-- The handler that a call carries while it waits. -/
def Stage.carried? : Stage → Option HandlerId
  | .following _ _ handler => some handler
  | .subscribing _ subscription _ => some subscription.handler
  | _ => none

namespace Link

variable {start link first second : Link} {id number : Nat} {handler : HandlerId} {topic : Topic}

def Carries (link : Link) (id : Nat) (handler : HandlerId) : Prop :=
  ∃ stage, (id, .call stage) ∈ link.tasks ∧ stage.carried? = some handler

/-- A handler is listed under a topic. -/
def Lists (link : Link) (topic : Topic) (handler : HandlerId) : Prop :=
  handler ∈ SubscriptionTable.subscribers link.session.table topic

theorem carried?_of_isEmptyHanded {stage : Stage} (h : isEmptyHanded (.call stage)) :
    stage.carried? = none := by
  cases stage with
  | following number method handler => simp [isEmptyHanded] at h
  | subscribing number subscription tracking => simp [isEmptyHanded] at h
  | _ => rfl

theorem Leaves.carries (h : Leaves first second) (hc : second.Carries id handler) :
    first.Carries id handler := by
  obtain ⟨stage, hmem, hcarried⟩ := hc
  rcases h.tasks _ hmem with hold | hempty
  · exact ⟨stage, hold, hcarried⟩
  · simp [carried?_of_isEmptyHanded hempty] at hcarried

theorem carries_endTask {other : Nat} (h : (link.endTask id).Carries other handler) :
    link.Carries other handler ∧ other ≠ id := by
  obtain ⟨stage, hmem, hcarried⟩ := h
  obtain ⟨hold, hne⟩ := mem_endTask.mp hmem
  exact ⟨⟨stage, hold, hcarried⟩, hne⟩

/-! ### Books in order -/

/-- Every handler of the link is in one place, and was there already in an earlier link, or a call
carried it then, or it is new since. -/
structure Filed (start link : Link) : Prop where
  table : Grouped.Sound link.session.table
  registry : Grouped.Sound link.client.handlers.lists
  once : (Grouped.all link.session.table).Nodup
  listed_lt : ∀ handler ∈ Grouped.all link.session.table,
    handler.number < link.client.handlers.next
  carried_lt : ∀ id handler, link.Carries id handler → handler.number < link.client.handlers.next
  registered_lt : ∀ method handler, link.client.handlers.contains method handler →
    handler.number < link.client.handlers.next
  carried_unlisted : ∀ id handler, link.Carries id handler →
    handler ∉ Grouped.all link.session.table
  carried_once : ∀ id id' handler, link.Carries id handler → link.Carries id' handler → id = id'
  next_le : start.client.handlers.next ≤ link.client.handlers.next
  listed_from : ∀ topic handler, link.Lists topic handler → start.Lists topic handler ∨
    (∃ id, start.Carries id handler) ∨ start.client.handlers.next ≤ handler.number
  carried_from : ∀ id handler, link.Carries id handler →
    start.Carries id handler ∨ start.client.handlers.next ≤ handler.number
  registered_from : ∀ method handler, link.client.handlers.contains method handler →
    start.client.handlers.contains method handler ∨ start.client.handlers.next ≤ handler.number

/-- A call has a handler in hand: it carried it, or the handler is new, and it is in no place. -/
structure InHand (start link : Link) (id : Nat) (handler : HandlerId) : Prop where
  lt_next : handler.number < link.client.handlers.next
  unlisted : handler ∉ Grouped.all link.session.table
  uncarried : ∀ other, ¬ link.Carries other handler
  origin : start.Carries id handler ∨ start.client.handlers.next ≤ handler.number

/-- A link descends from itself. -/
theorem Filed.refl (h : Filed start link) : Filed link link where
  table := h.table
  registry := h.registry
  once := h.once
  listed_lt := h.listed_lt
  carried_lt := h.carried_lt
  registered_lt := h.registered_lt
  carried_unlisted := h.carried_unlisted
  carried_once := h.carried_once
  next_le := Nat.le_refl _
  listed_from _ _ := .inl
  carried_from _ _ := .inl
  registered_from _ _ := .inl

theorem Filed.leaves (hf : Filed start first) (h : Leaves first second) : Filed start second where
  table := h.table ▸ hf.table
  registry := h.handlers ▸ hf.registry
  once := h.table ▸ hf.once
  listed_lt := by rw [h.table, h.handlers]; exact hf.listed_lt
  carried_lt id handler hc := h.handlers ▸ hf.carried_lt id handler (h.carries hc)
  registered_lt := h.handlers ▸ hf.registered_lt
  carried_unlisted id handler hc := h.table ▸ hf.carried_unlisted id handler (h.carries hc)
  carried_once _ _ _ hc hc' := hf.carried_once _ _ _ (h.carries hc) (h.carries hc')
  next_le := h.handlers ▸ hf.next_le
  listed_from topic handler hlists := by
    refine hf.listed_from topic handler ?_
    rw [Lists, ← h.table]
    exact hlists
  carried_from id handler hc := hf.carried_from id handler (h.carries hc)
  registered_from := h.handlers ▸ hf.registered_from

theorem InHand.leaves (hh : InHand start first id handler) (h : Leaves first second) :
    InHand start second id handler where
  lt_next := h.handlers ▸ hh.lt_next
  unlisted := h.table ▸ hh.unlisted
  uncarried other hc := hh.uncarried other (h.carries hc)
  origin := hh.origin

/-- Without its call, a handler that was carried is in hand. -/
theorem Filed.inHand (h : Filed start link) (hc : link.Carries id handler) :
    InHand start (link.endTask id) id handler where
  lt_next := h.carried_lt id handler hc
  unlisted := h.carried_unlisted id handler hc
  uncarried other hother := by
    obtain ⟨hold, hne⟩ := carries_endTask hother
    exact hne (h.carried_once _ _ _ hold hc)
  origin := h.carried_from id handler hc

/-! ### Handlers come and go -/

theorem Filed.addHandler (h : Filed start link) (method : String) (subscriber : Subscriber) :
    Filed start (link.addHandler method subscriber).2 := by
  have hlists : (link.addHandler method subscriber).2.client.handlers.lists =
      Grouped.insert method (⟨link.client.handlers.next⟩, subscriber)
        link.client.handlers.lists :=
    Registry.append_eq _ _ _
  have hregistered : ∀ other handler,
      (link.addHandler method subscriber).2.client.handlers.contains other handler →
        link.client.handlers.contains other handler ∨ handler = ⟨link.client.handlers.next⟩ := by
    intro other handler hcontains
    rcases (Registry.contains_add _ _ _).mp hcontains with hold | hnew
    · exact .inl hold
    · exact .inr hnew.2
  refine ⟨h.table, hlists ▸ h.registry.insert _ _, h.once,
    fun handler hmem => Nat.lt_succ_of_lt (h.listed_lt handler hmem),
    fun id handler hc => Nat.lt_succ_of_lt (h.carried_lt id handler hc), ?_,
    h.carried_unlisted, h.carried_once, Nat.le_succ_of_le h.next_le, h.listed_from,
    h.carried_from, ?_⟩
  · intro other handler hcontains
    rcases hregistered other handler hcontains with hold | rfl
    · exact Nat.lt_succ_of_lt (h.registered_lt other handler hold)
    · exact Nat.lt_succ_self _
  · intro other handler hcontains
    rcases hregistered other handler hcontains with hold | rfl
    · exact h.registered_from other handler hold
    · exact .inr h.next_le

/-- A new handler is in hand. -/
theorem Filed.inHand_addHandler (h : Filed start link) (id : Nat) (method : String)
    (subscriber : Subscriber) :
    InHand start (link.addHandler method subscriber).2 id
      (link.addHandler method subscriber).1 where
  lt_next := Nat.lt_succ_self _
  unlisted hmem := Nat.lt_irrefl _ (h.listed_lt _ hmem)
  uncarried other hc := Nat.lt_irrefl _ (h.carried_lt other _ hc)
  origin := .inr h.next_le

theorem Filed.removeHandler (h : Filed start link) (method : String) (gone : HandlerId) :
    Filed start (link.removeHandler method gone).2 := by
  have hlists : (link.removeHandler method gone).2.client.handlers.lists =
      Grouped.prune method (fun entry => entry.1 ≠ gone) link.client.handlers.lists :=
    Registry.discard_eq _ _ _
  have hregistered : ∀ other handler,
      (link.removeHandler method gone).2.client.handlers.contains other handler →
        link.client.handlers.contains other handler :=
    fun other handler hcontains => ((Registry.contains_remove h.registry _ _).mp hcontains).1
  exact ⟨h.table, hlists ▸ h.registry.prune _ _, h.once, h.listed_lt, h.carried_lt,
    fun other handler hc => h.registered_lt other handler (hregistered other handler hc),
    h.carried_unlisted, h.carried_once, h.next_le, h.listed_from, h.carried_from,
    fun other handler hc => h.registered_from other handler (hregistered other handler hc)⟩

/-- The handler in hand is listed. -/
theorem Filed.enlist (h : Filed start link) (hh : InHand start link id handler) (topic : Topic) :
    Filed start (link.updateTable (SubscriptionTable.add topic handler)) := by
  have hperm := Grouped.all_insert topic handler link.session.table
  rw [← SubscriptionTable.add_eq] at hperm
  have hmem : ∀ other, other ∈ Grouped.all
      (SubscriptionTable.add topic handler link.session.table) ↔
        other = handler ∨ other ∈ Grouped.all link.session.table :=
    fun other => hperm.mem_iff.trans List.mem_cons
  refine ⟨SubscriptionTable.sound_add h.table _ _, h.registry,
    hperm.nodup_iff.mpr (List.nodup_cons.mpr ⟨hh.unlisted, h.once⟩), ?_, h.carried_lt,
    h.registered_lt, ?_, h.carried_once, h.next_le, ?_, h.carried_from, h.registered_from⟩
  · intro other hlisted
    rcases (hmem other).mp hlisted with rfl | hold
    · exact hh.lt_next
    · exact h.listed_lt other hold
  · intro caller other hc hlisted
    rcases (hmem other).mp hlisted with rfl | hold
    · exact hh.uncarried caller hc
    · exact h.carried_unlisted caller other hc hold
  · intro place other hlists
    rcases SubscriptionTable.mem_subscribers_add.mp hlists with hold | ⟨_, rfl⟩
    · exact h.listed_from place other hold
    · exact .inr (hh.origin.imp_left fun hc => ⟨id, hc⟩)

theorem Filed.delist (h : Filed start link) (topic : Topic) (gone : HandlerId) :
    Filed start (link.updateTable (SubscriptionTable.remove topic gone)) := by
  have hsub : (Grouped.all (SubscriptionTable.remove topic gone link.session.table)).Sublist
      (Grouped.all link.session.table) := by
    rw [SubscriptionTable.remove_eq]
    exact Grouped.all_prune _ _ _
  refine ⟨SubscriptionTable.sound_remove h.table _ _, h.registry, h.once.sublist hsub,
    fun handler hmem => h.listed_lt handler (hsub.subset hmem), h.carried_lt, h.registered_lt,
    fun id handler hc hmem => h.carried_unlisted id handler hc (hsub.subset hmem),
    h.carried_once, h.next_le, ?_, h.carried_from, h.registered_from⟩
  intro place handler hlists
  exact h.listed_from place handler ((SubscriptionTable.mem_subscribers_remove h.table).mp hlists).1

/-- The call carries the handler that it has in hand. -/
theorem Filed.carry (h : Filed start (link.endTask id))
    (hh : InHand start (link.endTask id) id handler) {stage : Stage}
    (hstage : stage.carried? = some handler) :
    Filed start (link.setTask id (.call stage)) := by
  have hcarries : ∀ other held, (link.setTask id (.call stage)).Carries other held →
      (link.endTask id).Carries other held ∨ other = id ∧ held = handler := by
    rintro other held ⟨stage', hmem, hcarried⟩
    rcases mem_setTask hmem with hold | ⟨heq, _⟩
    · exact .inl ⟨stage', mem_endTask.mpr hold, hcarried⟩
    · simp only [Prod.mk.injEq, Task.call.injEq] at heq
      obtain ⟨rfl, rfl⟩ := heq
      exact .inr ⟨rfl, (Option.some.inj (hstage.symm.trans hcarried)).symm⟩
  refine ⟨h.table, h.registry, h.once, h.listed_lt, ?_, h.registered_lt, ?_, ?_, h.next_le,
    h.listed_from, ?_, h.registered_from⟩
  · intro other held hc
    rcases hcarries other held hc with hold | ⟨_, rfl⟩
    · exact h.carried_lt other held hold
    · exact hh.lt_next
  · intro other held hc
    rcases hcarries other held hc with hold | ⟨_, rfl⟩
    · exact h.carried_unlisted other held hold
    · exact hh.unlisted
  · intro a b held ha hb
    rcases hcarries a held ha with hold | ⟨rfl, rfl⟩ <;>
      rcases hcarries b held hb with hold' | ⟨rfl, heq⟩
    · exact h.carried_once _ _ _ hold hold'
    · exact absurd (heq ▸ hold) (hh.uncarried a)
    · exact absurd hold' (hh.uncarried b)
    · rfl
  · intro other held hc
    rcases hcarries other held hc with hold | ⟨rfl, rfl⟩
    · exact h.carried_from other held hold
    · exact hh.origin

/-! ### Calls -/

theorem Filed.finish (h : Filed start (link.endTask id)) (outcome : Outcome) :
    Filed start (link.finish id outcome) :=
  h.leaves (leaves_finish id outcome link)

theorem Filed.request (h : Filed start (link.endTask id)) (method : String)
    (params : Option Json) : Filed start ((link.request method params).2.endTask id) :=
  h.leaves ((leaves_request method params link).endTask id)

theorem Filed.awaitConfirmation (h : Filed start (link.endTask id)) (number : Nat) :
    Filed start (link.awaitConfirmation id number) := by
  unfold Link.awaitConfirmation
  split
  · exact (h.leaves (leaves_forget id number link)).finish _
  · exact h.leaves (leaves_setTask rfl id link)

theorem Filed.unfollow (h : Filed start (link.endTask id)) (method : String)
    (handler : HandlerId) (request : String) (params : Option Json) :
    Filed start (link.unfollow id method handler request params) := by
  have hremoved := h.removeHandler method handler
  exact Filed.awaitConfirmation (Filed.request hremoved request params) _

theorem Filed.endSubscription (h : Filed start (link.endTask id)) (subscription : Subscription) :
    Filed start (link.endSubscription id subscription) := by
  have hafter := h.delist subscription.topic subscription.handler
  unfold Link.endSubscription
  dsimp only
  split
  · exact h.finish _
  · split
    · exact Filed.unfollow hafter _ _ _ _
    · exact Filed.finish (hafter.removeHandler _ _) _

theorem Filed.awaitFollowing (h : Filed start (link.endTask id))
    (hh : InHand start (link.endTask id) id handler) (number : Nat) (method : String) :
    Filed start (link.awaitFollowing id number method handler) := by
  have hforgot := h.leaves (leaves_forget id number link)
  unfold Link.awaitFollowing
  split
  · exact hforgot.finish _
  · exact Filed.finish (hforgot.removeHandler _ _) _
  · exact h.carry hh rfl

theorem Filed.follow (h : Filed start (link.endTask id)) (method : String)
    (subscriber : Subscriber) (request : String) (params : Option Json) :
    Filed start (link.follow id method subscriber request params) := by
  let mid := (link.addHandler method subscriber).2
  have hasked := (leaves_request request params mid).endTask id
  have hadded : Filed start (mid.endTask id) := h.addHandler method subscriber
  have hh : InHand start (mid.endTask id) id _ := h.inHand_addHandler id method subscriber
  exact Filed.awaitFollowing (hadded.leaves hasked) (hh.leaves hasked) _ _

theorem Filed.completeSubscription (h : Filed start (link.endTask id))
    {subscription : Subscription}
    (hh : InHand start (link.endTask id) id subscription.handler) (tracking : Option WorkspaceId) :
    Filed start (link.completeSubscription id subscription tracking) := by
  let listed :=
    link.updateTable (SubscriptionTable.add subscription.topic subscription.handler)
  have hlisted : Filed start (listed.endTask id) := h.enlist hh subscription.topic
  have hset : ∀ waiter,
      Leaves (listed.endTask id) (Link.endTask id { listed with waiter }) :=
    fun _ => .of_tasks rfl rfl rfl
  unfold Link.completeSubscription
  dsimp only
  split
  · exact hlisted.finish _
  · split
    · exact (hlisted.leaves (hset _)).endSubscription _
    · exact (hlisted.leaves (hset _)).finish _

theorem Filed.awaitSubscription (h : Filed start (link.endTask id))
    {subscription : Subscription}
    (hh : InHand start (link.endTask id) id subscription.handler) (number : Nat)
    (tracking : Option WorkspaceId) :
    Filed start (link.awaitSubscription id number subscription tracking) := by
  have hleaves := leaves_forget id number link
  unfold Link.awaitSubscription
  split
  · exact Filed.completeSubscription (h.leaves hleaves) (hh.leaves hleaves) tracking
  · exact Filed.finish ((h.leaves hleaves).removeHandler _ _) _
  · exact h.carry hh rfl

theorem Filed.beginSubscription (h : Filed start (link.endTask id)) (topic : Topic)
    (subscriber : Subscriber) (tracking : Option WorkspaceId) :
    Filed start (link.beginSubscription id topic subscriber tracking) := by
  have hadded := h.addHandler topic.channel.method subscriber
  have hh := h.inHand_addHandler id topic.channel.method subscriber
  unfold Link.beginSubscription
  dsimp only
  split
  · let mid := (link.addHandler topic.channel.method subscriber).2
    have hasked := (leaves_request Message.subscribeMethod (some topic.params) mid).endTask id
    exact Filed.awaitSubscription (hadded.leaves hasked) (hh.leaves hasked) _ _
  · exact Filed.completeSubscription hadded hh tracking

theorem Filed.untrack (h : Filed start (link.endTask id)) (workspace : WorkspaceId) :
    Filed start (link.untrack id workspace) := by
  have hset : Leaves link { link with waiter := (link.waiter.untrack workspace).2.1 } :=
    .of_tasks rfl rfl rfl
  have hsettled := h.leaves
    ((hset.trans (leaves_settleStatuses (link.waiter.untrack workspace).2.2 _)).endTask id)
  unfold Link.untrack
  dsimp only
  split
  · exact hsettled.endSubscription _
  · exact hsettled.finish _

theorem Filed.runCall (h : Filed start link) {stage : Stage}
    (hmem : (id, .call stage) ∈ link.tasks) : Filed start (link.runCall id stage) := by
  have hfree : Filed start (link.endTask id) := h.leaves (leaves_endTask id link)
  have hplain : isPlainStage (fun _ => True) stage → Filed start (link.runCall id stage) :=
    fun hstage =>
      h.leaves ((essenceKeptByRequests_leaves id link).runCall trivial hstage (.refl link))
  cases stage with
  | fresh call =>
    cases call with
    | subscribe topic subscriber => exact hfree.beginSubscription topic subscriber none
    | unsubscribe subscription => exact hfree.endSubscription subscription
    | track workspace =>
      simp only [Link.runCall, Link.startCall, Link.track]
      split
      · exact hfree.finish _
      · exact hfree.beginSubscription _ _ _
    | untrack workspace => exact hfree.untrack workspace
    | follow method subscriber request params => exact hfree.follow method subscriber request params
    | unfollow method handler request params => exact hfree.unfollow method handler request params
    | _ => exact hplain trivial
  | subscribing number subscription tracking =>
    exact hfree.awaitSubscription (h.inHand ⟨_, hmem, rfl⟩) number tracking
  | following number method handler =>
    exact hfree.awaitFollowing (h.inHand ⟨_, hmem, rfl⟩) number method
  | _ => exact hplain trivial

theorem Filed.abandon (h : Filed start link) (id : Nat) : Filed start (link.abandon id) := by
  unfold Link.abandon
  split
  next stage htask =>
    have hfree : Filed start (link.endTask id) := h.leaves (leaves_endTask id link)
    have hforgot : ∀ number, Filed start ((link.forget number).endTask id) :=
      fun number => hfree.leaves (leaves_forget id number link)
    cases stage with
    | subscribing number subscription tracking => exact (hforgot number).removeHandler _ _
    | following number method handler => exact (hforgot number).removeHandler _ _
    | answer number due => exact hforgot number
    | identity inquiry => exact hforgot inquiry.number
    | confirmation number => exact hforgot number
    | _ => exact hfree
  next => exact h

/-! ### Beats -/

theorem Filed.emptied (h : Filed start link) : Filed start link.emptied where
  table := Grouped.sound_nil
  registry := Grouped.sound_nil
  once := List.nodup_nil
  listed_lt _ hmem := absurd hmem List.not_mem_nil
  carried_lt := h.carried_lt
  registered_lt _ _ hcontains := by
    rw [show link.emptied.client.handlers = link.client.handlers.clear from rfl,
      Registry.contains_clear] at hcontains
    cases hcontains
  carried_unlisted _ _ _ := List.not_mem_nil
  carried_once := h.carried_once
  next_le := h.next_le
  listed_from _ _ hlists := absurd hlists List.not_mem_nil
  carried_from := h.carried_from
  registered_from _ _ hcontains := by
    rw [show link.emptied.client.handlers = link.client.handlers.clear from rfl,
      Registry.contains_clear] at hcontains
    cases hcontains

theorem Filed.beat (h : Filed start link) (b : Beat) : Filed start (link.beat b) := by
  by_cases hcloses : link.closes b
  · exact h.emptied.leaves (leaves_beat_close hcloses)
  · rw [Bool.not_eq_true] at hcloses
    by_cases hplain : link.isPlainBeat b
    · exact h.leaves (leaves_beat hcloses hplain)
    · cases b with
      | call call =>
        have hcarries : ∀ id handler, (link.call call).2.Carries id handler →
            link.Carries id handler := by
          rintro id handler ⟨stage, hmem, hcarried⟩
          rcases mem_spawn.mp hmem with hold | heq
          · exact ⟨stage, hold, hcarried⟩
          · simp only [Prod.mk.injEq, Task.call.injEq] at heq
            rw [heq.2] at hcarried
            cases hcarried
        exact ⟨h.table, h.registry, h.once, h.listed_lt,
          fun id handler hc => h.carried_lt id handler (hcarries id handler hc), h.registered_lt,
          fun id handler hc => h.carried_unlisted id handler (hcarries id handler hc),
          fun _ _ _ hc hc' => h.carried_once _ _ _ (hcarries _ _ hc) (hcarries _ _ hc'),
          h.next_le, h.listed_from,
          fun id handler hc => h.carried_from id handler (hcarries id handler hc),
          h.registered_from⟩
      | abandon id => exact h.abandon id
      | task id =>
        simp only [isPlainBeat, isPlainTask, Classical.not_forall] at hplain
        obtain ⟨stage, htask, _⟩ := hplain
        simp only [Link.beat, Link.runTask, poll, htask]
        exact h.runCall (mem_of_task? htask)
      | _ => exact absurd trivial hplain

/-- The books stay in order, whatever happens. -/
theorem Filed.play (h : Filed start link) (beats : List Beat) :
    Filed start (link.play beats) := by
  unfold Link.play
  induction beats generalizing link with
  | nil => exact h
  | cons b rest ih => exact ih (h.beat b)

theorem filed_withSession (carrier : Carrier) (config : SessionConfig) :
    Filed (withSession carrier config) (withSession carrier config) := by
  have htasks : (withSession carrier config).tasks = [] := rfl
  have htable : (withSession carrier config).session.table = [] := rfl
  have hcarries : ∀ id handler, ¬ (withSession carrier config).Carries id handler := by
    rintro id handler ⟨stage, hmem, _⟩
    simp [htasks] at hmem
  have hregistered : ∀ method handler,
      (withSession carrier config).client.handlers.contains method handler = false :=
    fun _ _ => rfl
  refine ⟨htable ▸ Grouped.sound_nil, Grouped.sound_nil, htable ▸ List.nodup_nil, ?_, ?_, ?_, ?_,
    ?_, Nat.le_refl _, fun _ _ => .inl, fun _ _ => .inl, fun _ _ => .inl⟩
  · simp [htable, Grouped.all]
  · exact fun id handler hc => absurd hc (hcarries id handler)
  · simp [hregistered]
  · exact fun id handler hc => absurd hc (hcarries id handler)
  · exact fun id _ handler hc => absurd hc (hcarries id handler)

end Link

end WorkspaceLink
