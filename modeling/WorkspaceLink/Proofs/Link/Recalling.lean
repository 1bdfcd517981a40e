import WorkspaceLink.Proofs.Link.HandlerPlaces
import WorkspaceLink.Proofs.Link.Tracking

/-!
# What the waiter remembers

Whatever calls run, also those that follow and unfollow on their own, the subscriptions that the
status waiter remembers are for the topics of their workspaces, and their handlers are carried by
no call. So a call that tracks a workspace and replaces the subscription that was remembered for it
ends another one than its own, and one for the same topic.
-/
namespace WorkspaceLink.Link

variable {start link first second : Link} {id : Nat} {handler : HandlerId} {stage : Stage}
  {subscription : Subscription} {tracking : Option WorkspaceId} {workspace : WorkspaceId}

/-- The waiter remembers a subscription for a workspace. -/
def Remembers (link : Link) (workspace : WorkspaceId) (subscription : Subscription) : Prop :=
  link.waiter.tracked.lookup workspace = some subscription

/-- What the waiter remembers, and what calls are about to make it remember, is in order. -/
structure Recalled (link : Link) : Prop where
  topic : ∀ workspace subscription, link.Remembers workspace subscription →
    subscription.topic = trackingTopic workspace
  lt_next : ∀ workspace subscription, link.Remembers workspace subscription →
    subscription.handler.number < link.client.handlers.next
  uncarried : ∀ workspace subscription, link.Remembers workspace subscription →
    ∀ id, ¬ link.Carries id subscription.handler
  pledged : ∀ id number subscription workspace,
    (id, .call (.subscribing number subscription (some workspace))) ∈ link.tasks →
      subscription.topic = trackingTopic workspace

/-- A handler that was given out and is neither carried nor remembered. -/
structure Unclaimed (link : Link) (handler : HandlerId) : Prop where
  lt_next : handler.number < link.client.handlers.next
  uncarried : ∀ id, ¬ link.Carries id handler
  unremembered : ∀ workspace subscription, link.Remembers workspace subscription →
    subscription.handler ≠ handler

/-! ### Frames -/

theorem Retains.carries (h : Retains first second) (hc : second.Carries id handler) :
    first.Carries id handler := by
  obtain ⟨stage, hmem, hcarried⟩ := hc
  rcases h.tasks _ hmem with hold | hempty
  · exact ⟨stage, hold, hcarried⟩
  · simp [carried?_of_isEmptyHanded hempty] at hcarried

theorem Retains.remembers (h : Retains first second)
    (hr : second.Remembers workspace subscription) : first.Remembers workspace subscription := by
  unfold Remembers at hr ⊢
  exact h.tracked ▸ hr

theorem Recalled.retains (hk : Recalled first) (h : Retains first second) : Recalled second where
  topic _ _ hr := hk.topic _ _ (h.remembers hr)
  lt_next _ _ hr := h.handlers ▸ hk.lt_next _ _ (h.remembers hr)
  uncarried _ _ hr id hc := hk.uncarried _ _ (h.remembers hr) id (h.carries hc)
  pledged id number subscription workspace hmem := by
    rcases h.tasks _ hmem with hold | hempty
    · exact hk.pledged id number subscription workspace hold
    · simp [isEmptyHanded] at hempty

theorem Unclaimed.retains (hu : Unclaimed first handler) (h : Retains first second) :
    Unclaimed second handler where
  lt_next := h.handlers ▸ hu.lt_next
  uncarried id hc := hu.uncarried id (h.carries hc)
  unremembered _ _ hr := hu.unremembered _ _ (h.remembers hr)

theorem retains_forget (id number : Nat) (link : Link) :
    Retains (link.endTask id) ((link.forget number).endTask id) :=
  .of_same rfl rfl rfl

/-- Handlers come and go, and numbers are not used again. -/
theorem Recalled.handlers (h : Recalled link) {handlers : Registry String Subscriber}
    (hle : link.client.handlers.next ≤ handlers.next) :
    Recalled { link with client := { link.client with handlers } } where
  topic := h.topic
  lt_next _ _ hr := Nat.lt_of_lt_of_le (h.lt_next _ _ hr) hle
  uncarried := h.uncarried
  pledged := h.pledged

theorem Recalled.addHandler (h : Recalled link) (method : String) (subscriber : Subscriber) :
    Recalled (link.addHandler method subscriber).2 :=
  h.handlers (Nat.le_succ _)

theorem Recalled.removeHandler (h : Recalled (link.endTask id)) (method : String)
    (gone : HandlerId) : Recalled ((link.removeHandler method gone).2.endTask id) :=
  Recalled.handlers h (Nat.le_refl _)

/-- A new handler is neither carried nor remembered. -/
theorem Recalled.unclaimed_addHandler (h : Recalled link) (hfiled : Filed start link)
    (method : String) (subscriber : Subscriber) :
    Unclaimed (link.addHandler method subscriber).2 (link.addHandler method subscriber).1 where
  lt_next := Nat.lt_succ_self _
  uncarried other hc := Nat.lt_irrefl _ (hfiled.carried_lt other _ hc)
  unremembered _ _ hr := HandlerId.ne_of_lt (h.lt_next _ _ hr)

/-- Without its call, a handler that was carried is neither carried nor remembered. -/
theorem Recalled.unclaimed (h : Recalled link) (hfiled : Filed start link)
    (hc : link.Carries id handler) : Unclaimed (link.endTask id) handler where
  lt_next := hfiled.carried_lt id handler hc
  uncarried := (hfiled.inHand hc).uncarried
  unremembered workspace subscription hr := by
    rintro rfl
    exact h.uncarried workspace subscription hr id hc

/-! ### Calls carry handlers, and the waiter remembers them -/

theorem Recalled.carry (h : Recalled (link.endTask id)) (hu : Unclaimed (link.endTask id) handler)
    (hstage : stage.carried? = some handler)
    (htopic : ∀ number subscription workspace,
      stage = .subscribing number subscription (some workspace) →
        subscription.topic = trackingTopic workspace) :
    Recalled (link.setTask id (.call stage)) where
  topic := h.topic
  lt_next := h.lt_next
  uncarried workspace subscription hr other := by
    rintro ⟨stage', hmem, hcarried⟩
    rcases mem_setTask hmem with hold | ⟨heq, _⟩
    · exact h.uncarried workspace subscription hr other ⟨stage', mem_endTask.mpr hold, hcarried⟩
    · simp only [Prod.mk.injEq, Task.call.injEq] at heq
      rw [heq.2, hstage] at hcarried
      exact hu.unremembered workspace subscription hr (Option.some.inj hcarried).symm
  pledged other number subscription workspace hmem := by
    rcases mem_setTask hmem with hold | ⟨heq, _⟩
    · exact h.pledged other number subscription workspace (mem_endTask.mpr hold)
    · simp only [Prod.mk.injEq, Task.call.injEq] at heq
      exact htopic number subscription workspace heq.2.symm

theorem Recalled.remember (h : Recalled link) (hu : Unclaimed link subscription.handler)
    (htopic : subscription.topic = trackingTopic workspace) :
    Recalled { link with waiter := (link.waiter.setTracked workspace subscription).2 } := by
  have hremembers : ∀ other held,
      Remembers { link with waiter := (link.waiter.setTracked workspace subscription).2 }
        other held → link.Remembers other held ∨ other = workspace ∧ held = subscription := by
    intro other held hr
    simp only [Remembers, StatusWaiter.lookup_setTracked] at hr
    split at hr
    next heq => exact .inr ⟨heq, (Option.some.inj hr).symm⟩
    next => exact .inl hr
  refine ⟨fun other held hr => ?_, fun other held hr => ?_, fun other held hr => ?_, h.pledged⟩
  · rcases hremembers other held hr with hold | ⟨rfl, rfl⟩
    · exact h.topic other held hold
    · exact htopic
  · rcases hremembers other held hr with hold | ⟨rfl, rfl⟩
    · exact h.lt_next other held hold
    · exact hu.lt_next
  · rcases hremembers other held hr with hold | ⟨rfl, rfl⟩
    · exact h.uncarried other held hold
    · exact hu.uncarried

theorem Recalled.forgetWorkspace (h : Recalled link) (workspace : WorkspaceId) :
    Recalled { link with waiter := (link.waiter.untrack workspace).2.1 } := by
  have hremembers : ∀ other held,
      Remembers { link with waiter := (link.waiter.untrack workspace).2.1 } other held →
        link.Remembers other held := by
    intro other held hr
    simp only [Remembers, StatusWaiter.lookup_untrack] at hr
    split at hr
    next => cases hr
    next => exact hr
  exact ⟨fun _ _ hr => h.topic _ _ (hremembers _ _ hr),
    fun _ _ hr => h.lt_next _ _ (hremembers _ _ hr),
    fun _ _ hr => h.uncarried _ _ (hremembers _ _ hr), h.pledged⟩

/-! ### Calls -/

theorem Recalled.finish (h : Recalled (link.endTask id)) (outcome : Outcome) :
    Recalled (link.finish id outcome) :=
  h.retains (.of_same rfl rfl rfl)

theorem Recalled.awaitConfirmation (h : Recalled (link.endTask id)) (number : Nat) :
    Recalled (link.awaitConfirmation id number) := by
  unfold Link.awaitConfirmation
  split
  · exact (h.retains (retains_forget id number link)).finish _
  · exact h.retains (retains_setTask rfl id link)

theorem Recalled.unfollow (h : Recalled (link.endTask id)) (hlink : link.Attached)
    (method : String) (gone : HandlerId) (request : String) (params : Option Json) :
    Recalled (link.unfollow id method gone request params) := by
  have hremoved : Recalled ((link.removeHandler method gone).2.endTask id) :=
    h.removeHandler method gone
  have hattached : (link.removeHandler method gone).2.Attached := hlink.congr rfl
  have hasked := (hattached.retains_request request params).1.endTask id
  exact Recalled.awaitConfirmation (hremoved.retains hasked) _

theorem Recalled.endSubscription (h : Recalled (link.endTask id)) (hlink : link.Attached)
    (subscription : Subscription) : Recalled (link.endSubscription id subscription) := by
  have hdelisted : Recalled ((link.updateTable
      (SubscriptionTable.remove subscription.topic subscription.handler)).endTask id) :=
    h.retains (.of_same rfl rfl rfl)
  have hattached : (link.updateTable
      (SubscriptionTable.remove subscription.topic subscription.handler)).Attached :=
    hlink.congr rfl
  unfold Link.endSubscription
  dsimp only
  split
  · exact h.finish _
  · split
    · exact hdelisted.unfollow hattached _ _ _ _
    · exact Recalled.finish (hdelisted.removeHandler _ _) _

theorem Recalled.completeSubscription (h : Recalled (link.endTask id)) (hlink : link.Attached)
    (hu : Unclaimed (link.endTask id) subscription.handler)
    (htopic : ∀ workspace, tracking = some workspace →
      subscription.topic = trackingTopic workspace) :
    Recalled (link.completeSubscription id subscription tracking) := by
  have hlisted : Retains (link.endTask id) ((link.updateTable
      (SubscriptionTable.add subscription.topic subscription.handler)).endTask id) :=
    .of_same rfl rfl rfl
  have hattached : ∀ waiter, Attached { link.updateTable
      (SubscriptionTable.add subscription.topic subscription.handler) with waiter } :=
    fun _ => hlink.congr rfl
  unfold Link.completeSubscription
  dsimp only
  split
  · exact (h.retains hlisted).finish _
  next workspace =>
    have hremembers := (h.retains hlisted).remember (hu.retains hlisted) (htopic workspace rfl)
    split
    · exact Recalled.endSubscription hremembers (hattached _) _
    · exact Recalled.finish hremembers _

theorem Recalled.awaitSubscription (h : Recalled (link.endTask id)) (hlink : link.Attached)
    (hu : Unclaimed (link.endTask id) subscription.handler) (number : Nat)
    (htopic : ∀ workspace, tracking = some workspace →
      subscription.topic = trackingTopic workspace) :
    Recalled (link.awaitSubscription id number subscription tracking) := by
  have hforgot := retains_forget id number link
  have hattached : (link.forget number).Attached := hlink.congr rfl
  unfold Link.awaitSubscription
  split
  · exact Recalled.completeSubscription (h.retains hforgot) hattached (hu.retains hforgot) htopic
  · exact Recalled.finish ((h.retains hforgot).removeHandler _ _) _
  · refine h.carry hu rfl fun number' subscription' workspace heq => ?_
    cases heq
    exact htopic workspace rfl

theorem Recalled.beginSubscription (h : Recalled (link.endTask id)) (hlink : link.Attached)
    (hfiled : Filed start (link.endTask id)) (topic : Topic) (subscriber : Subscriber)
    (htopic : ∀ workspace, tracking = some workspace → topic = trackingTopic workspace) :
    Recalled (link.beginSubscription id topic subscriber tracking) := by
  let added := (link.addHandler topic.channel.method subscriber).2
  have hadded : Recalled (added.endTask id) := h.addHandler topic.channel.method subscriber
  have hu : Unclaimed (added.endTask id) (link.addHandler topic.channel.method subscriber).1 :=
    h.unclaimed_addHandler hfiled topic.channel.method subscriber
  have hattached : added.Attached := hlink.congr rfl
  unfold Link.beginSubscription
  dsimp only
  split
  · obtain ⟨hretains, hattached⟩ :=
      hattached.retains_request Message.subscribeMethod (some topic.params)
    have hasked := hretains.endTask id
    exact Recalled.awaitSubscription (hadded.retains hasked) hattached (hu.retains hasked) _ htopic
  · exact Recalled.completeSubscription hadded hattached hu htopic

theorem Recalled.awaitFollowing (h : Recalled (link.endTask id))
    (hu : Unclaimed (link.endTask id) handler) (number : Nat) (method : String) :
    Recalled (link.awaitFollowing id number method handler) := by
  have hforgot := h.retains (retains_forget id number link)
  unfold Link.awaitFollowing
  split
  · exact hforgot.finish _
  · exact Recalled.finish (hforgot.removeHandler _ _) _
  · exact h.carry hu rfl nofun

theorem Recalled.follow (h : Recalled (link.endTask id)) (hlink : link.Attached)
    (hfiled : Filed start (link.endTask id)) (method : String) (subscriber : Subscriber)
    (request : String) (params : Option Json) :
    Recalled (link.follow id method subscriber request params) := by
  let added := (link.addHandler method subscriber).2
  have hadded : Recalled (added.endTask id) := h.addHandler method subscriber
  have hu : Unclaimed (added.endTask id) (link.addHandler method subscriber).1 :=
    h.unclaimed_addHandler hfiled method subscriber
  have hattached : added.Attached := hlink.congr rfl
  have hasked := (hattached.retains_request request params).1.endTask id
  exact Recalled.awaitFollowing (hadded.retains hasked) (hu.retains hasked) _ _

theorem Recalled.untrack (h : Recalled (link.endTask id)) (hlink : link.Attached)
    (workspace : WorkspaceId) : Recalled (link.untrack id workspace) := by
  let unset : Link := { link with waiter := (link.waiter.untrack workspace).2.1 }
  have hset : Recalled (unset.endTask id) := h.forgetWorkspace workspace
  have htracked := congrArg StatusWaiter.tracked
    (settleStatuses_waiter (link.waiter.untrack workspace).2.2 unset)
  have hsettles := Retains.of_leaves
    (leaves_settleStatuses (link.waiter.untrack workspace).2.2 unset) htracked
  have hsettled := hset.retains (hsettles.endTask id)
  have hattached : (settleStatuses (link.waiter.untrack workspace).2.2
      { link with waiter := (link.waiter.untrack workspace).2.1 }).Attached :=
    hlink.congr (settleStatuses_listeners _ _)
  unfold Link.untrack
  dsimp only
  split
  · exact hsettled.endSubscription hattached _
  · exact hsettled.finish _

/-! ### Beats -/

theorem Recalled.runCall (h : Recalled link) (hwired : link.Wired) (hfiled : Filed start link)
    (htask : link.task? id = some (.call stage)) : Recalled (link.beat (.task id)) := by
  have hlink := hwired.attached
  have hmem := mem_of_task? htask
  have hfree : Recalled (link.endTask id) := h.retains (retains_endTask id link)
  have hshelf : Filed start (link.endTask id) := hfiled.leaves (leaves_endTask id link)
  have hplain : isPlainStage (fun _ => True) stage → Recalled (link.beat (.task id)) := by
    intro hstage
    have hopen : link.closes (.task id) = false := by simp [closes, htask]
    refine h.retains (hwired.retains_beat hopen fun other hother => ?_)
    obtain rfl : other = stage := by simpa [hother] using htask
    exact hstage
  have hrun : Recalled (link.runCall id stage) → Recalled (link.beat (.task id)) :=
    fun hk => (beat_task_call htask).symm ▸ hk
  cases stage with
  | fresh call =>
    cases call with
    | subscribe topic subscriber =>
      exact hrun (hfree.beginSubscription hlink hshelf topic subscriber (by rintro _ ⟨⟩))
    | track workspace =>
      refine hrun ?_
      simp only [Link.runCall, Link.startCall, Link.track]
      split
      · exact hfree.finish _
      · refine hfree.beginSubscription hlink hshelf _ _ fun other hother => ?_
        exact congrArg trackingTopic (Option.some.inj hother)
    | untrack workspace => exact hrun (hfree.untrack hlink workspace)
    | unsubscribe subscription => exact hrun (hfree.endSubscription hlink subscription)
    | follow method subscriber request params =>
      exact hrun (hfree.follow hlink hshelf method subscriber request params)
    | unfollow method gone request params =>
      exact hrun (hfree.unfollow hlink method gone request params)
    | _ => exact hplain trivial
  | subscribing number subscription tracking =>
    refine hrun (hfree.awaitSubscription hlink (h.unclaimed hfiled ⟨_, hmem, rfl⟩) number ?_)
    rintro workspace rfl
    exact h.pledged id number subscription workspace hmem
  | following number method handler =>
    exact hrun (hfree.awaitFollowing (h.unclaimed hfiled ⟨_, hmem, rfl⟩) number method)
  | _ => exact hplain trivial

theorem Recalled.abandon (h : Recalled link) (hwired : link.Wired) (id : Nat) :
    Recalled (link.abandon id) := by
  have hdropped : ∀ number, Recalled ((link.forget number).endTask id) :=
    fun number => h.retains (.of_leaves (.trans (leaves_endTask id link)
      (leaves_forget id number link)) rfl)
  by_cases hplain : link.isPlainTask id
  · exact h.retains (hwired.retains_beat rfl (show link.isPlainBeat (.abandon id) from hplain))
  · simp only [isPlainTask, Classical.not_forall] at hplain
    obtain ⟨stage, htask, hstage⟩ := hplain
    simp only [Link.abandon, htask]
    cases stage with
    | subscribing number subscription tracking => exact (hdropped number).removeHandler _ _
    | following number method handler => exact (hdropped number).removeHandler _ _
    | fresh call => exact h.retains (retains_endTask id link)
    | _ => exact absurd trivial hstage

theorem Recalled.emptied (h : Recalled link) : Recalled link.emptied where
  topic := h.topic
  lt_next := h.lt_next
  uncarried := h.uncarried
  pledged := h.pledged

theorem Recalled.beat (h : Recalled link) (hwired : link.Wired) (hfiled : Filed start link)
    (b : Beat) : Recalled (link.beat b) := by
  by_cases hcloses : link.closes b
  · obtain ⟨id, ticket, rest, rfl, htask, _⟩ := closes_iff.mp hcloses
    have htracked : (link.beat (.task id)).waiter.tracked = link.waiter.tracked := by
      have hnone : ∀ dealing, ¬ link.dealings (.task id) dealing := by
        rintro dealing ⟨stage, hstage, _⟩
        simp [htask] at hstage
      exact hwired.tracked_beat (fun _ => hnone _) fun _ _ => hnone _
    exact h.emptied.retains (.of_leaves (leaves_beat_close hcloses) htracked)
  · rw [Bool.not_eq_true] at hcloses
    by_cases hplain : link.isPlainBeat b
    · exact h.retains (hwired.retains_beat hcloses hplain)
    · cases b with
      | call call =>
        have hmem : ∀ {other stage}, (other, .call stage) ∈ (link.call call).2.tasks →
            (other, .call stage) ∈ link.tasks ∨ stage = .fresh call := by
          intro other stage hmem
          rcases mem_spawn.mp hmem with hold | heq
          · exact .inl hold
          · simp only [Prod.mk.injEq, Task.call.injEq] at heq
            exact .inr heq.2
        refine ⟨h.topic, h.lt_next, fun workspace subscription hr other => ?_,
          fun other number subscription workspace hpledged => ?_⟩
        · rintro ⟨stage, hcall, hcarried⟩
          rcases hmem hcall with hold | rfl
          · exact h.uncarried workspace subscription hr other ⟨stage, hold, hcarried⟩
          · cases hcarried
        · exact h.pledged other number subscription workspace ((hmem hpledged).resolve_right nofun)
      | abandon id => exact h.abandon hwired id
      | task id =>
        simp only [isPlainBeat, isPlainTask, Classical.not_forall] at hplain
        obtain ⟨stage, htask, _⟩ := hplain
        exact h.runCall hwired hfiled htask
      | _ => exact absurd trivial hplain

theorem recalled_play (carrier : Carrier) (config : SessionConfig) (beats : List Beat) :
    ((withSession carrier config).play beats).Recalled := by
  induction beats using List.reverseRecOn with
  | nil =>
    have htasks : ((withSession carrier config).play []).tasks = [] := rfl
    refine ⟨nofun, nofun, nofun, fun _ _ _ _ hmem => ?_⟩
    simp [htasks] at hmem
  | append_singleton beats b ih =>
    rw [play_snoc]
    exact ih.beat ((wired_withSession carrier config).play beats)
      ((filed_withSession carrier config).play beats) b

end WorkspaceLink.Link
