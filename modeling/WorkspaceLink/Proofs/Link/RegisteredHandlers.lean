import WorkspaceLink.Proofs.Link.Mirroring
import WorkspaceLink.Proofs.Link.Recalling

/-!
# Handlers that stay, and calls that are over

A call that has an outcome is over, and the outcome stays. A handler that is registered stays so
until the session closes, a user removes it, the subscription that it is listed for ends, or the
call that carries it lets it go.
-/
namespace WorkspaceLink.Link

variable {link first second : Link} {id : Nat} {method : String}
  {entry : HandlerId × Subscriber}

/-! ### Outcomes -/

/-- Whoever has an outcome is no task any more. -/
def Concluded (link : Link) : Prop :=
  ∀ entry ∈ link.finished, entry.1 < link.nextTask ∧ link.task? entry.1 = none

/-- Outcomes stay, and who has one is no task any more; `begun` is a task that was begun. -/
structure Concludes (begun : Option Nat) (first second : Link) : Prop where
  finished : first.finished <+: second.finished
  concluded : second.Concluded
  lt_next : ∀ id, begun = some id → id < second.nextTask

theorem Concludes.of_same {third : Link} {begun : Option Nat} (h : Concludes begun first second)
    (hfinished : third.finished = second.finished) (htasks : third.tasks = second.tasks)
    (hnext : third.nextTask = second.nextTask) : Concludes begun first third where
  finished := hfinished ▸ h.finished
  concluded entry hmem := by
    rw [task?, htasks, hnext]
    exact h.concluded entry (hfinished ▸ hmem)
  lt_next := hnext ▸ h.lt_next

theorem Concludes.spawn {begun : Option Nat} (h : Concludes begun first second) (task : Task) :
    Concludes begun first (second.spawn task) where
  finished := h.finished
  concluded entry hmem := by
    obtain ⟨hlt, hnone⟩ := h.concluded entry hmem
    refine ⟨Nat.lt_succ_of_lt hlt, ?_⟩
    rw [task?_spawn, hnone, if_neg (Nat.ne_of_lt hlt)]
    rfl
  lt_next other hbegun := Nat.lt_succ_of_lt (h.lt_next other hbegun)

theorem Concludes.setTask {begun : Option Nat} (h : Concludes begun first second) (id : Nat)
    (task : Task) : Concludes begun first (second.setTask id task) where
  finished := h.finished
  concluded entry hmem := by
    obtain ⟨hlt, hnone⟩ := h.concluded entry hmem
    refine ⟨hlt, ?_⟩
    rw [task?_setTask]
    split
    next heq => rw [← heq, hnone]; rfl
    next => exact hnone
  lt_next := h.lt_next

theorem Concludes.endTask {begun : Option Nat} (h : Concludes begun first second) (id : Nat) :
    Concludes begun first (second.endTask id) where
  finished := h.finished
  concluded entry hmem := by
    obtain ⟨hlt, hnone⟩ := h.concluded entry hmem
    refine ⟨hlt, ?_⟩
    rw [task?_endTask]
    split
    · rfl
    · exact hnone
  lt_next := h.lt_next

theorem Concludes.finish (h : Concludes (some id) first second) (outcome : Outcome) :
    Concludes (some id) first (second.finish id outcome) where
  finished := h.finished.trans (List.prefix_append _ _)
  concluded entry hmem := by
    rcases List.mem_append.mp hmem with hold | hnew
    · exact (h.endTask id).concluded entry hold
    · rw [List.mem_singleton.mp hnew]
      exact ⟨h.lt_next id rfl, task?_finish id outcome second⟩
  lt_next := h.lt_next

theorem keptByTransport_concludes (who begun : Option Nat) (start : Link) :
    KeptByTransport who (Concludes begun start) where
  put _ _ h := h.of_same rfl rfl rfl
  fetch _ h := h.of_same rfl rfl rfl
  issue h := h.of_same rfl rfl rfl
  forget _ h := h.of_same rfl rfl rfl
  raise _ h := h.of_same rfl rfl rfl
  emit event h := by
    have hscenery := emit_scenery event
    exact h.of_same (congrArg Link.finished (hscenery _) :) (congrArg Link.tasks (hscenery _) :)
      (congrArg Link.nextTask (hscenery _) :)
  spawn _ h := h.spawn _
  setTask id _ _ h := h.setTask id _
  endTask id _ h := h.endTask id

theorem keptByCalls_concludes (id : Nat) (start : Link) :
    KeptByCalls id (fun _ => True) (Concludes (some id) start) where
  tick h heq := h.of_same (congrArg Link.finished heq :) (congrArg Link.tasks heq :)
    (congrArg Link.nextTask heq :)
  takeStatus _ _ h := h.of_same rfl rfl rfl
  request params _ h := (keptByTransport_concludes none (some id) start).request _ params h
  forget _ h := h.of_same rfl rfl rfl
  setTask _ _ h := h.setTask id _
  endTask h := h.endTask id
  finish outcome h := h.finish outcome
  pushInput _ _ h := h.of_same rfl rfl rfl
  spawnDriver h := h.spawn _
  books _ _ h := h.of_same rfl rfl rfl
  setCall _ h := h.setTask id _
  setReplay _ _ h := h.setTask id _
  track _ _ _ h := h.of_same rfl rfl rfl
  untrack workspace _ h := by
    have hessence := settleStatuses_essence
    exact h.of_same (congrArg Link.finished (hessence _ _) :) (congrArg Link.tasks (hessence _ _) :)
      (congrArg Link.nextTask (hessence _ _) :)

theorem Concludes.runEffects {begun : Option Nat} (h : Concludes begun first second)
    (effects : List Effect) : Concludes begun first (second.runEffects effects) := by
  unfold Link.runEffects
  induction effects generalizing second with
  | nil => exact h
  | cons effect rest ih =>
    refine ih ?_
    cases effect with
    | disconnect => exact (keptByTransport_concludes none begun first).disconnect h
    | attempt token generation clientId => exact h.spawn _
    | fetchId generation => exact h.spawn _
    | probe token generation => exact h.spawn _
    | timer number delayMs => exact h.spawn _
    | replay topics => exact h.spawn _
    | _ => exact h.of_same rfl rfl rfl

theorem Concluded.beat (h : link.Concluded) (henrolled : link.Enrolled) (b : Beat) :
    Concludes none link (link.beat b) := by
  have hrefl : Concludes none link link := ⟨List.prefix_refl _, h, nofun⟩
  -- A task that has its turn or is dropped was begun.
  have hown : ∀ {id task}, link.task? id = some task → Concludes (some id) link link := by
    intro id task htask
    refine ⟨List.prefix_refl _, h, ?_⟩
    rintro _ ⟨⟩
    exact henrolled _ (mem_of_task? htask)
  have hdrop : ∀ {id} {after : Link}, Concludes (some id) link after → Concludes none link after :=
    fun hafter => ⟨hafter.finished, hafter.concluded, nofun⟩
  cases b with
  | call call => exact hrefl.spawn _
  | waitForStatus workspace status =>
    have hessence := settleStatuses_essence (link.waiter.waitFor workspace status).2.2
      { link with waiter := (link.waiter.waitFor workspace status).2.1 }
    refine Concludes.spawn (hrefl.of_same ?_ ?_ ?_) _
    · exact (congrArg Link.finished hessence :)
    · exact (congrArg Link.tasks hessence :)
    · exact (congrArg Link.nextTask hessence :)
  | abandon id =>
    cases htask : link.task? id with
    | none =>
      rw [beat_of_absent htask rfl]
      exact hrefl
    | some task => exact hdrop ((keptByCalls_concludes id link).abandon (hown htask))
  | task id =>
    cases hdrives : link.drives (.task id) with
    | true =>
      cases hinputs : link.inputs with
      | nil =>
        rw [beat_of_idle hdrives hinputs]
        exact hrefl
      | cons input rest =>
        have hhandled : Concludes none link { link with
            inputs := rest, session := (link.session.handle link.config input).session } :=
          hrefl.of_same rfl rfl rfl
        rw [beat_of_input hdrives hinputs]
        exact hhandled.runEffects _
    | false =>
      cases htask : link.task? id with
      | none =>
        rw [beat_of_absent htask rfl]
        exact hrefl
      | some task =>
        exact hdrop ((keptByTransport_concludes (some id) (some id) link).runTask
          (keptByCalls_concludes id link) (task?_of_drives hdrives) (fun _ _ _ _ => trivial)
          (hown htask))
  | elapse millis => exact hrefl.of_same rfl rfl rfl
  | handshakeEnds generation failure => exact hrefl.of_same rfl rfl rfl
  | socket turn => exact (keptByTransport_concludes _ none link).take hrefl
  | script act => exact (keptByTransport_concludes none none link).script act hrefl

theorem concluded_play (carrier : Carrier) (config : SessionConfig) (beats : List Beat) :
    ((withSession carrier config).play beats).Concluded := by
  induction beats using List.reverseRecOn with
  | nil => exact fun _ hmem => absurd hmem List.not_mem_nil
  | append_singleton beats b ih =>
    rw [play_snoc]
    exact (ih.beat (enrolled_play carrier config beats) b).concluded

/-! ### Handlers that stay -/

/-- A subscriber is registered for a method. -/
structure Endures (method : String) (entry : HandlerId × Subscriber) (link : Link) : Prop where
  registered : entry ∈ link.client.handlers.entries method
  sound : Grouped.Sound link.client.handlers.lists
  lt_next : entry.1.number < link.client.handlers.next

/-- The end of the subscription takes out the handler. -/
def EndTakes (link : Link) (handler : HandlerId) (subscription : Subscription) : Prop :=
  subscription.handler = handler ∧ link.Lists subscription.topic handler

/-- The call, where it stands, takes out a handler of the method that it does not carry: a user
removes it, or a subscription ends that it is listed for. -/
def Removes (link : Link) (method : String) (handler : HandlerId) : Stage → Prop
  | .fresh (.unfollow other gone _ _) => other = method ∧ gone = handler
  | .fresh (.unsubscribe subscription) => link.EndTakes handler subscription
  | .fresh (.untrack workspace) | .subscribing _ _ (some workspace) =>
    ∃ subscription, link.Remembers workspace subscription ∧ link.EndTakes handler subscription
  | _ => False

namespace Endures

theorem leaves (h : Endures method entry first) (hleaves : Leaves first second) :
    Endures method entry second where
  registered := hleaves.handlers ▸ h.registered
  sound := hleaves.handlers ▸ h.sound
  lt_next := hleaves.handlers ▸ h.lt_next

/-- Only handlers matter. -/
theorem of_same (h : Endures method entry first)
    (hhandlers : second.client.handlers = first.client.handlers) : Endures method entry second :=
  ⟨hhandlers ▸ h.registered, hhandlers ▸ h.sound, hhandlers ▸ h.lt_next⟩

theorem request (h : Endures method entry link) (name : String) (params : Option Json) :
    Endures method entry (link.request name params).2 :=
  h.leaves (leaves_request name params link)

theorem finish (h : Endures method entry link) (id : Nat) (outcome : Outcome) :
    Endures method entry (link.finish id outcome) :=
  h.of_same rfl

theorem addHandler (h : Endures method entry link) (other : String) (subscriber : Subscriber) :
    Endures method entry (link.addHandler other subscriber).2 where
  registered := by
    have hadded := Registry.entries_add link.client.handlers other method subscriber
    refine hadded ▸ ?_
    split
    · exact List.mem_append_left _ h.registered
    · exact h.registered
  sound := h.sound.add other subscriber
  lt_next := Nat.lt_succ_of_lt h.lt_next

/-- A new handler is another one. -/
theorem ne_addHandler (h : Endures method entry link) (other : String) (subscriber : Subscriber) :
    (link.addHandler other subscriber).1 ≠ entry.1 :=
  (HandlerId.ne_of_lt h.lt_next).symm

theorem removeHandler (h : Endures method entry link) (other : String) {gone : HandlerId}
    (hkept : other = method → gone ≠ entry.1) :
    Endures method entry (link.removeHandler other gone).2 where
  registered := by
    have hremoved := Registry.entries_remove h.sound other method gone
    refine hremoved ▸ ?_
    split
    next heq =>
      have hne : entry.1 ≠ gone := (hkept heq.symm).symm
      exact List.mem_filter.mpr ⟨h.registered, by simpa using hne⟩
    next => exact h.registered
  sound := h.sound.remove other gone
  lt_next := h.lt_next

theorem awaitConfirmation (h : Endures method entry link) (id number : Nat) :
    Endures method entry (link.awaitConfirmation id number) :=
  h.of_same (awaitConfirmation_keeps id number link).2.1

theorem unfollow (h : Endures method entry link) (id : Nat) (other : String) {gone : HandlerId}
    (hkept : other = method → gone ≠ entry.1) (name : String) (params : Option Json) :
    Endures method entry (link.unfollow id other gone name params) :=
  ((h.removeHandler other hkept).request name params).awaitConfirmation id _

/-- A subscription ends that is not listed, or is that of another handler. -/
theorem endSubscription (h : Endures method entry link) (id : Nat) {subscription : Subscription}
    (hkept : ¬ link.EndTakes entry.1 subscription) :
    Endures method entry (link.endSubscription id subscription) := by
  unfold Link.endSubscription
  dsimp only
  split
  · exact h.finish id _
  next hlisted =>
    have hne : subscription.handler ≠ entry.1 :=
      fun heq => hkept ⟨heq, heq ▸ not_not.mp hlisted⟩
    have hdelisted : Endures method entry (link.updateTable
        (SubscriptionTable.remove subscription.topic subscription.handler)) := h.of_same rfl
    split
    · exact hdelisted.unfollow id _ (fun _ => hne) _ _
    · exact (hdelisted.removeHandler _ fun _ => hne).finish id _

/-- A subscription is listed, and does not take the place of that of the handler. -/
theorem completeSubscription (h : Endures method entry link) (id : Nat)
    (subscription : Subscription) {tracking : Option WorkspaceId}
    (hkept : ∀ workspace, tracking = some workspace → ∀ extra,
      link.Remembers workspace extra → ¬ (link.updateTable (SubscriptionTable.add subscription.topic
        subscription.handler)).EndTakes entry.1 extra) :
    Endures method entry (link.completeSubscription id subscription tracking) := by
  have hlisted : Endures method entry (link.updateTable
      (SubscriptionTable.add subscription.topic subscription.handler)) := h.of_same rfl
  have hset : ∀ waiter, Endures method entry { link.updateTable
      (SubscriptionTable.add subscription.topic subscription.handler) with waiter } :=
    fun _ => hlisted.of_same rfl
  unfold Link.completeSubscription
  dsimp only
  split
  · exact hlisted.finish id _
  next workspace =>
    split
    next extra hextra => exact (hset _).endSubscription id (hkept workspace rfl extra hextra)
    next => exact (hset _).finish id _

/-- That of another handler is listed. -/
theorem completeOther (h : Endures method entry link) (id : Nat) {subscription : Subscription}
    (hne : subscription.handler ≠ entry.1) {tracking : Option WorkspaceId}
    (hkept : ∀ workspace, tracking = some workspace → ∀ extra,
      link.Remembers workspace extra → ¬ link.EndTakes entry.1 extra) :
    Endures method entry (link.completeSubscription id subscription tracking) := by
  refine h.completeSubscription id subscription fun workspace htracking extra hextra htakes => ?_
  obtain ⟨hown, hlists⟩ := htakes
  rcases SubscriptionTable.mem_subscribers_add.mp hlists with hold | ⟨_, heq⟩
  · exact hkept workspace htracking extra hextra ⟨hown, hold⟩
  · exact hne heq.symm

theorem awaitSubscription (h : Endures method entry link) (id number : Nat)
    {subscription : Subscription} (hne : subscription.handler ≠ entry.1)
    {tracking : Option WorkspaceId}
    (hkept : ∀ workspace, tracking = some workspace → ∀ extra,
      link.Remembers workspace extra → ¬ link.EndTakes entry.1 extra) :
    Endures method entry (link.awaitSubscription id number subscription tracking) := by
  have hforgot : Endures method entry (link.forget number) := h.of_same rfl
  unfold Link.awaitSubscription
  split
  · exact hforgot.completeOther id hne hkept
  · exact (hforgot.removeHandler _ fun _ => hne).finish id _
  · exact h.of_same rfl

theorem beginSubscription (h : Endures method entry link) (hlink : link.Attached) (id : Nat)
    (topic : Topic) (subscriber : Subscriber) {tracking : Option WorkspaceId}
    (hfirst : ∀ workspace, tracking = some workspace →
      link.waiter.tracked.lookup workspace = none) :
    Endures method entry (link.beginSubscription id topic subscriber tracking) := by
  have hadded := h.addHandler topic.channel.method subscriber
  have hne := h.ne_addHandler topic.channel.method subscriber
  have hattached : (link.addHandler topic.channel.method subscriber).2.Attached := hlink.congr rfl
  have hkept : ∀ {after : Link}, after.waiter.tracked = link.waiter.tracked →
      ∀ workspace, tracking = some workspace → ∀ extra,
        after.Remembers workspace extra → ¬ after.EndTakes entry.1 extra := by
    intro after hsame workspace htracking extra hextra
    rw [Remembers, hsame, hfirst workspace htracking] at hextra
    cases hextra
  unfold Link.beginSubscription
  dsimp only
  split
  · refine (hadded.request _ _).awaitSubscription id _ hne (hkept ?_)
    exact (hattached.retains_request Message.subscribeMethod (some topic.params)).1.tracked
  · exact hadded.completeOther id hne (hkept rfl)

theorem awaitFollowing (h : Endures method entry link) (id number : Nat) (other : String)
    {handler : HandlerId} (hne : handler ≠ entry.1) :
    Endures method entry (link.awaitFollowing id number other handler) := by
  have hforgot : Endures method entry (link.forget number) := h.of_same rfl
  unfold Link.awaitFollowing
  split
  · exact hforgot.finish id _
  · exact (hforgot.removeHandler other fun _ => hne).finish id _
  · exact h.of_same rfl

theorem follow (h : Endures method entry link) (id : Nat) (other : String)
    (subscriber : Subscriber) (name : String) (params : Option Json) :
    Endures method entry (link.follow id other subscriber name params) :=
  ((h.addHandler other subscriber).request name params).awaitFollowing id _ other
    (h.ne_addHandler other subscriber)

theorem untrack (h : Endures method entry link) (id : Nat) {workspace : WorkspaceId}
    (hkept : ∀ extra, link.Remembers workspace extra → ¬ link.EndTakes entry.1 extra) :
    Endures method entry (link.untrack id workspace) := by
  have hset : Leaves link { link with waiter := (link.waiter.untrack workspace).2.1 } :=
    .of_tasks rfl rfl rfl
  have hleaves := hset.trans (leaves_settleStatuses (link.waiter.untrack workspace).2.2 _)
  have hsettled := h.leaves hleaves
  unfold Link.untrack
  dsimp only
  split
  next extra hextra =>
    refine hsettled.endSubscription id fun ⟨hown, hlists⟩ => hkept extra hextra ⟨hown, ?_⟩
    rw [Lists, hleaves.table] at hlists
    exact hlists
  next => exact hsettled.finish id _

/-- A call goes on that carries another handler, if any, and does not take out this one. -/
theorem runCall (h : Endures method entry link) (hlink : link.Attached) (id : Nat) {stage : Stage}
    (hcarried : stage.carried? ≠ some entry.1) (hkept : ¬ link.Removes method entry.1 stage) :
    Endures method entry (link.runCall id stage) := by
  have hplain : isPlainStage (fun _ => True) stage →
      Endures method entry (link.runCall id stage) :=
    fun hstage =>
      h.leaves ((essenceKeptByRequests_leaves id link).runCall trivial hstage (.refl link))
  cases stage with
  | fresh call =>
    cases call with
    | follow other subscriber name params => exact h.follow id other subscriber name params
    | unfollow other gone name params =>
      exact h.unfollow id other (fun hother hgone => hkept ⟨hother, hgone⟩) name params
    | subscribe topic subscriber => exact h.beginSubscription hlink id topic subscriber nofun
    | unsubscribe subscription => exact h.endSubscription id hkept
    | track workspace =>
      simp only [Link.runCall, Link.startCall, Link.track]
      split
      · exact h.finish id _
      next hfirst =>
        refine h.beginSubscription hlink id _ _ fun other hother => ?_
        obtain rfl := Option.some.inj hother
        exact Option.not_isSome_iff_eq_none.mp hfirst
    | untrack workspace =>
      exact h.untrack id fun extra hextra htakes => hkept ⟨extra, hextra, htakes⟩
    | _ => exact hplain trivial
  | subscribing number subscription tracking =>
    refine h.awaitSubscription id number (fun heq => hcarried (congrArg some heq)) ?_
    rintro workspace rfl extra hextra htakes
    exact hkept ⟨extra, hextra, htakes⟩
  | following number other handler =>
    exact h.awaitFollowing id number other fun heq => hcarried (congrArg some heq)
  | _ => exact hplain trivial

theorem abandon (h : Endures method entry link) {id : Nat}
    (hcarried : ¬ link.Carries id entry.1) : Endures method entry (link.abandon id) := by
  have hforgot : ∀ number, Endures method entry (link.forget number) := fun _ => h.of_same rfl
  unfold Link.abandon
  split
  next stage htask =>
    have hne : ∀ handler, stage.carried? = some handler → handler ≠ entry.1 := by
      rintro handler hstage rfl
      exact hcarried ⟨stage, mem_of_task? htask, hstage⟩
    refine Endures.leaves ?_ (leaves_endTask id _)
    cases stage with
    | subscribing number subscription tracking =>
      exact (hforgot number).removeHandler _ fun _ => hne _ rfl
    | following number method handler => exact (hforgot number).removeHandler _ fun _ => hne _ rfl
    | answer number due => exact hforgot number
    | identity inquiry => exact hforgot inquiry.number
    | confirmation number => exact hforgot number
    | _ => exact h
  next => exact h

end Endures

/-! ### Beats -/

/-- The handler of a method is taken out in this beat: the session closes, a user removes it, or a
subscription ends that it is listed for. -/
def TakesOut (link : Link) (b : Beat) (method : String) (handler : HandlerId) : Prop :=
  link.closes b ∨ ∃ id stage, b = .task id ∧ link.task? id = some (.call stage) ∧
    link.Removes method handler stage

/-- A handler stays registered in a beat in which it is neither taken out nor let go. -/
theorem Endures.beat (h : Endures method entry link) (hlink : link.Attached) {b : Beat}
    (hkept : ¬ link.TakesOut b method entry.1)
    (hcarried : ∀ id, concerns? b = some id → ¬ link.Carries id entry.1) :
    Endures method entry (link.beat b) := by
  have hopen : link.closes b = false := by
    rw [← Bool.not_eq_true]
    exact fun hcloses => hkept (.inl hcloses)
  by_cases hplain : link.isPlainBeat b
  · exact h.leaves (leaves_beat hopen hplain)
  · cases b with
    | call call => exact h.of_same rfl
    | abandon id => exact h.abandon (hcarried id rfl)
    | task id =>
      simp only [isPlainBeat, isPlainTask, Classical.not_forall] at hplain
      obtain ⟨stage, htask, _⟩ := hplain
      rw [beat_task_call htask]
      refine h.runCall hlink id (fun hstage => ?_) fun hremoves => ?_
      · exact hcarried id rfl ⟨stage, mem_of_task? htask, hstage⟩
      · exact hkept (.inr ⟨id, stage, rfl, htask, hremoves⟩)
    | _ => exact absurd trivial hplain

end WorkspaceLink.Link
