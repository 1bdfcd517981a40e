import WorkspaceLink.Proofs.Link.HandlerPlaces
import WorkspaceLink.Proofs.Link.Presenting
import WorkspaceLink.Proofs.Link.ConnectWakeups

/-!
# Ending a subscription

A handle is given out when its subscriber is listed, and taken back when the subscription is ended.
Ending it takes out this one subscriber and nothing else, in the table and in the registry, and the
server is told if it was the last of its topic and the session is connected. A handle that is not in
the table any more does nothing, and it never is in the table again: numbers of handlers are not
used twice, and a subscription that is made again has another handler.
-/
namespace WorkspaceLink

/-- What becomes of a transport that is handed a message. -/
def Carrier.handed (message : Json) : Carrier → Carrier
  | .scripted t => .scripted (t.send message).1
  | .socket t => .socket (t.send message).1

namespace SubscriptionTable

variable {table : SubscriptionTable}

theorem subscribers_remove (h : Grouped.Sound table) (topic other : Topic) (handler : HandlerId) :
    subscribers (remove topic handler table) other =
      if other = topic then (subscribers table other).filter (· ≠ handler)
      else subscribers table other := by
  rw [remove_eq]
  exact Grouped.items_prune h topic other (· ≠ handler)

theorem filter_remove (topic : Topic) (handler : HandlerId) (table : SubscriptionTable) :
    (remove topic handler table).filter (fun group => group.1 ≠ topic) =
      table.filter fun group => group.1 ≠ topic := by
  induction table with
  | nil => rfl
  | cons group rest ih =>
    obtain ⟨other, handlers⟩ := group
    rw [remove]
    split
    next heq =>
      subst heq
      dsimp only
      split <;> simp
    next hne => simpa [hne] using ih

/-- A topic is left without subscribers when its last one goes. -/
theorem not_follows_remove (h : Grouped.Sound table) (topic : Topic) (handler : HandlerId) :
    ¬ follows (remove topic handler table) topic ↔
      ∀ other ∈ subscribers table topic, other = handler := by
  rw [follows_eq (sound_remove h topic handler), subscribers_remove h, if_pos rfl]
  simp

end SubscriptionTable

namespace Link

variable {start link first second : Link} {id k : Nat} {subscription : Subscription}

/-! ### Who is taken out -/

theorem send_carrier (message : Json) (link : Link) :
    (link.send message).carrier = link.carrier.handed message := by
  unfold send
  split
  next t hc =>
    rw [emitAll_carrier, hc]
    rfl
  next t hc =>
    have hupdated := updateSocket_carrier (t.send message).1 [] link
    rw [hc]
    dsimp only
    split <;> exact hupdated

theorem request_session (method : String) (params : Option Json) (link : Link) :
    (link.request method params).2.session = link.session := by
  obtain ⟨table, hsession⟩ := (spares_request none method params link).session
  have htable := (leaves_request method params link).table
  rw [hsession] at htable ⊢
  rw [show table = link.session.table from htable]

theorem awaitConfirmation_keeps (id number : Nat) (link : Link) :
    (link.awaitConfirmation id number).session = link.session ∧
      (link.awaitConfirmation id number).client.handlers = link.client.handlers ∧
      (link.awaitConfirmation id number).carrier = link.carrier := by
  unfold awaitConfirmation
  split <;> exact ⟨rfl, rfl, rfl⟩

/-- The request that says that nobody follows a topic any more. -/
def farewell (link : Link) (topic : Topic) : Json :=
  Message.request (Client.idText link.client.nextId) Message.unsubscribeMethod (some topic.params)

/-- One subscriber was taken out of a link, and nothing else. -/
structure TakenOut (subscription : Subscription) (link after : Link) : Prop where
  subscribers : ∀ topic, SubscriptionTable.subscribers after.session.table topic =
    if topic = subscription.topic then
      (SubscriptionTable.subscribers link.session.table topic).filter (· ≠ subscription.handler)
    else SubscriptionTable.subscribers link.session.table topic
  /-- Other topics keep their places. -/
  topics : after.session.table.filter (fun group => group.1 ≠ subscription.topic) =
    link.session.table.filter fun group => group.1 ≠ subscription.topic
  session : { after.session with table := link.session.table } = link.session
  entries : ∀ method, after.client.handlers.entries method =
    if method = subscription.topic.channel.method then
      (link.client.handlers.entries method).filter fun entry => entry.1 ≠ subscription.handler
    else link.client.handlers.entries method
  /-- The last of its topic was taken out of a session that is connected. -/
  told : (∀ other ∈ SubscriptionTable.subscribers link.session.table subscription.topic,
      other = subscription.handler) → link.session.phase = .connected →
    after.carrier = link.carrier.handed (link.farewell subscription.topic)
  untold : ¬ ((∀ other ∈ SubscriptionTable.subscribers link.session.table subscription.topic,
      other = subscription.handler) ∧ link.session.phase = .connected) →
    after.carrier = link.carrier

/-- The table and the registry without one subscriber. -/
def without (subscription : Subscription) (link : Link) : Link :=
  Prod.snd <| removeHandler subscription.topic.channel.method subscription.handler <|
    link.updateTable (SubscriptionTable.remove subscription.topic subscription.handler)

theorem takenOut_of_without (h : Filed start link) {after : Link}
    (hsession : after.session = (link.without subscription).session)
    (hhandlers : after.client.handlers = (link.without subscription).client.handlers)
    (htold : (∀ other ∈ SubscriptionTable.subscribers link.session.table subscription.topic,
      other = subscription.handler) → link.session.phase = .connected →
        after.carrier = link.carrier.handed (link.farewell subscription.topic))
    (huntold : ¬ ((∀ other ∈ SubscriptionTable.subscribers link.session.table subscription.topic,
      other = subscription.handler) ∧ link.session.phase = .connected) →
        after.carrier = link.carrier) : TakenOut subscription link after where
  subscribers topic := by
    rw [hsession]
    exact SubscriptionTable.subscribers_remove h.table _ _ _
  topics := by
    rw [hsession]
    exact SubscriptionTable.filter_remove _ _ _
  session := by
    rw [hsession]
    rfl
  entries method := by
    rw [hhandlers]
    exact Registry.entries_remove h.registry _ _ _
  told := htold
  untold := huntold

theorem takenOut_endSubscription (h : Filed start link)
    (hlists : link.Lists subscription.topic subscription.handler) (id : Nat) :
    TakenOut subscription link (link.endSubscription id subscription) := by
  have hlast := SubscriptionTable.not_follows_remove h.table subscription.topic
    subscription.handler
  rw [Lists] at hlists
  unfold endSubscription
  dsimp only
  rw [if_neg (not_not_intro hlists)]
  split
  next hends =>
    let mid := link.without subscription
    let asked := mid.request Message.unsubscribeMethod (some subscription.topic.params)
    obtain ⟨hsession, hhandlers, hcarrier⟩ := awaitConfirmation_keeps id asked.1 asked.2
    have hsent : asked.2.carrier = link.carrier.handed (link.farewell subscription.topic) :=
      send_carrier _ _
    refine takenOut_of_without h (hsession.trans (request_session _ _ mid))
      (hhandlers.trans (leaves_request _ _ mid).handlers) (fun _ _ => hcarrier.trans hsent) ?_
    intro hnot
    exact absurd ⟨hlast.mp hends.1, hends.2⟩ hnot
  next hstays =>
    refine takenOut_of_without h rfl rfl (fun hall hphase => ?_) fun _ => rfl
    exact absurd ⟨hlast.mpr hall, hphase⟩ hstays

/-! ### Handles that are given out -/

/-- No handle of a subscription is among the outcomes that are new. -/
def Mute (first second : Link) : Prop :=
  ∀ k subscription, (k, .subscribed subscription) ∈ second.finished →
    (k, .subscribed subscription) ∈ first.finished

theorem Mute.of_same (h : second.finished = first.finished) : Mute first second :=
  fun _ _ hmem => h ▸ hmem

theorem Mute.after (h : Mute start first) (hsame : second.finished = first.finished) :
    Mute start second :=
  fun k subscription hmem => h k subscription (hsame ▸ hmem)

theorem Mute.finish (h : Mute start link) (id : Nat) {outcome : Outcome}
    (houtcome : ∀ subscription, outcome ≠ .subscribed subscription) :
    Mute start (link.finish id outcome) := by
  intro k subscription hmem
  rcases List.mem_append.mp hmem with hold | hnew
  · exact h k subscription hold
  · have heq := List.mem_singleton.mp hnew
    simp only [Prod.mk.injEq] at heq
    exact absurd heq.2.symm (houtcome subscription)

theorem Keeps.mute (h : Keeps none first second) : Mute first second :=
  fun _ _ hmem => (h.finished _ hmem).resolve_right nofun

theorem keptByTransport_finished (who : Option Nat) (finished : List (Nat × Outcome)) :
    KeptByTransport who fun link => link.finished = finished where
  put _ _ h := h
  fetch _ h := h
  issue h := h
  forget _ h := h
  raise _ h := h
  emit event h := (congrArg Link.finished (emit_scenery event _) :).trans h
  spawn _ h := h
  setTask _ _ _ h := h
  endTask _ _ h := h

theorem request_finished (method : String) (params : Option Json) (link : Link) :
    (link.request method params).2.finished = link.finished :=
  (keptByTransport_finished none _).request method params rfl

theorem Mute.request (h : Mute start link) (method : String) (params : Option Json) :
    Mute start (link.request method params).2 :=
  h.after (request_finished method params link)

theorem Mute.awaitAnswer (h : Mute start link) (id number : Nat) (due? : Option Nat)
    (fresh : Bool) : Mute start (link.awaitAnswer id number due? fresh) := by
  unfold Link.awaitAnswer
  split
  next answer _ => exact Mute.finish (h.after rfl) id (by cases answer <;> simp [outcomeOf])
  · exact h.after rfl
  · split
    · exact Mute.finish (h.after rfl) id (by simp)
    · split
      · exact h.after rfl
      · exact h

theorem Mute.awaitIdentity (h : Mute start link) (id : Nat) (inquiry : Inquiry) (fresh : Bool) :
    Mute start (link.awaitIdentity id inquiry fresh) := by
  unfold Link.awaitIdentity
  split
  · exact Mute.finish (h.after rfl) id (by simp)
  · exact Mute.finish (h.after rfl) id (by simp)
  · split
    · exact h.after rfl
    · exact h

theorem Mute.awaitConfirmation (h : Mute start link) (id number : Nat) :
    Mute start (link.awaitConfirmation id number) := by
  unfold Link.awaitConfirmation
  split
  next answer _ => exact Mute.finish (h.after rfl) id (by cases answer <;> simp [confirmationOf])
  · exact h.after rfl

theorem Mute.awaitFollowing (h : Mute start link) (id number : Nat) (method : String)
    (handler : HandlerId) : Mute start (link.awaitFollowing id number method handler) := by
  unfold Link.awaitFollowing
  split
  · exact Mute.finish (h.after rfl) id (by simp)
  · exact Mute.finish (h.after rfl) id (by simp)
  · exact h.after rfl

theorem Mute.awaitStatus (h : Mute start link) (id ticket : Nat) :
    Mute start (link.awaitStatus id ticket) := by
  unfold Link.awaitStatus
  split
  next result _ => exact Mute.finish (h.after rfl) id (by cases result <;> simp [statusOutcome])
  · exact h.after rfl

theorem Mute.awaitPhase (h : Mute start link) (id : Nat) (target : Phase) :
    Mute start (link.awaitPhase id target) := by
  unfold Link.awaitPhase
  split
  · exact h.finish id (by simp)
  · exact h.after rfl

theorem Mute.awaitConnected (h : Mute start link) (id seen : Nat) :
    Mute start (link.awaitConnected id seen) := by
  unfold Link.awaitConnected
  split
  · exact h
  · split
    · exact h.finish id (by simp)
    · exact h.finish id (by simp)
    · exact h.finish id (by simp)
    · exact h.after rfl
    · exact h.after rfl

theorem Mute.awaitClosed (h : Mute start link) (id : Nat) : Mute start (link.awaitClosed id) := by
  unfold Link.awaitClosed
  split
  · exact h.finish id (by simp)
  · exact h

theorem Mute.beginConnect (h : Mute start link) (id : Nat) : Mute start (link.beginConnect id) := by
  unfold Link.beginConnect
  split
  · exact h.finish id (by simp)
  · exact h.after (ensureDriver_finished link)

theorem Mute.endSubscription (h : Mute start link) (id : Nat) (subscription : Subscription) :
    Mute start (link.endSubscription id subscription) := by
  unfold Link.endSubscription
  dsimp only
  split
  · exact h.finish id (by simp)
  · split
    · have hwithout : Mute start (link.without subscription) := h.after rfl
      exact (hwithout.request _ _).awaitConfirmation id _
    · exact Mute.finish (h.after rfl) id (by simp)

theorem runIdentify_finished (id generation : Nat) (inquiry? : Option Inquiry) (link : Link) :
    (link.runIdentify id generation inquiry?).finished = link.finished := by
  have hasked := request_finished Message.clientIdMethod none link
  unfold runIdentify
  split
  · cases inquiry? <;> rfl
  · cases inquiry? with
    | none =>
      dsimp only
      split <;> exact hasked
    | some inquiry =>
      dsimp only
      split <;> rfl

theorem startProbe_finished (id token generation due : Nat) (link : Link) :
    (link.startProbe id token generation due).finished = link.finished := by
  have hasked := request_finished Message.clientIdMethod none link
  unfold startProbe
  dsimp only
  split <;> exact hasked

theorem runProbes_finished (id token generation : Nat) (stage : ProbeStage) (link : Link) :
    (link.runProbes id token generation stage).finished = link.finished := by
  cases stage with
  | fresh =>
    simp only [runProbes]
    split <;> rfl
  | resting due =>
    simp only [runProbes]
    split
    · rfl
    · split
      · exact startProbe_finished id token generation due link
      · rfl
  | probing inquiry next =>
    simp only [runProbes]
    split
    · rfl
    · split
      · rfl
      · rfl
      · split
        · exact startProbe_finished id token generation next _
        · rfl

theorem runDelay_finished (id number delayMs : Nat) (due? : Option Nat) (link : Link) :
    (link.runDelay id number delayMs due?).finished = link.finished := by
  unfold runDelay
  split
  · rfl
  · dsimp only
    split
    · rfl
    · split <;> rfl

theorem replayFrom_finished (id : Nat) (topics : List Topic) (link : Link) :
    (link.replayFrom id topics).finished = link.finished := by
  induction topics generalizing link with
  | nil => rfl
  | cons topic rest ih =>
    have hasked := request_finished Message.subscribeMethod (some topic.params) link
    simp only [replayFrom]
    split
    next answer _ =>
      rw [ih]
      cases answer <;> exact hasked
    · exact hasked

theorem runReplay_finished (id : Nat) (current : Option (Nat × Topic)) (rest : List Topic)
    (link : Link) : (link.runReplay id current rest).finished = link.finished := by
  unfold runReplay
  split
  · exact replayFrom_finished id rest link
  · split
    next answer _ =>
      rw [replayFrom_finished]
      cases answer <;> rfl
    · rfl

/-- Among the outcomes that are new, the handles of subscriptions are listed. -/
def Grants (first second : Link) : Prop :=
  ∀ k subscription, (k, .subscribed subscription) ∈ second.finished →
    (k, .subscribed subscription) ∈ first.finished ∨
      second.Lists subscription.topic subscription.handler

theorem Mute.grants (h : Mute first second) : Grants first second :=
  fun k subscription hmem => .inl (h k subscription hmem)

theorem Mute.grants_complete (h : Mute start link) (id : Nat) (subscription : Subscription)
    (tracking : Option WorkspaceId) :
    Grants start (link.completeSubscription id subscription tracking) := by
  have hlisted : Mute start
      (link.updateTable (SubscriptionTable.add subscription.topic subscription.handler)) :=
    h.after rfl
  have hset : ∀ waiter, Mute start { link.updateTable
      (SubscriptionTable.add subscription.topic subscription.handler) with waiter } :=
    fun _ => hlisted.after rfl
  unfold completeSubscription
  dsimp only
  split
  · intro k other hmem
    rcases List.mem_append.mp hmem with hold | hnew
    · exact .inl (hlisted k other hold)
    · have heq := List.mem_singleton.mp hnew
      simp only [Prod.mk.injEq, Outcome.subscribed.injEq] at heq
      obtain ⟨-, rfl⟩ := heq
      exact .inr (SubscriptionTable.mem_subscribers_add.mpr (.inr ⟨rfl, rfl⟩))
  · split
    · exact ((hset _).endSubscription id _).grants
    · exact ((hset _).finish id (by simp)).grants

theorem Mute.grants_await (h : Mute start link) (id number : Nat) (subscription : Subscription)
    (tracking : Option WorkspaceId) :
    Grants start (link.awaitSubscription id number subscription tracking) := by
  have hforgot : Mute start (link.forget number) := h.after rfl
  unfold awaitSubscription
  split
  · exact hforgot.grants_complete id subscription tracking
  · exact (Mute.finish (h.after rfl) id (by simp)).grants
  · exact (h.after rfl).grants

theorem Mute.grants_begin (h : Mute start link) (id : Nat) (topic : Topic)
    (subscriber : Subscriber) (tracking : Option WorkspaceId) :
    Grants start (link.beginSubscription id topic subscriber tracking) := by
  have hadded : Mute start (link.addHandler topic.channel.method subscriber).2 := h.after rfl
  unfold beginSubscription
  dsimp only
  split
  · exact (hadded.request _ _).grants_await id _ _ _
  · exact hadded.grants_complete id _ _

theorem grants_runCall (id : Nat) (stage : Stage) (link : Link) :
    Grants link (link.runCall id stage) := by
  have h : Mute link link := .of_same rfl
  cases stage with
  | fresh call =>
    cases call with
    | connect => exact (h.beginConnect id).grants
    | close => exact (h.after (ensureDriver_finished link)).grants
    | awaitPhase phase => exact (h.awaitPhase id phase).grants
    | request method params limitMs => exact ((h.request _ _).awaitAnswer id _ _ _).grants
    | identify limitMs => exact ((h.request _ _).awaitIdentity id _ _).grants
    | follow method subscriber request params =>
      have hadded : Mute link (link.addHandler method subscriber).2 := h.after rfl
      exact ((hadded.request _ _).awaitFollowing id _ _ _).grants
    | unfollow method handler request params =>
      have hremoved : Mute link (link.removeHandler method handler).2 := h.after rfl
      exact ((hremoved.request _ _).awaitConfirmation id _).grants
    | subscribe topic subscriber => exact h.grants_begin id topic subscriber none
    | unsubscribe subscription => exact (h.endSubscription id subscription).grants
    | track workspace =>
      simp only [runCall, startCall, track]
      split
      · exact (h.finish id (by simp)).grants
      · exact h.grants_begin id _ _ _
    | untrack workspace =>
      have hsettled : Mute link (settleStatuses (link.waiter.untrack workspace).2.2
          { link with waiter := (link.waiter.untrack workspace).2.1 }) :=
        .of_same (congrArg Link.finished (settleStatuses_essence _ _) :)
      simp only [runCall, startCall, untrack]
      split
      · exact (hsettled.endSubscription id _).grants
      · exact (hsettled.finish id (by simp)).grants
  | connecting seen => exact (h.awaitConnected id seen).grants
  | closing => exact (h.awaitClosed id).grants
  | phase target => exact (h.awaitPhase id target).grants
  | answer number due => exact (h.awaitAnswer id number due false).grants
  | identity inquiry => exact (h.awaitIdentity id inquiry false).grants
  | following number method handler => exact (h.awaitFollowing id number method handler).grants
  | subscribing number subscription tracking => exact h.grants_await id number _ _
  | confirmation number => exact (h.awaitConfirmation id number).grants
  | status ticket => exact (h.awaitStatus id ticket).grants

theorem mute_of_drives {b : Beat} (h : link.drives b) : Mute link (link.beat b) := by
  cases hinputs : link.inputs with
  | nil =>
    rw [beat_of_idle h hinputs]
    exact .of_same rfl
  | cons input rest =>
    rw [beat_of_input h hinputs]
    exact (keeps_runEffects _ _).mute

/-- A handle is given out in the beat that lists it. -/
theorem grants_beat (link : Link) (b : Beat) : Grants link (link.beat b) := by
  have hkeeps := keeps_beat link b
  have hsame : (link.beat b).finished = link.finished → Grants link (link.beat b) :=
    fun heq => (Mute.of_same heq).grants
  cases b with
  | task id =>
    have hbyTransport := keptByTransport_finished (some id) link.finished
    cases htask : link.task? id with
    | none => exact hsame (by simp only [Link.beat, runTask, poll, htask])
    | some task =>
      cases task with
      | driver =>
        have hdrives : link.drives (.task id) := by simp [drives, htask]
        exact (mute_of_drives hdrives).grants
      | call stage =>
        simp only [Link.beat, runTask, poll, htask]
        exact grants_runCall id stage link
      | _ =>
        refine hsame ?_
        simp only [Link.beat, runTask, poll, htask, runIdentify_finished, runProbes_finished,
          runDelay_finished, runReplay_finished, hbyTransport.runAttempt rfl _ _ rfl,
          hbyTransport.runHandshake rfl _ _ rfl, hbyTransport.runDelivery rfl _ rfl]
  | abandon id =>
    refine hsame ?_
    simp only [Link.beat, abandon]
    split
    next stage _ => cases stage <;> rfl
    next => rfl
  | socket turn => exact hsame ((keptByTransport_finished _ _).take rfl)
  | _ => exact hkeeps.mute.grants

/-- The handle of a subscription was given out: no call carries its handler, which is listed under
its own topic if at all. -/
structure GivenOut (link : Link) (subscription : Subscription) : Prop where
  lt_next : subscription.handler.number < link.client.handlers.next
  uncarried : ∀ id, ¬ link.Carries id subscription.handler
  own : ∀ topic, link.Lists topic subscription.handler → topic = subscription.topic

theorem Filed.givenOut (h : Filed start link)
    (hlists : link.Lists subscription.topic subscription.handler) :
    link.GivenOut subscription where
  lt_next := h.listed_lt _ (Grouped.mem_all_of_mem_items hlists)
  uncarried id hc := h.carried_unlisted id _ hc (Grouped.mem_all_of_mem_items hlists)
  own _ hother := h.table.key_unique h.once hother hlists

/-- What is listed later of a handle that was given out was listed before. -/
theorem GivenOut.lists (hgiven : first.GivenOut subscription) (h : Filed first second)
    {topic : Topic} (hlists : second.Lists topic subscription.handler) :
    first.Lists topic subscription.handler := by
  rcases h.listed_from topic _ hlists with hold | ⟨id, hc⟩ | hnew
  · exact hold
  · exact absurd hc (hgiven.uncarried id)
  · exact absurd hgiven.lt_next (Nat.not_lt.mpr hnew)

theorem GivenOut.filed (hgiven : first.GivenOut subscription) (h : Filed first second) :
    second.GivenOut subscription where
  lt_next := Nat.lt_of_lt_of_le hgiven.lt_next h.next_le
  uncarried id hc := by
    rcases h.carried_from id _ hc with hold | hnew
    · exact hgiven.uncarried id hold
    · exact Nat.not_lt.mpr hnew hgiven.lt_next
  own topic hlists := hgiven.own topic (hgiven.lists h hlists)

/-- A handle that was given out and is not listed never is again. -/
theorem GivenOut.unlisted (hgiven : link.GivenOut subscription) (h : Filed start link)
    (hgone : ¬ link.Lists subscription.topic subscription.handler) (more : List Beat)
    (topic : Topic) : ¬ (link.play more).Lists topic subscription.handler := by
  intro hlists
  have hold := hgiven.lists (h.refl.play more) hlists
  exact hgone (hgiven.own topic hold ▸ hold)

theorem filed_play (carrier : Carrier) (config : SessionConfig) (beats : List Beat) :
    Filed (withSession carrier config) ((withSession carrier config).play beats) :=
  (filed_withSession carrier config).play beats

/-- Every handle among the outcomes was given out. -/
theorem givenOut_play (carrier : Carrier) (config : SessionConfig) (beats : List Beat)
    (h : (k, .subscribed subscription) ∈ ((withSession carrier config).play beats).finished) :
    ((withSession carrier config).play beats).GivenOut subscription := by
  induction beats using List.reverseRecOn with
  | nil => exact absurd h List.not_mem_nil
  | append_singleton beats b ih =>
    have hfiled := filed_play carrier config beats
    rw [play_snoc] at h ⊢
    rcases grants_beat _ b k subscription h with hold | hlists
    · exact (ih hold).filed (hfiled.refl.beat b)
    · exact (hfiled.beat b).givenOut hlists

/-! ### All of it -/

theorem endSubscription_of_unlisted
    (h : ¬ link.Lists subscription.topic subscription.handler) (id : Nat) :
    link.endSubscription id subscription = link.finish id .done := by
  unfold endSubscription
  exact if_pos h

/-- In every session, and for every handle that was given out, ending the subscription does this:
If the handle is in the table, its subscriber is taken out of the table and the registry and all
others stay as they are; the server is told if it was the last of its topic and the session is
connected. If the handle is not in the table, the call ends and nothing else happens. What then
becomes of the request changes nothing of this, and the handle is not in the table ever again,
nor after a close, whoever subscribes to the topic. -/
theorem unsubscribing_takes_out_one (carrier : Carrier) (config : SessionConfig)
    (beats : List Beat) (id k : Nat) (subscription : Subscription) :
    let link := (withSession carrier config).play beats
    (k, .subscribed subscription) ∈ link.finished →
    link.task? id = some (.call (.fresh (.unsubscribe subscription))) →
    let after := link.beat (.task id)
    (link.Lists subscription.topic subscription.handler → TakenOut subscription link after) ∧
      (¬ link.Lists subscription.topic subscription.handler → after = link.finish id .done) ∧
      (∀ topic, link.Lists topic subscription.handler → topic = subscription.topic) ∧
      (∀ more topic, ¬ (after.play more).Lists topic subscription.handler) ∧
      (∀ b more topic, link.closes b →
        ¬ ((link.beat b).play more).Lists topic subscription.handler) ∧
      ∀ more number, (after.play more).task? id = some (.call (.confirmation number)) →
        ((after.play more).beat (.task id)).session = (after.play more).session ∧
        ((after.play more).beat (.task id)).client.handlers =
          (after.play more).client.handlers ∧
        ((after.play more).beat (.task id)).carrier = (after.play more).carrier := by
  intro link hfinished htask after
  have hfiled : Filed (withSession carrier config) link := filed_play carrier config beats
  have hgiven : link.GivenOut subscription := givenOut_play carrier config beats hfinished
  have hafter : after = link.endSubscription id subscription := beat_task_call htask
  have htaken : link.Lists subscription.topic subscription.handler →
      TakenOut subscription link after := by
    intro hlists
    rw [hafter]
    exact takenOut_endSubscription hfiled hlists id
  have hidle : ¬ link.Lists subscription.topic subscription.handler →
      after = link.finish id .done := by
    intro hunlisted
    rw [hafter, endSubscription_of_unlisted hunlisted]
  refine ⟨htaken, hidle, hgiven.own, ?_, ?_, ?_⟩
  · intro more topic
    have hgone : ¬ after.Lists subscription.topic subscription.handler := by
      by_cases hlists : link.Lists subscription.topic subscription.handler
      · rw [Lists, (htaken hlists).subscribers, if_pos rfl]
        simp
      · rw [hidle hlists]
        exact hlists
    exact (hgiven.filed (hfiled.refl.beat _)).unlisted (hfiled.beat _) hgone more topic
  · intro b more topic hcloses
    have hgone : ¬ (link.beat b).Lists subscription.topic subscription.handler := by
      rw [Lists, (leaves_beat_close hcloses).table]
      exact List.not_mem_nil
    exact (hgiven.filed (hfiled.refl.beat b)).unlisted (hfiled.beat b) hgone more topic
  · intro more number hwaits
    rw [beat_task_call hwaits]
    exact awaitConfirmation_keeps id number _

/-- A subscription is confirmed, another one of the topic follows, and the first is ended. -/
def secondStays : List Beat :=
  [.script Scripted.opens, subscribeStatus, .task 0, confirms 1, .task 0, subscribeStatus, .task 1,
    .call (.unsubscribe ⟨statusTopic, ⟨1⟩⟩)]

/-- The only subscription of a connected session is ended. -/
def lastLeaves : List Beat :=
  connecting ++ [subscribeStatus, .task 5, confirms 2, .task 5,
    .call (.unsubscribe ⟨statusTopic, ⟨1⟩⟩)]

/-- In the first run another subscriber of the topic stays and the server is told nothing. In the
second nobody does, and the server is told. -/
theorem unsubscribing_takes_out_first :
    let link := rehearsed.play secondStays
    let last := rehearsed.play lastLeaves
    (SubscriptionTable.subscribers link.session.table statusTopic = [⟨1⟩, ⟨2⟩] ∧
      SubscriptionTable.subscribers (link.beat (.task 2)).session.table statusTopic = [⟨2⟩] ∧
      (link.beat (.task 2)).carrier = link.carrier) ∧
    SubscriptionTable.subscribers last.session.table statusTopic = [⟨1⟩] ∧
      last.session.phase = .connected ∧
      SubscriptionTable.subscribers (last.beat (.task 6)).session.table statusTopic = [] ∧
      (last.beat (.task 6)).carrier = last.carrier.handed (last.farewell statusTopic) := by
  intro link last
  have htaken := fun beats id k hfinished htask =>
    (unsubscribing_takes_out_one (.scripted {}) { entrypoint := "wss://example/api" } beats id k
      ⟨statusTopic, ⟨1⟩⟩ hfinished htask).1
  have hboth : SubscriptionTable.subscribers link.session.table statusTopic = [⟨1⟩, ⟨2⟩] := by
    decide +kernel
  have hone : SubscriptionTable.subscribers last.session.table statusTopic = [⟨1⟩] := by
    decide +kernel
  have hconnected : last.session.phase = .connected := by decide +kernel
  refine ⟨⟨hboth, ?_⟩, hone, hconnected, ?_⟩
  · have hlists : link.Lists statusTopic ⟨1⟩ := by simp [Lists, hboth]
    have h : TakenOut ⟨statusTopic, ⟨1⟩⟩ link (link.beat (.task 2)) :=
      htaken secondStays 2 0 (by decide +kernel) rfl hlists
    have hafter := h.subscribers statusTopic
    rw [if_pos rfl] at hafter
    refine ⟨hafter.trans (congrArg (List.filter _) hboth), h.untold ?_⟩
    rintro ⟨hlast, -⟩
    have hother := hlast ⟨2⟩ (by simp [hboth])
    simp at hother
  · have hlists : last.Lists statusTopic ⟨1⟩ := by simp [Lists, hone]
    have h : TakenOut ⟨statusTopic, ⟨1⟩⟩ last (last.beat (.task 6)) :=
      htaken lastLeaves 6 5 (by decide +kernel) rfl hlists
    have hafter := h.subscribers statusTopic
    rw [if_pos rfl] at hafter
    refine ⟨hafter.trans (congrArg (List.filter _) hone), h.told ?_ hconnected⟩
    simp [hone]

end Link

end WorkspaceLink
