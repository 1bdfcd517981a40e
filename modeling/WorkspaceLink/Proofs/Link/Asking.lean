import WorkspaceLink.Proofs.Grouped
import WorkspaceLink.Proofs.Link.Beats
import WorkspaceLink.Proofs.Session.Reaction

/-!
# What the server was asked last

The server is asked to start a subscription when a topic gets its first subscriber, and to end it
when the last one leaves. Whether a subscriber is the first is decided before the server has
answered, so calls on one topic that overlap can go past each other; and a replay asks for the
topics that were followed when it began.

`Change` lists what a call or a replay can do about a topic, and `Proceeds` says that what a task
does is one of that, for each topic. `Served` is what changes keep: the last message about a topic
fits its subscribers, up to two cases.
-/
namespace WorkspaceLink

/-! ### Messages about a topic -/

theorem Message.method?_request (id method : String) (params : Option Json) :
    Message.method? (Message.request id method params) = some method := by
  cases params <;>
    simp [Message.method?, Message.request, Message.paramsMember, Json.object, Json.get?,
      Members.ofList, Members.lookup_insert_of_ne, Json.text?]

theorem Message.params_request (id method : String) (params : Json) :
    Message.params (Message.request id method (some params)) = params := by
  simp [Message.params, Message.request, Message.paramsMember, Json.object, Json.get?,
    Members.ofList]

namespace Topic

theorem params_injective {a b : Topic} (h : a.params = b.params) : a = b := by
  obtain ⟨channel, scope⟩ := a
  obtain ⟨channel', scope'⟩ := b
  have hmethod : ∀ topic : Topic,
      topic.params.get? "method" = some (.str topic.channel.method) := by
    intro topic
    simp [Topic.params, Channel.scopeParams, Json.object, Json.get?, Members.ofList,
      Members.lookup_insert_of_ne]
  have hscope : ∀ topic : Topic, (topic.params.get? "scope").bind
      (fun value => value.get? topic.channel.scopeKey) = some (.str topic.scope) := by
    intro topic
    simp [Topic.params, Channel.scopeParams, Json.object, Json.get?, Members.ofList]
  have hchannel : channel = channel' := by
    have hm := hmethod ⟨channel, scope⟩
    rw [h, hmethod ⟨channel', scope'⟩] at hm
    exact (Channel.method_injective (by simpa using hm)).symm
  subst hchannel
  have hs := hscope ⟨channel, scope⟩
  rw [h, hscope ⟨channel, scope'⟩] at hs
  obtain rfl : scope' = scope := by simpa using hs
  rfl

/-- The message asks the server to start a subscription to the topic. -/
def startedBy (topic : Topic) (message : Json) : Bool :=
  Message.method? message = some Message.subscribeMethod ∧ Message.params message = topic.params

/-- The message asks the server to end the subscription to the topic. -/
def endedBy (topic : Topic) (message : Json) : Bool :=
  Message.method? message = some Message.unsubscribeMethod ∧ Message.params message = topic.params

/-- The message is about the subscription to the topic. -/
def concernedBy (topic : Topic) (message : Json) : Bool :=
  topic.startedBy message || topic.endedBy message

variable {topic other : Topic} {message : Json}

theorem startedBy_request (topic : Topic) (id : String) :
    topic.startedBy (Message.request id Message.subscribeMethod (some topic.params)) := by
  simp [startedBy, Message.method?_request, Message.params_request]

theorem endedBy_request (topic : Topic) (id : String) :
    topic.endedBy (Message.request id Message.unsubscribeMethod (some topic.params)) := by
  simp [endedBy, Message.method?_request, Message.params_request]

theorem not_startedBy_of_endedBy (h : topic.endedBy message) : topic.startedBy message = false := by
  simp only [endedBy, decide_eq_true_eq] at h
  simp [startedBy, h.1, Message.subscribeMethod, Message.unsubscribeMethod]

theorem params_of_concernedBy (h : topic.concernedBy message) :
    Message.params message = topic.params := by
  simp only [concernedBy, startedBy, endedBy, Bool.or_eq_true, decide_eq_true_eq] at h
  rcases h with h | h
  · exact h.2
  · exact h.2

/-- A message is about one topic only. -/
theorem concernedBy_unique (h : topic.concernedBy message) (h' : other.concernedBy message) :
    topic = other :=
  params_injective ((params_of_concernedBy h).symm.trans (params_of_concernedBy h'))

end Topic

/-- The message is about a subscription. -/
def Message.isAsking (message : Json) : Bool :=
  Message.method? message = some Message.subscribeMethod ∨
    Message.method? message = some Message.unsubscribeMethod

theorem Topic.isAsking_of_concernedBy {topic : Topic} {message : Json}
    (h : topic.concernedBy message) : Message.isAsking message := by
  simp only [Topic.concernedBy, Topic.startedBy, Topic.endedBy, Bool.or_eq_true,
    decide_eq_true_eq] at h
  simp only [Message.isAsking, decide_eq_true_eq]
  rcases h with h | h
  · exact .inl h.1
  · exact .inr h.1

namespace Link

/-! ### A transport that sends everything -/

/-- The transport is scripted, and no send is to fail. -/
def Reliable (link : Link) : Prop := ∃ t, link.carrier = .scripted t ∧ t.sendFailures = []

/-- Requests that wait or were answered have been numbered. -/
structure Numbered (link : Link) : Prop where
  client : link.client.WellNumbered
  answers : ∀ entry ∈ link.answers, entry.1 < link.client.nextId

variable {link first second third : Link} {id : Nat} {task : Task}

theorem Numbered.clientHears (h : link.Numbered) (event : TransportEvent) :
    (link.clientHears event).Numbered := by
  have hsettles := clientHears_settles event h.client.nodup
  refine ⟨hsettles.wellNumbered h.client, fun entry hmem => ?_⟩
  have hid : (link.clientHears event).client.nextId = link.client.nextId := hsettles.nextId
  rw [hid]
  by_cases hold : entry ∈ link.answers
  · exact h.answers entry hold
  · exact h.client.lt_nextId _ (hsettles.verdict_of_new hmem hold).1

theorem Numbered.emitAll (h : link.Numbered) (events : List TransportEvent) :
    (link.emitAll events).Numbered := by
  have hlisten : ∀ event listener (link : Link), link.Numbered →
      (listen event listener link).Numbered := by
    intro event listener link h
    cases listener with
    | client => exact h.clientHears event
    | session => cases event <;> exact ⟨h.client, h.answers⟩
    | recorder label => exact ⟨h.client, h.answers⟩
  have hemit : ∀ event (link : Link), link.Numbered → (link.emit event).Numbered := by
    intro event link h
    unfold emit Registry.dispatch
    generalize link.listeners.handlers event.kind = listeners
    induction listeners generalizing link with
    | nil => exact h
    | cons listener rest ih => exact ih _ (hlisten event listener link h)
  unfold Link.emitAll
  induction events generalizing link with
  | nil => exact h
  | cons event rest ih => exact ih (hemit event link h)

/-- The answer to a request that is yet to be sent is not there. -/
theorem Numbered.unanswered (h : link.Numbered) : link.answer? link.client.nextId = none := by
  rw [Link.answer?, List.lookup_eq_none_iff]
  intro entry hmem
  have hne : link.client.nextId ≠ entry.1 := Nat.ne_of_gt (h.answers entry hmem)
  simpa using hne

/-- What a request does: its message is sent, and it waits. -/
theorem request_reliable {t : Scripted} (hc : link.carrier = .scripted t)
    (hfail : t.sendFailures = []) (method : String) (params : Option Json) :
    link.request method params = (link.client.nextId, { link with
      client := link.client.issue.2
      carrier := .scripted { t with
        sent := t.sent ++
          [Message.request (Client.idText link.client.nextId) method params] } }) := by
  simp [request, Client.issue, send, hc, Scripted.send, hfail, emitAll]

theorem Numbered.issue (h : link.Numbered) (carrier : Carrier) :
    Numbered { link with client := link.client.issue.2, carrier } :=
  ⟨h.client.issue, fun entry hmem => Nat.lt_succ_of_lt (h.answers entry hmem)⟩

/-! ### What a task leaves alone -/

/-- All but one task are as they were, new ones that handle inputs apart; of what was sent since,
these messages are about subscriptions. -/
structure Beside (id : Nat) (asks : List Json) (first second : Link) : Prop where
  reliable : second.Reliable
  numbered : second.Numbered
  sound : Grouped.Sound second.session.table
  sends : ∃ messages, second.sent = first.sent ++ messages ∧
    messages.filter Message.isAsking = asks
  phase : second.session.phase = first.session.phase
  others : ∀ other task, other ≠ id → task ≠ .driver →
    (second.task? other = some task ↔ first.task? other = some task)

theorem Beside.refl (id : Nat) (hreliable : link.Reliable) (hnumbered : link.Numbered)
    (hsound : Grouped.Sound link.session.table) : Beside id [] link link where
  reliable := hreliable
  numbered := hnumbered
  sound := hsound
  sends := ⟨[], by simp, rfl⟩
  phase := rfl
  others _ _ _ _ := Iff.rfl

theorem Beside.trans {asks more : List Json} (h : Beside id asks first second)
    (h' : Beside id more second third) : Beside id (asks ++ more) first third where
  reliable := h'.reliable
  numbered := h'.numbered
  sound := h'.sound
  sends := by
    obtain ⟨messages, hsent, hasks⟩ := h.sends
    obtain ⟨messages', hsent', hasks'⟩ := h'.sends
    exact ⟨messages ++ messages', by rw [hsent', hsent, List.append_assoc],
      by rw [List.filter_append, hasks, hasks']⟩
  phase := h'.phase.trans h.phase
  others other task hne hdriver := (h'.others other task hne hdriver).trans
    (h.others other task hne hdriver)

/-- Nothing that matters changes but the tasks. -/
theorem Beside.of_tasks {asks : List Json} (h : Beside id asks first second)
    (hcarrier : third.carrier = second.carrier) (hclient : third.client = second.client)
    (hanswers : third.answers = second.answers) (hsession : third.session = second.session)
    (hothers : ∀ other task, other ≠ id → task ≠ .driver →
      (third.task? other = some task ↔ second.task? other = some task)) :
    Beside id asks first third where
  reliable := by unfold Reliable; rw [hcarrier]; exact h.reliable
  numbered := ⟨hclient ▸ h.numbered.client, by rw [hanswers, hclient]; exact h.numbered.answers⟩
  sound := hsession ▸ h.sound
  sends := by
    obtain ⟨messages, hsent, hasks⟩ := h.sends
    exact ⟨messages, by rw [← hsent, sent, sent, hcarrier], hasks⟩
  phase := by rw [hsession]; exact h.phase
  others other task hne hdriver := (hothers other task hne hdriver).trans
    (h.others other task hne hdriver)

theorem Beside.request {asks : List Json} (h : Beside id asks first second) (method : String)
    (params : Option Json) :
    Beside id (asks ++ [Message.request (Client.idText second.client.nextId) method params].filter
      Message.isAsking) first (second.request method params).2 := by
  obtain ⟨t, hc, hfail⟩ := h.reliable
  rw [request_reliable hc hfail]
  refine ⟨⟨_, rfl, hfail⟩, h.numbered.issue _, h.sound, ?_, h.phase, h.others⟩
  obtain ⟨messages, hsent, hasks⟩ := h.sends
  refine ⟨messages ++ [_], ?_, by rw [List.filter_append, hasks]⟩
  have hold : t.sent = first.sent ++ messages := by
    rw [← hsent, sent, hc]
  simp [sent, hold]

/-- A method that is not about subscriptions. -/
def isOther (method : String) : Prop :=
  method ≠ Message.subscribeMethod ∧ method ≠ Message.unsubscribeMethod

theorem filter_isAsking_other {method : String} (h : isOther method) (text : String)
    (params : Option Json) :
    [Message.request text method params].filter Message.isAsking = [] := by
  have hnot : Message.isAsking (Message.request text method params) = false := by
    simp [Message.isAsking, Message.method?_request, h.1, h.2]
  simp [hnot]

theorem others_spawn (link : Link) {other : Nat} {task : Task} (hdriver : task ≠ .driver) :
    (link.spawn .driver).task? other = some task ↔ link.task? other = some task := by
  rw [task?_spawn]
  cases link.task? other with
  | some old => simp
  | none => split <;> simp [Ne.symm hdriver]

/-- A task asks for nothing about subscriptions, and does not change the table. It goes on with
something that has nothing to do with them. -/
structure Quiet (id : Nat) (first second : Link) : Prop where
  beside : Beside id [] first second
  table : second.session.table = first.session.table
  own : ∀ task, second.task? id = some task → isAside task ∨ first.task? id = some task

theorem Quiet.of_tasks (h : Quiet id first second) (hcarrier : third.carrier = second.carrier)
    (hclient : third.client = second.client) (hanswers : third.answers = second.answers)
    (hsession : third.session = second.session) (htasks : third.tasks = second.tasks) :
    Quiet id first third := by
  have htask : ∀ other, third.task? other = second.task? other := by
    intro other
    rw [task?, task?, htasks]
  refine ⟨h.beside.of_tasks hcarrier hclient hanswers hsession fun other task _ _ => ?_, ?_, ?_⟩
  · rw [htask]
  · rw [hsession]
    exact h.table
  · intro task heq
    rw [htask] at heq
    exact h.own task heq

theorem Quiet.endTask (h : Quiet id first second) : Quiet id first (second.endTask id) := by
  refine ⟨h.beside.of_tasks rfl rfl rfl rfl fun other task hne _ => ?_, h.table, ?_⟩
  · rw [task?_endTask, if_neg hne]
  · intro other heq
    simp [task?_endTask] at heq

theorem essenceKeptByRequests_quiet (id : Nat) (start : Link) :
    EssenceKeptByRequests id isOther (Quiet id start) where
  idle h heq := h.of_tasks (congrArg Link.carrier heq :) (congrArg Link.client heq :)
    (congrArg Link.answers heq :) (congrArg Link.session heq :) (congrArg Link.tasks heq :)
  request {link method} params hother h := by
    obtain ⟨t, hc, hfail⟩ := h.beside.reliable
    have hbeside := h.beside.request method params
    rw [filter_isAsking_other hother, List.append_nil] at hbeside
    refine ⟨hbeside, ?_, ?_⟩
    · rw [request_reliable hc hfail]
      exact h.table
    · rw [request_reliable hc hfail]
      exact h.own
  forget {link} number h := by
    refine ⟨?_, h.table, h.own⟩
    refine ⟨h.beside.reliable, ⟨h.beside.numbered.client.forget number, fun entry hmem => ?_⟩,
      h.beside.sound, h.beside.sends, h.beside.phase, h.beside.others⟩
    exact h.beside.numbered.answers entry (List.mem_filter.mp hmem).1
  setTask {link task} haside _ h := by
    refine ⟨h.beside.of_tasks rfl rfl rfl rfl fun other task hne _ => ?_, h.table, ?_⟩
    · rw [task?_setTask, if_neg hne]
    · intro other heq
      rw [task?_setTask, if_pos rfl, Option.map_eq_some_iff] at heq
      obtain ⟨_, _, rfl⟩ := heq
      exact .inl haside
  endTask h := h.endTask
  finish _ h := h.endTask.of_tasks rfl rfl rfl rfl rfl
  pushInput _ _ h := h.of_tasks rfl rfl rfl rfl rfl
  spawnDriver {link} h := by
    refine ⟨h.beside.of_tasks rfl rfl rfl rfl fun _ _ _ hdriver => others_spawn link hdriver,
      h.table, ?_⟩
    intro task heq
    by_cases hdriver : task = .driver
    · exact .inl (by rw [hdriver]; rfl)
    · exact h.own task ((others_spawn link hdriver).mp heq)

/-! ### Calls on subscriptions -/

def followed (link : Link) (topic : Topic) : Bool :=
  SubscriptionTable.follows link.session.table topic

theorem followed_congr (h : second.session = first.session) (topic : Topic) :
    second.followed topic = first.followed topic := by
  rw [followed, followed, h]

/-- A call went on, or ended, with topics that gained a subscriber; at most one topic was given
up. -/
structure Settled (id : Nat) (gained : Topic → Bool) (first second : Link) : Prop where
  own : ∀ task, second.task? id = some task → isAside task
  books : (Beside id [] first second ∧
      ∀ topic, second.followed topic = (first.followed topic || gained topic)) ∨
    ∃ given message, given.endedBy message ∧ Beside id [message] first second ∧
      second.followed given = false ∧
      ∀ topic, topic ≠ given → second.followed topic = (first.followed topic || gained topic)

theorem Settled.after {mid : Link} {late gained : Topic → Bool}
    (h : Settled id late mid second) (hbeside : Beside id [] first mid)
    (hgained : ∀ topic, (mid.followed topic || late topic) =
      (first.followed topic || gained topic)) : Settled id gained first second := by
  refine ⟨h.own, ?_⟩
  rcases h.books with ⟨hmid, hfollowed⟩ | ⟨given, message, hends, hmid, hgiven, hfollowed⟩
  · exact .inl ⟨hbeside.trans hmid, fun topic => (hfollowed topic).trans (hgained topic)⟩
  · exact .inr ⟨given, message, hends, hbeside.trans hmid, hgiven,
      fun topic hne => (hfollowed topic hne).trans (hgained topic)⟩

theorem Beside.finish {asks : List Json} (h : Beside id asks first second) (outcome : Outcome) :
    Beside id asks first (second.finish id outcome) := by
  refine h.of_tasks rfl rfl rfl rfl fun other task hne _ => ?_
  change (second.endTask id).task? other = _ ↔ _
  rw [task?_endTask, if_neg hne]

theorem own_finish (id : Nat) (outcome : Outcome) (link : Link) :
    ∀ task, (link.finish id outcome).task? id = some task → isAside task := by
  intro task heq
  change (link.endTask id).task? id = some task at heq
  simp [task?_endTask] at heq

theorem Beside.setTask {asks : List Json} (h : Beside id asks first second) (task : Task) :
    Beside id asks first (second.setTask id task) := by
  refine h.of_tasks rfl rfl rfl rfl fun other task hne _ => ?_
  rw [task?_setTask, if_neg hne]

theorem Beside.forget {asks : List Json} (h : Beside id asks first second) (number : Nat) :
    Beside id asks first (second.forget number) where
  reliable := h.reliable
  numbered := ⟨h.numbered.client.forget number,
    fun entry hmem => h.numbered.answers entry (List.mem_filter.mp hmem).1⟩
  sound := h.sound
  sends := h.sends
  phase := h.phase
  others := h.others

/-- Other handlers and another table do not matter, as long as the table is sound. -/
theorem Beside.withBooks {asks : List Json} (h : Beside id asks first second)
    (handlers : Registry String Subscriber) {table : SubscriptionTable}
    (hsound : Grouped.Sound table) :
    Beside id asks first { second with
      client := { second.client with handlers }, session := { second.session with table } } where
  reliable := h.reliable
  numbered := ⟨⟨h.numbered.client.nodup, h.numbered.client.lt_nextId⟩, h.numbered.answers⟩
  sound := hsound
  sends := h.sends
  phase := h.phase
  others := h.others

/-- A connected session whose transport sends everything. -/
structure Working (link : Link) : Prop where
  connected : link.session.phase = .connected
  reliable : link.Reliable
  numbered : link.Numbered
  sound : Grouped.Sound link.session.table

theorem Working.beside (h : link.Working) (id : Nat) : Beside id [] link link :=
  .refl id h.reliable h.numbered h.sound

theorem Beside.awaitConfirmation {asks : List Json} (h : Beside id asks first second)
    (number : Nat) : Beside id asks first (second.awaitConfirmation id number) := by
  unfold Link.awaitConfirmation
  split
  · exact (h.forget number).finish _
  · exact h.setTask _

theorem own_awaitConfirmation (id number : Nat) (link : Link) :
    ∀ task, (link.awaitConfirmation id number).task? id = some task → isAside task := by
  intro task heq
  unfold awaitConfirmation at heq
  split at heq
  · exact own_finish id _ _ task heq
  · rw [task?_setTask, if_pos rfl, Option.map_eq_some_iff] at heq
    obtain ⟨_, _, rfl⟩ := heq
    rfl

theorem awaitConfirmation_session (id number : Nat) (link : Link) :
    (link.awaitConfirmation id number).session = link.session := by
  unfold awaitConfirmation
  split <;> rfl

theorem settled_endSubscription (h : link.Working) (id : Nat) (subscription : Subscription) :
    Settled id (fun _ => false) link (link.endSubscription id subscription) := by
  obtain ⟨topic, handler⟩ := subscription
  have hstart := h.beside id
  unfold endSubscription
  dsimp only
  split
  · exact ⟨own_finish id _ link, .inl ⟨hstart.finish _, fun _ => by simp [followed, finish, endTask,
      disarm]⟩⟩
  next hlisted =>
    rw [Decidable.not_not] at hlisted
    have hbefore : link.followed topic = true := by
      rw [followed, SubscriptionTable.follows_eq h.sound]
      simpa using List.ne_nil_of_mem hlisted
    have hothers : ∀ other, other ≠ topic → SubscriptionTable.follows
        (SubscriptionTable.remove topic handler link.session.table) other =
          (link.followed other || false) := by
      intro other hne
      rw [SubscriptionTable.follows_remove_of_ne h.sound topic handler hne, Bool.or_false]
      rfl
    have hremoved := hstart.withBooks
      (link.client.handlers.remove topic.channel.method handler).2
      (SubscriptionTable.sound_remove h.sound topic handler)
    split
    next hlast =>
      -- The last subscriber leaves, and the server is told.
      let removed : Link := { link with
        client := { link.client with
          handlers := (link.client.handlers.remove topic.channel.method handler).2 }
        session := { link.session with
          table := SubscriptionTable.remove topic handler link.session.table } }
      have hgone : SubscriptionTable.follows
          (SubscriptionTable.remove topic handler link.session.table) topic = false := by
        simpa [updateTable] using hlast.1
      have hasked := hremoved.request Message.unsubscribeMethod (some topic.params)
      rw [List.nil_append, List.filter_cons_of_pos (Topic.isAsking_of_concernedBy
        (Bool.or_eq_true_iff.mpr (.inr (topic.endedBy_request _)))), List.filter_nil] at hasked
      have hsession : ((removed.request Message.unsubscribeMethod
          (some topic.params)).2.awaitConfirmation id removed.client.nextId).session =
          removed.session := by
        obtain ⟨t, hc, hfail⟩ := h.reliable
        have hc' : removed.carrier = .scripted t := hc
        rw [awaitConfirmation_session, request_reliable hc' hfail]
      refine ⟨own_awaitConfirmation id _ _, .inr ⟨topic, _, topic.endedBy_request _,
        hasked.awaitConfirmation _, ?_, fun other hne => ?_⟩⟩
      · exact (congrArg (fun s => SubscriptionTable.follows s.table topic) hsession).trans hgone
      · exact (congrArg (fun s => SubscriptionTable.follows s.table other) hsession).trans
          (hothers other hne)
    next hkept =>
      have hstill : SubscriptionTable.follows
          (SubscriptionTable.remove topic handler link.session.table) topic = true := by
        simpa [updateTable, h.connected] using hkept
      refine ⟨own_finish id _ _, .inl ⟨hremoved.finish _, fun other => ?_⟩⟩
      change SubscriptionTable.follows (SubscriptionTable.remove topic handler link.session.table)
        other = _
      by_cases hne : other = topic
      · rw [hne, hstill, hbefore]
        rfl
      · exact hothers other hne

theorem Working.withBooks (h : link.Working) (handlers : Registry String Subscriber)
    {table : SubscriptionTable} (hsound : Grouped.Sound table) (waiter : StatusWaiter) :
    Working { link with
      client := { link.client with handlers }
      session := { link.session with table }
      waiter } where
  connected := h.connected
  reliable := h.reliable
  numbered := ⟨⟨h.numbered.client.nodup, h.numbered.client.lt_nextId⟩, h.numbered.answers⟩
  sound := hsound

theorem settled_completeSubscription (h : link.Working) (id : Nat) (subscription : Subscription)
    (tracking : Option WorkspaceId) :
    Settled id (fun topic => topic = subscription.topic) link
      (link.completeSubscription id subscription tracking) := by
  obtain ⟨topic, handler⟩ := subscription
  have hsound := SubscriptionTable.sound_add h.sound topic handler
  have hgained : ∀ other, SubscriptionTable.follows
      (SubscriptionTable.add topic handler link.session.table) other =
        (link.followed other || decide (other = topic)) :=
    fun other => SubscriptionTable.follows_add h.sound topic other handler
  have hlisted : ∀ waiter, Working { link with
      session := { link.session with
        table := SubscriptionTable.add topic handler link.session.table }, waiter } :=
    fun waiter => h.withBooks link.client.handlers hsound waiter
  have hbeside : ∀ waiter, Beside id [] link { link with
      session := { link.session with
        table := SubscriptionTable.add topic handler link.session.table }, waiter } := by
    intro waiter
    have hbooks := (h.beside id).withBooks link.client.handlers hsound
    exact hbooks.of_tasks rfl rfl rfl rfl fun _ _ _ _ => Iff.rfl
  unfold completeSubscription
  dsimp only
  split
  · exact ⟨own_finish id _ _, .inl ⟨(hbeside link.waiter).finish _, hgained⟩⟩
  next workspace =>
    split
    next extra _ =>
      refine (settled_endSubscription (hlisted _) id extra).after (hbeside _) fun other => ?_
      rw [Bool.or_false]
      exact hgained other
    next => exact ⟨own_finish id _ _, .inl ⟨(hbeside _).finish _, hgained⟩⟩

/-! ### Topics and what the server was asked about them -/

/-- The call waits for the answer to its request for the topic. -/
def AwaitsTopic (link : Link) (id : Nat) (topic : Topic) : Prop :=
  ∃ number handler tracking,
    link.task? id = some (.call (.subscribing number ⟨topic, handler⟩ tracking))

/-- The replay is still to ask for the topic. -/
def ReplaysTopic (link : Link) (id : Nat) (topic : Topic) : Prop :=
  ∃ current rest, link.task? id = some (.replay current rest) ∧ topic ∈ rest

/-- Some call waits for the answer to its request for the topic. -/
def Awaited (link : Link) (topic : Topic) : Prop := ∃ id, link.AwaitsTopic id topic

/-- Some replay is still to ask for the topic. -/
def Replaying (link : Link) (topic : Topic) : Prop := ∃ id, link.ReplaysTopic id topic

/-- The messages about a topic, without the first of all messages that were sent. -/
def askings (base : Nat) (topic : Topic) (link : Link) : List Json :=
  (link.sent.drop base).filter topic.concernedBy

/-- The last message about the topic asked for it. -/
def AskedFor (base : Nat) (topic : Topic) (link : Link) : Prop :=
  ∃ message, (link.askings base topic).getLast? = some message ∧ topic.startedBy message

variable {base : Nat} {topic : Topic}

theorem Beside.askings {asks : List Json} (h : Beside id asks first second)
    (hbase : base ≤ first.sent.length) (topic : Topic) :
    second.askings base topic = first.askings base topic ++ asks.filter topic.concernedBy := by
  obtain ⟨messages, hsent, rfl⟩ := h.sends
  have hfilter : (messages.filter Message.isAsking).filter topic.concernedBy =
      messages.filter topic.concernedBy := by
    rw [List.filter_filter]
    apply List.filter_congr
    intro message _
    by_cases hc : topic.concernedBy message
    · simp [hc, Topic.isAsking_of_concernedBy hc]
    · simp [hc]
  rw [Link.askings, Link.askings, hsent, List.drop_append_of_le_length hbase, List.filter_append,
    hfilter]

theorem Beside.base_le {asks : List Json} (h : Beside id asks first second)
    (hbase : base ≤ first.sent.length) : base ≤ second.sent.length := by
  obtain ⟨messages, hsent, _⟩ := h.sends
  rw [hsent, List.length_append]
  omega

theorem Beside.awaited {asks : List Json} (h : Beside id asks first second)
    (hown : second.AwaitsTopic id topic → first.AwaitsTopic id topic)
    (hawaited : second.Awaited topic) : first.Awaited topic := by
  obtain ⟨other, hother⟩ := hawaited
  refine ⟨other, ?_⟩
  by_cases hne : other = id
  · subst hne
    exact hown hother
  · obtain ⟨number, handler, tracking, htask⟩ := hother
    exact ⟨number, handler, tracking, (h.others other _ hne (by simp)).mp htask⟩

theorem Beside.awaited_kept {asks : List Json} (h : Beside id asks first second)
    (hown : first.AwaitsTopic id topic → second.AwaitsTopic id topic)
    (hawaited : first.Awaited topic) : second.Awaited topic := by
  obtain ⟨other, hother⟩ := hawaited
  refine ⟨other, ?_⟩
  by_cases hne : other = id
  · subst hne
    exact hown hother
  · obtain ⟨number, handler, tracking, htask⟩ := hother
    exact ⟨number, handler, tracking, (h.others other _ hne (by simp)).mpr htask⟩

theorem Beside.replaying {asks : List Json} (h : Beside id asks first second)
    (hown : first.ReplaysTopic id topic → second.ReplaysTopic id topic)
    (hreplaying : first.Replaying topic) : second.Replaying topic := by
  obtain ⟨other, hother⟩ := hreplaying
  refine ⟨other, ?_⟩
  by_cases hne : other = id
  · subst hne
    exact hown hother
  · obtain ⟨current, rest, htask, hmem⟩ := hother
    exact ⟨current, rest, (h.others other _ hne (by simp)).mpr htask, hmem⟩

/-- What a beat does about a topic. -/
inductive Change (base : Nat) (topic : Topic) (isReplay : Prop) (first second : Link) : Prop where
  /-- Nothing. -/
  | same (hask : second.askings base topic = first.askings base topic)
    (hfollowed : second.followed topic = first.followed topic)
    (hawaited : second.Awaited topic ↔ first.Awaited topic)
    (hreplaying : first.Replaying topic → second.Replaying topic)
  /-- A call asks for it. -/
  | begun {message : Json} (hstarts : topic.startedBy message)
    (hask : second.askings base topic = first.askings base topic ++ [message])
    (hawaited : second.Awaited topic)
  /-- It has one more subscriber. -/
  | listed (hask : second.askings base topic = first.askings base topic)
    (hfollowed : second.followed topic = true)
    (hbefore : first.Awaited topic ∨ first.followed topic)
    (hawaited : second.Awaited topic → first.Awaited topic)
    (hreplaying : first.Replaying topic → second.Replaying topic)
  /-- Its last subscriber leaves. -/
  | ended {message : Json} (hends : topic.endedBy message)
    (hask : second.askings base topic = first.askings base topic ++ [message])
    (hfollowed : second.followed topic = false)
    (hawaited : second.Awaited topic → first.Awaited topic)
  /-- A replay asks for it. -/
  | replayed {message : Json} (hstarts : topic.startedBy message)
    (hask : second.askings base topic = first.askings base topic ++ [message])
    (hfollowed : second.followed topic = first.followed topic) (hreplay : isReplay)

theorem Change.mono {isReplay isReplay' : Prop} (h : Change base topic isReplay first second)
    (himp : isReplay → isReplay') : Change base topic isReplay' first second := by
  cases h with
  | same hask hfollowed hawaited hreplaying => exact .same hask hfollowed hawaited hreplaying
  | begun hstarts hask hawaited => exact .begun hstarts hask hawaited
  | listed hask hfollowed hbefore hawaited hreplaying =>
    exact .listed hask hfollowed hbefore hawaited hreplaying
  | ended hends hask hfollowed hawaited => exact .ended hends hask hfollowed hawaited
  | replayed hstarts hask hfollowed hreplay => exact .replayed hstarts hask hfollowed (himp hreplay)

/-- How the last message about a topic fits its subscribers, up to two cases. -/
structure Served (base : Nat) (topic : Topic) (overtaken belated : Prop) (link : Link) : Prop where
  followed : link.followed topic = true →
    link.AskedFor base topic ∨ link.Replaying topic ∨ overtaken
  unfollowed : link.followed topic = false → link.AskedFor base topic →
    link.Awaited topic ∨ belated
  awaited : link.Awaited topic → link.AskedFor base topic ∨ overtaken

theorem askedFor_of_append {message : Json} (hstarts : topic.startedBy message)
    (hask : second.askings base topic = first.askings base topic ++ [message]) :
    second.AskedFor base topic :=
  ⟨message, by simp [hask], hstarts⟩

theorem askedFor_congr (hask : second.askings base topic = first.askings base topic) :
    second.AskedFor base topic ↔ first.AskedFor base topic := by
  unfold AskedFor
  rw [hask]

/-- A change keeps the messages fitting. If the last message is new, it overtook a call that
waited, or a replay was late. -/
theorem Change.served {isReplay overtaken belated : Prop}
    (hchange : Change base topic isReplay first second)
    (h : Served base topic overtaken belated first) :
    Served base topic
      (second.askings base topic = first.askings base topic ∧ overtaken ∨
        second.askings base topic ≠ first.askings base topic ∧ first.Awaited topic)
      (second.askings base topic = first.askings base topic ∧ belated ∨
        second.askings base topic ≠ first.askings base topic ∧ isReplay ∧
          first.followed topic = false)
      second := by
  have hnew : ∀ {message : Json},
      second.askings base topic = first.askings base topic ++ [message] →
      second.askings base topic ≠ first.askings base topic := by
    intro message heq hsame
    rw [heq] at hsame
    simpa using congrArg List.length hsame
  cases hchange with
  | same hask hfollowed hawaited hreplaying =>
    have hasked := askedFor_congr hask
    refine ⟨fun hf => ?_, fun hf ha => ?_, fun ha => ?_⟩
    · rcases h.followed (hfollowed ▸ hf) with hold | hold | hold
      · exact .inl (hasked.mpr hold)
      · exact .inr (.inl (hreplaying hold))
      · exact .inr (.inr (.inl ⟨hask, hold⟩))
    · rcases h.unfollowed (hfollowed ▸ hf) (hasked.mp ha) with hold | hold
      · exact .inl (hawaited.mpr hold)
      · exact .inr (.inl ⟨hask, hold⟩)
    · rcases h.awaited (hawaited.mp ha) with hold | hold
      · exact .inl (hasked.mpr hold)
      · exact .inr (.inl ⟨hask, hold⟩)
  | begun hstarts hask hawaited =>
    have hasked := askedFor_of_append hstarts hask
    exact ⟨fun _ => .inl hasked, fun _ _ => .inl hawaited, fun _ => .inl hasked⟩
  | listed hask hfollowed hbefore hawaited hreplaying =>
    have hasked := askedFor_congr hask
    refine ⟨fun _ => ?_, fun hf => ?_, fun ha => ?_⟩
    · rcases hbefore with hbefore | hbefore
      · rcases h.awaited hbefore with hold | hold
        · exact .inl (hasked.mpr hold)
        · exact .inr (.inr (.inl ⟨hask, hold⟩))
      · rcases h.followed hbefore with hold | hold | hold
        · exact .inl (hasked.mpr hold)
        · exact .inr (.inl (hreplaying hold))
        · exact .inr (.inr (.inl ⟨hask, hold⟩))
    · simp [hfollowed] at hf
    · rcases h.awaited (hawaited ha) with hold | hold
      · exact .inl (hasked.mpr hold)
      · exact .inr (.inl ⟨hask, hold⟩)
  | ended hends hask hfollowed hawaited =>
    refine ⟨fun hf => ?_, fun _ ha => ?_, fun ha => .inr (.inr ⟨hnew hask, hawaited ha⟩)⟩
    · simp [hfollowed] at hf
    · obtain ⟨last, hlast, hstarts⟩ := ha
      rw [hask, List.getLast?_append, List.getLast?_singleton, Option.some_or,
        Option.some.injEq] at hlast
      subst hlast
      simp [Topic.not_startedBy_of_endedBy hends] at hstarts
  | replayed hstarts hask hfollowed hreplay =>
    have hasked := askedFor_of_append hstarts hask
    refine ⟨fun _ => .inl hasked, fun hf _ => .inr (.inr ⟨hnew hask, hreplay, hfollowed ▸ hf⟩),
      fun _ => .inl hasked⟩

/-! ### Changes by tasks -/

/-- The call asks for subscriptions in no other way than through the session. -/
def isCalmCall : Call → Prop
  | .follow _ _ _ _ | .unfollow _ _ _ _ => False
  | .request method _ _ => isOther method
  | _ => True

/-- Where such calls stand. -/
def isCalmStage : Stage → Prop
  | .fresh call => isCalmCall call
  | .following _ _ _ => False
  | _ => True

theorem isCalmStage_of_isAside {stage : Stage} (h : isAside (.call stage)) : isCalmStage stage := by
  cases stage with
  | fresh call => simp [isAside] at h
  | following number method handler => simp [isAside] at h
  | _ => trivial

/-- What a run of a task does. -/
structure Proceeds (id base : Nat) (isReplay : Prop) (first second : Link) : Prop where
  beside : ∃ asks, Beside id asks first second
  own : ∀ stage, second.task? id = some (.call stage) → isCalmStage stage
  change : ∀ topic, Change base topic isReplay first second

variable {isReplay : Prop}

theorem not_awaitsTopic_of_isAside
    (h : ∀ task, link.task? id = some task → isAside task) : ¬ link.AwaitsTopic id topic := by
  rintro ⟨number, handler, tracking, htask⟩
  have haside := h _ htask
  simp [isAside] at haside

theorem Quiet.change (h : Quiet id first second) (hbase : base ≤ first.sent.length)
    (hawaits : ¬ first.AwaitsTopic id topic) (hreplays : ¬ first.ReplaysTopic id topic) :
    Change base topic isReplay first second := by
  have hask := h.beside.askings hbase topic
  rw [List.filter_nil, List.append_nil] at hask
  have hown : ¬ second.AwaitsTopic id topic := by
    rintro ⟨number, handler, tracking, htask⟩
    rcases h.own _ htask with haside | hsame
    · simp [isAside] at haside
    · exact hawaits ⟨number, handler, tracking, hsame⟩
  refine .same hask (by rw [followed, followed, h.table]) ⟨?_, ?_⟩ ?_
  · exact h.beside.awaited fun hw => absurd hw hown
  · exact h.beside.awaited_kept fun hw => absurd hw hawaits
  · exact h.beside.replaying fun hw => absurd hw hreplays

theorem Settled.change {gained : Topic → Bool} (h : Settled id gained first second)
    (hbase : base ≤ first.sent.length)
    (hgained : gained topic → first.AwaitsTopic id topic ∨ first.followed topic)
    (hawaits : first.AwaitsTopic id topic → gained topic)
    (hreplays : ¬ first.ReplaysTopic id topic) : Change base topic isReplay first second := by
  have hown : ¬ second.AwaitsTopic id topic := not_awaitsTopic_of_isAside h.own
  -- If the topic is not given up, it gained a subscriber or nothing happened.
  have hkept : ∀ {asks : List Json}, Beside id asks first second →
      asks.filter topic.concernedBy = [] →
      second.followed topic = (first.followed topic || gained topic) →
      Change base topic isReplay first second := by
    intro asks hbeside hnone hfollowed
    have hask := hbeside.askings hbase topic
    rw [hnone, List.append_nil] at hask
    have hawaited := hbeside.awaited fun hw => absurd hw hown
    have hreplaying := hbeside.replaying fun hw => absurd hw hreplays
    by_cases hgain : gained topic
    · refine .listed hask (by simp [hfollowed, hgain]) ?_ hawaited hreplaying
      rcases hgained hgain with hawaits | hbefore
      · exact .inl ⟨id, hawaits⟩
      · exact .inr hbefore
    · refine .same hask (by simp [hfollowed, hgain]) ⟨hawaited, ?_⟩ hreplaying
      exact hbeside.awaited_kept fun hw => absurd (hawaits hw) hgain
  rcases h.books with ⟨hbeside, hfollowed⟩ | ⟨given, message, hends, hbeside, hgiven, hfollowed⟩
  · exact hkept hbeside rfl (hfollowed topic)
  · have hconcerns : given.concernedBy message := Bool.or_eq_true_iff.mpr (.inr hends)
    by_cases heq : topic = given
    · subst heq
      have hask := hbeside.askings hbase topic
      rw [List.filter_cons_of_pos hconcerns, List.filter_nil] at hask
      exact .ended hends hask hgiven (hbeside.awaited fun hw => absurd hw hown)
    · refine hkept hbeside ?_ (hfollowed topic heq)
      have hnot : ¬ topic.concernedBy message :=
        fun hc => heq (Topic.concernedBy_unique hc hconcerns)
      rw [List.filter_cons_of_neg hnot, List.filter_nil]

theorem Quiet.proceeds (h : Quiet id first second) (hbase : base ≤ first.sent.length)
    (hcalm : ∀ stage, first.task? id = some (.call stage) → isCalmStage stage)
    (hawaits : ∀ topic, ¬ first.AwaitsTopic id topic)
    (hreplays : ∀ topic, ¬ first.ReplaysTopic id topic) :
    Proceeds id base isReplay first second := by
  refine ⟨⟨[], h.beside⟩, fun stage htask => ?_, fun topic =>
    h.change hbase (hawaits topic) (hreplays topic)⟩
  rcases h.own _ htask with haside | hsame
  · exact isCalmStage_of_isAside haside
  · exact hcalm stage hsame

theorem Settled.proceeds {gained : Topic → Bool} (h : Settled id gained first second)
    (hbase : base ≤ first.sent.length)
    (hgained : ∀ topic, gained topic → first.AwaitsTopic id topic ∨ first.followed topic)
    (hawaits : ∀ topic, first.AwaitsTopic id topic → gained topic)
    (hreplays : ∀ topic, ¬ first.ReplaysTopic id topic) :
    Proceeds id base isReplay first second := by
  refine ⟨?_, fun stage htask => isCalmStage_of_isAside (h.own _ htask), fun topic =>
    h.change hbase (hgained topic) (hawaits topic) (hreplays topic)⟩
  rcases h.books with ⟨hbeside, _⟩ | ⟨_, message, _, hbeside, _⟩
  · exact ⟨[], hbeside⟩
  · exact ⟨[message], hbeside⟩

/-- A request for a topic: it concerns this topic, and no other. -/
theorem filter_request (topic other : Topic) (text : String) :
    ([Message.request text Message.subscribeMethod (some topic.params)].filter
      Message.isAsking).filter other.concernedBy =
      if other = topic then
        [Message.request text Message.subscribeMethod (some topic.params)]
      else [] := by
  have hconcerns : topic.concernedBy
      (Message.request text Message.subscribeMethod (some topic.params)) :=
    Bool.or_eq_true_iff.mpr (.inl (topic.startedBy_request text))
  rw [List.filter_cons_of_pos (Topic.isAsking_of_concernedBy hconcerns), List.filter_nil]
  split
  next heq => rw [heq, List.filter_cons_of_pos hconcerns, List.filter_nil]
  next hne =>
    have hnot : ¬ other.concernedBy
        (Message.request text Message.subscribeMethod (some topic.params)) :=
      fun hc => hne (Topic.concernedBy_unique hc hconcerns)
    rw [List.filter_cons_of_neg hnot, List.filter_nil]

/-- A request that was just sent is not answered, and has changed no task and no table. -/
theorem request_facts (hreliable : link.Reliable) (hnumbered : link.Numbered) (method : String)
    (params : Option Json) :
    (link.request method params).2.answer? (link.request method params).1 = none ∧
      (∀ other, (link.request method params).2.task? other = link.task? other) ∧
      (link.request method params).2.session = link.session := by
  obtain ⟨t, hc, hfail⟩ := hreliable
  rw [request_reliable hc hfail]
  exact ⟨hnumbered.unanswered, fun _ => rfl, rfl⟩

/-- The first subscriber of a topic: its call asks, and waits. -/
theorem proceeds_ask (subscription : Subscription) (tracking : Option WorkspaceId) {mid : Link}
    {old : Task} (hmid : Beside id [] link mid) (hsession : mid.session = link.session)
    (htask : mid.task? id = some old) (hbase : base ≤ link.sent.length)
    (hawaits : ∀ topic, ¬ link.AwaitsTopic id topic)
    (hreplays : ∀ topic, ¬ link.ReplaysTopic id topic) :
    let asked := mid.request Message.subscribeMethod (some subscription.topic.params)
    Proceeds id base isReplay link
      (asked.2.awaitSubscription id asked.1 subscription tracking) := by
  intro asked
  obtain ⟨hnone, htasks, hsame⟩ := request_facts hmid.reliable hmid.numbered
    Message.subscribeMethod (some subscription.topic.params)
  have hawait : asked.2.awaitSubscription id asked.1 subscription tracking =
      asked.2.setTask id (.call (.subscribing asked.1 subscription tracking)) := by
    simp only [awaitSubscription, asked, hnone]
  have hown : (asked.2.setTask id (.call (.subscribing asked.1 subscription tracking))).task? id =
      some (.call (.subscribing asked.1 subscription tracking)) := by
    rw [task?_setTask, if_pos rfl, htasks, htask]
    rfl
  have hbeside := (hmid.request Message.subscribeMethod (some subscription.topic.params)).setTask
    (.call (.subscribing asked.1 subscription tracking))
  rw [hawait]
  refine ⟨⟨_, hbeside⟩, fun stage htask => ?_, fun topic => ?_⟩
  · rw [hown, Option.some.injEq, Task.call.injEq] at htask
    rw [← htask]
    trivial
  have hask := hbeside.askings hbase topic
  rw [List.nil_append, filter_request] at hask
  by_cases heq : topic = subscription.topic
  · rw [if_pos heq] at hask
    refine .begun ?_ hask ⟨id, asked.1, subscription.handler, tracking, ?_⟩
    · rw [heq]
      exact subscription.topic.startedBy_request _
    · rw [heq]
      exact hown
  · rw [if_neg heq, List.append_nil] at hask
    refine .same hask ?_ ⟨?_, ?_⟩ ?_
    · exact followed_congr (hsame.trans hsession) topic
    · refine hbeside.awaited ?_
      rintro ⟨_, _, _, hother⟩
      rw [hown] at hother
      simp only [Option.some.injEq, Task.call.injEq, Stage.subscribing.injEq] at hother
      exact absurd (congrArg Subscription.topic hother.2.1).symm heq
    · exact hbeside.awaited_kept fun hw => absurd hw (hawaits topic)
    · exact hbeside.replaying fun hw => absurd hw (hreplays topic)

theorem proceeds_beginSubscription (h : link.Working) {call : Call}
    (htask : link.task? id = some (.call (.fresh call))) (hbase : base ≤ link.sent.length)
    (subscribed : Topic) (subscriber : Subscriber) (tracking : Option WorkspaceId) :
    Proceeds id base isReplay link
      (link.beginSubscription id subscribed subscriber tracking) := by
  have hawaits : ∀ topic, ¬ link.AwaitsTopic id topic := by
    rintro topic ⟨_, _, _, heq⟩
    simp [htask] at heq
  have hreplays : ∀ topic, ¬ link.ReplaysTopic id topic := by
    rintro topic ⟨_, _, heq, _⟩
    simp [htask] at heq
  let added := link.addHandler subscribed.channel.method subscriber
  have hadded : Beside id [] link added.2 := (h.beside id).withBooks
    (link.client.handlers.add subscribed.channel.method subscriber).2 h.sound
  unfold beginSubscription
  dsimp only
  split
  · exact proceeds_ask ⟨subscribed, added.1⟩ tracking hadded rfl htask hbase hawaits hreplays
  next hfollowed =>
    have hbefore : link.followed subscribed = true := by simpa [followed] using hfollowed
    have hworking : added.2.Working := h.withBooks
      (link.client.handlers.add subscribed.channel.method subscriber).2 h.sound link.waiter
    have hsettled := settled_completeSubscription hworking id ⟨subscribed, added.1⟩ tracking
    refine (hsettled.after hadded fun _ => rfl).proceeds hbase ?_ ?_ hreplays
    · intro topic hgained
      rw [of_decide_eq_true hgained]
      exact .inr hbefore
    · exact fun topic hw => absurd hw (hawaits topic)

/-- The call of a topic's first subscriber goes on: its request was confirmed, or it waits. -/
theorem proceeds_awaitSubscription (h : link.Working) {number : Nat} {subscription : Subscription}
    {tracking : Option WorkspaceId}
    (htask : link.task? id = some (.call (.subscribing number subscription tracking)))
    (hconfirmed : ∀ error, link.answer? number ≠ some (.error error))
    (hbase : base ≤ link.sent.length) :
    Proceeds id base isReplay link
      (link.awaitSubscription id number subscription tracking) := by
  have hreplays : ∀ topic, ¬ link.ReplaysTopic id topic := by
    rintro topic ⟨_, _, heq, _⟩
    simp [htask] at heq
  unfold awaitSubscription
  split
  · have hforgot : Beside id [] link (link.forget number) := (h.beside id).forget number
    have hworking : (link.forget number).Working :=
      ⟨h.connected, hforgot.reliable, hforgot.numbered, h.sound⟩
    have hsettled := settled_completeSubscription hworking id subscription tracking
    refine (hsettled.after hforgot fun _ => rfl).proceeds hbase ?_ ?_ hreplays
    · intro topic hgained
      refine .inl ⟨number, subscription.handler, tracking, ?_⟩
      rw [of_decide_eq_true hgained]
      exact htask
    · rintro topic ⟨_, _, _, heq⟩
      rw [htask] at heq
      simp only [Option.some.injEq, Task.call.injEq, Stage.subscribing.injEq] at heq
      simp [heq.2.1]
  next error hanswer => exact absurd hanswer (hconfirmed error)
  · have hbeside := (h.beside id).setTask (.call (.subscribing number subscription tracking))
    have hown : (link.setTask id (.call (.subscribing number subscription tracking))).task? id =
        link.task? id := by
      rw [task?_setTask, if_pos rfl, htask]
      rfl
    refine ⟨⟨[], hbeside⟩, fun stage heq => ?_, fun topic => ?_⟩
    · rw [hown, htask, Option.some.injEq, Task.call.injEq] at heq
      rw [← heq]
      trivial
    have hask := hbeside.askings hbase topic
    rw [List.filter_nil, List.append_nil] at hask
    have hawaits : (link.setTask id (.call (.subscribing number subscription tracking))).AwaitsTopic
        id topic ↔ link.AwaitsTopic id topic := by
      unfold AwaitsTopic
      rw [hown]
    exact .same hask rfl ⟨hbeside.awaited hawaits.mp, hbeside.awaited_kept hawaits.mpr⟩
      (hbeside.replaying fun hw => absurd hw (hreplays topic))

/-! ### Replays -/

theorem proceeds_replayFrom {mid : Link} {current : Option (Nat × Topic)} {rest : List Topic}
    (hmid : Beside id [] link mid) (hsession : mid.session = link.session)
    (htask : mid.task? id = some (.replay current rest))
    (hbefore : link.task? id = some (.replay current rest)) (hbase : base ≤ link.sent.length) :
    Proceeds id base True link (mid.replayFrom id rest) := by
  have hawaits : ∀ topic, ¬ link.AwaitsTopic id topic := by
    rintro topic ⟨_, _, _, heq⟩
    simp [hbefore] at heq
  cases rest with
  | nil =>
    have hbeside : Beside id [] link (mid.endTask id) := by
      refine hmid.of_tasks rfl rfl rfl rfl fun other task hne _ => ?_
      rw [task?_endTask, if_neg hne]
    have hgone : (mid.endTask id).task? id = none := by simp [task?_endTask]
    refine ⟨⟨[], hbeside⟩, fun stage heq => ?_, fun topic => ?_⟩
    · exact absurd (hgone.symm.trans heq) (by simp)
    have hask := hbeside.askings hbase topic
    rw [List.filter_nil, List.append_nil] at hask
    refine .same hask (followed_congr hsession topic)
      ⟨hbeside.awaited ?_, hbeside.awaited_kept fun hw => absurd hw (hawaits topic)⟩
      (hbeside.replaying ?_)
    · rintro ⟨_, _, _, heq⟩
      simp [hgone] at heq
    · rintro ⟨_, _, heq, hmem⟩
      rw [hbefore, Option.some.injEq, Task.replay.injEq] at heq
      simp [← heq.2] at hmem
  | cons next rest =>
    obtain ⟨hnone, htasks, hsame⟩ := request_facts hmid.reliable hmid.numbered
      Message.subscribeMethod (some next.params)
    let asked := mid.request Message.subscribeMethod (some next.params)
    have hrun : mid.replayFrom id (next :: rest) =
        asked.2.setTask id (.replay (some (asked.1, next)) rest) := by
      simp only [replayFrom, asked, hnone]
    have hown : (asked.2.setTask id (.replay (some (asked.1, next)) rest)).task? id =
        some (.replay (some (asked.1, next)) rest) := by
      rw [task?_setTask, if_pos rfl, htasks, htask]
      rfl
    have hbeside := (hmid.request Message.subscribeMethod (some next.params)).setTask
      (.replay (some (asked.1, next)) rest)
    rw [hrun]
    refine ⟨⟨_, hbeside⟩, fun stage heq => ?_, fun topic => ?_⟩
    · exact absurd (hown.symm.trans heq) (by simp)
    have hask := hbeside.askings hbase topic
    have hfollowed := followed_congr (hsame.trans hsession) topic
    rw [List.nil_append, filter_request] at hask
    by_cases heq : topic = next
    · rw [if_pos heq] at hask
      refine .replayed ?_ hask hfollowed trivial
      rw [heq]
      exact next.startedBy_request _
    · rw [if_neg heq, List.append_nil] at hask
      refine .same hask hfollowed
        ⟨hbeside.awaited ?_, hbeside.awaited_kept fun hw => absurd hw (hawaits topic)⟩
        (hbeside.replaying ?_)
      · rintro ⟨_, _, _, hother⟩
        exact absurd (hown.symm.trans hother) (by simp)
      · rintro ⟨_, _, hother, hmem⟩
        rw [hbefore, Option.some.injEq, Task.replay.injEq] at hother
        rw [← hother.2, List.mem_cons] at hmem
        exact ⟨_, rest, hown, hmem.resolve_left heq⟩

theorem proceeds_runReplay (h : link.Working) {current : Option (Nat × Topic)} {rest : List Topic}
    (htask : link.task? id = some (.replay current rest)) (hbase : base ≤ link.sent.length) :
    Proceeds id base True link (link.runReplay id current rest) := by
  have hstart := h.beside id
  unfold runReplay
  split
  · exact proceeds_replayFrom hstart rfl htask htask hbase
  next number replayed =>
    split
    next answer _ =>
      have hnoted : Beside id [] link (link.noteReplay number replayed answer) := by
        have hforgot := hstart.forget number
        cases answer with
        | ok value => exact hforgot
        | error error => exact hforgot.of_tasks rfl rfl rfl rfl fun _ _ _ _ => Iff.rfl
      refine proceeds_replayFrom hnoted ?_ ?_ htask hbase
      · cases answer <;> rfl
      · cases answer <;> exact htask
    next =>
      refine ⟨⟨[], hstart⟩, fun stage heq => ?_, fun topic => .same rfl rfl Iff.rfl fun h => h⟩
      simp [htask] at heq

end Link

end WorkspaceLink
