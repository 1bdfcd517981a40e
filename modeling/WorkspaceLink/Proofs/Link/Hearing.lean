import WorkspaceLink.Proofs.Link.Provenance
import WorkspaceLink.Proofs.Link.Waits
import WorkspaceLink.Proofs.Rpc.Notices

/-!
# What subscribers come to hear

Subscribers hear what arrives over the transport and nothing else. `emitAll_notes`,
`emitAll_waiter` and `emitAll_statuses` say what events make of the notes, of the status waiter and
of the waits that ended. Events without a message make nothing of them, and most of what happens to
a link brings no message: such a beat leaves users and the status waiter alone, except for what the
call that runs has to do with the waiter (`Hushed`).
-/
namespace WorkspaceLink

namespace StatusWaiter

variable {w : StatusWaiter}

theorem lookup_setTracked (workspace other : WorkspaceId) (subscription : Subscription) :
    (w.setTracked workspace subscription).2.tracked.lookup other =
      if other = workspace then some subscription else w.tracked.lookup other := by
  simp only [setTracked, List.lookup_cons]
  by_cases h : other = workspace
  · simp [h]
  · have hne : (other == workspace) = false := by simpa using h
    rw [if_neg h]
    simp only [hne]
    exact (lookup_filter_ne workspace other w.tracked).trans (if_neg h)

theorem isTracked_setTracked {workspace other : WorkspaceId} (subscription : Subscription)
    (h : w.isTracked other) : (w.setTracked workspace subscription).2.isTracked other := by
  rw [isTracked, lookup_setTracked]
  split
  · rfl
  · exact h

end StatusWaiter

/-- What a subscriber notes of a notification. -/
def Subscriber.note? (subscriber : Subscriber) (params : Json) : Option Note :=
  (subscriber.selection.accept? params).bind fun event =>
    match subscriber.sink with
    | .record label => some (.event label event.toJson)
    | .print => some (.line event.line)
    | .waiter => none

/-- What the status waiter learns from a subscriber that hears a notification. -/
def Subscriber.heeds? (subscriber : Subscriber) (params : Json) : Option WorkspaceStatusEvent :=
  (subscriber.selection.accept? params).bind fun event =>
    match subscriber.sink, event with
    | .waiter, .workspaceStatus event => some event
    | _, _ => none

/-- The status waiter takes in an event; the waits that end with it are added to those that
ended. -/
def StatusWaiter.learn (state : StatusWaiter × StatusWaiter.Settled)
    (event : WorkspaceStatusEvent) : StatusWaiter × StatusWaiter.Settled :=
  ((state.1.handle event).1, state.2 ++ (state.1.handle event).2)

namespace Link

variable {link first second third : Link} {id : Nat} {task : Task}

/-! ### Who listens -/

/-- The client hears every event but the opening, the session the opening and the close, and nobody
else listens. -/
def Attached (link : Link) : Prop :=
  ∀ kind, link.listeners.handlers kind =
    match kind with
    | .opened => [.session]
    | .closed => [.client, .session]
    | _ => [.client]

theorem attached_withSession (carrier : Carrier) (config : SessionConfig) :
    (withSession carrier config).Attached := by
  intro kind
  cases kind <;> rfl

theorem Attached.congr (h : first.Attached) (heq : second.listeners = first.listeners) :
    second.Attached := by
  intro kind
  rw [heq]
  exact h kind

/-! ### What events make of a view -/

/-- A view of a link that changes, step by step, with what subscribers get out of notifications, and
that depends neither on the client nor on what waits to be handled. -/
structure Overhears {α β : Type} (view : Link → α) (gets : Subscriber → Json → Option β)
    (step : α → β → α) : Prop where
  hear : ∀ subscriber params link,
    view (hear subscriber params link) = (gets subscriber params).toList.foldl step (view link)
  rest : ∀ (link : Link) client inputs answers woken,
    view { link with client, inputs, answers, woken } = view link

section

variable {α β : Type} {view : Link → α} {gets : Subscriber → Json → Option β} {step : α → β → α}

/-- What the subscribers of its method get out of a notification. -/
def gotten (gets : Subscriber → Json → Option β) (handlers : Registry String Subscriber)
    (notice : Notice) : List β :=
  (handlers.handlers notice.method).filterMap (gets · notice.params)

theorem clientHears_client (event : TransportEvent) (link : Link) :
    (link.clientHears event).client =
      link.client.withPending (event.leaves link.client.pending) := by
  have hinvoke : ∀ subscriber params state, (host.invoke subscriber params state).1 = state.1 :=
    fun _ _ _ => rfl
  exact Client.after_hear hinvoke event (link.client, link)

theorem respond_eq (handlers : Registry String Subscriber) (a : α) (notice : Notice) :
    Client.respond (fun subscriber params a => (gets subscriber params).toList.foldl step a)
      handlers a notice = (gotten gets handlers notice).foldl step a := by
  rw [gotten, List.foldl_filterMap]
  unfold Client.respond Registry.dispatch
  congr 1
  funext a subscriber
  dsimp only
  cases gets subscriber notice.params <;> rfl

theorem Overhears.clientHears (h : Overhears view gets step) (event : TransportEvent)
    (link : Link) :
    view (link.clientHears event) =
      ((event.notices link.client.pending).flatMap
        (gotten gets link.client.handlers)).foldl step (view link) := by
  let heard := Client.hear host event (link.client, link)
  have hinvoke : ∀ subscriber params state, (host.invoke subscriber params state).1 = state.1 :=
    fun _ _ _ => rfl
  have hheard := Client.hear_view hinvoke view
    (fun subscriber params a => (gets subscriber params).toList.foldl step a)
    (fun subscriber params state => h.hear subscriber params state.2)
    (fun number answer link => h.rest link link.client link.inputs _ _) event (link.client, link)
  have hput := h.rest heard.2 heard.1 heard.2.inputs heard.2.answers heard.2.woken
  rw [List.foldl_flatMap]
  simp only [← respond_eq]
  exact hput.trans hheard

theorem Overhears.sessionHears (h : Overhears view gets step) (event : TransportEvent)
    (link : Link) : view (link.sessionHears event) = view link := by
  cases event with
  | opened => exact h.rest link link.client _ link.answers _
  | closed code reason => exact h.rest link link.client _ link.answers _
  | _ => rfl

theorem sessionHears_client (event : TransportEvent) (link : Link) :
    (link.sessionHears event).client = link.client := by
  cases event <;> rfl

/-- What an event does, by who listens to it. -/
theorem Attached.emit_eq (h : link.Attached) (event : TransportEvent) :
    link.emit event =
      match event with
      | .opened => link.sessionHears .opened
      | .closed _ _ => (link.clientHears event).sessionHears event
      | _ => link.clientHears event := by
  unfold Link.emit Registry.dispatch
  rw [h]
  cases event <;> rfl

theorem Attached.emit_client (h : link.Attached) (event : TransportEvent) :
    (link.emit event).client = link.client.withPending (event.leaves link.client.pending) := by
  rw [h.emit_eq]
  cases event with
  | opened => exact (Client.withPending_filter (by simp [TransportEvent.verdict?])).symm
  | closed code reason => exact (sessionHears_client _ _).trans (clientHears_client _ link)
  | failed reason => exact clientHears_client _ link
  | sendFailed id reason => exact clientHears_client _ link
  | received message => exact clientHears_client _ link
  | reset => exact clientHears_client _ link

theorem Attached.emit_view (hlink : link.Attached) (h : Overhears view gets step)
    (event : TransportEvent) :
    view (link.emit event) =
      ((event.notices link.client.pending).flatMap
        (gotten gets link.client.handlers)).foldl step (view link) := by
  rw [hlink.emit_eq]
  cases event with
  | opened => exact h.sessionHears .opened link
  | closed code reason => exact (h.sessionHears _ _).trans (h.clientHears _ link)
  | failed reason => exact h.clientHears _ link
  | sendFailed id reason => exact h.clientHears _ link
  | received message => exact h.clientHears _ link
  | reset => exact h.clientHears _ link

/-- What subscribers get out of events, in order: from each notification as it arrives, the
subscribers of its method in order of registration. -/
def yield (gets : Subscriber → Json → Option β) (events : List TransportEvent) (link : Link) :
    List β :=
  (TransportEvent.allNotices link.client.pending events).flatMap (gotten gets link.client.handlers)

theorem emitAll_listeners (events : List TransportEvent) (link : Link) :
    (link.emitAll events).listeners = link.listeners :=
  (congrArg Link.listeners (emitAll_scenery events link) :)

/-- A view after events. -/
theorem Attached.emitAll_view (hlink : link.Attached) (h : Overhears view gets step)
    (events : List TransportEvent) :
    view (link.emitAll events) = (link.yield gets events).foldl step (view link) := by
  induction events generalizing link with
  | nil => rfl
  | cons event rest ih =>
    have hemitted : (link.emit event).Attached :=
      hlink.congr (congrArg Link.listeners (emit_scenery event link) :)
    have hrest := ih hemitted
    rw [yield, hlink.emit_client event, hlink.emit_view h event] at hrest
    rw [yield, TransportEvent.allNotices, List.flatMap_append, List.foldl_append]
    exact hrest

end

/-! ### Notes and the status waiter -/

/-- What the subscribers note of events. -/
def noted (events : List TransportEvent) (link : Link) : List Note :=
  link.yield Subscriber.note? events

/-- What the status waiter learns from events. -/
def heeded (events : List TransportEvent) (link : Link) : List WorkspaceStatusEvent :=
  link.yield Subscriber.heeds? events

theorem settleStatuses_notes (settled : StatusWaiter.Settled) (link : Link) :
    (settleStatuses settled link).notes = link.notes := by
  unfold settleStatuses
  induction settled generalizing link with
  | nil => rfl
  | cons entry rest ih => exact ih _

theorem settleStatuses_waiter (settled : StatusWaiter.Settled) (link : Link) :
    (settleStatuses settled link).waiter = link.waiter := by
  unfold settleStatuses
  induction settled generalizing link with
  | nil => rfl
  | cons entry rest ih => exact ih _

theorem settleStatuses_statuses (settled : StatusWaiter.Settled) (link : Link) :
    (settleStatuses settled link).statuses = link.statuses ++ settled := by
  unfold settleStatuses
  induction settled generalizing link with
  | nil => simp
  | cons entry rest ih =>
    refine (ih _).trans ?_
    simp [raise]

theorem hear_notes (subscriber : Subscriber) (params : Json) (link : Link) :
    (link.hear subscriber params).notes = link.notes ++ (subscriber.note? params).toList := by
  obtain ⟨selection, sink⟩ := subscriber
  unfold hear Subscriber.note?
  cases selection.accept? params with
  | none => simp
  | some event =>
    cases sink with
    | record label => rfl
    | print => rfl
    | waiter =>
      cases event with
      | workspaceStatus event =>
        simp only [Option.bind_some, Option.toList_none, List.append_nil]
        exact settleStatuses_notes _ _
      | _ => simp [deliver]

theorem hear_waiter (subscriber : Subscriber) (params : Json) (link : Link) :
    ((link.hear subscriber params).waiter, (link.hear subscriber params).statuses) =
      (subscriber.heeds? params).toList.foldl StatusWaiter.learn (link.waiter, link.statuses) := by
  obtain ⟨selection, sink⟩ := subscriber
  unfold hear Subscriber.heeds?
  cases selection.accept? params with
  | none => rfl
  | some event =>
    cases sink with
    | record label => rfl
    | print => rfl
    | waiter =>
      cases event with
      | workspaceStatus event =>
        simp only [deliver, noteStatus, settleStatuses_waiter, settleStatuses_statuses]
        rfl
      | _ => rfl

theorem Attached.emitAll_notes (h : link.Attached) (events : List TransportEvent) :
    (link.emitAll events).notes = link.notes ++ link.noted events := by
  have hview : Overhears Link.notes Subscriber.note? (fun notes note => notes ++ [note]) := by
    refine ⟨fun subscriber params link => ?_, fun _ _ _ _ _ => rfl⟩
    rw [hear_notes]
    cases subscriber.note? params <;> simp
  rw [h.emitAll_view hview, noted, List.foldl_append_eq_append, ← List.flatMap_def,
    List.flatMap_singleton']

theorem Attached.emitAll_waiter (h : link.Attached) (events : List TransportEvent) :
    ((link.emitAll events).waiter, (link.emitAll events).statuses) =
      (link.heeded events).foldl StatusWaiter.learn (link.waiter, link.statuses) := by
  have hview : Overhears (fun link : Link => (link.waiter, link.statuses)) Subscriber.heeds?
      StatusWaiter.learn :=
    ⟨hear_waiter, fun _ _ _ _ _ => rfl⟩
  exact h.emitAll_view hview events

/-! ### What nobody hears -/

/-- No message is among the events. -/
def Wordless (events : List TransportEvent) : Prop := ∀ message, .received message ∉ events

theorem Wordless.allNotices {events : List TransportEvent} (h : Wordless events)
    (pending : List Nat) : TransportEvent.allNotices pending events = [] := by
  induction events generalizing pending with
  | nil => rfl
  | cons event rest ih =>
    have hrest : Wordless rest := fun message hmem => h message (List.mem_cons_of_mem _ hmem)
    have hnone : event.notices pending = [] := by
      cases event with
      | received message => exact absurd List.mem_cons_self (h message)
      | _ => rfl
    rw [TransportEvent.allNotices, hnone, ih hrest, List.nil_append]

def isMessage : TransportEvent → Bool
  | .received _ => true
  | _ => false

/-- The task does not announce a message later on. -/
def isWordless : Task → Bool
  | .delivery delivery => delivery.events.all fun event => !isMessage event
  | _ => true

theorem isWordless_delivery {delivery : Delivery} :
    isWordless (.delivery delivery) ↔ Wordless delivery.events := by
  simp only [isWordless, List.all_eq_true]
  constructor
  · intro h message hmem
    simpa [isMessage] using h _ hmem
  · intro h event hmem
    cases event with
    | received message => exact absurd hmem (h message)
    | _ => rfl

/-- No message is put off. -/
def Prompt (link : Link) : Prop := ∀ entry ∈ link.tasks, isWordless entry.2

/-- Nobody hears anything, and all that happens to the status waiter is what may. -/
structure Hushed (may : Dealing → Prop) (first second : Link) : Prop where
  listeners : second.listeners = first.listeners
  notes : second.notes = first.notes
  tasks : ∀ entry ∈ second.tasks, entry ∈ first.tasks ∨ isWordless entry.2
  waiter : (∀ workspace, ¬ may (.untrack workspace)) →
    { second.waiter with tracked := [] } = { first.waiter with tracked := [] }
  tracked : (∀ workspace, ¬ may (.untrack workspace)) →
    (∀ workspace subscription, ¬ may (.track workspace subscription)) →
    second.waiter.tracked = first.waiter.tracked
  remembers : (∀ workspace, ¬ may (.untrack workspace)) → ∀ workspace,
    first.waiter.isTracked workspace → second.waiter.isTracked workspace
  statuses : (∀ workspace, ¬ may (.untrack workspace)) → ∀ entry,
    (entry ∈ second.statuses → entry ∈ first.statuses) ∧
      (¬ may (.takeStatus entry.1) → entry ∈ first.statuses → entry ∈ second.statuses)

variable {may : Dealing → Prop}

theorem Hushed.attached (h : Hushed may first second) (hfirst : first.Attached) : second.Attached :=
  hfirst.congr h.listeners

theorem Hushed.prompt (h : Hushed may first second) (hfirst : first.Prompt) : second.Prompt := by
  intro entry hmem
  rcases h.tasks entry hmem with hold | hnew
  · exact hfirst entry hold
  · exact hnew

theorem Hushed.trans (h : Hushed may first second) (h' : Hushed may second third) :
    Hushed may first third where
  listeners := h'.listeners.trans h.listeners
  notes := h'.notes.trans h.notes
  tasks entry hmem := by
    rcases h'.tasks entry hmem with hmid | hnew
    · exact h.tasks entry hmid
    · exact .inr hnew
  waiter hmay := (h'.waiter hmay).trans (h.waiter hmay)
  tracked hmay hmay' := (h'.tracked hmay hmay').trans (h.tracked hmay hmay')
  remembers hmay workspace hold := h'.remembers hmay workspace (h.remembers hmay workspace hold)
  statuses hmay entry := by
    refine ⟨fun hmem => (h.statuses hmay entry).1 ((h'.statuses hmay entry).1 hmem), ?_⟩
    intro hnot hmem
    exact (h'.statuses hmay entry).2 hnot ((h.statuses hmay entry).2 hnot hmem)

theorem Hushed.of_same (hlisteners : second.listeners = first.listeners)
    (hnotes : second.notes = first.notes)
    (htasks : ∀ entry ∈ second.tasks, entry ∈ first.tasks ∨ isWordless entry.2)
    (hwaiter : second.waiter = first.waiter) (hstatuses : second.statuses = first.statuses) :
    Hushed may first second where
  listeners := hlisteners
  notes := hnotes
  tasks := htasks
  waiter _ := by rw [hwaiter]
  tracked _ _ := by rw [hwaiter]
  remembers _ _ h := hwaiter ▸ h
  statuses _ entry := by rw [hstatuses]; exact ⟨fun h => h, fun _ h => h⟩

theorem hushed_refl (link : Link) : Hushed may link link :=
  .of_same rfl rfl (fun _ => .inl) rfl rfl

theorem hushed_spawn (h : isWordless task) (link : Link) : Hushed may link (link.spawn task) := by
  refine .of_same rfl rfl (fun entry hmem => ?_) rfl rfl
  rcases mem_spawn.mp hmem with hold | rfl
  · exact .inl hold
  · exact .inr h

theorem hushed_setTask (h : isWordless task) (id : Nat) (link : Link) :
    Hushed may link (link.setTask id task) := by
  refine .of_same rfl rfl (fun entry hmem => ?_) rfl rfl
  rcases mem_setTask hmem with ⟨hold, _⟩ | ⟨rfl, _⟩
  · exact .inl hold
  · exact .inr h

theorem hushed_endTask (id : Nat) (link : Link) : Hushed may link (link.endTask id) :=
  .of_same rfl rfl (fun _ hmem => .inl (mem_endTask.mp hmem).1) rfl rfl

/-! ### The transport -/

theorem Attached.hushed_emitAll (h : link.Attached) {events : List TransportEvent}
    (hwordless : Wordless events) : Hushed may link (link.emitAll events) := by
  have hnotices := hwordless.allNotices link.client.pending
  have hnotes := h.emitAll_notes events
  have hwaiter := h.emitAll_waiter events
  simp only [noted, heeded, yield, hnotices, List.flatMap_nil, List.append_nil, List.foldl_nil,
    Prod.mk.injEq] at hnotes hwaiter
  have htasks : (link.emitAll events).tasks = link.tasks :=
    (congrArg Link.tasks (emitAll_scenery events link) :)
  exact .of_same (emitAll_listeners events link) hnotes (fun _ hmem => .inl (htasks ▸ hmem))
    hwaiter.1 hwaiter.2

/-- The transport is in another state and emits events without a message. -/
theorem Attached.hushed_transport (h : link.Attached) (carrier : Carrier) (woken : List Nat)
    (wire : List (Nat × Json)) {events : List TransportEvent} (hwordless : Wordless events) :
    Hushed may link (emitAll events { link with carrier, woken, wire }) := by
  have hput : Hushed may link { link with carrier, woken, wire } :=
    .of_same rfl rfl (fun _ => .inl) rfl rfl
  exact hput.trans ((hput.attached h).hushed_emitAll hwordless)

theorem Attached.hushed_updateSocket (h : link.Attached) (after : Socket)
    {emissions : List Emission} (hwordless : Wordless (emissions.map (·.event))) :
    Hushed may link (link.updateSocket after emissions) := by
  obtain ⟨woken, heq⟩ := updateSocket_eq after emissions link
  rw [heq]
  exact h.hushed_transport _ woken link.wire hwordless

theorem wordless_nil : Wordless [] := fun _ => List.not_mem_nil

theorem wordless_resetIf (wasOpen : Bool) : Wordless (Scripted.resetIf wasOpen) := by
  intro message hmem
  cases wasOpen <;> simp [Scripted.resetIf] at hmem

theorem Attached.hushed_send (h : link.Attached) (message : Json) :
    Hushed may link (link.send message) := by
  unfold send
  split
  next t _ =>
    refine h.hushed_transport _ link.woken link.wire fun received hmem => ?_
    split at hmem <;> simp at hmem
  next t _ =>
    have hupdated : Hushed may link (link.updateSocket (t.send message).1 []) :=
      h.hushed_updateSocket _ wordless_nil
    dsimp only
    split
    next delivery hsent =>
      have hlater : isWordless (.delivery delivery) := isWordless_delivery.mpr
        fun received hmem => not_received_of_send hsent delivery rfl _ hmem received rfl
      exact hupdated.trans (hushed_spawn hlater _)
    next => exact hupdated

theorem Attached.hushed_request (h : link.Attached) (method : String) (params : Option Json) :
    Hushed may link (link.request method params).2 := by
  have hissued : Hushed may link { link with client := link.client.issue.2 } :=
    .of_same rfl rfl (fun _ => .inl) rfl rfl
  exact hissued.trans ((hissued.attached h).hushed_send _)

theorem Attached.hushed_disconnect (h : link.Attached) : Hushed may link link.disconnect := by
  obtain ⟨carrier, events, woken, heq, hreset, _⟩ := link.disconnect_eq
  rw [heq]
  refine h.hushed_transport carrier woken link.wire fun message hmem => ?_
  exact absurd (hreset _ hmem) (by simp)

/-! ### Calls and tasks that wait -/

theorem isWordless_of_isAside (h : isAside task) : isWordless task := by
  cases task with
  | delivery delivery => simp [isAside] at h
  | _ => rfl

theorem settleStatuses_tasks (settled : StatusWaiter.Settled) (link : Link) :
    (settleStatuses settled link).tasks = link.tasks :=
  (congrArg Link.tasks (settleStatuses_essence settled link) :)

theorem settleStatuses_listeners (settled : StatusWaiter.Settled) (link : Link) :
    (settleStatuses settled link).listeners = link.listeners :=
  (congrArg Link.listeners (settleStatuses_essence settled link) :)

theorem keptByCalls_hushed (id : Nat) (may : Dealing → Prop) {start : Link} (h : start.Attached) :
    KeptByCalls id may (Hushed may start) where
  tick hp heq := hp.trans <| .of_same (congrArg Link.listeners heq :) (congrArg Link.notes heq :)
    (fun entry hmem => .inl ((congrArg Link.tasks heq :) ▸ hmem)) (congrArg Link.waiter heq :)
    (congrArg Link.statuses heq :)
  takeStatus {link} ticket hmay hp := by
    refine hp.trans ⟨rfl, rfl, fun _ => .inl, fun _ => rfl, fun _ _ => rfl, fun _ _ h => h,
      fun _ entry => ?_⟩
    refine ⟨fun hmem => (List.mem_filter.mp hmem).1, fun hnot hmem => ?_⟩
    refine List.mem_filter.mpr ⟨hmem, decide_eq_true fun heq => hnot ?_⟩
    exact heq ▸ hmay
  request params _ hp := hp.trans ((hp.attached h).hushed_request _ params)
  forget _ hp := hp.trans (.of_same rfl rfl (fun _ => .inl) rfl rfl)
  setTask haside _ hp := hp.trans (hushed_setTask (isWordless_of_isAside haside) id _)
  endTask hp := hp.trans (hushed_endTask id _)
  finish _ hp := hp.trans ((hushed_endTask id _).trans (.of_same rfl rfl (fun _ => .inl) rfl rfl))
  pushInput _ _ hp := hp.trans (.of_same rfl rfl (fun _ => .inl) rfl rfl)
  spawnDriver hp := hp.trans (hushed_spawn rfl _)
  books _ _ hp := hp.trans (.of_same rfl rfl (fun _ => .inl) rfl rfl)
  setCall _ hp := hp.trans (hushed_setTask rfl id _)
  setReplay current rest hp := hp.trans (hushed_setTask rfl id _)
  track workspace subscription hmay hp := by
    refine hp.trans ⟨rfl, rfl, fun _ => .inl, fun _ => rfl, fun _ hnot => ?_,
      fun _ other hold => ?_, fun _ entry => ?_⟩
    · exact absurd hmay (hnot workspace subscription)
    · exact StatusWaiter.isTracked_setTracked subscription hold
    · exact ⟨fun hmem => hmem, fun _ hmem => hmem⟩
  untrack {link} workspace hmay hp := by
    refine hp.trans ⟨settleStatuses_listeners _ _, settleStatuses_notes _ _, ?_, ?_, ?_, ?_, ?_⟩
    · intro entry hmem
      rw [settleStatuses_tasks] at hmem
      exact .inl hmem
    · exact fun hnot => absurd hmay (hnot workspace)
    · exact fun hnot => absurd hmay (hnot workspace)
    · exact fun hnot => absurd hmay (hnot workspace)
    · exact fun hnot => absurd hmay (hnot workspace)

/-! ### Tasks of the transport -/

theorem Attached.hushed_runAttempt (h : link.Attached) (id token : Nat)
    (clientId : Option ClientId) : Hushed may link (link.runAttempt id token clientId) := by
  unfold runAttempt
  split
  · exact hushed_endTask id link
  · have hfetched : Hushed may link
        { link with ambient := { link.ambient with tokens := link.ambient.tokens.next.2 } } :=
      .of_same rfl rfl (fun _ => .inl) rfl rfl
    have hattached := hfetched.attached h
    dsimp only
    split
    next t hc =>
      simp only [script, hc]
      have hreset := wordless_resetIf t.connected
      exact hfetched.trans ((hattached.hushed_transport _ link.woken link.wire hreset).trans
        (hushed_endTask id _))
    next t hc =>
      exact hfetched.trans ((hattached.hushed_updateSocket _ t.received_not_mem_disconnect).trans
        (hushed_setTask rfl id _))

theorem hushed_concludeHandshake (handshake : Handshake) (failure : Option String) (t : Socket)
    (link : Link) : Hushed may link (link.concludeHandshake handshake failure t).2 := by
  have hput : ∀ carrier, Hushed may link { link with carrier } :=
    fun _ => .of_same rfl rfl (fun _ => .inl) rfl rfl
  unfold concludeHandshake
  cases failure with
  | none =>
    dsimp only
    split
    · exact (hput _).trans (hushed_spawn rfl _)
    · exact hput _
  | some reason =>
    exact (hput _).trans (hushed_spawn rfl _)

theorem hushed_runHandshake (id token generation : Nat) (link : Link) :
    Hushed may link (link.runHandshake id token generation) := by
  unfold runHandshake
  split
  · exact hushed_endTask id link
  next t _ =>
    have hended : Hushed may link { link with carrier := .socket (t.endHandshake generation) } :=
      .of_same rfl rfl (fun _ => .inl) rfl rfl
    split
    · exact hended.trans (hushed_endTask id _)
    · split
      · exact hushed_endTask id link
      · exact hushed_refl link
      · exact (hushed_concludeHandshake _ _ _ link).trans (hushed_endTask id _)

theorem Attached.hushed_runDelivery (h : link.Attached) (id : Nat) {delivery : Delivery}
    (hwordless : Wordless delivery.events) : Hushed may link (link.runDelivery id delivery) := by
  have hended : Hushed may link (link.endTask id) := hushed_endTask id link
  unfold runDelivery
  dsimp only
  split
  · exact hended
  · refine hended.trans ((hended.attached h).hushed_emitAll fun message hmem => ?_)
    exact hwordless message (Socket.mem_of_mem_due hmem)

theorem hushed_writeStream (generation count : Nat) (link : Link) :
    Hushed may link (link.writeStream generation count) := by
  induction count generalizing link with
  | zero => exact hushed_refl link
  | succ count ih =>
    simp only [writeStream]
    split
    · exact hushed_refl link
    next t _ =>
      have hput : ∀ carrier wire, Hushed may link { link with carrier, wire } :=
        fun _ _ => .of_same rfl rfl (fun _ => .inl) rfl rfl
      split
      · exact (hput _ _).trans (ih _)
      · exact hushed_refl link

def isTakeIn : Turn → Bool
  | .takeIn _ _ => true
  | _ => false

theorem Attached.hushed_take (h : link.Attached) (hprompt : link.Prompt) {turn : Turn}
    (hturn : isTakeIn turn = false) : Hushed may link (link.take turn) := by
  have hput : ∀ carrier, Hushed may link { link with carrier } :=
    fun _ => .of_same rfl rfl (fun _ => .inl) rfl rfl
  unfold take
  split
  · exact hushed_refl link
  next t hc =>
    cases turn with
    | connect url => exact h.hushed_updateSocket _ t.received_not_mem_disconnect
    | handshake generation failure =>
      simp only [takeOn]
      split
      · exact hushed_concludeHandshake _ _ _ link
      · exact hushed_refl link
    | abandon generation => exact hput _
    | disconnect => exact h.hushed_disconnect
    | request method params => exact h.hushed_request method params
    | forget number => exact .of_same rfl rfl (fun _ => .inl) rfl rfl
    | notify method params => exact h.hushed_send _
    | deliver task =>
      simp only [takeOn]
      split
      next delivery htask =>
        have hlater := isWordless_delivery.mp (hprompt _ (mem_of_task? htask))
        exact h.hushed_runDelivery task hlater
      next => exact hushed_refl link
    | announce generation =>
      simp only [takeOn, announceStream, hc]
      split
      · split
        · exact hushed_refl link
        · refine h.hushed_transport _ link.woken link.wire fun message hmem => ?_
          simp [Socket.announce] at hmem
      · exact hushed_refl link
    | write generation => exact hushed_writeStream generation 1 link
    | writeFails generation reason =>
      simp only [takeOn]
      split
      · exact h.hushed_transport _ link.woken link.wire (t.received_not_mem_fail generation reason)
      · exact hushed_refl link
    | takeIn generation inbound => simp [isTakeIn] at hturn
    | stop generation =>
      simp only [takeOn]
      split
      · exact hushed_refl link
      · exact hput _

/-! ### The session -/

theorem Attached.hushed_runEffect (h : link.Attached) (effect : Effect) :
    Hushed may link (link.runEffect effect) := by
  cases effect with
  | disconnect => exact h.hushed_disconnect
  | attempt token generation clientId => exact hushed_spawn rfl link
  | fetchId generation => exact hushed_spawn rfl link
  | probe token generation => exact hushed_spawn rfl link
  | timer number delayMs => exact hushed_spawn rfl link
  | replay topics => exact hushed_spawn rfl link
  | _ => exact .of_same rfl rfl (fun _ => .inl) rfl rfl

theorem Attached.hushed_runEffects (h : link.Attached) (effects : List Effect) :
    Hushed may link (link.runEffects effects) := by
  induction effects generalizing link with
  | nil => exact hushed_refl link
  | cons effect rest ih =>
    have hfirst : Hushed may link (link.runEffect effect) := h.hushed_runEffect effect
    exact hfirst.trans (ih (hfirst.attached h))

theorem Attached.hushed_handleNext (h : link.Attached) : Hushed may link link.handleNext := by
  unfold handleNext
  split
  · exact hushed_refl link
  next input rest _ =>
    have hhandled : Hushed may link { link with
        inputs := rest, session := (link.session.handle link.config input).session } :=
      .of_same rfl rfl (fun _ => .inl) rfl rfl
    exact hhandled.trans ((hhandled.attached h).hushed_runEffects _)

/-! ### Beats -/

/-- The events that a beat brings from outside. -/
def arrivals (link : Link) (b : Beat) : List TransportEvent :=
  match b, link.carrier with
  | .script act, .scripted t => (act t).2
  | .socket (.takeIn generation inbound), .socket t =>
    if link.serves generation then (t.takeIn generation inbound).2.map (·.event) else []
  | _, _ => []

/-- What a beat may have to do with the status waiter. -/
def dealings (link : Link) (b : Beat) (dealing : Dealing) : Prop :=
  match b with
  | .task id => ∃ stage, link.task? id = some (.call stage) ∧ deals stage dealing
  | _ => False

theorem Attached.hushed_runTask (h : link.Attached) (hprompt : link.Prompt) (id : Nat) :
    Hushed (link.dealings (.task id)) link (link.runTask id) := by
  have hbyCalls := keptByCalls_hushed id (link.dealings (.task id)) h
  have hrefl : Hushed (link.dealings (.task id)) link link := hushed_refl link
  cases htask : link.task? id with
  | none => simpa only [runTask, poll, htask] using hrefl
  | some task =>
    simp only [runTask, poll, htask]
    cases task with
    | driver => exact h.hushed_handleNext
    | attempt token clientId => exact h.hushed_runAttempt id token clientId
    | handshake token g => exact hushed_runHandshake id token g link
    | identify g inquiry? => exact hbyCalls.runIdentify trivial g inquiry? hrefl
    | probes token g stage => exact hbyCalls.runProbes trivial token g stage hrefl
    | delay number delayMs due? => exact hbyCalls.runDelay number delayMs due? hrefl
    | replay current rest => exact hbyCalls.runReplay current rest hrefl
    | delivery delivery =>
      exact h.hushed_runDelivery id (isWordless_delivery.mp (hprompt _ (mem_of_task? htask)))
    | stream g => exact hrefl
    | call stage => exact hbyCalls.runCall stage (fun _ hdeals => ⟨stage, htask, hdeals⟩) hrefl

/-- Client and session listen to the transport, and no message is put off. -/
structure Wired (link : Link) : Prop where
  attached : link.Attached
  prompt : link.Prompt

theorem wired_withSession (carrier : Carrier) (config : SessionConfig) :
    (withSession carrier config).Wired := by
  refine ⟨attached_withSession carrier config, fun entry hmem => ?_⟩
  have hnone : (withSession carrier config).tasks = [] := rfl
  simp [hnone] at hmem

/-- A user begins to wait for a status. -/
theorem beat_waitForStatus (workspace : WorkspaceId) (status : Status) (link : Link) :
    link.beat (.waitForStatus workspace status) =
      (settleStatuses (link.waiter.waitFor workspace status).2.2
        { link with waiter := (link.waiter.waitFor workspace status).2.1 }).spawn
          (.call (.status (link.waiter.waitFor workspace status).1)) :=
  rfl

/-- Nobody hears anything, or a user begins to wait, or what arrives is announced. -/
theorem Wired.beat_cases (h : link.Wired) (b : Beat) :
    link.arrivals b = [] ∧ Hushed (link.dealings b) link (link.beat b) ∨
      (∃ workspace status, b = .waitForStatus workspace status) ∨
      ∃ carrier, link.beat b = emitAll (link.arrivals b) { link with carrier } := by
  have hattached := h.attached
  cases b with
  | call call => exact .inl ⟨rfl, hushed_spawn rfl link⟩
  | waitForStatus workspace status => exact .inr (.inl ⟨workspace, status, rfl⟩)
  | abandon id =>
    exact .inl ⟨rfl, (keptByCalls_hushed id _ hattached).abandon (hushed_refl link)⟩
  | task id => exact .inl ⟨rfl, hattached.hushed_runTask h.prompt id⟩
  | elapse millis => exact .inl ⟨rfl, .of_same rfl rfl (fun _ => .inl) rfl rfl⟩
  | handshakeEnds generation failure =>
    exact .inl ⟨rfl, .of_same rfl rfl (fun _ => .inl) rfl rfl⟩
  | script act =>
    cases hc : link.carrier with
    | scripted t =>
      exact .inr (.inr ⟨.scripted (act t).1, by simp only [beat, script, arrivals, hc]⟩)
    | socket t =>
      refine .inl ⟨by simp only [arrivals, hc], ?_⟩
      simp only [beat, script, hc]
      exact hushed_refl link
  | socket turn =>
    cases hturn : isTakeIn turn with
    | false =>
      refine .inl ⟨?_, hattached.hushed_take h.prompt hturn⟩
      cases turn with
      | takeIn generation inbound => simp [isTakeIn] at hturn
      | _ => rfl
    | true =>
      obtain ⟨generation, inbound, rfl⟩ : ∃ generation inbound, turn = .takeIn generation inbound :=
        by cases turn <;> simp_all [isTakeIn]
      simp only [beat, take, takeOn, arrivals]
      cases hc : link.carrier with
      | scripted t => exact .inl ⟨rfl, hushed_refl link⟩
      | socket t =>
        dsimp only
        split
        · exact .inr (.inr ⟨_, rfl⟩)
        · exact .inl ⟨rfl, hushed_refl link⟩

theorem Wired.beat (h : link.Wired) (b : Beat) : (link.beat b).Wired := by
  rcases h.beat_cases b with ⟨_, hhushed⟩ | ⟨workspace, status, rfl⟩ | ⟨carrier, heq⟩
  · exact ⟨hhushed.attached h.attached, hhushed.prompt h.prompt⟩
  · refine ⟨h.attached.congr (settleStatuses_listeners _ _), fun entry hmem => ?_⟩
    rw [beat_waitForStatus, mem_spawn, settleStatuses_tasks] at hmem
    rcases hmem with hold | rfl
    · exact h.prompt entry hold
    · rfl
  · rw [heq]
    refine ⟨h.attached.congr (emitAll_listeners _ _), fun entry hmem => h.prompt entry ?_⟩
    have htasks : ({ link with carrier }.emitAll (link.arrivals b)).tasks = link.tasks :=
      (congrArg Link.tasks (emitAll_scenery (link.arrivals b) { link with carrier }) :)
    exact htasks ▸ hmem

theorem Wired.play (h : link.Wired) (beats : List Beat) : (link.play beats).Wired := by
  induction beats generalizing link with
  | nil => exact h
  | cons b rest ih => exact ih (h.beat b)

/-- What users come to see in a beat is what subscribers note of the events that arrive. -/
theorem Wired.beat_notes (h : link.Wired) (b : Beat) :
    (link.beat b).notes = link.notes ++ link.noted (link.arrivals b) := by
  rcases h.beat_cases b with ⟨hnothing, hhushed⟩ | ⟨workspace, status, rfl⟩ | ⟨carrier, heq⟩
  · rw [hhushed.notes, hnothing]
    exact (List.append_nil _).symm
  · refine (settleStatuses_notes _ _).trans ?_
    exact (List.append_nil _).symm
  · have hattached : Attached { link with carrier } := h.attached
    rw [heq, hattached.emitAll_notes]
    rfl

end Link

end WorkspaceLink
