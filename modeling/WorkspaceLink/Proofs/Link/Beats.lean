import WorkspaceLink.Proofs.Link.Turns

/-!
# Beats of a link

The tasks of a link, its users and its transport take turns in any order. A beat is what happens
without interruption: a task runs until it waits, a user begins or drops a call, time passes, or the
transport does something. The task that handles the inputs of the session handles one in a beat.

Most tasks and calls only send requests, wait, and report to the session. `KeptByRequests` lists
what these do, and `KeptByCalls` what calls do besides; a property that all of that keeps is kept by
a run of each of them. `EssenceKeptByRequests` and `EssenceKeptByCalls` are for properties that
depend on the essence of a link alone.
-/
namespace WorkspaceLink

namespace Link

/-- What happens to a link without interruption. -/
inductive Beat where
  | call (call : Call)
  /-- A user begins to wait for a status. -/
  | waitForStatus (workspace : WorkspaceId) (status : Status)
  /-- A user drops a call. -/
  | abandon (id : Nat)
  | task (id : Nat)
  | elapse (millis : Nat)
  /-- A handshake ends, with the reason if it failed. -/
  | handshakeEnds (generation : Nat) (failure : Option String)
  /-- A transport over sockets takes a turn. -/
  | socket (turn : Turn)
  /-- A scripted transport does as it likes. -/
  | script (act : Scripted → Scripted × List TransportEvent)

/-- Let the session handle the oldest input. -/
def handleNext (link : Link) : Link :=
  match link.inputs with
  | [] => link
  | input :: rest => handleInput { link with inputs := rest } input

/-- Let a task run. What the task of a socket does are turns of the transport. -/
def runTask (id : Nat) (link : Link) : Link :=
  match link.task? id with
  | some .driver => link.handleNext
  | some (.stream _) => link
  | _ => link.poll id

def beat (link : Link) : Beat → Link
  | .call call => (link.call call).2
  | .waitForStatus workspace status => (link.waitForStatus workspace status).2
  | .abandon id => link.abandon id
  | .task id => link.runTask id
  | .elapse millis =>
    { link with ambient := { link.ambient with clock := link.ambient.clock + millis } }
  | .handshakeEnds generation failure => link.endHandshake generation failure
  | .socket turn => link.take turn
  | .script act => link.script act

def play (link : Link) (beats : List Beat) : Link := beats.foldl beat link

/-- The messages that were sent over a scripted transport. -/
def sent (link : Link) : List Json :=
  match link.carrier with
  | .scripted t => t.sent
  | .socket _ => []

theorem play_append (link : Link) (first second : List Beat) :
    link.play (first ++ second) = (link.play first).play second :=
  List.foldl_append

theorem play_snoc (link : Link) (beats : List Beat) (b : Beat) :
    link.play (beats ++ [b]) = (link.play beats).beat b :=
  play_append link beats [b]

/-! ### What events change -/

/-- A link without what its client, its subscribers and its session learn from events. -/
def scenery (link : Link) : Link :=
  { link.backdrop with inputs := [], client := { handlers := link.client.handlers } }

theorem listen_scenery (event : TransportEvent) (listener : Listener) (link : Link) :
    (listen event listener link).scenery = link.scenery := by
  cases listener with
  | client =>
    have hback := clientHears_backdrop event link
    have hhandlers := clientHears_handlers event link
    simp only [scenery, listen, hback, hhandlers]
  | session => cases event <;> rfl
  | recorder label => rfl

theorem emit_scenery (event : TransportEvent) (link : Link) :
    (link.emit event).scenery = link.scenery := by
  unfold emit Registry.dispatch
  generalize link.listeners.handlers event.kind = listeners
  induction listeners generalizing link with
  | nil => rfl
  | cons listener rest ih => exact (ih _).trans (listen_scenery event listener link)

theorem emitAll_scenery (events : List TransportEvent) (link : Link) :
    (link.emitAll events).scenery = link.scenery := by
  unfold emitAll
  induction events generalizing link with
  | nil => rfl
  | cons event rest ih => exact (ih _).trans (emit_scenery event link)

theorem emitAll_carrier (events : List TransportEvent) (link : Link) :
    (link.emitAll events).carrier = link.carrier :=
  (congrArg Link.carrier (emitAll_scenery events link) :)

theorem updateSocket_carrier (after : Socket) (emissions : List Emission) (link : Link) :
    (link.updateSocket after emissions).carrier = .socket after := by
  obtain ⟨woken, heq⟩ := updateSocket_eq after emissions link
  rw [heq, emitAll_carrier]

/-- The input that a session makes of an event. -/
def inputOf? : TransportEvent → Option Input
  | .opened => some .opened
  | .closed _ _ => some .closed
  | _ => none

/-- What is heard are the openings and closes among the events. -/
theorem emitAll_inputs (events : List TransportEvent) (link : Link) :
    ∃ heard, (link.emitAll events).inputs = link.inputs ++ heard ∧
      ∀ input ∈ heard, ∃ event ∈ events, inputOf? event = some input := by
  have hlisten : ∀ event listener (link : Link), ∃ heard,
      (listen event listener link).inputs = link.inputs ++ heard ∧
        ∀ input ∈ heard, inputOf? event = some input := by
    intro event listener link
    cases listener with
    | client =>
      have hsame : (link.clientHears event).inputs = link.inputs :=
        (congrArg Link.inputs (clientHears_backdrop event link) :)
      exact ⟨[], by rw [List.append_nil]; exact hsame, by simp⟩
    | recorder label => exact ⟨[], by simp [listen, addNote], by simp⟩
    | session =>
      cases event with
      | opened => exact ⟨[.opened], rfl, by simp [inputOf?]⟩
      | closed code reason => exact ⟨[.closed], rfl, by simp [inputOf?]⟩
      | _ => exact ⟨[], by simp [listen, sessionHears], by simp⟩
  have hemit : ∀ event (link : Link), ∃ heard, (link.emit event).inputs = link.inputs ++ heard ∧
      ∀ input ∈ heard, inputOf? event = some input := by
    intro event link
    unfold emit Registry.dispatch
    generalize link.listeners.handlers event.kind = listeners
    induction listeners generalizing link with
    | nil => exact ⟨[], by simp, by simp⟩
    | cons listener rest ih =>
      obtain ⟨heard, heq, hheard⟩ := hlisten event listener link
      obtain ⟨more, heq', hmore⟩ := ih (listen event listener link)
      refine ⟨heard ++ more, by rw [List.foldl_cons, heq', heq, List.append_assoc], ?_⟩
      intro input hmem
      exact (List.mem_append.mp hmem).elim (hheard input) (hmore input)
  unfold emitAll
  induction events generalizing link with
  | nil => exact ⟨[], by simp, by simp⟩
  | cons event rest ih =>
    obtain ⟨heard, heq, hheard⟩ := hemit event link
    obtain ⟨more, heq', hmore⟩ := ih (link.emit event)
    refine ⟨heard ++ more, by rw [List.foldl_cons, heq', heq, List.append_assoc], ?_⟩
    intro input hmem
    rcases List.mem_append.mp hmem with hmem | hmem
    · exact ⟨event, List.mem_cons_self, hheard input hmem⟩
    · obtain ⟨other, hother, hinput⟩ := hmore input hmem
      exact ⟨other, List.mem_cons_of_mem _ hother, hinput⟩

theorem emitAll_inputs_eq {events : List TransportEvent}
    (h : ∀ event ∈ events, inputOf? event = none) (link : Link) :
    (link.emitAll events).inputs = link.inputs := by
  obtain ⟨heard, heq, hheard⟩ := emitAll_inputs events link
  have hnone : heard = [] := by
    apply List.eq_nil_iff_forall_not_mem.mpr
    intro input hmem
    obtain ⟨event, hevent, hinput⟩ := hheard input hmem
    simp [h event hevent] at hinput
  rw [heq, hnone, List.append_nil]

theorem send_inputs (message : Json) (link : Link) : (link.send message).inputs = link.inputs := by
  unfold send
  split
  next t _ =>
    refine emitAll_inputs_eq (fun event hmem => ?_) _
    split at hmem
    · rw [List.mem_singleton.mp hmem]
      rfl
    · simp at hmem
  next t _ =>
    obtain ⟨woken, heq⟩ := updateSocket_eq (t.send message).1 [] link
    have hsame : (link.updateSocket (t.send message).1 []).inputs = link.inputs := by
      rw [heq]
      rfl
    dsimp only
    split
    · exact hsame
    · exact hsame

/-! ### Effects -/

def runEffects (effects : List Effect) (link : Link) : Link :=
  effects.foldl (fun link effect => link.runEffect effect) link

/-- A disconnect changes the state of the transport, and the only event is a reset. -/
theorem disconnect_eq (link : Link) : ∃ carrier events woken,
    link.disconnect = emitAll events { link with carrier, woken } ∧
      (∀ event ∈ events, event = .reset) ∧
      ∀ t, link.carrier = .socket t → carrier = .socket t.disconnect.1 := by
  unfold disconnect
  split
  next t hc =>
    simp only [script, hc]
    refine ⟨_, _, link.woken, rfl, fun event hmem => ?_, nofun⟩
    simp only [Scripted.disconnect, Scripted.resetIf] at hmem
    split at hmem
    · simpa using hmem
    · simp at hmem
  next t hc =>
    obtain ⟨woken, heq⟩ := updateSocket_eq t.disconnect.1 t.disconnect.2 link
    refine ⟨_, _, woken, heq, fun event hmem => ?_, fun t' hc' => ?_⟩
    · rw [Socket.disconnect_emissions] at hmem
      cases hinstalled : t.installed <;> simp_all
    · obtain rfl : t = t' := by simpa [hc] using hc'
      rfl

theorem disconnect_session (link : Link) : link.disconnect.session = link.session := by
  obtain ⟨carrier, events, woken, heq, _⟩ := link.disconnect_eq
  rw [heq]
  exact (congrArg Link.session (emitAll_scenery _ _) :)

/-- What the session wants done does not change the session. -/
theorem runEffects_session (effects : List Effect) (link : Link) :
    (link.runEffects effects).session = link.session := by
  induction effects generalizing link with
  | nil => rfl
  | cons effect rest ih =>
    refine (ih _).trans ?_
    cases effect with
    | disconnect => exact disconnect_session link
    | _ => rfl

theorem runEffects_logs (entries : List LogEntry) (link : Link) :
    link.runEffects (entries.map .log) = { link with log := link.log ++ entries } := by
  induction entries generalizing link with
  | nil => simp [runEffects]
  | cons entry rest ih =>
    refine (ih _).trans ?_
    simp [runEffect]

/-! ### Tasks by number -/

variable {link : Link} {id other : Nat} {task : Task}

theorem mem_setTask {entry : Nat × Task} (h : entry ∈ (link.setTask id task).tasks) :
    entry ∈ link.tasks ∧ entry.1 ≠ id ∨ entry = (id, task) ∧ ∃ old, (id, old) ∈ link.tasks := by
  obtain ⟨⟨other, old⟩, hmem, rfl⟩ := List.mem_map.mp h
  by_cases heq : other = id
  · subst heq
    exact .inr ⟨by simp, old, hmem⟩
  · exact .inl (by simpa [heq] using hmem)

theorem mem_endTask {entry : Nat × Task} :
    entry ∈ (link.endTask id).tasks ↔ entry ∈ link.tasks ∧ entry.1 ≠ id := by
  simp [endTask]

theorem mem_spawn {entry : Nat × Task} :
    entry ∈ (link.spawn task).tasks ↔ entry ∈ link.tasks ∨ entry = (link.nextTask, task) := by
  simp [spawn]

theorem lookup_cons_number (number other : Nat) (task : Task) (rest : List (Nat × Task)) :
    List.lookup other ((number, task) :: rest) =
      if other = number then some task else rest.lookup other := by
  by_cases h : other = number
  · simp [h]
  · have hne : (other == number) = false := by simpa using h
    simp [List.lookup_cons, hne, h]

theorem task?_setTask (id other : Nat) (task : Task) (link : Link) :
    (link.setTask id task).task? other =
      if other = id then (link.task? id).map fun _ => task else link.task? other := by
  unfold task? setTask
  dsimp only
  induction link.tasks with
  | nil => simp
  | cons entry rest ih =>
    obtain ⟨number, old⟩ := entry
    simp only [List.map_cons]
    split
    next h => grind [lookup_cons_number]
    next h => grind [lookup_cons_number]

theorem task?_endTask (id other : Nat) (link : Link) :
    (link.endTask id).task? other = if other = id then none else link.task? other := by
  unfold task? endTask
  dsimp only
  induction link.tasks with
  | nil => simp
  | cons entry rest ih =>
    obtain ⟨number, old⟩ := entry
    by_cases h : number = id
    · rw [List.filter_cons_of_neg (by simpa using h), ih, lookup_cons_number, h]
      split <;> rfl
    · rw [List.filter_cons_of_pos (by simpa using h), lookup_cons_number, lookup_cons_number, ih]
      grind

theorem task?_spawn (task : Task) (other : Nat) (link : Link) :
    (link.spawn task).task? other =
      (link.task? other).or (if other = link.nextTask then some task else none) := by
  unfold task? spawn
  dsimp only
  induction link.tasks with
  | nil => rw [List.nil_append, lookup_cons_number]; rfl
  | cons entry rest ih =>
    obtain ⟨number, old⟩ := entry
    rw [List.cons_append, lookup_cons_number, lookup_cons_number, ih]
    split <;> rfl

/-! ### What effects leave -/

variable {first second : Link}

def startedTask? : Effect → Option Task
  | .attempt token _ clientId => some (.attempt token clientId)
  | .fetchId generation => some (.identify generation none)
  | .probe token generation => some (.probes token generation .fresh)
  | .timer number delayMs => some (.delay number delayMs none)
  | .replay topics => some (.replay none topics)
  | _ => none

/-- What is left of a link when effects were carried out. -/
structure Executes (effects : List Effect) (first second : Link) : Prop where
  tasks : ∀ entry ∈ second.tasks, entry ∈ first.tasks ∨
    ∃ effect ∈ effects, startedTask? effect = some entry.2
  cancelled : ∀ token, token ∈ first.cancelledTokens ∨ .cancel token ∈ effects →
    token ∈ second.cancelledTokens
  inputs : second.inputs = first.inputs
  sockets : ∀ t, first.carrier = .socket t → ∃ after, second.carrier = .socket after ∧
    (t.Orderly → after.Orderly) ∧ t.Inherits after

theorem executes_refl (link : Link) : Executes [] link link where
  tasks _ hmem := .inl hmem
  cancelled token hmem := by simpa using hmem
  inputs := rfl
  sockets t hc := ⟨t, hc, id, .refl t⟩

theorem Executes.trans {effects more : List Effect} {third : Link}
    (h : Executes effects first second) (h' : Executes more second third) :
    Executes (effects ++ more) first third where
  tasks entry hmem := by
    rcases h'.tasks entry hmem with hmid | ⟨effect, heffect, hstarts⟩
    · rcases h.tasks entry hmid with hold | ⟨effect, heffect, hstarts⟩
      · exact .inl hold
      · exact .inr ⟨effect, List.mem_append_left _ heffect, hstarts⟩
    · exact .inr ⟨effect, List.mem_append_right _ heffect, hstarts⟩
  cancelled token hmem := by
    rw [List.mem_append] at hmem
    rcases hmem with hold | hfirst | hmore
    · exact h'.cancelled token (.inl (h.cancelled token (.inl hold)))
    · exact h'.cancelled token (.inl (h.cancelled token (.inr hfirst)))
    · exact h'.cancelled token (.inr hmore)
  inputs := h'.inputs.trans h.inputs
  sockets t hc := by
    obtain ⟨mid, hmid, horderly, hinherits⟩ := h.sockets t hc
    obtain ⟨after, hafter, horderly', hinherits'⟩ := h'.sockets mid hmid
    exact ⟨after, hafter, fun ho => horderly' (horderly ho), hinherits.trans hinherits'⟩

theorem executes_disconnect (link : Link) : Executes [.disconnect] link link.disconnect := by
  obtain ⟨carrier, events, woken, heq, hreset, hcarrier⟩ := link.disconnect_eq
  let mid : Link := { link with carrier, woken }
  have hscenery := emitAll_scenery events mid
  have htasks : (mid.emitAll events).tasks = link.tasks := (congrArg Link.tasks hscenery :)
  have hcancelled : (mid.emitAll events).cancelledTokens = link.cancelledTokens :=
    (congrArg Link.cancelledTokens hscenery :)
  have hsame : (mid.emitAll events).carrier = carrier := (congrArg Link.carrier hscenery :)
  rw [heq]
  refine ⟨fun entry hmem => .inl (htasks ▸ hmem), fun token hmem => ?_, ?_, fun t hc => ?_⟩
  · rw [hcancelled]
    simpa using hmem
  · exact emitAll_inputs_eq (fun event hmem => by rw [hreset event hmem]; rfl) mid
  · exact ⟨t.disconnect.1, hsame.trans (hcarrier t hc), Socket.Orderly.disconnect,
      t.inherits_disconnect⟩

theorem executes_runEffect (effect : Effect) (link : Link) :
    Executes [effect] link (link.runEffect effect) := by
  have hspawn : ∀ {task}, startedTask? effect = some task → (∀ token, effect ≠ .cancel token) →
      Executes [effect] link (link.spawn task) := by
    intro task hstarts hcancel
    refine ⟨fun entry hmem => ?_, fun token hmem => ?_, rfl, fun t hc => ⟨t, hc, id, .refl t⟩⟩
    · rcases mem_spawn.mp hmem with hold | rfl
      · exact .inl hold
      · exact .inr ⟨effect, List.mem_singleton.mpr rfl, hstarts⟩
    · have hold : token ∈ link.cancelledTokens := by simpa [Ne.symm (hcancel token)] using hmem
      exact hold
  have hsame : ∀ {after : Link}, after.tasks = link.tasks → after.inputs = link.inputs →
      after.carrier = link.carrier →
      (∀ token, token ∈ link.cancelledTokens ∨ .cancel token = effect →
        token ∈ after.cancelledTokens) → Executes [effect] link after := by
    intro after htasks hinputs hcarrier hcancelled
    refine ⟨fun entry hmem => .inl (htasks ▸ hmem), fun token hmem => hcancelled token ?_, hinputs,
      fun t hc => ⟨t, hcarrier.trans hc, id, .refl t⟩⟩
    simpa using hmem
  cases effect with
  | disconnect => exact executes_disconnect link
  | attempt token generation clientId => exact hspawn rfl (by simp)
  | fetchId generation => exact hspawn rfl (by simp)
  | probe token generation => exact hspawn rfl (by simp)
  | timer number delayMs => exact hspawn rfl (by simp)
  | replay topics => exact hspawn rfl (by simp)
  | cancel token =>
    refine hsame rfl rfl rfl fun other hmem => ?_
    simp only [runEffect, raise, List.mem_cons]
    rcases hmem with hold | heq
    · exact .inr hold
    · exact .inl (by simpa using heq)
  | _ => exact hsame rfl rfl rfl fun other hmem => hmem.resolve_right nofun

theorem executes_runEffects (effects : List Effect) (link : Link) :
    Executes effects link (link.runEffects effects) := by
  induction effects generalizing link with
  | nil => exact executes_refl link
  | cons effect rest ih => exact (executes_runEffect effect link).trans (ih _)

/-! ### Tasks that only ask and wait -/

/-- A link without what is of no concern to its subscriptions and its connection. -/
def essence (link : Link) : Link :=
  { link with
    ambient := {}, driving := false, waiter := {}, alarms := [], woken := []
    closesDone := [], statuses := [], cancelledTimers := [], handshakeResults := [], inbox := []
    wire := [], log := [], notes := [] }

theorem spawn_essence {first second : Link} (h : second.essence = first.essence) (task : Task) :
    (second.spawn task).essence = (first.spawn task).essence :=
  (congrArg (fun link : Link => (link.spawn task).essence) h :)

theorem settleStatuses_essence (settled : StatusWaiter.Settled) (link : Link) :
    (settleStatuses settled link).essence = link.essence := by
  unfold settleStatuses
  induction settled generalizing link with
  | nil => rfl
  | cons entry rest ih => exact ih _

/-- The task deals neither with subscriptions nor with the transport. -/
def isAside : Task → Bool
  | .driver | .identify _ _ | .probes _ _ _ | .delay _ _ _ => true
  | .call (.fresh _) | .call (.subscribing _ _ _) | .call (.following _ _ _) => false
  | .call _ => true
  | _ => false

/-- The input comes from a user or a task, not from the transport. -/
def isReport : Input → Bool
  | .opened | .closed => false
  | _ => true

/-- A link without its clock, its alarms and its log. -/
def gist (link : Link) : Link :=
  { link with ambient := {}, driving := false, alarms := [], log := [] }

/-- What a call can have to do with the status waiter, and with the end of the session. -/
inductive Dealing where
  /-- The end of a wait is taken note of. -/
  | takeStatus (ticket : Nat)
  | track (workspace : WorkspaceId) (subscription : Subscription)
  | untrack (workspace : WorkspaceId)
  /-- The session is told to close. -/
  | close

/-- The call, where it stands, may do this in its next turn. -/
def deals : Stage → Dealing → Prop
  | .status ticket, .takeStatus other => other = ticket
  | .fresh (.track workspace), .track other _ => other = workspace
  | .subscribing _ subscription (some workspace), .track other held =>
    other = workspace ∧ held = subscription
  | .fresh (.untrack workspace), .untrack other => other = workspace
  | .fresh .close, .close => True
  | _, _ => False

/-- A property that survives what the task with a number does, as long as it asks only for the
methods allowed, looks only for the ends of the waits that it may, closes the session only if it
may, and deals neither with subscriptions nor with the transport. -/
structure KeptByRequests (id : Nat) (allowed : String → Prop) (may : Dealing → Prop)
    (P : Link → Prop) : Prop where
  tick : ∀ {link link' : Link}, P link → link'.gist = link.gist → P link'
  takeStatus : ∀ {link : Link} (ticket : Nat), may (.takeStatus ticket) → P link →
    P { link with statuses := link.statuses.filter fun entry => entry.1 ≠ ticket }
  request : ∀ {link : Link} {method : String} (params : Option Json), allowed method → P link →
    P (link.request method params).2
  forget : ∀ {link : Link} (number : Nat), P link → P (link.forget number)
  setTask : ∀ {link : Link} {task : Task}, isAside task →
    (∀ ticket, task = .call (.status ticket) → may (.takeStatus ticket)) → P link →
    P (link.setTask id task)
  endTask : ∀ {link : Link}, P link → P (link.endTask id)
  finish : ∀ {link : Link} (outcome : Outcome), P link → P (link.finish id outcome)
  pushInput : ∀ {link : Link} {input : Input}, isReport input →
    (∀ ticket, input = .close ticket → may .close) → P link → P (link.pushInput input)
  spawnDriver : ∀ {link : Link}, P link → P (link.spawn .driver)

/-- A property that besides has nothing to do with the status waiter. -/
structure EssenceKeptByRequests (id : Nat) (allowed : String → Prop) (P : Link → Prop) :
    Prop extends KeptByRequests id allowed (fun _ => True) P where
  idle : ∀ {link link' : Link}, P link → link'.essence = link.essence → P link'
  tick := fun hp heq => idle hp (congrArg essence heq :)
  takeStatus := fun _ _ hp => idle hp rfl

namespace KeptByRequests

variable {allowed : String → Prop} {may : Dealing → Prop} {P : Link → Prop}
  (h : KeptByRequests id allowed may P)
include h

theorem arm (due : Nat) (hp : P link) : P (link.arm id due) := h.tick hp rfl

theorem inquire (hid : allowed Message.clientIdMethod) (limitMs : Nat) (hp : P link) :
    P (link.inquire limitMs).2 :=
  h.request none hid hp

theorem runIdentify (hid : allowed Message.clientIdMethod) (generation : Nat)
    (inquiry? : Option Inquiry) (hp : P link) : P (link.runIdentify id generation inquiry?) := by
  unfold Link.runIdentify
  split
  · cases inquiry? with
    | none => exact h.endTask hp
    | some inquiry => exact h.endTask (h.forget _ hp)
  · cases inquiry? with
    | none =>
      have hasked := h.inquire hid link.config.settings.livenessTimeoutMs hp
      dsimp only
      split
      · exact h.pushInput rfl nofun (h.endTask (h.forget _ hasked))
      · exact h.arm _ (h.setTask rfl nofun hasked)
    | some inquiry =>
      dsimp only
      split
      · exact h.pushInput rfl nofun (h.endTask (h.forget _ hp))
      · exact hp

theorem reportDead (generation : Nat) (error : ProbeError) (hp : P link) :
    P (link.reportDead id generation error) :=
  h.pushInput rfl nofun (h.endTask hp)

theorem rest (token generation due : Nat) (hp : P link) : P (link.rest id token generation due) :=
  h.arm _ (h.setTask rfl nofun hp)

theorem startProbe (hid : allowed Message.clientIdMethod) (token generation due : Nat)
    (hp : P link) : P (link.startProbe id token generation due) := by
  have hasked := h.inquire hid link.config.settings.livenessTimeoutMs hp
  unfold Link.startProbe
  dsimp only
  split
  · exact h.arm _ (h.setTask rfl nofun hasked)
  · exact h.reportDead _ _ (h.forget _ hasked)
  · exact h.rest _ _ _ (h.forget _ hasked)

theorem runProbes (hid : allowed Message.clientIdMethod) (token generation : Nat)
    (stage : ProbeStage) (hp : P link) : P (link.runProbes id token generation stage) := by
  cases stage with
  | fresh =>
    simp only [Link.runProbes]
    split
    · exact h.endTask hp
    · exact h.rest _ _ _ hp
  | resting due =>
    simp only [Link.runProbes]
    split
    · exact h.endTask hp
    · split
      · exact h.startProbe hid _ _ _ hp
      · exact hp
  | probing inquiry next =>
    simp only [Link.runProbes]
    split
    · exact h.endTask (h.forget _ hp)
    · split
      · exact hp
      · exact h.reportDead _ _ (h.forget _ hp)
      · split
        · exact h.startProbe hid _ _ _ (h.forget _ hp)
        · exact h.rest _ _ _ (h.forget _ hp)

theorem runDelay (number delayMs : Nat) (due? : Option Nat) (hp : P link) :
    P (link.runDelay id number delayMs due?) := by
  unfold Link.runDelay
  split
  · exact h.endTask hp
  · dsimp only
    split
    · exact h.pushInput rfl nofun (h.endTask hp)
    · split
      · exact hp
      · exact h.arm _ (h.setTask rfl nofun hp)

/-! ### Calls -/

theorem ensureDriver (hp : P link) : P link.ensureDriver := by
  unfold Link.ensureDriver
  split
  · exact hp
  · exact h.tick (h.spawnDriver hp) rfl

theorem beginConnect (hp : P link) : P (link.beginConnect id) := by
  unfold Link.beginConnect
  split
  · exact h.finish _ hp
  · exact h.setTask rfl nofun (h.pushInput rfl nofun (h.ensureDriver hp))

theorem beginClose (hmay : may .close) (hp : P link) : P (link.beginClose id) :=
  h.setTask rfl nofun (h.pushInput rfl (fun _ _ => hmay) (h.ensureDriver hp))

theorem awaitPhase (target : Phase) (hp : P link) : P (link.awaitPhase id target) := by
  unfold Link.awaitPhase
  split
  · exact h.finish _ hp
  · exact h.setTask rfl nofun hp

theorem awaitConnected (seen : Nat) (hp : P link) : P (link.awaitConnected id seen) := by
  unfold Link.awaitConnected
  split
  · exact hp
  · split
    · exact h.finish _ hp
    · exact h.finish _ hp
    · exact h.finish _ hp
    · exact h.setTask rfl nofun hp
    · exact h.setTask rfl nofun hp

theorem awaitClosed (hp : P link) : P (link.awaitClosed id) := by
  unfold Link.awaitClosed
  split
  · exact h.finish _ hp
  · exact hp

theorem awaitAnswer (number : Nat) (due? : Option Nat) (fresh : Bool) (hp : P link) :
    P (link.awaitAnswer id number due? fresh) := by
  unfold Link.awaitAnswer
  split
  · exact h.finish _ (h.forget _ hp)
  · exact h.setTask rfl nofun hp
  · split
    · exact h.finish _ (h.forget _ hp)
    · split
      · exact h.arm _ (h.setTask rfl nofun hp)
      · exact hp

theorem awaitIdentity (inquiry : Inquiry) (fresh : Bool) (hp : P link) :
    P (link.awaitIdentity id inquiry fresh) := by
  unfold Link.awaitIdentity
  split
  · exact h.finish _ (h.forget _ hp)
  · exact h.finish _ (h.forget _ hp)
  · split
    · exact h.arm _ (h.setTask rfl nofun hp)
    · exact hp

theorem awaitConfirmation (number : Nat) (hp : P link) : P (link.awaitConfirmation id number) := by
  unfold Link.awaitConfirmation
  split
  · exact h.finish _ (h.forget _ hp)
  · exact h.setTask rfl nofun hp

theorem awaitStatus (ticket : Nat) (hmay : may (.takeStatus ticket)) (hp : P link) :
    P (link.awaitStatus id ticket) := by
  unfold Link.awaitStatus
  split
  · exact h.finish _ (h.takeStatus ticket hmay hp)
  · refine h.setTask rfl (fun other heq => ?_) hp
    obtain rfl : ticket = other := by simpa using heq
    exact hmay

end KeptByRequests

/-- The call deals neither with subscriptions nor with handlers, and asks only for what is
allowed. -/
def isPlainCall (allowed : String → Prop) : Call → Prop
  | .connect | .close | .awaitPhase _ | .identify _ => True
  | .request method _ _ => allowed method
  | _ => False

/-- The call, wherever it stands, deals neither with subscriptions nor with handlers. -/
def isPlainStage (allowed : String → Prop) : Stage → Prop
  | .fresh call => isPlainCall allowed call
  | .following _ _ _ | .subscribing _ _ _ => False
  | _ => True

theorem KeptByRequests.runCall {allowed : String → Prop} {may : Dealing → Prop} {P : Link → Prop}
    (h : KeptByRequests id allowed may P) (hid : allowed Message.clientIdMethod) {stage : Stage}
    (hplain : isPlainStage allowed stage) (hmay : ∀ dealing, deals stage dealing → may dealing)
    (hp : P link) : P (link.runCall id stage) := by
  cases stage with
  | fresh call =>
    cases call with
    | connect => exact h.beginConnect hp
    | close => exact h.beginClose (hmay _ trivial) hp
    | awaitPhase phase => exact h.awaitPhase phase hp
    | request method params limitMs => exact h.awaitAnswer _ _ _ (h.request params hplain hp)
    | identify limitMs => exact h.awaitIdentity _ _ (h.inquire hid limitMs hp)
    | _ => exact hplain.elim
  | connecting seen => exact h.awaitConnected seen hp
  | closing => exact h.awaitClosed hp
  | phase target => exact h.awaitPhase target hp
  | answer number due => exact h.awaitAnswer number due false hp
  | identity inquiry => exact h.awaitIdentity inquiry false hp
  | following number method handler => exact hplain.elim
  | subscribing number subscription tracking => exact hplain.elim
  | confirmation number => exact h.awaitConfirmation number hp
  | status ticket => exact h.awaitStatus ticket (hmay _ rfl) hp

theorem EssenceKeptByRequests.runCall {allowed : String → Prop} {P : Link → Prop}
    (h : EssenceKeptByRequests id allowed P) (hid : allowed Message.clientIdMethod) {stage : Stage}
    (hplain : isPlainStage allowed stage) (hp : P link) : P (link.runCall id stage) :=
  h.toKeptByRequests.runCall hid hplain (fun _ _ => trivial) hp

/-! ### All calls -/

/-- The call waits for the server to confirm a handler. -/
def isUnderway : Stage → Bool
  | .following _ _ _ | .subscribing _ _ _ => true
  | _ => false

/-- A property that survives what any call, replay or waiting task with a number does, as long as it
deals only as it may: it does not depend on subscriptions either. -/
structure KeptByCalls (id : Nat) (may : Dealing → Prop) (P : Link → Prop) : Prop extends
    KeptByRequests id (fun _ => True) may P where
  books : ∀ {link : Link} (handlers : Registry String Subscriber) (table : SubscriptionTable),
    P link → P { link with
      client := { link.client with handlers }, session := { link.session with table } }
  setCall : ∀ {link : Link} {stage : Stage}, isUnderway stage → P link →
    P (link.setTask id (.call stage))
  setReplay : ∀ {link : Link} (current : Option (Nat × Topic)) (rest : List Topic), P link →
    P (link.setTask id (.replay current rest))
  track : ∀ {link : Link} (workspace : WorkspaceId) (subscription : Subscription),
    may (.track workspace subscription) → P link →
    P { link with waiter := (link.waiter.setTracked workspace subscription).2 }
  untrack : ∀ {link : Link} (workspace : WorkspaceId), may (.untrack workspace) → P link →
    P (settleStatuses (link.waiter.untrack workspace).2.2
      { link with waiter := (link.waiter.untrack workspace).2.1 })

/-- A property that besides has nothing to do with the status waiter. -/
structure EssenceKeptByCalls (id : Nat) (P : Link → Prop) : Prop extends
    EssenceKeptByRequests id (fun _ => True) P, KeptByCalls id (fun _ => True) P where
  track := fun _ _ _ hp => idle hp rfl
  untrack := fun _ _ hp => idle hp (settleStatuses_essence _ _)

namespace KeptByCalls

variable {may : Dealing → Prop} {P : Link → Prop} (h : KeptByCalls id may P)
include h

theorem removeHandler (method : String) (handler : HandlerId) (hp : P link) :
    P (link.removeHandler method handler).2 :=
  h.books _ _ hp

theorem follow (method : String) (subscriber : Subscriber) (request : String)
    (params : Option Json) (hp : P link) : P (link.follow id method subscriber request params) := by
  have hadded : P (link.addHandler method subscriber).2 := h.books _ _ hp
  have hasked : P ((link.addHandler method subscriber).2.request request params).2 :=
    h.request params trivial hadded
  unfold Link.follow Link.awaitFollowing
  dsimp only
  split
  · exact h.finish _ (h.forget _ hasked)
  · exact h.finish _ (h.removeHandler _ _ (h.forget _ hasked))
  · exact h.setCall rfl hasked

theorem unfollow (method : String) (handler : HandlerId) (request : String)
    (params : Option Json) (hp : P link) : P (link.unfollow id method handler request params) :=
  h.awaitConfirmation _ (h.request params trivial (h.removeHandler method handler hp))

theorem endSubscription (subscription : Subscription) (hp : P link) :
    P (link.endSubscription id subscription) := by
  have hremoved : P (link.updateTable
      (SubscriptionTable.remove subscription.topic subscription.handler)) :=
    h.books link.client.handlers _ hp
  unfold Link.endSubscription
  dsimp only
  split
  · exact h.finish _ hp
  · split
    · exact h.unfollow _ _ _ _ hremoved
    · exact h.finish _ (h.removeHandler _ _ hremoved)

theorem completeSubscription (subscription : Subscription) (tracking : Option WorkspaceId)
    (hmay : ∀ workspace, tracking = some workspace → may (.track workspace subscription))
    (hp : P link) : P (link.completeSubscription id subscription tracking) := by
  have hadded : P (link.updateTable
      (SubscriptionTable.add subscription.topic subscription.handler)) :=
    h.books link.client.handlers _ hp
  unfold Link.completeSubscription
  dsimp only
  split
  · exact h.finish _ hadded
  next workspace =>
    have htracked := h.track workspace subscription (hmay workspace rfl) hadded
    split
    · exact h.endSubscription _ htracked
    · exact h.finish _ htracked

theorem awaitSubscription (number : Nat) (subscription : Subscription)
    (tracking : Option WorkspaceId)
    (hmay : ∀ workspace, tracking = some workspace → may (.track workspace subscription))
    (hp : P link) : P (link.awaitSubscription id number subscription tracking) := by
  unfold Link.awaitSubscription
  split
  · exact h.completeSubscription _ _ hmay (h.forget _ hp)
  · exact h.finish _ (h.removeHandler _ _ (h.forget _ hp))
  · exact h.setCall rfl hp

theorem beginSubscription (topic : Topic) (subscriber : Subscriber)
    (tracking : Option WorkspaceId)
    (hmay : ∀ workspace subscription, tracking = some workspace →
      may (.track workspace subscription))
    (hp : P link) : P (link.beginSubscription id topic subscriber tracking) := by
  have hadded : P (link.addHandler topic.channel.method subscriber).2 := h.books _ _ hp
  unfold Link.beginSubscription
  dsimp only
  split
  · exact h.awaitSubscription _ _ _ (fun w => hmay w _) (h.request _ trivial hadded)
  · exact h.completeSubscription _ _ (fun w => hmay w _) hadded

theorem startCall (call : Call) (hmay : ∀ dealing, deals (.fresh call) dealing → may dealing)
    (hp : P link) : P (link.startCall id call) := by
  have hplain : isPlainCall (fun _ => True) call → P (link.startCall id call) := fun hcall =>
    h.toKeptByRequests.runCall trivial
      (show isPlainStage (fun _ => True) (.fresh call) from hcall) hmay hp
  cases call with
  | follow method subscriber request params => exact h.follow _ _ _ _ hp
  | unfollow method handler request params => exact h.unfollow _ _ _ _ hp
  | subscribe topic subscriber => exact h.beginSubscription _ _ _ nofun hp
  | unsubscribe subscription => exact h.endSubscription _ hp
  | track workspace =>
    simp only [Link.startCall, Link.track]
    split
    · exact h.finish _ hp
    · refine h.beginSubscription _ _ _ (fun other subscription hother => hmay _ ?_) hp
      exact (Option.some.inj hother).symm
  | untrack workspace =>
    have hsettled := h.untrack workspace (hmay _ rfl) hp
    simp only [Link.startCall, Link.untrack]
    split
    · exact h.endSubscription _ hsettled
    · exact h.finish _ hsettled
  | _ => exact hplain trivial

theorem runCall (stage : Stage) (hmay : ∀ dealing, deals stage dealing → may dealing)
    (hp : P link) : P (link.runCall id stage) := by
  cases stage with
  | fresh call => exact h.startCall call hmay hp
  | subscribing number subscription tracking =>
    refine h.awaitSubscription _ _ _ (fun workspace htracking => hmay _ ?_) hp
    subst htracking
    exact ⟨rfl, rfl⟩
  | following number method handler =>
    simp only [Link.runCall, Link.awaitFollowing]
    split
    · exact h.finish _ (h.forget _ hp)
    · exact h.finish _ (h.removeHandler _ _ (h.forget _ hp))
    · exact h.setCall rfl hp
  | _ => exact h.toKeptByRequests.runCall trivial trivial hmay hp

theorem abandon (hp : P link) : P (link.abandon id) := by
  unfold Link.abandon
  split
  next stage _ =>
    refine h.endTask ?_
    cases stage with
    | answer number due => exact h.forget _ hp
    | identity inquiry => exact h.forget _ hp
    | confirmation number => exact h.forget _ hp
    | following number method handler => exact h.removeHandler _ _ (h.forget _ hp)
    | subscribing number subscription tracking => exact h.removeHandler _ _ (h.forget _ hp)
    | _ => exact hp
  next => exact hp

theorem noteReplay (number : Nat) (topic : Topic) (answer : Answer) (hp : P link) :
    P (link.noteReplay number topic answer) := by
  cases answer with
  | ok value => exact h.forget _ hp
  | error error => exact h.tick (h.forget number hp) rfl

theorem replayFrom (topics : List Topic) (hp : P link) : P (link.replayFrom id topics) := by
  induction topics generalizing link with
  | nil => exact h.endTask hp
  | cons topic rest ih =>
    have hasked : P (link.request Message.subscribeMethod (some topic.params)).2 :=
      h.request _ trivial hp
    simp only [Link.replayFrom]
    split
    · exact ih (h.noteReplay _ _ _ hasked)
    · exact h.setReplay _ _ hasked

theorem runReplay (current : Option (Nat × Topic)) (rest : List Topic) (hp : P link) :
    P (link.runReplay id current rest) := by
  unfold Link.runReplay
  split
  · exact h.replayFrom _ hp
  · split
    · exact h.replayFrom _ (h.noteReplay _ _ _ hp)
    · exact hp

end KeptByCalls

theorem EssenceKeptByCalls.runCall {P : Link → Prop} (h : EssenceKeptByCalls id P) (stage : Stage)
    (hp : P link) : P (link.runCall id stage) :=
  h.toKeptByCalls.runCall stage (fun _ _ => trivial) hp

/-! ### A session that is rehearsed -/

/-- A session over a scripted transport. -/
def rehearsed : Link := withSession (.scripted {}) { entrypoint := "wss://example/api" }

def statusTopic : Topic := ⟨.workspaceStatus, "w1"⟩

def subscribeStatus : Beat := .call (.subscribe statusTopic ⟨.everything, .record "a"⟩)

def answered (number : Nat) (result : Json) : Beat :=
  .script fun t =>
    (t, [.received (.object [("id", .str (Client.idText number)), ("result", result)])])

/-- The server answers a request with success. -/
def confirms (number : Nat) : Beat := answered number .null

def connecting : List Beat :=
  [.call .connect, .task 0, .task 1, .task 2, .script Scripted.opens, .task 1, .task 3,
    answered 1 (.arr [.str "c1"]), .task 3, .task 1, .task 0]

end Link

end WorkspaceLink
