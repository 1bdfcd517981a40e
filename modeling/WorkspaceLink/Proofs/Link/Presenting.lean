import WorkspaceLink.Proofs.Link.BeatFrame

/-!
# The identifier that attempts present

The server knows a client again by the identifier in the URL of a connection. A session remembers
the identifier it was told last, as long as it waited for it, and forgets it when it is closed; an
attempt takes along what the session remembers when the attempt begins, and presents it when it has
been given a token, which may be some time later.

What is remembered is read off the history of a link, `remembered`. Any input may reach the session
at any time, whoever sent it, so that results of connections long gone are among them.
-/
namespace WorkspaceLink

namespace Session

variable {config : SessionConfig} {s : Session} {input : Input} {step : Step}

/-- What an input says about the identifier: a close says to forget it, and the server's answer to
remember the one it tells, if the session waits for that answer. -/
def mark? (s : Session) : Input → Option (Option ClientId)
  | .close _ => some none
  | .clientId generation (.ok id) =>
    if generation = s.generation ∧ s.phase = .connecting then some (some id) else none
  | _ => none

theorem mark?_of_charges (h : s.charges input) : s.mark? input = none := by
  cases input with
  | close ticket => simp [charges, reportsFailure] at h
  | clientId generation result =>
    cases result with
    | ok id => simp [charges, reportsFailure] at h
    | error error => rfl
  | _ => rfl

/-- Nothing but these two inputs changes the identifier. -/
theorem clientId_reacts (h : Reacts config s input step) :
    step.session.clientId = (s.mark? input).getD s.clientId := by
  cases h with
  | begins hphase => simp [beginConnect_eq, mark?]
  | revives hphase => simp [beginConnect_eq, mark?]
  | shuts ticket => simp [Step.doing, shut_eq, mark?]
  | opens hphase => simp [Step.doing, cancelReconnect_eq, mark?]
  | identifies id hphase => simp [identified_eq, mark?, hphase]
  | retries entry hcharges => simp [Step.andThen, retry, mark?_of_charges hcharges]
  | givesUp entry hcharges => simp [Step.andThen, giveUp, mark?_of_charges hcharges]
  | redials timer htimer => simp [beginConnect_eq, mark?]
  | ignores entries _ _ _ hclose hid =>
    have hnone : s.mark? input = none := by
      cases input with
      | close ticket => exact absurd rfl (hclose ticket)
      | clientId generation result =>
        cases result with
        | ok id =>
          apply if_neg
          rintro ⟨rfl, hphase⟩
          exact hid id rfl hphase
        | error error => rfl
      | _ => rfl
    rw [hnone, Option.getD_none]

theorem attempt_of_beginConnect {token generation : Nat} {clientId : Option ClientId}
    (h : .attempt token generation clientId ∈ (beginConnect config s).effects) :
    token = s.nextToken ∧ clientId = s.clientId := by
  rw [mem_touches rfl, beginConnect_touches] at h
  obtain ⟨htoken, _, hclientId⟩ :
      token = s.nextToken ∧ generation = s.generation + 1 ∧ clientId = s.clientId := by
    simpa using h
  exact ⟨htoken, hclientId⟩

/-- An attempt that begins has a new token, and takes the identifier along. -/
theorem attempt_of_reacts (h : Reacts config s input step) {token generation : Nat}
    {clientId : Option ClientId} (hmem : .attempt token generation clientId ∈ step.effects) :
    token = s.nextToken ∧ clientId = s.clientId := by
  have htouched := (mem_touches rfl).mp hmem
  cases h with
  | begins hphase => exact attempt_of_beginConnect hmem
  | revives hphase => exact (attempt_of_beginConnect hmem :)
  | redials timer htimer => exact (attempt_of_beginConnect hmem :)
  | shuts ticket => simp [shuts_touches] at htouched
  | opens hphase => simp [opens_touches] at htouched
  | identifies id hphase => simp [identified_touches] at htouched
  | retries entry => simp [retries_touches] at htouched
  | givesUp entry => simp [givesUp_touches] at htouched
  | ignores entries => simp at hmem

end Session

namespace Link

variable {link start : Link} {id token : Nat} {clientId : Option ClientId}

/-! ### Histories -/

/-- What can happen to a link. -/
inductive Incident where
  | beat (b : Beat)
  /-- An input reaches the session, whoever sent it. -/
  | input (input : Input)

def meet (link : Link) : Incident → Link
  | .beat b => link.beat b
  | .input input => link.pushInput input

def meetAll (link : Link) (incidents : List Incident) : Link := incidents.foldl meet link

/-- What is said about the identifier in an incident, if the session handles an input that says
something. -/
def mark? (link : Link) : Incident → Option (Option ClientId)
  | .beat b => if link.drives b then link.inputs.head?.bind link.session.mark? else none
  | .input _ => none

/-- What was said about the identifier in the course of a history. -/
def marks : Link → List Incident → List (Option ClientId)
  | _, [] => []
  | link, incident :: rest => (link.mark? incident).toList ++ marks (link.meet incident) rest

/-- The identifier that was told last, unless the session was closed since. -/
def remembered (start : Link) (incidents : List Incident) : Option ClientId :=
  (start.marks incidents).getLast?.join

theorem meetAll_snoc (link : Link) (incidents : List Incident) (incident : Incident) :
    link.meetAll (incidents ++ [incident]) = (link.meetAll incidents).meet incident := by
  simp [meetAll]

/-- A beat changes the identifier as the input says that the session handles in it. -/
theorem clientId_meet (link : Link) (incident : Incident) :
    (link.meet incident).session.clientId = (link.mark? incident).getD link.session.clientId := by
  cases incident with
  | input input => rfl
  | beat b =>
    simp only [meet, mark?]
    cases hdrives : link.drives b with
    | false =>
      obtain ⟨table, hsession⟩ := (spares_beat hdrives).session
      rw [hsession]
      rfl
    | true =>
      cases hinputs : link.inputs with
      | nil =>
        rw [beat_of_idle hdrives hinputs]
        rfl
      | cons input rest =>
        rw [(turn_of_session hdrives hinputs).2.1]
        exact Session.clientId_reacts (Session.handle_reacts link.config link.session input)

theorem clientId_meetAll (link : Link) (incidents : List Incident) :
    (link.meetAll incidents).session.clientId =
      (link.marks incidents).getLast?.getD link.session.clientId := by
  induction incidents generalizing link with
  | nil => rfl
  | cons incident rest ih =>
    have hfirst := clientId_meet link incident
    have hrest : (link.meetAll (incident :: rest)).session.clientId = _ := ih (link.meet incident)
    rw [hrest, hfirst, marks, List.getLast?_append]
    cases (marks (link.meet incident) rest).getLast? <;> cases link.mark? incident <;> rfl

/-- A session that was never told an identifier remembers what its history says. -/
theorem clientId_eq_remembered (hstart : start.session.clientId = none)
    (incidents : List Incident) :
    (start.meetAll incidents).session.clientId = start.remembered incidents := by
  rw [clientId_meetAll, hstart, remembered]
  cases (start.marks incidents).getLast? <;> rfl

/-! ### Attempts -/

/-- In the course of a history the session took up the attempt with a token, and remembered this
identifier when it did. -/
def Began (start : Link) (incidents : List Incident) (token : Nat) (clientId : Option ClientId) :
    Prop :=
  ∃ before incident after, incidents = before ++ incident :: after ∧
    (start.meetAll before).session.attempt ≠ some token ∧
    (start.meetAll (before ++ [incident])).session.attempt = some token ∧
    clientId = start.remembered before

theorem Began.snoc {incidents : List Incident} (h : Began start incidents token clientId)
    (incident : Incident) : Began start (incidents ++ [incident]) token clientId := by
  obtain ⟨before, first, after, rfl, hbegan⟩ := h
  exact ⟨before, first, after ++ [incident], by simp, hbegan⟩

/-- What every incident keeps. -/
structure Recalls (start : Link) (incidents : List Incident) : Prop where
  config : (start.meetAll incidents).config = start.config
  consistent : (start.meetAll incidents).session.Consistent
  tasks : ∀ entry ∈ (start.meetAll incidents).tasks, ∀ token clientId,
    entry.2 = .attempt token clientId → Began start incidents token clientId

/-- An attempt is a task only if it was one before, or if the session takes it up. -/
theorem attempt_of_meet (hconsistent : link.session.Consistent) (incident : Incident)
    {entry : Nat × Task} (hmem : entry ∈ (link.meet incident).tasks)
    (hattempt : entry.2 = .attempt token clientId) :
    entry ∈ link.tasks ∨
      link.session.attempt ≠ some token ∧ (link.meet incident).session.attempt = some token ∧
        clientId = link.session.clientId := by
  cases incident with
  | input input => exact .inl hmem
  | beat b =>
    cases hdrives : link.drives b with
    | false =>
      have hisAttempt : isAttempt entry.2 := by rw [hattempt]; rfl
      exact .inl ((spares_beat hdrives).attempts entry hmem hisAttempt)
    | true =>
      simp only [meet] at hmem ⊢
      cases hinputs : link.inputs with
      | nil =>
        rw [beat_of_idle hdrives hinputs] at hmem
        exact .inl hmem
      | cons input rest =>
        have hreacts := Session.handle_reacts link.config link.session input
        rw [beat_of_input hdrives hinputs] at hmem
        rw [(turn_of_session hdrives hinputs).2.1]
        rcases (executes_runEffects _ _).tasks entry hmem with hold | ⟨effect, heffect, hstarts⟩
        · exact .inl hold
        · right
          rw [hattempt] at hstarts
          obtain ⟨generation, rfl⟩ : ∃ generation, effect = .attempt token generation clientId := by
            cases effect <;> simp_all [startedTask?]
          obtain ⟨htoken, hclientId⟩ := Session.attempt_of_reacts hreacts heffect
          refine ⟨?_, (Session.succeeds_reacts hreacts).started _ _ _ heffect, hclientId⟩
          intro hold
          have hlt := hconsistent.attempt_lt token hold
          omega

theorem recalls_meetAll (hconsistent : start.session.Consistent)
    (hclientId : start.session.clientId = none) (htasks : start.tasks = [])
    (incidents : List Incident) : Recalls start incidents := by
  induction incidents using List.reverseRecOn with
  | nil => exact ⟨rfl, hconsistent, by simp [meetAll, htasks]⟩
  | append_singleton incidents incident ih =>
    have hmeet := meetAll_snoc start incidents incident
    refine ⟨?_, ?_, fun entry hmem token clientId hattempt => ?_⟩
    · rw [hmeet, ← ih.config]
      cases incident with
      | beat b => exact (keeps_beat _ b).config
      | input input => rfl
    · rw [hmeet]
      cases incident with
      | beat b => exact consistent_beat ih.consistent b
      | input input => exact ih.consistent
    · rw [hmeet] at hmem
      rcases attempt_of_meet ih.consistent incident hmem hattempt with hold | ⟨hbefore, hafter, heq⟩
      · exact (ih.tasks entry hold token clientId hattempt).snoc incident
      · refine ⟨incidents, incident, [], rfl, hbefore, ?_, ?_⟩
        · rw [hmeet]
          exact hafter
        · rw [heq, clientId_eq_remembered hclientId]

/-! ### URLs -/

/-- The URLs that a transport was told to connect to: all of them if it follows a script, and over
sockets those whose handshake is under way. -/
def told : Carrier → List String
  | .scripted t => t.connects
  | .socket t => t.handshakes.map (·.url)

/-- The URLs that the transport is told to connect to when a task runs. -/
def passed (link : Link) (id : Nat) : List String :=
  (told (link.beat (.task id)).carrier).drop (told link.carrier).length

/-- The transport was told to connect at most so often. -/
def ToldWithin (bound : Nat) (link : Link) : Prop := (told link.carrier).length ≤ bound

variable {bound : Nat}

theorem toldWithin_scripted {t : Scripted} (hc : link.carrier = .scripted t) :
    ToldWithin bound link ↔ t.connects.length ≤ bound := by
  rw [ToldWithin, hc, told]

theorem toldWithin_socket {t : Socket} (hc : link.carrier = .socket t) :
    ToldWithin bound link ↔ t.handshakes.length ≤ bound := by
  rw [ToldWithin, hc, told, List.length_map]

theorem toldWithin_send (h : ToldWithin bound link) (message : Json) :
    ToldWithin bound (link.send message) := by
  unfold send
  split
  next t hc =>
    have hsent : (t.send message).1.connects = t.connects := by
      unfold Scripted.send
      split <;> rfl
    have hbound : (t.send message).1.connects.length ≤ bound :=
      hsent ▸ (toldWithin_scripted hc).mp h
    exact (toldWithin_scripted (emitAll_carrier _ _)).mpr hbound
  next t hc =>
    have hsent : (t.send message).1.handshakes = t.handshakes := by
      unfold Socket.send
      split
      · rfl
      · split <;> rfl
    have hupdated : ToldWithin bound (link.updateSocket (t.send message).1 []) := by
      rw [toldWithin_socket (updateSocket_carrier _ _ _), hsent, ← toldWithin_socket hc]
      exact h
    dsimp only
    split
    · exact hupdated
    · exact hupdated

theorem toldWithin_disconnect (h : ToldWithin bound link) : ToldWithin bound link.disconnect := by
  unfold disconnect
  split
  next t hc =>
    simp only [script, hc]
    rw [toldWithin_scripted (emitAll_carrier _ _)]
    exact (toldWithin_scripted hc).mp h
  next t hc =>
    rw [toldWithin_socket (updateSocket_carrier _ _ _), Socket.disconnect,
      Socket.tearDown_handshakes]
    exact (toldWithin_socket hc).mp h

theorem essenceKeptByCalls_toldWithin (id bound : Nat) :
    EssenceKeptByCalls id (ToldWithin bound) where
  idle {link link'} h heq := by
    have hcarrier : link'.carrier = link.carrier := (congrArg Link.carrier heq :)
    rw [ToldWithin, hcarrier]
    exact h
  request {link} _ _ _ h := by
    have hissued : ToldWithin bound { link with client := link.client.issue.2 } := h
    exact toldWithin_send hissued _
  forget _ h := h
  setTask _ _ h := h
  endTask h := h
  finish _ h := h
  pushInput _ _ h := h
  spawnDriver h := h
  books _ _ h := h
  setCall _ h := h
  setReplay _ _ h := h

theorem toldWithin_runEffects (h : ToldWithin bound link) (effects : List Effect) :
    ToldWithin bound (link.runEffects effects) := by
  induction effects generalizing link with
  | nil => exact h
  | cons effect rest ih =>
    apply ih
    cases effect with
    | disconnect => exact toldWithin_disconnect h
    | _ => exact h

theorem toldWithin_handleNext (h : ToldWithin bound link) : ToldWithin bound link.handleNext := by
  unfold handleNext
  split
  · exact h
  next input rest _ =>
    have hhandled : ToldWithin bound { link with
        inputs := rest, session := (link.session.handle link.config input).session } := h
    exact toldWithin_runEffects hhandled _

theorem toldWithin_concludeHandshake {t : Socket} (h : t.handshakes.length ≤ bound)
    (handshake : Handshake) (failure : Option String) (link : Link) :
    ToldWithin bound (link.concludeHandshake handshake failure t).2 := by
  have hended : (t.endHandshake handshake.generation).handshakes.length ≤ bound :=
    Nat.le_trans (List.length_filter_le _ _) h
  unfold concludeHandshake
  cases failure with
  | none =>
    have haccepted : (t.accept handshake.generation handshake.url).1.handshakes =
        (t.endHandshake handshake.generation).handshakes := by
      unfold Socket.accept
      dsimp only
      split <;> rfl
    dsimp only
    split
    · exact (toldWithin_socket rfl).mpr (haccepted ▸ hended)
    · exact (toldWithin_socket rfl).mpr (haccepted ▸ hended)
  | some reason => exact (toldWithin_socket rfl).mpr hended

theorem toldWithin_runHandshake (h : ToldWithin bound link) (id token generation : Nat) :
    ToldWithin bound (link.runHandshake id token generation) := by
  unfold runHandshake
  split
  · exact h
  next t hc =>
    have hbound : t.handshakes.length ≤ bound := (toldWithin_socket hc).mp h
    split
    · apply (toldWithin_socket rfl).mpr
      exact Nat.le_trans (List.length_filter_le _ _) hbound
    · split
      · exact h
      · exact h
      · exact toldWithin_concludeHandshake hbound _ _ link

theorem toldWithin_runDelivery (h : ToldWithin bound link) (id : Nat) (delivery : Delivery) :
    ToldWithin bound (link.runDelivery id delivery) := by
  unfold runDelivery
  dsimp only
  split
  · exact h
  · rw [ToldWithin, emitAll_carrier]
    exact h

/-- A task that is no attempt does not tell the transport to connect. -/
theorem passed_eq_nil (h : ∀ token clientId, link.task? id ≠ some (.attempt token clientId)) :
    link.passed id = [] := by
  have hbyAllCalls := essenceKeptByCalls_toldWithin id (told link.carrier).length
  have hrefl : ToldWithin (told link.carrier).length link := Nat.le_refl _
  have hbeat : ToldWithin (told link.carrier).length (link.runTask id) := by
    cases htask : link.task? id with
    | none =>
      simp only [runTask, poll, htask]
      exact hrefl
    | some task =>
      simp only [runTask, poll, htask]
      cases task with
      | driver => exact toldWithin_handleNext hrefl
      | attempt token clientId => exact absurd htask (h token clientId)
      | handshake token g => exact toldWithin_runHandshake hrefl id token g
      | identify g inquiry? => exact hbyAllCalls.runIdentify trivial g inquiry? hrefl
      | probes token g stage => exact hbyAllCalls.runProbes trivial token g stage hrefl
      | delay number delayMs due? => exact hbyAllCalls.runDelay number delayMs due? hrefl
      | replay current rest => exact hbyAllCalls.runReplay current rest hrefl
      | delivery delivery => exact toldWithin_runDelivery hrefl id delivery
      | stream g => exact hrefl
      | call stage => exact hbyAllCalls.runCall stage hrefl
  exact List.drop_eq_nil_of_le hbeat

/-- An attempt that was stopped passes nothing, and any other one the URL with its identifier and
the next token, which is then used up. -/
theorem passed_attempt (htask : link.task? id = some (.attempt token clientId)) :
    if link.isStopped token then link.passed id = []
    else
      link.passed id =
        [Url.connection link.config.entrypoint clientId link.ambient.tokens.next.1] ∧
      (link.beat (.task id)).ambient.tokens = link.ambient.tokens.next.2 := by
  have hbeat : link.beat (.task id) = link.runAttempt id token clientId := by
    simp only [beat, runTask, poll, htask]
  let url := Url.connection link.config.entrypoint clientId link.ambient.tokens.next.1
  let fetched : Link :=
    { link with ambient := { link.ambient with tokens := link.ambient.tokens.next.2 } }
  split
  next hstopped =>
    rw [passed, hbeat, runAttempt, if_pos hstopped]
    exact List.drop_length
  next hstopped =>
    cases hc : link.carrier with
    | scripted t =>
      let mid : Link := { fetched with carrier := .scripted (t.connect url).1 }
      have hrun : link.runAttempt id token clientId =
          (mid.emitAll (t.connect url).2.1).endTask id := by
        simp only [runAttempt, if_neg hstopped, hc, script]
        rfl
      have hcarrier : (link.beat (.task id)).carrier = .scripted (t.connect url).1 := by
        rw [hbeat, hrun]
        exact emitAll_carrier _ mid
      constructor
      · rw [passed, hcarrier, hc]
        exact List.drop_left
      · rw [hbeat, hrun]
        exact congrArg (fun link : Link => link.ambient.tokens) (emitAll_scenery _ mid)
    | socket t =>
      have hrun : link.runAttempt id token clientId =
          (fetched.updateSocket (t.connect url).2.1 (t.connect url).2.2).setTask id
            (.handshake token (t.connect url).1) := by
        simp only [runAttempt, if_neg hstopped, hc]
        rfl
      have hcarrier : (link.beat (.task id)).carrier = .socket (t.connect url).2.1 := by
        rw [hbeat, hrun]
        exact updateSocket_carrier _ _ fetched
      have hhandshakes : (t.connect url).2.1.handshakes =
          t.handshakes ++ [⟨t.generation + 1, url⟩] := by
        simp [Socket.connect]
      constructor
      · rw [passed, hcarrier, hc, told, told, hhandshakes, List.map_append]
        exact List.drop_left
      · obtain ⟨woken, heq⟩ := updateSocket_eq (t.connect url).2.1 (t.connect url).2.2 fetched
        rw [hbeat, hrun, heq]
        exact congrArg (fun link : Link => link.ambient.tokens) (emitAll_scenery _ _)

/-- Whatever happens, and whatever inputs reach the session: its identifier is the one that the
history says was told last, and no incident changes it but a close and the server's answer that it
waits for. A URL is passed to the transport only by an attempt; it is made of the identifier that
the session remembered when the attempt began and of the token that the attempt is given, and every
attempt that is not stopped before it runs passes it. -/
theorem attempts_present_remembered (carrier : Carrier) (config : SessionConfig)
    (ambient : Ambient) (incidents : List Incident) :
    let start : Link := { withSession carrier config with ambient }
    let link := start.meetAll incidents
    link.session.clientId = start.remembered incidents ∧
    (∀ incident, (link.meet incident).session.clientId =
      (link.mark? incident).getD link.session.clientId) ∧
    (∀ id url, url ∈ link.passed id → ∃ token clientId,
      link.task? id = some (.attempt token clientId) ∧ Began start incidents token clientId ∧
        url = Url.connection config.entrypoint clientId link.ambient.tokens.next.1) ∧
    ∀ id token clientId, link.task? id = some (.attempt token clientId) →
      link.isStopped token = false →
      link.passed id = [Url.connection config.entrypoint clientId link.ambient.tokens.next.1] ∧
        (link.beat (.task id)).ambient.tokens = link.ambient.tokens.next.2 := by
  intro start link
  have hrecalls : Recalls start incidents :=
    recalls_meetAll Session.consistent_initial rfl rfl incidents
  have hentrypoint : link.config.entrypoint = config.entrypoint :=
    congrArg SessionConfig.entrypoint hrecalls.config
  refine ⟨clientId_eq_remembered rfl incidents, clientId_meet link, ?_, ?_⟩
  · intro id url hmem
    by_cases hattempt : ∃ token clientId, link.task? id = some (.attempt token clientId)
    · obtain ⟨token, clientId, htask⟩ := hattempt
      have hbegan := hrecalls.tasks _ (mem_of_task? htask) token clientId rfl
      refine ⟨token, clientId, htask, hbegan, ?_⟩
      have hpassed := passed_attempt htask
      split at hpassed
      next => simp [hpassed] at hmem
      next => simpa [hpassed.1, hentrypoint] using hmem
    · have hnone := passed_eq_nil fun token clientId htask => hattempt ⟨token, clientId, htask⟩
      simp [hnone] at hmem
  · intro id token clientId htask hstopped
    have hpassed := passed_attempt htask
    rw [hstopped, if_neg (by decide), hentrypoint] at hpassed
    exact hpassed

end Link

end WorkspaceLink
