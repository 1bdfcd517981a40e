import WorkspaceLink.Proofs.Link.Beats
import WorkspaceLink.Proofs.Session.Resources

/-!
# Where openings and closes come from

An input that tells of an opening or a close does not name the socket it comes from, and an attempt
calls connect some time after the session has started it. Beside a link we note which attempt called
connect for which socket, and for every input that waits the socket that spoke.

Main statement: the next input that tells of an opening or a close comes from a socket of some
attempt. If that is not the attempt that runs, the session ignores the input, except in two cases.
The socket spoke before the attempt that runs called connect; or it announced its opening when it
had been replaced.
-/
namespace WorkspaceLink

namespace Link

/-! ### What is noted beside a link -/

/-- What is noted of a socket when it speaks. -/
structure Source where
  /-- The connect call that the socket belongs to. -/
  socket : Nat
  /-- How often the transport had been told to connect or to disconnect. -/
  calls : Nat
  /-- Sends went to the socket. -/
  installed : Bool
  deriving DecidableEq, Repr

/-- The socket that speaks in a beat. -/
def speaker? (link : Link) : Beat → Option Nat
  | .socket (.announce g) | .socket (.writeFails g _) | .socket (.takeIn g _) => some g
  | .task id =>
    match link.task? id with
    | some (.delivery delivery) => delivery.onlyIf
    | _ => none
  | _ => none

/-- What is noted of it. -/
def source? (link : Link) (b : Beat) : Option Source :=
  match link.carrier with
  | .scripted _ => none
  | .socket t => (link.speaker? b).map fun g => ⟨g, t.generation, t.installed = some g⟩

/-- The attempt that calls connect in a beat, and the number of the call. -/
def dials? (link : Link) (b : Beat) : Option (Nat × Nat) :=
  match b, link.carrier with
  | .task id, .socket t =>
    match link.task? id with
    | some (.attempt token _) =>
      if link.isStopped token then none else some (token, t.generation + 1)
    | _ => none
  | _, _ => none

/-- The session has its turn in this beat. -/
def drives (link : Link) : Beat → Bool
  | .task id =>
    match link.task? id with
    | some .driver => true
    | _ => false
  | _ => false

/-- A link, the calls that attempts made, each with the token of its attempt, and the sources of the
inputs that wait. -/
structure Chronicle where
  link : Link
  dialled : List (Nat × Nat) := []
  sources : List (Option Source) := []

namespace Chronicle

/-- The sources of the inputs that are left when the session has had its turn, if it has one. -/
def kept (c : Chronicle) (b : Beat) : List (Option Source) :=
  if c.link.drives b then c.sources.drop 1 else c.sources

/-- A beat. What is heard in it comes from the socket that speaks. -/
def next (c : Chronicle) (b : Beat) : Chronicle where
  link := c.link.beat b
  dialled := c.dialled ++ (c.link.dials? b).toList
  sources := c.kept b ++
    List.replicate ((c.link.beat b).inputs.length - (c.kept b).length) (c.link.source? b)

/-- A session over sockets, after beats. -/
def after (settings : TransportSettings) (config : SessionConfig) (beats : List Beat) : Chronicle :=
  beats.foldl next { link := withSession (.socket { settings }) config }

/-- What is noted does not change what happens. -/
theorem after_link (settings : TransportSettings) (config : SessionConfig) (beats : List Beat) :
    (after settings config beats).link =
      (withSession (.socket { settings }) config).play beats := by
  have h : ∀ c : Chronicle, (beats.foldl next c).link = c.link.play beats := by
    induction beats with
    | nil => exact fun _ => rfl
    | cons b rest ih => exact fun c => ih (c.next b)
  exact h _

end Chronicle

/-! ### Sockets and calls -/

/-- Some attempt made the call. -/
def Dialled (dialled : List (Nat × Nat)) (g : Nat) : Prop := ∃ token, (token, g) ∈ dialled

/-- The handshakes and sockets of a transport belong to calls that attempts made. -/
structure Plotted (dialled : List (Nat × Nat)) (t : Socket) : Prop where
  orderly : t.Orderly
  calls_le : ∀ token g, (token, g) ∈ dialled → g ≤ t.generation
  handshakes : ∀ h ∈ t.handshakes, Dialled dialled h.generation
  streams : ∀ s ∈ t.streams, Dialled dialled s.generation

/-- A delivery speaks for a socket, or reports a send that failed. -/
def Deliverable (dialled : List (Nat × Nat)) (delivery : Delivery) : Prop :=
  (∃ g, delivery.onlyIf = some g ∧ Dialled dialled g) ∨
    ∀ event ∈ delivery.events, ∃ id reason, event = .sendFailed id reason

/-- The task does not call connect, and a delivery can be traced. -/
def Harmless (dialled : List (Nat × Nat)) : Task → Prop
  | .attempt _ _ => False
  | .delivery delivery => Deliverable dialled delivery
  | _ => True

/-- Calls, sockets and attempts belong together. -/
structure Charted (dialled : List (Nat × Nat)) (link : Link) : Prop where
  plotted : ∃ t, link.carrier = .socket t ∧ Plotted dialled t
  consistent : link.session.Consistent
  token_lt : ∀ token g, (token, g) ∈ dialled → token < link.session.nextToken
  before_current : ∀ current, link.session.attempt = some current → ∀ token g call,
    (token, g) ∈ dialled → (current, call) ∈ dialled → token ≠ current → g < call
  tasks : ∀ entry ∈ link.tasks, Harmless dialled entry.2 ∨
    ∃ token clientId, entry.2 = .attempt token clientId ∧
      (token ∈ link.cancelledTokens ∨ link.session.attempt = some token)

variable {link first second : Link} {dialled : List (Nat × Nat)} {t after : Socket} {id : Nat}
  {task : Task}

theorem Plotted.inherits (h : Plotted dialled t) (horderly : after.Orderly)
    (hinherits : t.Inherits after) : Plotted dialled after where
  orderly := horderly
  calls_le token g hmem := Nat.le_trans (h.calls_le token g hmem) hinherits.calls
  handshakes handshake hmem := h.handshakes handshake (hinherits.handshakes handshake hmem)
  streams s hmem := by
    obtain ⟨old, hold, heq⟩ := hinherits.streams s hmem
    exact heq ▸ h.streams old hold

theorem Charted.plotted_of (h : Charted dialled link) (hc : link.carrier = .socket t) :
    Plotted dialled t := by
  obtain ⟨t', hc', hplotted⟩ := h.plotted
  obtain rfl : t' = t := by simpa [hc] using hc'.symm
  exact hplotted

/-- An attempt that was not stopped is the one of the session. -/
theorem Charted.attempt_of_task (h : Charted dialled link) {token : Nat}
    {clientId : Option ClientId} (htask : link.task? id = some (.attempt token clientId))
    (hstopped : ¬ link.isStopped token) : link.session.attempt = some token := by
  rcases h.tasks _ (mem_of_task? htask) with hharmless | ⟨token', _, heq, hrunning⟩
  · exact hharmless.elim
  · obtain ⟨rfl, _⟩ : token = token' ∧ _ := by simpa using heq
    rcases hrunning with hcancelled | hattempt
    · simp [isStopped, hcancelled] at hstopped
    · exact hattempt

/-- Nothing changes but the state of the transport, and tasks that do no harm. -/
theorem Charted.congr (h : Charted dialled first)
    (hplotted : ∃ t, second.carrier = .socket t ∧ Plotted dialled t)
    (hsession : second.session = first.session)
    (hcancelled : second.cancelledTokens = first.cancelledTokens)
    (htasks : ∀ entry ∈ second.tasks, entry ∈ first.tasks ∨ Harmless dialled entry.2) :
    Charted dialled second where
  plotted := hplotted
  consistent := hsession ▸ h.consistent
  token_lt := hsession ▸ h.token_lt
  before_current := hsession ▸ h.before_current
  tasks entry hmem := by
    rw [hsession, hcancelled]
    rcases htasks entry hmem with hold | hharmless
    · exact h.tasks entry hold
    · exact .inl hharmless

theorem Charted.emitAll (h : Charted dialled link) (events : List TransportEvent) :
    Charted dialled (link.emitAll events) := by
  have hscenery := emitAll_scenery events link
  have hcarrier : (link.emitAll events).carrier = link.carrier :=
    (congrArg Link.carrier hscenery :)
  have htasks : (link.emitAll events).tasks = link.tasks := (congrArg Link.tasks hscenery :)
  refine h.congr (hcarrier ▸ h.plotted) (congrArg Link.session hscenery :)
    (congrArg Link.cancelledTokens hscenery :) fun entry hmem => ?_
  exact .inl (htasks ▸ hmem)

/-- The transport is in another state and emits events. -/
theorem Charted.transport (h : Charted dialled link) (hplotted : Plotted dialled after)
    (events : List TransportEvent) (woken : List Nat) (wire : List (Nat × Json)) :
    Charted dialled (Link.emitAll events { link with carrier := .socket after, woken, wire }) := by
  have hmid : Charted dialled { link with carrier := .socket after, woken, wire } :=
    h.congr ⟨after, rfl, hplotted⟩ rfl rfl fun _ hmem => .inl hmem
  exact hmid.emitAll events

theorem Charted.updateSocket (h : Charted dialled link) (hplotted : Plotted dialled after)
    (emissions : List Emission) : Charted dialled (link.updateSocket after emissions) := by
  obtain ⟨woken, heq⟩ := updateSocket_eq after emissions link
  rw [heq]
  exact h.transport hplotted _ woken link.wire

theorem Charted.spawn (h : Charted dialled link) (hharmless : Harmless dialled task) :
    Charted dialled (link.spawn task) := by
  refine h.congr h.plotted rfl rfl fun entry hmem => ?_
  rcases mem_spawn.mp hmem with hold | rfl
  · exact .inl hold
  · exact .inr hharmless

theorem Charted.setTask (h : Charted dialled link) (hharmless : Harmless dialled task) (id : Nat) :
    Charted dialled (link.setTask id task) := by
  refine h.congr h.plotted rfl rfl fun entry hmem => ?_
  rcases mem_setTask hmem with ⟨hold, _⟩ | ⟨rfl, _⟩
  · exact .inl hold
  · exact .inr hharmless

theorem Charted.endTask (h : Charted dialled link) (id : Nat) : Charted dialled (link.endTask id) :=
  h.congr h.plotted rfl rfl fun _ hmem => .inl (mem_endTask.mp hmem).1

theorem Charted.send (h : Charted dialled link) (message : Json) :
    Charted dialled (link.send message) := by
  obtain ⟨t, hc, hplotted⟩ := h.plotted
  have hafter := hplotted.inherits (hplotted.orderly.send message) (t.inherits_send message)
  have hupdated := h.updateSocket hafter []
  simp only [Link.send, hc]
  cases hsent : (t.send message).2 with
  | none => exact hupdated
  | some delivery =>
    obtain ⟨_, _, reason, hevents⟩ := Socket.send_failed hsent
    refine hupdated.spawn (.inr fun event hmem => ?_)
    rw [hevents, List.mem_singleton] at hmem
    exact ⟨_, _, hmem⟩

theorem harmless_of_isAside (h : isAside task) : Harmless dialled task := by
  cases task with
  | attempt token clientId => simp [isAside] at h
  | delivery delivery => simp [isAside] at h
  | _ => trivial

theorem essenceKeptByCalls_charted (id : Nat) (dialled : List (Nat × Nat)) :
    EssenceKeptByCalls id (Charted dialled) where
  idle {link link'} h heq := by
    have hcarrier : link'.carrier = link.carrier := (congrArg Link.carrier heq :)
    have htasks : link'.tasks = link.tasks := (congrArg Link.tasks heq :)
    refine h.congr (hcarrier ▸ h.plotted) (congrArg Link.session heq :)
      (congrArg Link.cancelledTokens heq :) fun entry hmem => ?_
    exact .inl (htasks ▸ hmem)
  request {link} _ params _ h := by
    have hissued : Charted dialled { link with client := link.client.issue.2 } :=
      h.congr h.plotted rfl rfl fun _ hmem => .inl hmem
    exact hissued.send _
  forget _ h := h.congr h.plotted rfl rfl fun _ hmem => .inl hmem
  setTask haside _ h := h.setTask (harmless_of_isAside haside) id
  endTask h := h.endTask id
  finish _ h := (h.endTask id).congr h.plotted rfl rfl fun _ hmem => .inl hmem
  pushInput _ _ h := h.congr h.plotted rfl rfl fun _ hmem => .inl hmem
  spawnDriver h := h.spawn trivial
  books {link} handlers table h := by
    have hmoved : (link.session.move link.config (.subscriptions table)).session.Consistent :=
      h.consistent.move _
    exact ⟨h.plotted, hmoved, h.token_lt, h.before_current, h.tasks⟩
  setCall {link stage} _ h := h.setTask (show Harmless dialled (.call stage) from trivial) id
  setReplay current rest h :=
    h.setTask (show Harmless dialled (.replay current rest) from trivial) id

/-! ### The turn of the session -/

theorem startedTask_cases {effect : Effect} (h : startedTask? effect = some task) :
    Harmless dialled task ∨
      ∃ token generation clientId, effect = .attempt token generation clientId ∧
        task = .attempt token clientId := by
  cases effect with
  | attempt token generation clientId =>
    exact .inr ⟨token, generation, clientId, rfl, (Option.some.inj h).symm⟩
  | fetchId _ | probe _ _ | timer _ _ | replay _ =>
    obtain rfl := Option.some.inj h
    exact .inl trivial
  | _ => simp [startedTask?] at h

/-- An attempt that is given up is stopped before its task runs again. -/
theorem Charted.handleNext (h : Charted dialled link) : Charted dialled link.handleNext := by
  unfold Link.handleNext
  split
  · exact h
  next input rest _ =>
    let step := link.session.handle link.config input
    let handled : Link := { link with inputs := rest, session := step.session }
    have hreacts := Session.handle_reacts link.config link.session input
    have hsucceeds := Session.succeeds_reacts hreacts
    have hrun := executes_runEffects step.effects handled
    have hsession : (handled.runEffects step.effects).session = step.session :=
      runEffects_session step.effects handled
    obtain ⟨t, hc, hplotted⟩ := h.plotted
    obtain ⟨after, hafter, horderly, hinherits⟩ := hrun.sockets t hc
    refine ⟨⟨after, hafter, hplotted.inherits (horderly hplotted.orderly) hinherits⟩,
      hsession ▸ h.consistent.reacts hreacts, fun token g hmem => ?_,
      fun current hcurrent token g call hmem hcall hne => ?_, fun entry hmem => ?_⟩
    · exact Nat.lt_of_lt_of_le (h.token_lt token g hmem) (hsession ▸ hsucceeds.nextToken_le)
    · change (handled.runEffects step.effects).session.attempt = some current at hcurrent
      rw [hsession] at hcurrent
      rcases hsucceeds.fresh current hcurrent with hold | hfresh
      · exact h.before_current current hold token g call hmem hcall hne
      · exact absurd (h.token_lt current call hcall) (Nat.not_lt_of_le hfresh)
    · change _ ∨ ∃ token clientId, _ ∧ (_ ∨ (handled.runEffects step.effects).session.attempt = _)
      rw [hsession]
      rcases hrun.tasks entry hmem with hold | ⟨effect, heffect, hstarts⟩
      · rcases h.tasks entry hold with hharmless | ⟨token, clientId, heq, hcancelled | hattempt⟩
        · exact .inl hharmless
        · exact .inr ⟨token, clientId, heq, .inl (hrun.cancelled token (.inl hcancelled))⟩
        · refine .inr ⟨token, clientId, heq, ?_⟩
          rcases hsucceeds.stopped token hattempt with hkept | hcancel
          · exact .inr hkept
          · exact .inl (hrun.cancelled token (.inr hcancel))
      · rcases startedTask_cases hstarts with hharmless | ⟨token, _, clientId, rfl, heq⟩
        · exact .inl hharmless
        · exact .inr ⟨token, clientId, heq, .inr (hsucceeds.started token _ _ heffect)⟩

/-! ### Attempts and handshakes -/

theorem Dialled.append {g : Nat} (h : Dialled dialled g) (more : List (Nat × Nat)) :
    Dialled (dialled ++ more) g := by
  obtain ⟨token, hmem⟩ := h
  exact ⟨token, List.mem_append_left _ hmem⟩

theorem Harmless.append (h : Harmless dialled task) (more : List (Nat × Nat)) :
    Harmless (dialled ++ more) task := by
  cases task with
  | attempt token clientId => exact h.elim
  | delivery delivery =>
    rcases h with ⟨g, hg, hdialled⟩ | hfailures
    · exact .inl ⟨g, hg, hdialled.append more⟩
    · exact .inr hfailures
  | _ => trivial

theorem Plotted.connect (h : Plotted dialled t) (token : Nat) (url : String) :
    Plotted (dialled ++ [(token, t.generation + 1)]) (t.connect url).2.1 := by
  have hinherits := t.inherits_disconnect
  have hgeneration : (t.connect url).2.1.generation = t.generation + 1 := by
    simp [Socket.connect]
  refine ⟨h.orderly.connect url, fun other g hmem => ?_, fun handshake hmem => ?_, fun s hmem => ?_⟩
  · rw [hgeneration]
    rcases List.mem_append.mp hmem with hold | hnew
    · exact Nat.le_succ_of_le (h.calls_le other g hold)
    · simp only [List.mem_singleton, Prod.mk.injEq] at hnew
      omega
  · rcases List.mem_append.mp hmem with hold | hnew
    · exact (h.handshakes handshake (hinherits.handshakes handshake hold)).append _
    · rw [List.mem_singleton.mp hnew]
      exact ⟨token, by simp⟩
  · obtain ⟨old, hold, heq⟩ := hinherits.streams s hmem
    exact heq ▸ (h.streams old hold).append _

theorem Plotted.accept (h : Plotted dialled t) {handshake : Handshake}
    (hmem : handshake ∈ t.handshakes) (url : String) :
    Plotted dialled (t.accept handshake.generation url).1 := by
  let ended := t.endHandshake handshake.generation
  have hended := h.inherits (h.orderly.endHandshake handshake.generation)
    (t.inherits_endHandshake handshake.generation)
  have heq : (t.accept handshake.generation url).1 =
      if t.generation = handshake.generation then
        { ended with
          installed := some handshake.generation
          streams := t.streams ++ [{ generation := handshake.generation }] }
      else ended := by
    unfold Socket.accept
    dsimp only [Socket.endHandshake, ended]
    split <;> rfl
  refine ⟨h.orderly.accept hmem url, fun token g hcall => ?_, fun other hother => ?_,
    fun s hs => ?_⟩
  · rw [heq]
    split <;> exact h.calls_le token g hcall
  · rw [heq] at hother
    split at hother <;> exact hended.handshakes other hother
  · rw [heq] at hs
    split at hs
    · rcases List.mem_append.mp hs with hold | hnew
      · exact h.streams s hold
      · rw [List.mem_singleton.mp hnew]
        exact h.handshakes handshake hmem
    · exact h.streams s hs

/-- The attempt that runs calls connect. -/
theorem Charted.dial (h : Charted dialled link) (hc : link.carrier = .socket t) {token : Nat}
    (hattempt : link.session.attempt = some token) (url : String) :
    Charted (dialled ++ [(token, t.generation + 1)])
      { link with carrier := .socket (t.connect url).2.1 } := by
  have hplotted := h.plotted_of hc
  refine ⟨⟨_, rfl, hplotted.connect token url⟩, h.consistent, fun other g hmem => ?_,
    fun current hcurrent other g call hmem hcall hne => ?_, fun entry hmem => ?_⟩
  · rcases List.mem_append.mp hmem with hold | hnew
    · exact h.token_lt other g hold
    · obtain ⟨rfl, _⟩ : other = token ∧ _ := by simpa using hnew
      exact h.consistent.attempt_lt _ hattempt
  · obtain rfl : token = current := by simpa [hattempt] using hcurrent
    -- The new call is of the attempt that runs, so the older one is among the calls before it.
    have hold : (other, g) ∈ dialled := by simpa [hne] using hmem
    rcases List.mem_append.mp hcall with hbefore | hnew
    · exact h.before_current token hattempt other g call hold hbefore hne
    · obtain rfl : call = t.generation + 1 := by simpa using hnew
      exact Nat.lt_succ_of_le (hplotted.calls_le other g hold)
  · rcases h.tasks entry hmem with hharmless | hattempts
    · exact .inl (hharmless.append _)
    · exact .inr hattempts

theorem Charted.runAttempt (h : Charted dialled link) {token : Nat} {clientId : Option ClientId}
    (htask : link.task? id = some (.attempt token clientId)) :
    Charted (dialled ++ (link.dials? (.task id)).toList) (link.runAttempt id token clientId) := by
  obtain ⟨t, hc, _⟩ := h.plotted
  unfold Link.runAttempt
  split
  next hstopped =>
    have hnone : link.dials? (.task id) = none := by simp [dials?, hc, htask, hstopped]
    simpa [hnone] using h.endTask id
  next hstopped =>
    have hdials : link.dials? (.task id) = some (token, t.generation + 1) := by
      simp [dials?, hc, htask, hstopped]
    have hattempt := h.attempt_of_task htask hstopped
    let tokens := link.ambient.tokens.next
    let url := Url.connection link.config.entrypoint clientId tokens.1
    let fetched : Link := { link with ambient := { link.ambient with tokens := tokens.2 } }
    have hfetched : Charted dialled fetched := (essenceKeptByCalls_charted id dialled).idle h rfl
    have hdialled := hfetched.dial hc hattempt url
    have hplotted := (h.plotted_of hc).connect token url
    have hupdated := (hdialled.updateSocket hplotted (t.connect url).2.2).setTask
      (show Harmless _ (.handshake token (t.connect url).1) from trivial) id
    simp only [hc, hdials]
    exact hupdated

theorem Charted.concludeHandshake (h : Charted dialled link) (hc : link.carrier = .socket t)
    {handshake : Handshake} (hmem : handshake ∈ t.handshakes) (failure : Option String) :
    Charted dialled (link.concludeHandshake handshake failure t).2 := by
  have hplotted := h.plotted_of hc
  have hdialled := hplotted.handshakes handshake hmem
  have hput : ∀ {after : Socket}, Plotted dialled after →
      Charted dialled { link with carrier := .socket after } :=
    fun hafter => h.congr ⟨_, rfl, hafter⟩ rfl rfl fun _ hmem => .inl hmem
  unfold Link.concludeHandshake
  cases failure with
  | none =>
    have haccepted := hplotted.accept hmem handshake.url
    dsimp only
    split
    · exact (hput haccepted).spawn trivial
    · exact hput haccepted
  | some reason =>
    have hended := hplotted.inherits (hplotted.orderly.endHandshake handshake.generation)
      (t.inherits_endHandshake handshake.generation)
    exact (hput hended).spawn (.inl ⟨handshake.generation, rfl, hdialled⟩)

theorem Charted.runHandshake (h : Charted dialled link) (id token g : Nat) :
    Charted dialled (link.runHandshake id token g) := by
  obtain ⟨t, hc, hplotted⟩ := h.plotted
  simp only [Link.runHandshake, hc]
  split
  · have hended : Charted dialled { link with carrier := .socket (t.endHandshake g) } :=
      h.congr ⟨_, rfl, hplotted.inherits (hplotted.orderly.endHandshake g)
        (t.inherits_endHandshake g)⟩ rfl rfl fun _ hmem => .inl hmem
    exact hended.endTask id
  · split
    · exact h.endTask id
    · exact h
    next handshake _ hfound _ =>
      exact (h.concludeHandshake hc (List.mem_of_find?_eq_some hfound) _).endTask id

theorem Charted.runDelivery (h : Charted dialled link) (id : Nat) (delivery : Delivery) :
    Charted dialled (link.runDelivery id delivery) := by
  obtain ⟨t, hc, hplotted⟩ := h.plotted
  have hended := h.endTask id
  have hc' : (link.endTask id).carrier = .socket t := hc
  have hemitted := hended.transport hplotted ((t.due delivery).map (·.event)) link.woken link.wire
  simp only [Link.runDelivery, hc']
  rw [← hc'] at hemitted
  exact hemitted

/-! ### Beats -/

/-- Only the session connects and disconnects the transport. -/
def leavesTransport : Beat → Bool
  | .socket turn => isService turn
  | _ => true

/-- The task of a socket takes no call away and makes no new one. -/
theorem Moves.inherits {turn : Turn} {events : List TransportEvent}
    (h : Moves link t turn after events) (hservice : isService turn) (ho : t.Orderly) :
    after.Orderly ∧ t.Inherits after := by
  cases h with
  | announce hfound => exact ⟨ho.announce _, t.inherits_modifyStream _ fun _ => rfl⟩
  | write g => exact ⟨ho.write g, t.inherits_write g⟩
  | writeFails reason hfound => exact ⟨ho.fail _ reason, t.inherits_finish _ none reason⟩
  | takeIn inbound hserved => exact ⟨ho.takeIn _ inbound, t.inherits_takeIn _ inbound⟩
  | stop g => exact ⟨ho.dropStream g, t.inherits_dropStream g⟩
  | unserved => exact ⟨ho, .refl t⟩
  | _ => simp [isService] at hservice

theorem Charted.take (h : Charted dialled link) {turn : Turn} (hservice : isService turn) :
    Charted dialled (link.take turn) := by
  obtain ⟨t, hc, hplotted⟩ := h.plotted
  obtain ⟨after, events, mid, hmoves, hleads, htake⟩ := take_moves hc turn
  obtain ⟨horderly, hinherits⟩ := hmoves.inherits hservice hplotted.orderly
  have hmid : Charted dialled mid := by
    refine h.congr ⟨after, hleads.carrier, hplotted.inherits horderly hinherits⟩ hleads.session
      hleads.cancelled fun entry hmem => .inl ?_
    rwa [hleads.tasks hservice] at hmem
  rw [htake]
  exact hmid.emitAll events

theorem Charted.runTask (h : Charted dialled link) (id : Nat) :
    Charted (dialled ++ (link.dials? (.task id)).toList) (link.runTask id) := by
  have hbyAllCalls := essenceKeptByCalls_charted id dialled
  obtain ⟨t, hc, _⟩ := h.plotted
  cases htask : link.task? id with
  | none =>
    have hnone : link.dials? (.task id) = none := by simp [dials?, hc, htask]
    simpa [hnone, Link.runTask, poll, htask] using h
  | some task =>
    have hkept : ∀ {after : Link}, (∀ token clientId, task ≠ .attempt token clientId) →
        Charted dialled after → Charted (dialled ++ (link.dials? (.task id)).toList) after := by
      intro after hne hafter
      have hnone : link.dials? (.task id) = none := by
        simp only [dials?, hc, htask]
        split
        next token clientId heq => exact absurd (Option.some.inj heq) (hne token clientId)
        next => rfl
      simpa [hnone] using hafter
    simp only [Link.runTask, poll, htask]
    cases task with
    | driver => exact hkept (by simp) h.handleNext
    | attempt token clientId => exact h.runAttempt htask
    | handshake token g => exact hkept (by simp) (h.runHandshake id token g)
    | identify g inquiry? => exact hkept (by simp) (hbyAllCalls.runIdentify trivial g inquiry? h)
    | probes token g stage => exact hkept (by simp) (hbyAllCalls.runProbes trivial token g stage h)
    | delay number delayMs due? =>
      exact hkept (by simp) (hbyAllCalls.runDelay number delayMs due? h)
    | replay current rest => exact hkept (by simp) (hbyAllCalls.runReplay current rest h)
    | delivery delivery => exact hkept (by simp) (h.runDelivery id delivery)
    | stream g => exact hkept (by simp) h
    | call stage => exact hkept (by simp) (hbyAllCalls.runCall stage h)

theorem Charted.beat (h : Charted dialled link) {b : Beat} (hleaves : leavesTransport b) :
    Charted (dialled ++ (link.dials? b).toList) (link.beat b) := by
  have hidle : ∀ {after : Link}, after.essence = link.essence → Charted dialled after :=
    fun heq => (essenceKeptByCalls_charted 0 dialled).idle h heq
  have hkept : link.dials? b = none → Charted dialled (link.beat b) →
      Charted (dialled ++ (link.dials? b).toList) (link.beat b) := by
    intro hnone hafter
    simpa [hnone] using hafter
  obtain ⟨t, hc, _⟩ := h.plotted
  cases b with
  | task id => exact h.runTask id
  | call call => exact hkept rfl (h.spawn trivial)
  | waitForStatus workspace status =>
    have hsettled := hidle (settleStatuses_essence (link.waiter.waitFor workspace status).2.2
      { link with waiter := (link.waiter.waitFor workspace status).2.1 })
    exact hkept rfl (hsettled.spawn trivial)
  | abandon id => exact hkept rfl ((essenceKeptByCalls_charted id dialled).abandon h)
  | elapse millis => exact hkept rfl (hidle rfl)
  | handshakeEnds g failure => exact hkept rfl (hidle rfl)
  | socket turn => exact hkept rfl (h.take hleaves)
  | script act =>
    have hsame : link.beat (.script act) = link := by simp only [Link.beat, script, hc]
    exact hkept rfl (hsame.symm ▸ h)

/-! ### Inputs -/

/-- An input of the transport comes from a socket that an attempt called for. That was the latest
call, or the input is an opening that was announced when the socket was not installed. -/
def Accounts (dialled : List (Nat × Nat)) (input : Input) (source? : Option Source) : Prop :=
  isReport input = false → ∃ source, source? = some source ∧ Dialled dialled source.socket ∧
    (source.calls = source.socket ∨ input = .opened ∧ source.installed = false)

/-- The inputs of the second link are those of the first, and reports. -/
def Reports (first second : Link) : Prop :=
  ∃ heard, second.inputs = first.inputs ++ heard ∧ ∀ input ∈ heard, isReport input = true

theorem Reports.of_inputs (h : second.inputs = first.inputs) : Reports first second :=
  ⟨[], by simp [h], by simp⟩

theorem essenceKeptByCalls_reports (id : Nat) (start : Link) :
    EssenceKeptByCalls id (Reports start) where
  idle {link link'} h heq := by
    obtain ⟨heard, hinputs, hreports⟩ := h
    have hsame : link'.inputs = link.inputs := (congrArg Link.inputs heq :)
    exact ⟨heard, hsame.trans hinputs, hreports⟩
  request {link} _ params _ h := by
    obtain ⟨heard, hinputs, hreports⟩ := h
    exact ⟨heard, (send_inputs _ _).trans hinputs, hreports⟩
  forget _ h := h
  setTask _ _ h := h
  endTask h := h
  finish _ h := h
  pushInput {link} input hreport _ h := by
    obtain ⟨heard, hinputs, hreports⟩ := h
    refine ⟨heard ++ [input], ?_, fun other hmem => ?_⟩
    · simp [pushInput, raise, hinputs]
    · rcases List.mem_append.mp hmem with hold | hnew
      · exact hreports other hold
      · rw [List.mem_singleton.mp hnew]
        exact hreport
  spawnDriver h := h
  books _ _ h := h
  setCall _ h := h
  setReplay _ _ h := h

/-- What the second link hears beyond the first comes from the source. -/
def Hears (dialled : List (Nat × Nat)) (source? : Option Source) (first second : Link) : Prop :=
  ∃ heard, second.inputs = first.inputs ++ heard ∧
    ∀ input ∈ heard, Accounts dialled input source?

theorem Reports.hears {source? : Option Source} (h : Reports first second) :
    Hears dialled source? first second := by
  obtain ⟨heard, hinputs, hreports⟩ := h
  refine ⟨heard, hinputs, fun input hmem hnot => ?_⟩
  simp [hreports input hmem] at hnot

/-- A socket speaks: only that of the latest call announces a close. -/
theorem hears_emitAll {g : Nat} (hdialled : Dialled dialled g) {mid : Link}
    (hinputs : mid.inputs = link.inputs) {events : List TransportEvent}
    (hevents : ∀ event ∈ events, ∀ input, inputOf? event = some input →
      t.generation = g ∨ input = .opened ∧ t.installed ≠ some g) :
    Hears dialled (some ⟨g, t.generation, t.installed = some g⟩) link (mid.emitAll events) := by
  obtain ⟨heard, heq, hheard⟩ := emitAll_inputs events mid
  refine ⟨heard, by rw [heq, hinputs], fun input hmem _ => ⟨_, rfl, hdialled, ?_⟩⟩
  obtain ⟨event, hevent, hinput⟩ := hheard input hmem
  rcases hevents event hevent input hinput with hlatest | ⟨hopened, hreplaced⟩
  · exact .inl hlatest
  · exact .inr ⟨hopened, by simpa using hreplaced⟩

/-- Which socket speaks in a turn of a socket's task, and what it tells of. -/
theorem Moves.speaks {turn : Turn} {events : List TransportEvent}
    (h : Moves link t turn after events) (hc : link.carrier = .socket t) (ho : t.Orderly)
    (hservice : isService turn) :
    events = [] ∨ ∃ g s, t.stream? g = some s ∧ link.speaker? (.socket turn) = some g ∧
      ∀ event ∈ events, ∀ input, inputOf? event = some input →
        t.generation = g ∨ input = .opened ∧ t.installed ≠ some g := by
  -- Apart from its opening, a socket tells of nothing but its end.
  have hfail : ∀ {g reason event input}, event ∈ (t.fail g reason).2.map (·.event) →
      inputOf? event = some input → t.generation = g := by
    intro g reason event input hmem hinput
    rcases List.mem_cons.mp hmem with rfl | hclosed
    · simp [inputOf?] at hinput
    · exact (Socket.closed_of_finish hclosed).1
  cases h with
  | @announce g s hfound =>
    refine .inr ⟨g, s, hfound, rfl, fun event hmem input hinput => ?_⟩
    obtain rfl := List.mem_singleton.mp hmem
    by_cases hinstalled : t.installed = some g
    · exact .inl (ho.installed_latest g hinstalled).symm
    · exact .inr ⟨by simpa [inputOf?] using hinput.symm, hinstalled⟩
  | @writeFails g s reason hfound =>
    exact .inr ⟨g, s, hfound, rfl, fun event hmem input hinput => .inl (hfail hmem hinput)⟩
  | @takeIn g inbound hserved =>
    obtain ⟨s, hs, _⟩ : ∃ s, t.stream? g = some s ∧ _ := by
      simpa [serves, hc, Option.any_eq_true] using hserved
    refine .inr ⟨g, s, hs, rfl, fun event hmem input hinput => .inl ?_⟩
    rcases t.takeIn_cases g inbound with heq | ⟨_, message, _, _, heq⟩ | ⟨code, reason, heq⟩ |
        ⟨reason, heq⟩ <;> rw [heq] at hmem
    · simp at hmem
    · obtain rfl : event = .received message := by simpa using hmem
      simp [inputOf?] at hinput
    · exact (Socket.closed_of_finish hmem).1
    · exact hfail hmem hinput
  | write g => exact .inl rfl
  | stop g => exact .inl rfl
  | unserved => exact .inl rfl
  | _ => simp [isService] at hservice

theorem Charted.hears_take (h : Charted dialled link) {turn : Turn} (hservice : isService turn) :
    Hears dialled (link.source? (.socket turn)) link (link.take turn) := by
  obtain ⟨t, hc, hplotted⟩ := h.plotted
  obtain ⟨after, events, mid, hmoves, hleads, htake⟩ := take_moves hc turn
  rw [htake]
  rcases hmoves.speaks hc hplotted.orderly hservice with rfl | ⟨g, s, hfound, hspeaker, hevents⟩
  · exact (Reports.of_inputs hleads.inputs).hears
  · have hgeneration : s.generation = g := by simpa using List.find?_some hfound
    have hdialled : Dialled dialled g :=
      hgeneration ▸ hplotted.streams s (List.mem_of_find?_eq_some hfound)
    simp only [source?, hc, hspeaker, Option.map_some]
    exact hears_emitAll hdialled hleads.inputs hevents

theorem runAttempt_inputs (hc : link.carrier = .socket t) (id token : Nat)
    (clientId : Option ClientId) : (link.runAttempt id token clientId).inputs = link.inputs := by
  unfold runAttempt
  split
  · rfl
  · dsimp only
    split
    next t' hc' => simp [hc] at hc'
    next t' hc' =>
      obtain rfl : t = t' := by simpa [hc] using hc'
      let tokens := link.ambient.tokens.next
      let url := Url.connection link.config.entrypoint clientId tokens.1
      let fetched : Link := { link with ambient := { link.ambient with tokens := tokens.2 } }
      obtain ⟨woken, heq⟩ := updateSocket_eq (t.connect url).2.1 (t.connect url).2.2 fetched
      have hreset : ∀ event ∈ (t.connect url).2.2.map (·.event), inputOf? event = none := by
        intro event hmem
        simp only [Socket.connect, Socket.tearDown_emissions] at hmem
        cases hinstalled : t.installed with
        | none => simp [hinstalled] at hmem
        | some g =>
          obtain rfl : event = .reset := by simpa [hinstalled] using hmem
          rfl
      have hsame : (fetched.updateSocket (t.connect url).2.1 (t.connect url).2.2).inputs =
          link.inputs := by
        rw [heq]
        exact emitAll_inputs_eq hreset _
      exact hsame

theorem runHandshake_inputs (id token g : Nat) (link : Link) :
    (link.runHandshake id token g).inputs = link.inputs := by
  have hconclude : ∀ handshake failure t,
      (link.concludeHandshake handshake failure t).2.inputs = link.inputs := by
    intro handshake failure t
    unfold concludeHandshake
    cases failure with
    | none =>
      dsimp only
      split <;> rfl
    | some reason => rfl
  unfold runHandshake
  split
  · rfl
  · split
    · rfl
    · split
      · rfl
      · rfl
      · exact hconclude _ _ _

theorem Charted.hears_delivery (h : Charted dialled link) {delivery : Delivery}
    (htask : link.task? id = some (.delivery delivery)) :
    Hears dialled (link.source? (.task id)) link (link.runDelivery id delivery) := by
  obtain ⟨t, hc, _⟩ := h.plotted
  have hc' : (link.endTask id).carrier = .socket t := hc
  simp only [Link.runDelivery, hc', source?, speaker?, hc, htask]
  rcases h.tasks _ (mem_of_task? htask) with hdeliverable | ⟨_, _, heq, _⟩
  · rcases hdeliverable with ⟨g, hg, hdialled⟩ | hfailures
    · rw [hg, Option.map_some]
      refine hears_emitAll hdialled rfl fun event hmem input _ => .inl ?_
      simp only [Socket.due, hg] at hmem
      split at hmem
      next hlatest => exact hlatest
      next => simp at hmem
    · refine (Reports.of_inputs (emitAll_inputs_eq (fun event hmem => ?_) _)).hears
      obtain ⟨number, reason, rfl⟩ := hfailures event (Socket.mem_of_mem_due hmem)
      rfl
  · simp at heq

theorem handleNext_inputs (link : Link) : link.handleNext.inputs = link.inputs.drop 1 := by
  unfold handleNext
  split
  next hnil => simp [hnil]
  next input rest hinputs =>
    rw [hinputs]
    exact (executes_runEffects _ _).inputs

theorem Charted.hears_task (h : Charted dialled link) (htask : link.task? id = some task)
    (hdriver : task ≠ .driver) :
    Hears dialled (link.source? (.task id)) link (link.runTask id) := by
  have hbyAllCalls := essenceKeptByCalls_reports id link
  have hrefl : Reports link link := .of_inputs rfl
  obtain ⟨t, hc, _⟩ := h.plotted
  simp only [Link.runTask, poll, htask]
  cases task with
  | driver => exact absurd rfl hdriver
  | attempt token clientId =>
    exact (Reports.of_inputs (runAttempt_inputs hc id token clientId)).hears
  | handshake token g => exact (Reports.of_inputs (runHandshake_inputs id token g link)).hears
  | identify g inquiry? => exact (hbyAllCalls.runIdentify trivial g inquiry? hrefl).hears
  | probes token g stage => exact (hbyAllCalls.runProbes trivial token g stage hrefl).hears
  | delay number delayMs due? => exact (hbyAllCalls.runDelay number delayMs due? hrefl).hears
  | replay current rest => exact (hbyAllCalls.runReplay current rest hrefl).hears
  | delivery delivery => exact h.hears_delivery htask
  | stream g => exact hrefl.hears
  | call stage => exact (hbyAllCalls.runCall stage hrefl).hears

/-- What is heard in a beat comes from the socket that speaks, if it is not a report. The session
takes the oldest input in its turn. -/
theorem Charted.hears (h : Charted dialled link) {b : Beat} (hleaves : leavesTransport b) :
    ∃ heard, (link.beat b).inputs =
        (if link.drives b then link.inputs.drop 1 else link.inputs) ++ heard ∧
      ∀ input ∈ heard, Accounts dialled input (link.source? b) := by
  have hbeat : link.drives b = false → Hears dialled (link.source? b) link (link.beat b) →
      ∃ heard, (link.beat b).inputs =
          (if link.drives b then link.inputs.drop 1 else link.inputs) ++ heard ∧
        ∀ input ∈ heard, Accounts dialled input (link.source? b) := by
    rintro hnot ⟨heard, hinputs, hheard⟩
    exact ⟨heard, by simpa [hnot] using hinputs, hheard⟩
  have hsame : ∀ {source? : Option Source} {after : Link}, after.inputs = link.inputs →
      Hears dialled source? link after := fun heq => (Reports.of_inputs heq).hears
  obtain ⟨t, hc, _⟩ := h.plotted
  cases b with
  | call call => exact hbeat rfl (hsame rfl)
  | waitForStatus workspace status =>
    have hsettled := settleStatuses_essence (link.waiter.waitFor workspace status).2.2
      { link with waiter := (link.waiter.waitFor workspace status).2.1 }
    exact hbeat rfl (hsame (congrArg Link.inputs hsettled :))
  | abandon id =>
    exact hbeat rfl ((essenceKeptByCalls_reports id link).abandon (.of_inputs rfl)).hears
  | elapse millis => exact hbeat rfl (hsame rfl)
  | handshakeEnds g failure => exact hbeat rfl (hsame rfl)
  | socket turn => exact hbeat rfl (h.hears_take hleaves)
  | script act => exact hbeat rfl (hsame (by simp only [Link.beat, script, hc]))
  | task id =>
    cases htask : link.task? id with
    | none =>
      refine hbeat (by simp [drives, htask]) (hsame ?_)
      simp only [Link.beat, Link.runTask, poll, htask]
    | some task =>
      by_cases hdriver : task = .driver
      · subst hdriver
        refine ⟨[], ?_, by simp⟩
        have hdrives : link.drives (.task id) = true := by simp [drives, htask]
        rw [hdrives, if_pos rfl, List.append_nil]
        simp only [Link.beat, Link.runTask, htask]
        exact handleNext_inputs link
      · refine hbeat ?_ (h.hears_task htask hdriver)
        simp only [drives, htask]
        split
        next heq => exact absurd (Option.some.inj heq) hdriver
        next => rfl

/-! ### Runs -/

/-- Every input that waits is noted with its source, and its source can be traced. -/
structure Traced (c : Chronicle) : Prop where
  charted : Charted c.dialled c.link
  length : c.sources.length = c.link.inputs.length
  accounts : ∀ entry ∈ c.link.inputs.zip c.sources, Accounts c.dialled entry.1 entry.2

theorem Accounts.append {input : Input} {source? : Option Source}
    (h : Accounts dialled input source?) (more : List (Nat × Nat)) :
    Accounts (dialled ++ more) input source? := by
  intro hinput
  obtain ⟨source, heq, hdialled, hcalls⟩ := h hinput
  exact ⟨source, heq, hdialled.append more, hcalls⟩

theorem Traced.next {c : Chronicle} (h : Traced c) {b : Beat} (hleaves : leavesTransport b) :
    Traced (c.next b) := by
  let left := if c.link.drives b then c.link.inputs.drop 1 else c.link.inputs
  obtain ⟨heard, hinputs, hheard⟩ := h.charted.hears hleaves
  have hinputs : (c.link.beat b).inputs = left ++ heard := hinputs
  have hkept : (c.kept b).length = left.length := by
    unfold Chronicle.kept
    dsimp only [left]
    split
    · rw [List.length_drop, List.length_drop, h.length]
    · exact h.length
  have hzip : ∀ entry ∈ left.zip (c.kept b), entry ∈ c.link.inputs.zip c.sources := by
    intro entry hmem
    unfold Chronicle.kept at hmem
    dsimp only [left] at hmem
    split at hmem
    · rw [List.zip, ← List.drop_zipWith] at hmem
      exact List.mem_of_mem_drop hmem
    · exact hmem
  have hnew : (c.link.beat b).inputs.length - (c.kept b).length = heard.length := by
    rw [hinputs, List.length_append, hkept]
    omega
  have hsources : (c.next b).sources =
      c.kept b ++ List.replicate heard.length (c.link.source? b) := by
    simp only [Chronicle.next, hnew]
  refine ⟨h.charted.beat hleaves, ?_, fun entry hmem => ?_⟩
  · rw [hsources, List.length_append, List.length_replicate, hkept]
    exact (congrArg List.length hinputs).symm ▸ List.length_append.symm
  · have hmem : entry ∈ (left ++ heard).zip
        (c.kept b ++ List.replicate heard.length (c.link.source? b)) := by
      rw [← hinputs, ← hsources]
      exact hmem
    rw [List.zip_append hkept.symm, List.mem_append] at hmem
    rcases hmem with hold | hheard'
    · exact (h.accounts entry (hzip entry hold)).append _
    · have hinput : entry.1 ∈ heard := (List.of_mem_zip hheard').1
      have hsource : entry.2 = c.link.source? b :=
        List.eq_of_mem_replicate (List.of_mem_zip hheard').2
      rw [hsource]
      exact (hheard entry.1 hinput).append _

theorem traced_initial (settings : TransportSettings) (config : SessionConfig) :
    Traced { link := withSession (.socket { settings }) config } := by
  have htasks : (withSession (.socket { settings }) config).tasks = [] := rfl
  have hinputs : (withSession (.socket { settings }) config).inputs = [] := rfl
  refine ⟨⟨⟨{ settings }, rfl, ?_⟩, Session.consistent_initial, by simp, by simp, ?_⟩, ?_, ?_⟩
  · exact ⟨Socket.orderly_initial settings, by simp, by simp, by simp⟩
  · simp [htasks]
  · simp [hinputs]
  · simp

theorem traced_after (settings : TransportSettings) (config : SessionConfig) {beats : List Beat}
    (hbeats : ∀ b ∈ beats, leavesTransport b) : Traced (Chronicle.after settings config beats) := by
  have hrun : ∀ c : Chronicle, Traced c → Traced (beats.foldl Chronicle.next c) := by
    induction beats with
    | nil => exact fun _ h => h
    | cons b rest ih =>
      intro c h
      exact ih (fun b hmem => hbeats b (List.mem_cons_of_mem _ hmem)) _
        (h.next (hbeats b List.mem_cons_self))
  exact hrun _ (traced_initial settings config)

/-- The attempt that runs had not called connect when the socket spoke. -/
def Chronicle.Precedes (c : Chronicle) (source : Source) : Prop :=
  ∀ token call, c.link.session.attempt = some token → (token, call) ∈ c.dialled →
    source.calls < call

/-- Let a session over sockets, its attempts, its users and the sockets take turns in any order. The
next input that tells of an opening or a close comes from a socket of some attempt. If that is not
the attempt that runs, the session does nothing about it, unless the socket spoke before the attempt
that runs called connect, or announced its opening when it had been replaced. -/
theorem openings_and_closes_traced (settings : TransportSettings) (config : SessionConfig)
    (beats : List Beat) (hbeats : ∀ b ∈ beats, leavesTransport b) :
    let c := Chronicle.after settings config beats
    c.link = (withSession (.socket { settings }) config).play beats ∧
      ∀ input rest, c.link.inputs = input :: rest → input = .opened ∨ input = .closed →
        ∃ source token, c.sources.head? = some (some source) ∧
          (token, source.socket) ∈ c.dialled ∧
          (c.link.session.attempt ≠ some token →
            c.link.session.handle c.link.config input = ⟨c.link.session, []⟩ ∨
              c.Precedes source ∨ input = .opened ∧ source.installed = false) := by
  intro c
  refine ⟨Chronicle.after_link settings config beats, fun input rest hinputs hinput => ?_⟩
  have h : Traced c := traced_after settings config hbeats
  have hlength := h.length
  rw [hinputs] at hlength
  obtain ⟨first, others, hsources⟩ := List.exists_cons_of_length_eq_add_one hlength
  have hreport : isReport input = false := by
    rcases hinput with rfl | rfl <;> rfl
  obtain ⟨source, hfirst, ⟨token, hdialled⟩, hcalls⟩ := h.accounts (input, first)
    (by simp [hinputs, hsources]) hreport
  refine ⟨source, token, by rw [hsources]; exact congrArg some hfirst, hdialled, fun hstale => ?_⟩
  cases hattempt : c.link.session.attempt with
  | none => exact .inl (h.charted.consistent.ignores_transport hattempt hinput)
  | some current =>
    rcases hcalls with hlatest | hreplaced
    · right
      left
      intro running call hrunning hcall
      obtain rfl : running = current := by simpa [hattempt] using hrunning.symm
      have hne : token ≠ running := by
        rintro rfl
        exact hstale hattempt
      rw [hlatest]
      exact h.charted.before_current running hattempt token source.socket call hdialled hcall hne
    · exact .inr (.inr hreplaced)

/-! ### A close that comes late -/

/-- A socket is connected and does not answer a probe. It closes when the next attempt was started
but has not yet called connect. -/
def lateClose : List Beat :=
  [.call .connect, .task 0, .task 1, .task 2, .handshakeEnds 1 none, .task 2, .socket (.announce 1),
    .task 1, .task 4, .socket (.write 1),
    .socket (.takeIn 1 (.text "\x7b\"id\":\"1\",\"result\":[\"c1\"]\x7d")), .task 4, .task 1,
    .task 5, .elapse 10000, .task 5, .elapse 5000, .task 5, .task 1, .task 6, .task 1,
    .socket (.takeIn 1 .ended), .task 7]

/-- What is known when the session is to hear of the close. -/
def closedLate : Chronicle := Chronicle.after {} { entrypoint := "wss://example/api" } lateClose

/-- The close of the first socket is charged to the second attempt, whose handshake is under way. -/
theorem late_close_charged :
    let before := closedLate.link.session
    let after := (closedLate.link.beat (.task 1)).session
    closedLate.dialled = [(0, 1), (2, 2)] ∧ closedLate.sources = [some ⟨1, 1, true⟩] ∧
      before.attempt = some 2 ∧ before.phase = .connecting ∧ before.attempts = 1 ∧
      after.phase = .reconnecting ∧ after.attempts = 2 ∧ after.reconnect = some 2 := by
  decide +kernel

theorem opening_or_close_next {inputs : List Input} (h : inputs.map isReport = [false]) :
    ∃ input rest, inputs = input :: rest ∧ (input = .opened ∨ input = .closed) := by
  obtain ⟨input, rest, rfl, hinput, _⟩ := List.map_eq_cons_iff.mp h
  refine ⟨input, rest, rfl, ?_⟩
  cases input with
  | opened => exact .inl rfl
  | closed => exact .inr rfl
  | _ => simp [isReport] at hinput

theorem late_close_precedes :
    (∀ b ∈ lateClose, leavesTransport b) ∧ closedLate.Precedes ⟨1, 1, true⟩ := by
  have hbeats : ∀ b ∈ lateClose, leavesTransport b := by decide +kernel
  have hnext : closedLate.link.inputs.map isReport = [false] := by decide +kernel
  have hsources : closedLate.sources.head? = some (some ⟨1, 1, true⟩) := by decide +kernel
  have hothers : ∀ entry ∈ closedLate.dialled, entry.2 = 1 →
      closedLate.link.session.attempt ≠ some entry.1 := by
    decide +kernel
  have hopened : (closedLate.link.session.handle closedLate.link.config .opened).session ≠
      closedLate.link.session := by
    decide +kernel
  have hclosed : (closedLate.link.session.handle closedLate.link.config .closed).session ≠
      closedLate.link.session := by
    decide +kernel
  obtain ⟨input, rest, hinputs, hinput⟩ := opening_or_close_next hnext
  have htraced :=
    openings_and_closes_traced {} { entrypoint := "wss://example/api" } lateClose hbeats
  rw [← closedLate] at htraced
  obtain ⟨source, token, hsource, hdialled, hstale⟩ := htraced.2 input rest hinputs hinput
  obtain rfl : source = ⟨1, 1, true⟩ :=
    Option.some.inj (Option.some.inj (hsource.symm.trans hsources))
  rcases hstale (hothers _ hdialled rfl) with hignored | hprecedes | ⟨_, hreplaced⟩
  · rcases hinput with rfl | rfl
    · exact absurd (by rw [hignored]) hopened
    · exact absurd (by rw [hignored]) hclosed
  · exact ⟨hbeats, hprecedes⟩
  · simp at hreplaced

/-- The session is closed before the first socket has announced its opening. That opening comes when
the second attempt runs, and the identifier of its connection is asked for before it calls
connect. -/
example :
    let c := Chronicle.after {} { entrypoint := "wss://example/api" }
      [.call .connect, .task 0, .task 1, .task 2, .handshakeEnds 1 none, .task 2, .call .close,
        .task 4, .task 1, .call .connect, .task 5, .task 1, .socket (.announce 1)]
    c.sources = [some ⟨1, 2, false⟩] ∧ c.dialled = [(0, 1)] ∧ c.link.session.attempt = some 1 ∧
      (c.link.play [.task 1, .task 7]).client.pending = [1] := by
  decide +kernel

end Link

end WorkspaceLink
