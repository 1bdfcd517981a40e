import WorkspaceLink.Proofs.Session.Phases

/-!
# The tasks that a session keeps

A session keeps the token of its attempt, that of its probes, and the number of its timer.
`running_eq_held` says that what it keeps is what runs: every task that it ever started and does not
keep was stopped, or was a timer that ran out and was acted on. `Succeeds` says how one attempt
follows another.
-/
namespace WorkspaceLink

/-- A task that a session starts. -/
inductive Resource where
  | attempt (token : Nat)
  | probes (token : Nat)
  | timer (number : Nat)
  deriving DecidableEq, Repr

/-- What happens to tasks. -/
inductive Happening where
  | did (effect : Effect)
  /-- A timer ran out, and the session acted on it. -/
  | acted (timer : Nat)

namespace Happening

def starts? : Happening → Option Resource
  | .did (.attempt token _ _) => some (.attempt token)
  | .did (.probe token _) => some (.probes token)
  | .did (.timer number _) => some (.timer number)
  | _ => none

/-- The task is stopped, or is over. -/
def ends : Happening → Resource → Bool
  | .did (.cancel token), .attempt own => own = token
  | .did (.cancel token), .probes own => own = token
  | .did (.cancelTimer number), .timer own => own = number
  | .acted number, .timer own => own = number
  | _, _ => false

end Happening

namespace Resource

/-- What runs after something happened. -/
def after (running : List Resource) (happening : Happening) : List Resource :=
  running.filter (fun resource => !happening.ends resource) ++ happening.starts?.toList

def runningAfter (running : List Resource) (history : List Happening) : List Resource :=
  history.foldl after running

theorem mem_after {running : List Resource} {happening : Happening} {resource : Resource} :
    resource ∈ after running happening ↔
      (resource ∈ running ∧ happening.ends resource = false) ∨
        happening.starts? = some resource := by
  simp [after]

/-- A task that ran or was started runs still, or has ended while it ran. -/
theorem running_or_ended (history : List Happening) {running : List Resource}
    {resource : Resource}
    (h : resource ∈ running ∨ ∃ happening ∈ history, happening.starts? = some resource) :
    resource ∈ runningAfter running history ∨
      ∃ before happening later, history = before ++ happening :: later ∧
        resource ∈ runningAfter running before ∧ happening.ends resource := by
  induction history generalizing running with
  | nil => simpa [runningAfter] using h
  | cons first rest ih =>
    by_cases hended : resource ∈ running ∧ first.ends resource
    · exact .inr ⟨[], first, rest, rfl, hended.1, hended.2⟩
    · have hlater : resource ∈ after running first ∨
          ∃ happening ∈ rest, happening.starts? = some resource := by
        rcases h with hmem | ⟨happening, hmem, hstarts⟩
        · exact .inl (mem_after.mpr (.inl ⟨hmem, by simpa [hmem] using hended⟩))
        · rcases List.mem_cons.mp hmem with rfl | hmem
          · exact .inl (mem_after.mpr (.inr hstarts))
          · exact .inr ⟨happening, hmem, hstarts⟩
      rcases ih hlater with hruns | ⟨before, happening, later, rfl, hruns, hends⟩
      · exact .inl hruns
      · exact .inr ⟨first :: before, happening, later, rfl, hruns, hends⟩

end Resource

/-- The effect starts or stops a task. -/
def Effect.touches : Effect → Bool
  | .attempt _ _ _ | .probe _ _ | .timer _ _ | .cancel _ | .cancelTimer _ => true
  | _ => false

/-- The timers that are set, each with its delay. -/
def Effect.timers (effects : List Effect) : List (Nat × Nat) :=
  effects.filterMap fun
    | .timer number delay => some (number, delay)
    | _ => none

/-- How many connection attempts are started. -/
def Effect.dials (effects : List Effect) : Nat :=
  effects.countP fun
    | .attempt _ _ _ => true
    | _ => false

@[simp] theorem Effect.timers_append (first second : List Effect) :
    timers (first ++ second) = timers first ++ timers second :=
  List.filterMap_append

@[simp] theorem Effect.dials_append (first second : List Effect) :
    dials (first ++ second) = dials first + dials second :=
  List.countP_append

/-- Only effects that start or stop tasks matter for these. -/
theorem Effect.tally_filter (effects : List Effect) :
    timers effects = timers (effects.filter touches) ∧
      dials effects = dials (effects.filter touches) := by
  induction effects with
  | nil => exact ⟨rfl, rfl⟩
  | cons effect rest ih =>
    cases effect <;> simp_all [timers, dials, touches, List.filter_cons]

/-- Only effects that start or stop tasks matter for what runs. -/
theorem Resource.runningAfter_filter (running : List Resource) (effects : List Effect) :
    runningAfter running ((effects.filter Effect.touches).map .did) =
      runningAfter running (effects.map .did) := by
  induction effects generalizing running with
  | nil => rfl
  | cons effect rest ih =>
    by_cases h : effect.touches
    · rw [List.filter_cons_of_pos h]
      exact ih _
    · rw [List.filter_cons_of_neg h]
      have hsame : after running (.did effect) = running := by
        have hends : ∀ resource, Happening.ends (.did effect) resource = false := by
          intro resource
          cases effect <;> simp_all [Happening.ends, Effect.touches]
        have hstarts : Happening.starts? (.did effect) = none := by
          cases effect <;> simp_all [Happening.starts?, Effect.touches]
        simp [after, hends, hstarts]
      rw [ih]
      exact congrArg (runningAfter · (rest.map .did)) hsame.symm

namespace Session

variable {config : SessionConfig} {s : Session}

/-! ### The effects that start and stop tasks -/

@[simp] theorem transition_touches (config : SessionConfig) (source target : Phase) :
    (transition config source target).filter Effect.touches = [] := by
  unfold transition
  split <;> simp [entry, Effect.touches]

@[simp] theorem replays_touches (config : SessionConfig) (s : Session) :
    (replays config s).filter Effect.touches = [] := by
  unfold replays
  split <;> simp [entry, Effect.touches]

@[simp] theorem cancel_touches (token : Option Nat) :
    (token.map Effect.cancel).toList.filter Effect.touches = (token.map Effect.cancel).toList := by
  cases token <;> simp [Effect.touches]

@[simp] theorem cancelTimer_touches (timer : Option Nat) :
    (timer.map Effect.cancelTimer).toList.filter Effect.touches =
      (timer.map Effect.cancelTimer).toList := by
  cases timer <;> simp [Effect.touches]

theorem beginConnect_touches (config : SessionConfig) (s : Session) :
    (beginConnect config s).effects.filter Effect.touches =
      (s.attempt.map Effect.cancel).toList ++
        [.attempt s.nextToken (s.generation + 1) s.clientId] := by
  simp [beginConnect_eq, Effect.touches]

theorem identified_touches (config : SessionConfig) (id : ClientId) (s : Session) :
    (identified config id s).effects.filter Effect.touches =
      (s.liveness.map Effect.cancel).toList ++ [.probe s.nextToken s.generation] := by
  simp [identified_eq, Effect.touches, entry, List.filter_cons]

theorem givesUp_touches (config : SessionConfig) (s : Session) (entry : LogEntry) :
    ((Step.mk s [.log entry]).andThen (giveUp config)).effects.filter Effect.touches =
      (s.liveness.map Effect.cancel).toList ++ (s.attempt.map Effect.cancel).toList := by
  simp [Step.andThen, giveUp, Effect.touches, Session.entry]

theorem retries_touches (config : SessionConfig) (s : Session) (entry : LogEntry) :
    ((Step.mk s [.log entry]).andThen (retry config)).effects.filter Effect.touches =
      (s.liveness.map Effect.cancel).toList ++
        [.timer (s.lastTimer + 1) (config.settings.reconnectDelay (s.attempts + 1))] := by
  simp [Step.andThen, retry, Effect.touches, Session.entry]

theorem shuts_touches (config : SessionConfig) (s : Session) (ticket : Nat) :
    ((shut config s).doing [.confirmClose ticket]).effects.filter Effect.touches =
      (s.reconnect.map Effect.cancelTimer).toList ++ (s.liveness.map Effect.cancel).toList ++
        (s.attempt.map Effect.cancel).toList := by
  simp [shut_eq, Step.doing, Effect.touches, entry]

theorem opens_touches (s : Session) :
    ((cancelReconnect { s with attempts := 0 }).doing [.fetchId s.generation]).effects.filter
      Effect.touches = (s.reconnect.map Effect.cancelTimer).toList := by
  simp [Step.doing, cancelReconnect_eq, Effect.touches]

theorem logs_touches (entries : List LogEntry) :
    (entries.map Effect.log).filter Effect.touches = [] := by
  simp [List.filter_eq_nil_iff, Effect.touches]

/-! ### Timers and attempts -/

/-- A step sets these timers and starts so many attempts. -/
structure Step.Tally (step : Step) (timers : List (Nat × Nat)) (dials : Nat) : Prop where
  timers : Effect.timers step.effects = timers
  dials : Effect.dials step.effects = dials

theorem tally_of_touches {step : Step} {touching : List Effect} {timers : List (Nat × Nat)}
    {dials : Nat} (h : step.effects.filter Effect.touches = touching)
    (htimers : Effect.timers touching = timers) (hdials : Effect.dials touching = dials) :
    step.Tally timers dials := by
  obtain ⟨ht, hd⟩ := Effect.tally_filter step.effects
  rw [h] at ht hd
  exact ⟨ht.trans htimers, hd.trans hdials⟩

theorem tally_beginConnect (config : SessionConfig) (s : Session) :
    (beginConnect config s).Tally [] 1 := by
  apply tally_of_touches (beginConnect_touches config s) <;> cases s.attempt <;> rfl

theorem tally_opens (s : Session) :
    ((cancelReconnect { s with attempts := 0 }).doing [.fetchId s.generation]).Tally [] 0 := by
  apply tally_of_touches (opens_touches s) <;> cases s.reconnect <;> rfl

theorem tally_identified (config : SessionConfig) (id : ClientId) (s : Session) :
    (identified config id s).Tally [] 0 := by
  apply tally_of_touches (identified_touches config id s) <;> cases s.liveness <;> rfl

theorem tally_retries (config : SessionConfig) (s : Session) (entry : LogEntry) :
    ((Step.mk s [.log entry]).andThen (retry config)).Tally
      [(s.lastTimer + 1, config.settings.reconnectDelay (s.attempts + 1))] 0 := by
  apply tally_of_touches (retries_touches config s entry) <;> cases s.liveness <;> rfl

theorem tally_givesUp (config : SessionConfig) (s : Session) (entry : LogEntry) :
    ((Step.mk s [.log entry]).andThen (giveUp config)).Tally [] 0 := by
  apply tally_of_touches (givesUp_touches config s entry) <;>
    cases s.liveness <;> cases s.attempt <;> rfl

theorem tally_shuts (config : SessionConfig) (s : Session) (ticket : Nat) :
    ((shut config s).doing [.confirmClose ticket]).Tally [] 0 := by
  apply tally_of_touches (shuts_touches config s ticket) <;>
    cases s.reconnect <;> cases s.liveness <;> cases s.attempt <;> rfl

theorem tally_logs (s : Session) (entries : List LogEntry) :
    (Step.mk s (entries.map .log)).Tally [] 0 :=
  tally_of_touches (logs_touches entries) rfl rfl

/-- A timer that is set has the next number. -/
theorem timers_reacts {input : Input} {step : Step} (hreacts : Reacts config s input step) :
    (Effect.timers step.effects = [] ∧ step.session.lastTimer = s.lastTimer) ∨
      ∃ delay, Effect.timers step.effects = [(s.lastTimer + 1, delay)] ∧
        step.session.lastTimer = s.lastTimer + 1 := by
  cases hreacts with
  | begins hphase => exact .inl ⟨(tally_beginConnect _ _).timers, by rw [beginConnect_eq]⟩
  | revives hphase => exact .inl ⟨(tally_beginConnect _ _).timers, by rw [beginConnect_eq]⟩
  | shuts ticket => exact .inl ⟨(tally_shuts _ _ _).timers, by rw [Step.doing, shut_eq]⟩
  | opens hphase => exact .inl ⟨(tally_opens _).timers, by rw [Step.doing, cancelReconnect_eq]⟩
  | identifies id hphase => exact .inl ⟨(tally_identified _ _ _).timers, by rw [identified_eq]⟩
  | retries entry hcharges => exact .inr ⟨_, (tally_retries _ _ _).timers, rfl⟩
  | givesUp entry hcharges => exact .inl ⟨(tally_givesUp _ _ _).timers, rfl⟩
  | redials timer htimer => exact .inl ⟨(tally_beginConnect _ _).timers, by rw [beginConnect_eq]⟩
  | ignores entries => exact .inl ⟨(tally_logs _ _).timers, rfl⟩

/-! ### What is kept is what runs -/

/-- The tasks that a session keeps. -/
def held (s : Session) : List Resource :=
  (s.attempt.map Resource.attempt).toList ++ (s.liveness.map Resource.probes).toList ++
    (s.reconnect.map Resource.timer).toList

/-- The timer that the session acts on. -/
def acts (s : Session) : Input → List Happening
  | .reconnectDue timer => if s.reconnect = some timer then [.acted timer] else []
  | _ => []

theorem held_beginConnect (s : Session) (hliveness : s.liveness = none)
    (hreconnect : s.reconnect = none) :
    Resource.runningAfter s.held ((beginConnect config s).effects.map .did) =
      (beginConnect config s).session.held := by
  rw [← Resource.runningAfter_filter, beginConnect_touches]
  cases hattempt : s.attempt <;>
    simp [held, beginConnect_eq, hattempt, hliveness, hreconnect, Resource.runningAfter,
      Resource.after, Happening.starts?, Happening.ends]

theorem held_identified (id : ClientId) (hliveness : s.liveness = none)
    (hreconnect : s.reconnect = none) :
    Resource.runningAfter s.held ((identified config id s).effects.map .did) =
      (identified config id s).session.held := by
  rw [← Resource.runningAfter_filter, identified_touches]
  cases hattempt : s.attempt <;>
    simp [held, identified_eq, hattempt, hliveness, hreconnect, Resource.runningAfter,
      Resource.after, Happening.starts?, Happening.ends]

theorem held_givesUp (entry : LogEntry) (hreconnect : s.reconnect = none) :
    Resource.runningAfter s.held
        (((Step.mk s [.log entry]).andThen (giveUp config)).effects.map .did) =
      (giveUp config s).session.held := by
  rw [← Resource.runningAfter_filter, givesUp_touches]
  cases hattempt : s.attempt <;> cases hliveness : s.liveness <;>
    simp [held, giveUp, hattempt, hliveness, hreconnect, Resource.runningAfter,
      Resource.after, Happening.starts?, Happening.ends]

theorem Consistent.held_retries (h : s.Consistent) (entry : LogEntry)
    (hreconnect : s.reconnect = none) :
    Resource.runningAfter s.held
        (((Step.mk s [.log entry]).andThen (Session.retry config)).effects.map .did) =
      (Session.retry config s).session.held := by
  have hne := h.tokens_ne
  rw [← Resource.runningAfter_filter, retries_touches]
  cases hattempt : s.attempt <;> cases hliveness : s.liveness <;>
    simp_all [held, Session.retry, Resource.runningAfter, Resource.after, Happening.starts?,
      Happening.ends, Ne.symm]

theorem held_shut (config : SessionConfig) (s : Session) (ticket : Nat) :
    Resource.runningAfter s.held
      (((shut config s).doing [.confirmClose ticket]).effects.map .did) = [] := by
  rw [← Resource.runningAfter_filter, shuts_touches]
  cases hattempt : s.attempt <;> cases hliveness : s.liveness <;> cases hreconnect : s.reconnect <;>
    simp [held, hattempt, hliveness, hreconnect, Resource.runningAfter, Resource.after,
      Happening.starts?, Happening.ends]

theorem of_charges {input : Input} (h : s.charges input) :
    s.acts input = [] ∧ s.reconnect = none := by
  obtain ⟨hfailure, hreconnect⟩ : s.reportsFailure input ∧ s.reconnect = none := by
    simpa [charges] using h
  refine ⟨?_, hreconnect⟩
  cases input with
  | reconnectDue timer => simp [reportsFailure] at hfailure
  | _ => rfl

/-- A reaction stops what is not kept any more and starts what is kept anew. -/
theorem Consistent.held_reacts (h : s.Consistent) {input : Input} {step : Step}
    (hreacts : Reacts config s input step) :
    Resource.runningAfter s.held (s.acts input ++ step.effects.map .did) = step.session.held := by
  cases hreacts with
  | begins hphase =>
    exact held_beginConnect s (h.no_probes (by simp [hphase])) (h.no_timer (by simp [hphase]))
  | revives hphase =>
    exact held_beginConnect { s with attempts := 0, replayPending := _ }
      (h.no_probes (by simp [hphase])) (h.no_timer (by simp [hphase]))
  | shuts ticket =>
    refine (held_shut config s ticket).trans ?_
    simp [Step.doing, shut_eq, held]
  | opens hphase =>
    have hreconnect := h.no_timer (by simp [hphase])
    simp only [acts, List.nil_append]
    rw [← Resource.runningAfter_filter, opens_touches]
    simp [Step.doing, cancelReconnect_eq, held, hreconnect, Resource.runningAfter]
  | identifies id hphase =>
    exact held_identified id (h.no_probes (by simp [hphase])) (h.no_timer (by simp [hphase]))
  | retries entry hcharges =>
    obtain ⟨hacts, hreconnect⟩ := of_charges hcharges
    rw [hacts]
    exact h.held_retries entry hreconnect
  | givesUp entry hcharges =>
    obtain ⟨hacts, hreconnect⟩ := of_charges hcharges
    rw [hacts]
    exact held_givesUp entry hreconnect
  | redials timer htimer =>
    have hphase := h.phase_of_timer htimer
    have hliveness := h.no_probes (by simp [hphase])
    have hacted : Resource.after s.held (.acted timer) = held { s with reconnect := none } := by
      cases hattempt : s.attempt <;>
        simp [held, Resource.after, htimer, hliveness, hattempt, Happening.starts?, Happening.ends]
    simp only [acts, htimer, ↓reduceIte, List.singleton_append]
    rw [← held_beginConnect { s with reconnect := none } hliveness rfl, ← hacted]
    rfl
  | @ignores input entries _ _ _ _ _ hdue =>
    have hacts : s.acts input = [] := by
      cases input with
      | reconnectDue timer => simp [acts, hdue timer rfl]
      | _ => rfl
    rw [hacts, List.nil_append, ← Resource.runningAfter_filter, logs_touches]
    rfl

/-! ### Runs -/

/-- What a move makes happen to tasks. -/
def happenings (config : SessionConfig) (s : Session) : Move → List Happening
  | .input input => s.acts input ++ (s.handle config input).effects.map .did
  | .subscriptions _ => []

/-- What moves make happen to tasks. -/
def history (config : SessionConfig) : Session → List Move → List Happening
  | _, [] => []
  | s, m :: rest => s.happenings config m ++ history config (s.move config m).session rest

/-- The tasks that run are those that the session keeps. -/
theorem Consistent.running_eq_held (h : s.Consistent) (moves : List Move) :
    Resource.runningAfter s.held (history config s moves) =
      (Session.run config s moves).session.held := by
  induction moves generalizing s with
  | nil => rfl
  | cons m rest ih =>
    have hmove : Resource.runningAfter s.held (s.happenings config m) =
        (s.move config m).session.held := by
      cases m with
      | input input => exact h.held_reacts (handle_reacts config s input)
      | subscriptions table => rfl
    rw [history, Resource.runningAfter, List.foldl_append]
    change Resource.runningAfter (Resource.runningAfter s.held _) _ = _
    rw [hmove]
    exact ih (h.move m)

/-- Timers are numbered in the order in which they are set. -/
theorem timers_run (config : SessionConfig) (s : Session) (moves : List Move) :
    s.lastTimer ≤ (run config s moves).session.lastTimer ∧
      ∀ timer ∈ Effect.timers (run config s moves).effects,
        timer.1 ≤ (run config s moves).session.lastTimer := by
  induction moves generalizing s with
  | nil => simp [Effect.timers]
  | cons m rest ih =>
    obtain ⟨hle, hrest⟩ := ih (s.move config m).session
    have hmove : s.lastTimer ≤ (s.move config m).session.lastTimer ∧
        ∀ timer ∈ Effect.timers (s.move config m).effects,
          timer.1 ≤ (s.move config m).session.lastTimer := by
      cases m with
      | input input =>
        simp only [move]
        rcases timers_reacts (handle_reacts config s input) with ⟨hnone, heq⟩ | ⟨_, hone, heq⟩
        · simp [hnone, heq]
        · simp [hone, heq]
      | subscriptions table => simp [move, Effect.timers]
    refine ⟨Nat.le_trans hmove.1 hle, fun timer hmem => ?_⟩
    rw [run_cons_effects, Effect.timers_append, List.mem_append] at hmem
    rcases hmem with hmem | hmem
    · exact Nat.le_trans (hmove.2 timer hmem) hle
    · exact hrest timer hmem

theorem held_nodup (s : Session) : s.held.Nodup := by
  cases hattempt : s.attempt <;> cases hliveness : s.liveness <;>
    cases hreconnect : s.reconnect <;> simp [held, hattempt, hliveness, hreconnect]

/-- In every run the phase of a session says which tasks it keeps, and of the tasks that it ever
started just these run: every other one was stopped after its start, or was a timer that ran out
and was acted on. So two series of probes or two timers never run at once. -/
theorem tasks_follow_phase (config : SessionConfig) (moves : List Move) :
    let s := (run config {} moves).session
    let past := history config {} moves
    let running := Resource.runningAfter [] past
    (s.reconnect.isSome ↔ s.phase = .reconnecting) ∧
    (∀ timer, s.reconnect = some timer →
      ∀ other ∈ Effect.timers (run config {} moves).effects, other.1 ≤ timer) ∧
    (s.liveness.isSome ↔ s.phase = .connected) ∧
    (s.attempt.isSome ↔
      s.phase = .connecting ∨ s.phase = .connected ∨ s.phase = .reconnecting) ∧
    (s.phase = .connected → s.clientId.isSome) ∧
    (s.phase = .disconnected → s.attempts = 0 ∧ s.clientId = none ∧ s.replayPending = false) ∧
    (∀ resource, (∃ happening ∈ past, happening.starts? = some resource) →
      resource ∈ s.held ∨ ∃ before happening later, past = before ++ happening :: later ∧
        resource ∈ Resource.runningAfter [] before ∧ happening.ends resource) ∧
    running = s.held ∧
    (∀ a b, .probes a ∈ running → .probes b ∈ running → a = b) ∧
    (∀ a b, .timer a ∈ running → .timer b ∈ running → a = b) ∧ running.Nodup := by
  intro s past running
  have h : s.Consistent := consistent_initial.run moves
  have hrunning : running = s.held := consistent_initial.running_eq_held moves
  refine ⟨h.timer_iff, ?_, h.probes_iff, h.attempt_iff, h.identified, h.cleared, ?_, hrunning, ?_⟩
  · intro timer htimer other hother
    rw [h.timer_latest timer htimer]
    exact (timers_run config {} moves).2 other hother
  · intro resource hstarted
    rw [← hrunning]
    exact Resource.running_or_ended past (.inr hstarted)
  · rw [hrunning]
    refine ⟨?_, ?_, ?_⟩
    · simp +contextual [held]
    · simp +contextual [held]
    · exact s.held_nodup

/-! ### The attempt of a session -/

variable {input : Input} {step : Step}

theorem mem_touches {effect : Effect} {effects : List Effect} (h : effect.touches) :
    effect ∈ effects ↔ effect ∈ effects.filter Effect.touches := by
  simp [h]

/-- What happens to the attempt of a session: an attempt that is given up is stopped, and one that
is started is new. -/
structure Succeeds (s : Session) (step : Step) : Prop where
  stopped : ∀ token, s.attempt = some token →
    step.session.attempt = some token ∨ .cancel token ∈ step.effects
  started : ∀ token generation clientId, .attempt token generation clientId ∈ step.effects →
    step.session.attempt = some token
  fresh : ∀ token, step.session.attempt = some token →
    s.attempt = some token ∨ s.nextToken ≤ token
  nextToken_le : s.nextToken ≤ step.session.nextToken

/-- The attempt stays, or is stopped. -/
theorem succeeds_of_touches {touching : List Effect}
    (htouches : step.effects.filter Effect.touches = touching)
    (hattempt : step.session.attempt = s.attempt ∨
      step.session.attempt = none ∧ ∀ token, s.attempt = some token → .cancel token ∈ touching)
    (hnone : ∀ token generation clientId, .attempt token generation clientId ∉ touching)
    (hnext : s.nextToken ≤ step.session.nextToken) : Succeeds s step where
  stopped token hs := by
    rcases hattempt with hsame | ⟨_, hcancel⟩
    · exact .inl (hsame.trans hs)
    · rw [mem_touches rfl, htouches]
      exact .inr (hcancel token hs)
  started token generation clientId hmem := by
    rw [mem_touches rfl, htouches] at hmem
    exact absurd hmem (hnone _ _ _)
  fresh token hs := by
    rcases hattempt with hsame | ⟨hgone, _⟩
    · exact .inl (hsame.symm.trans hs)
    · rw [hgone] at hs
      simp at hs
  nextToken_le := hnext

theorem succeeds_beginConnect (config : SessionConfig) {before : Session}
    (hattempt : before.attempt = s.attempt) (hnext : before.nextToken = s.nextToken) :
    Succeeds s (beginConnect config before) where
  stopped token hs := by
    right
    rw [mem_touches rfl, beginConnect_touches, hattempt]
    simp [hs]
  started token generation clientId hmem := by
    rw [mem_touches rfl, beginConnect_touches] at hmem
    obtain ⟨rfl, _⟩ : token = before.nextToken ∧ _ := by simpa using hmem
    simp [beginConnect_eq]
  fresh token hs := by
    simp only [beginConnect_eq, Option.some.injEq] at hs
    omega
  nextToken_le := by simp [beginConnect_eq, hnext]

theorem succeeds_reacts (h : Reacts config s input step) : Succeeds s step := by
  cases h with
  | begins hphase => exact succeeds_beginConnect config rfl rfl
  | revives hphase => exact succeeds_beginConnect config rfl rfl
  | redials timer htimer => exact succeeds_beginConnect config rfl rfl
  | shuts ticket =>
    refine succeeds_of_touches (shuts_touches config s ticket) (.inr ⟨?_, ?_⟩) ?_ ?_
    · simp [Step.doing, shut_eq]
    · intro token hs
      simp [hs]
    · simp
    · simp [Step.doing, shut_eq]
  | opens hphase =>
    refine succeeds_of_touches (opens_touches s) (.inl ?_) ?_ ?_
    · simp [Step.doing, cancelReconnect_eq]
    · simp
    · simp [Step.doing, cancelReconnect_eq]
  | identifies id hphase =>
    refine succeeds_of_touches (identified_touches config id s) (.inl ?_) ?_ ?_
    · simp [identified_eq]
    · simp
    · simp [identified_eq]
  | retries entry hcharges hmax =>
    refine succeeds_of_touches (retries_touches config s entry) (.inl ?_) ?_ ?_
    · simp [Step.andThen, retry]
    · simp
    · simp [Step.andThen, retry]
  | givesUp entry hcharges hmax =>
    refine succeeds_of_touches (givesUp_touches config s entry) (.inr ⟨?_, ?_⟩) ?_ ?_
    · simp [Step.andThen, giveUp]
    · intro token hs
      simp [hs]
    · simp
    · simp [Step.andThen, giveUp]
  | ignores entries =>
    exact succeeds_of_touches (logs_touches entries) (.inl rfl) (by simp) (Nat.le_refl _)

/-- A session without an attempt does not care about its transport. -/
theorem Consistent.ignores_transport (h : s.Consistent) (hnone : s.attempt = none)
    (hinput : input = .opened ∨ input = .closed) : s.handle config input = ⟨s, []⟩ := by
  have hphase := h.attempt_iff
  rw [hnone] at hphase
  rcases hinput with rfl | rfl
  · cases hp : s.phase <;> simp_all [handle, onOpened]
  · cases hp : s.phase <;> simp_all [handle, onClosed]

end Session

end WorkspaceLink
