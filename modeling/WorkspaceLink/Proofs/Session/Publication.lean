import Mathlib.Data.List.Chain
import WorkspaceLink.Proofs.Session.Phases

/-!
# The phases that a session publishes

A session publishes the phase it enters, and only when it enters one. The ways from phase to phase
form a small graph, `Phase.leadsTo`, and what is published along a run is a path of it. No part of
a step looks at the whole graph: a timer that runs out begins an attempt in any phase, and a failure
is charged wherever no timer runs. That these never take a way which is not there follows from
`Consistent`.

A session that is disconnected or has given up is at rest: whatever is left over of earlier
connections changes nothing, and only a command of a user does.
-/
namespace WorkspaceLink

/-- The ways from one phase to another. -/
def Phase.leadsTo : Phase → Phase → Bool
  | .disconnected, .connecting => true
  | .failed, .connecting => true
  | .connecting, .connected => true
  | .connecting, .reconnecting => true
  | .connecting, .failed => true
  | .connected, .reconnecting => true
  | .connected, .failed => true
  | .reconnecting, .connecting => true
  | phase, .disconnected => phase ≠ .disconnected
  | _, _ => false

theorem Phase.ne_of_leadsTo {p q : Phase} (h : p.leadsTo q) : p ≠ q := by
  rintro rfl
  cases p <;> simp [leadsTo] at h

@[simp] def Effect.phase? : Effect → Option Phase
  | .publish phase => some phase
  | _ => none

/-- A command of a user, as opposed to a report of a task or of the connection. -/
def Input.isCommand : Input → Bool
  | .connect | .close _ => true
  | _ => false

namespace Session

variable {config : SessionConfig} {s : Session}

/-! ### What is published -/

/-- The phases that are published, in order. -/
def published (effects : List Effect) : List Phase := effects.filterMap Effect.phase?

@[simp] theorem published_nil : published [] = [] := rfl

@[simp] theorem published_cons (effect : Effect) (rest : List Effect) :
    published (effect :: rest) = effect.phase?.toList ++ published rest := by
  unfold published
  rw [List.filterMap_cons]
  cases effect.phase? <;> rfl

@[simp] theorem published_append (first second : List Effect) :
    published (first ++ second) = published first ++ published second :=
  List.filterMap_append

@[simp] theorem published_cancel (token : Option Nat) :
    published (token.map Effect.cancel).toList = [] := by
  cases token <;> rfl

@[simp] theorem published_cancelTimer (number : Option Nat) :
    published (number.map Effect.cancelTimer).toList = [] := by
  cases number <;> rfl

@[simp] theorem published_logs (entries : List LogEntry) :
    published (entries.map .log) = [] := by
  induction entries with
  | nil => rfl
  | cons entry rest ih => exact ih

@[simp] theorem published_replays (config : SessionConfig) (s : Session) :
    published (replays config s) = [] := by
  unfold replays
  split <;> rfl

@[simp] theorem published_transition (config : SessionConfig) (source target : Phase) :
    published (transition config source target) = if target = source then [] else [target] := by
  unfold transition
  split
  next h => simp [h]
  next h => simp [Ne.symm h, entry]

/-! ### One move -/

/-- A step publishes the phase it enters, if there is a way to it. What it has to disconnect is
disconnected by then. -/
structure Announces (config : SessionConfig) (source : Phase) (m : Move) (step : Step) : Prop where
  effects_eq : ∃ before after,
    step.effects = before ++ transition config source step.session.phase ++ after ∧
      published before = [] ∧ published after = [] ∧ .disconnect ∉ after
  leads : step.session.phase ≠ source → source.leadsTo step.session.phase
  closes : step.session.phase ≠ source → step.session.phase = .disconnected →
    ∃ ticket, m = .input (.close ticket)

theorem Announces.published_eq {source : Phase} {m : Move} {step : Step}
    (h : Announces config source m step) :
    published step.effects = if step.session.phase = source then [] else [step.session.phase] := by
  obtain ⟨before, after, heffects, hbefore, hafter, _⟩ := h.effects_eq
  rw [heffects, published_append, published_append, hbefore, hafter, published_transition]
  simp

/-- A step that stays in its phase and publishes nothing. -/
theorem announces_staying {source : Phase} {m : Move} {step : Step}
    (hphase : step.session.phase = source) (hpublished : published step.effects = []) :
    Announces config source m step where
  effects_eq := ⟨step.effects, [], by simp [hphase, transition], hpublished, rfl, by simp⟩
  leads h := absurd hphase h
  closes h := absurd hphase h

/-- A step that enters another phase than the first, by a way that is there. -/
theorem announces_entering {source target : Phase} {m : Move} {step : Step}
    {before after : List Effect} (hleads : source.leadsTo target)
    (htarget : target ≠ .disconnected) (hphase : step.session.phase = target)
    (heffects : step.effects = before ++ transition config source target ++ after)
    (hbefore : published before = []) (hafter : published after = [])
    (hconnected : .disconnect ∉ after) : Announces config source m step where
  effects_eq := ⟨before, after, hphase ▸ heffects, hbefore, hafter, hconnected⟩
  leads _ := hphase ▸ hleads
  closes _ h := absurd (hphase.symm.trans h) htarget

theorem announces_beginConnect {m : Move} (h : s.phase.leadsTo .connecting) :
    Announces config s.phase m (beginConnect config s) := by
  rw [beginConnect_eq]
  exact announces_entering h (by decide) rfl rfl (by simp) (by simp) (by simp)

theorem announces_retry {m : Move} (entry : LogEntry) (h : s.phase.leadsTo .reconnecting) :
    Announces config s.phase m ((Step.mk s [.log entry]).andThen (retry config)) := by
  let before : List Effect := .log entry :: (s.liveness.map Effect.cancel).toList
  let delay := config.settings.reconnectDelay (s.attempts + 1)
  have heffects : ((Step.mk s [.log entry]).andThen (retry config)).effects =
      before ++ transition config s.phase .reconnecting ++ [Session.entry config .warn
        "scheduling reconnect"
        [("attempt", Nat.repr (s.attempts + 1)), ("delay_ms", Nat.repr delay)],
        .timer (s.lastTimer + 1) delay] := by
    simp [before, delay, Step.andThen, retry]
  apply announces_entering h (by decide) rfl heffects (by simp [before])
  · simp [Session.entry]
  · simp [Session.entry]

theorem announces_giveUp {m : Move} (entry : LogEntry) (h : s.phase.leadsTo .failed) :
    Announces config s.phase m ((Step.mk s [.log entry]).andThen (giveUp config)) := by
  let before : List Effect := .log entry :: ((s.liveness.map Effect.cancel).toList ++
    (s.attempt.map Effect.cancel).toList)
  have heffects : ((Step.mk s [.log entry]).andThen (giveUp config)).effects =
      before ++ transition config s.phase .failed ++ [Session.entry config .warn
        "giving up after max reconnect attempts" [("attempts", Nat.repr (s.attempts + 1))]] := by
    simp [before, Step.andThen, giveUp]
  apply announces_entering h (by decide) rfl heffects (by simp [before])
  · simp [Session.entry]
  · simp [Session.entry]

theorem announces_identified {m : Move} (id : ClientId) (h : s.phase.leadsTo .connected) :
    Announces config s.phase m (identified config id s) := by
  rw [identified_eq]
  apply announces_entering h (by decide) rfl (List.append_assoc _ _ _)
  · simp [entry]
  · simp
  · cases s.liveness <;> cases hreplay : s.replayPending <;> simp [replays, hreplay, entry]

theorem announces_shut (config : SessionConfig) (s : Session) (ticket : Nat) :
    Announces config s.phase (.input (.close ticket))
      ((shut config s).doing [.confirmClose ticket]) := by
  rw [shut_eq]
  refine ⟨⟨_, _, List.append_assoc _ _ _, ?_, ?_, ?_⟩, ?_, fun _ _ => ⟨ticket, rfl⟩⟩
  · simp
  · simp [entry]
  · simp [entry]
  · intro h
    simp only [Step.doing] at h ⊢
    cases hp : s.phase <;> simp_all [Phase.leadsTo]

/-- Every reaction publishes the phase that it enters, and there is a way to it. -/
theorem Consistent.announces (h : s.Consistent) {input : Input} {step : Step}
    (hreacts : Reacts config s input step) : Announces config s.phase (.input input) step := by
  cases hreacts with
  | begins hphase => exact announces_beginConnect (by simp [hphase, Phase.leadsTo])
  | revives hphase =>
    have hleads : s.phase.leadsTo .connecting := by simp [hphase, Phase.leadsTo]
    exact announces_beginConnect (s := { s with attempts := 0, replayPending := _ }) hleads
  | shuts ticket => exact announces_shut config s ticket
  | opens hphase =>
    rw [Step.doing, cancelReconnect_eq]
    exact announces_staying rfl (by simp)
  | identifies id hphase => exact announces_identified id (by simp [hphase, Phase.leadsTo])
  | retries entry hcharges =>
    apply announces_retry
    rcases h.phase_of_charges hcharges with hp | hp <;> simp [hp, Phase.leadsTo]
  | givesUp entry hcharges =>
    apply announces_giveUp
    rcases h.phase_of_charges hcharges with hp | hp <;> simp [hp, Phase.leadsTo]
  | redials timer htimer =>
    have hleads : s.phase.leadsTo .connecting := by
      simp [h.phase_of_timer htimer, Phase.leadsTo]
    exact announces_beginConnect (s := { s with reconnect := none }) hleads
  | ignores entries => exact announces_staying rfl (published_logs entries)

theorem Consistent.announces_move (h : s.Consistent) (config : SessionConfig) (m : Move) :
    Announces config s.phase m (s.move config m) := by
  cases m with
  | input input => exact h.announces (handle_reacts config s input)
  | subscriptions table => exact announces_staying rfl rfl

/-! ### Runs -/

/-- What is published along a run is a path that begins at the phase of the session. -/
theorem isChain_published (h : s.Consistent) (moves : List Move) :
    (s.phase :: published (run config s moves).effects).IsChain fun p q => p.leadsTo q := by
  induction moves generalizing s with
  | nil => simp
  | cons m rest ih =>
    have hmove := h.announces_move config m
    have hnext : (s.move config m).session.Consistent := h.move m
    have hrest := ih hnext
    rw [run_cons_effects, published_append, hmove.published_eq]
    split
    next hstays => simpa [hstays] using hrest
    next hmoves => simpa [hmoves] using ⟨hmove.leads hmoves, hrest⟩

/-- The phase published last is the phase of the session. -/
theorem getLast?_published (h : s.Consistent) (moves : List Move) :
    (s.phase :: published (run config s moves).effects).getLast? =
      some (run config s moves).session.phase := by
  induction moves generalizing s with
  | nil => rfl
  | cons m rest ih =>
    have hmove := h.announces_move config m
    have hnext : (s.move config m).session.Consistent := h.move m
    have hrest := ih hnext
    rw [run_cons_effects, run_cons_session, published_append, hmove.published_eq]
    split
    next hstays => simpa [hstays] using hrest
    next hmoves => simpa [List.getLast?_cons_cons] using hrest

/-! ### Rest -/

/-- Nothing goes on in the session. -/
def AtRest (s : Session) : Prop := s.phase = .disconnected ∨ s.phase = .failed

/-- At rest a session ignores every input that is no command, to the last field. -/
theorem Consistent.handle_report (h : s.Consistent) (hrest : s.AtRest) {input : Input}
    (hinput : input.isCommand = false) : s.handle config input = ⟨s, []⟩ := by
  have htimer : s.reconnect = none := h.no_timer (by rcases hrest with hp | hp <;> simp [hp])
  cases input with
  | connect => simp [Input.isCommand] at hinput
  | close ticket => simp [Input.isCommand] at hinput
  | opened => rcases hrest with hp | hp <;> simp [handle, onOpened, hp]
  | closed => rcases hrest with hp | hp <;> simp [handle, onClosed, hp]
  | clientId generation result => rcases hrest with hp | hp <;> simp [handle, onClientId, hp]
  | livenessFailed generation reason =>
    rcases hrest with hp | hp <;> simp [handle, onLivenessFailed, hp]
  | reconnectDue timer => simp [handle, onReconnectDue, htimer]

theorem run_reports (h : s.Consistent) (hrest : s.AtRest) (inputs : List Input)
    (hinputs : ∀ input ∈ inputs, input.isCommand = false) :
    run config s (inputs.map .input) = ⟨s, []⟩ := by
  induction inputs with
  | nil => rfl
  | cons input rest ih =>
    have hhead : s.move config (.input input) = ⟨s, []⟩ :=
      h.handle_report hrest (hinputs input (by simp))
    have htail := ih fun other hmem => hinputs other (by simp [hmem])
    simp only [List.map_cons, run, hhead, Step.andThen, htail, List.append_nil]

/-- At rest every command changes the session: a call to connect its phase, a close its
generation. -/
theorem AtRest.handle_command (hrest : s.AtRest) {input : Input} (hinput : input.isCommand) :
    (s.handle config input).session ≠ s := by
  have hgeneration : (s.handle config input).session.generation = s.generation + 1 := by
    cases input with
    | connect => rcases hrest with hp | hp <;> simp [handle, onConnect, hp, beginConnect_eq]
    | close ticket => simp [handle, Step.doing, shut_eq]
    | _ => simp [Input.isCommand] at hinput
  intro heq
  rw [heq] at hgeneration
  omega

/-- Along every run, with whatever inputs, the published phases are a path of the graph that begins
where sessions begin; neighbours differ, the last one is the phase of the session, and only a close
leads back to the first phase. A session at rest keeps all of its state until a user connects or
closes. -/
theorem published_phases_path (config : SessionConfig) (moves : List Move) :
    let step := run config {} moves
    (Phase.disconnected :: published step.effects).IsChain (fun p q => p ≠ q ∧ p.leadsTo q) ∧
    (Phase.disconnected :: published step.effects).getLast? = some step.session.phase ∧
    (∀ before m after, moves = before ++ m :: after →
      .disconnected ∈ published ((run config {} before).session.move config m).effects →
      ∃ ticket, m = .input (.close ticket)) ∧
    (step.session.AtRest →
      (∀ inputs : List Input, (∀ input ∈ inputs, input.isCommand = false) →
        run config step.session (inputs.map .input) = ⟨step.session, []⟩) ∧
      ∀ input : Input,
        (step.session.handle config input).session ≠ step.session ↔ input.isCommand) := by
  intro step
  have hstep : step.session.Consistent := consistent_initial.run moves
  refine ⟨?_, getLast?_published consistent_initial moves, ?_, ?_⟩
  · apply (isChain_published consistent_initial moves).imp
    intro p q hleads
    exact ⟨Phase.ne_of_leadsTo hleads, hleads⟩
  · intro before m after _ hmem
    have hbefore : (run config {} before).session.Consistent := consistent_initial.run before
    have hmove := hbefore.announces_move config m
    rw [hmove.published_eq] at hmem
    split at hmem
    next => simp at hmem
    next hmoves => exact hmove.closes hmoves (List.mem_singleton.mp hmem).symm
  · intro hrest
    refine ⟨fun inputs => run_reports hstep hrest inputs, fun input => ⟨?_, ?_⟩⟩
    · intro hchanges
      by_contra hreport
      rw [Bool.not_eq_true] at hreport
      exact hchanges (by rw [hstep.handle_report hrest hreport])
    · intro hcommand
      exact hrest.handle_command hcommand

end Session

end WorkspaceLink
