import WorkspaceLink.Proofs.Session.Resources

/-!
# Results that come too late

A task that asks for an identifier, or that probes, reports with the generation in which it was
started. The generation grows with every attempt and with every close, and a session that has left
a phase does not come back to it in the same generation. So there is a point from which on a report
comes too late, and it stays too late whatever happens then. For timers the point is reached when
they are stopped, acted on or replaced.
-/
namespace WorkspaceLink

/-- The generation that the task which is started reports with. -/
def Effect.tag? : Effect → Option Nat
  | .fetchId generation => some generation
  | .probe _ generation => some generation
  | _ => none

/-- The generations that tasks which are started report with. -/
def Effect.tags (effects : List Effect) : List Nat := effects.filterMap tag?

@[simp] theorem Effect.tags_append (first second : List Effect) :
    tags (first ++ second) = tags first ++ tags second :=
  List.filterMap_append

@[simp] theorem Effect.tags_nil : tags [] = [] := rfl

@[simp] theorem Effect.tags_cons (effect : Effect) (rest : List Effect) :
    tags (effect :: rest) = effect.tag?.toList ++ tags rest := by
  cases h : effect.tag? <;> simp [tags, h]

theorem Effect.mem_tags {effects : List Effect} {effect : Effect} {generation : Nat}
    (hmem : effect ∈ effects) (htag : effect.tag? = some generation) :
    generation ∈ tags effects :=
  List.mem_filterMap.mpr ⟨effect, hmem, htag⟩

/-- The input tells how a request for an identifier ended. -/
def Input.isClientId : Input → Bool
  | .clientId _ _ => true
  | _ => false

/-- The input tells that a probe failed. -/
def Input.isVerdict : Input → Bool
  | .livenessFailed _ _ => true
  | _ => false

namespace Session

variable {config : SessionConfig} {s : Session}

/-! ### Generations -/

/-- The move starts an attempt or closes the session. -/
def renews (config : SessionConfig) (s : Session) : Move → Bool
  | .input (.close _) => true
  | m => Effect.dials (s.move config m).effects ≠ 0

/-- What a move does to the generation: it grows with an attempt or a close, and otherwise no phase
of a connection is entered that the session was not about to enter. -/
theorem move_generation (config : SessionConfig) (s : Session) (m : Move) :
    let after := (s.move config m).session
    (s.renews config m = true ∧ after.generation = s.generation + 1) ∨
      (s.renews config m = false ∧ after.generation = s.generation ∧
        (after.phase = .connecting → s.phase = .connecting) ∧
        (after.phase = .connected → s.phase = .connecting ∨ s.phase = .connected)) := by
  cases m with
  | subscriptions table => exact .inr ⟨rfl, rfl, id, .inr⟩
  | input input =>
    have hreacts := handle_reacts config s input
    simp only [move]
    have hdials : ∀ {count}, (∀ ticket, input ≠ .close ticket) →
        Effect.dials (s.handle config input).effects = count →
          s.renews config (.input input) = decide (count ≠ 0) := by
      rintro count hclose rfl
      cases input with
      | close ticket => exact absurd rfl (hclose ticket)
      | _ => rfl
    generalize hstep : s.handle config input = step at hreacts hdials
    cases hreacts with
    | begins hphase =>
      exact .inl ⟨hdials (by simp) (tally_beginConnect _ _).dials, by rw [beginConnect_eq]⟩
    | revives hphase =>
      exact .inl ⟨hdials (by simp) (tally_beginConnect _ _).dials, by rw [beginConnect_eq]⟩
    | shuts ticket => exact .inl ⟨rfl, by rw [Step.doing, shut_eq]⟩
    | opens hphase =>
      refine .inr ⟨hdials (by simp) (tally_opens _).dials, ?_, ?_, ?_⟩ <;>
        simp [Step.doing, cancelReconnect_eq, hphase]
    | identifies id hphase =>
      refine .inr ⟨hdials (by simp) (tally_identified _ _ _).dials, ?_, ?_, ?_⟩ <;>
        simp [identified_eq, hphase]
    | retries entry hcharges =>
      refine .inr ⟨hdials ?_ (tally_retries _ _ _).dials, rfl, ?_, ?_⟩
      · rintro ticket rfl
        simp [charges, reportsFailure] at hcharges
      · simp [Step.andThen, retry]
      · simp [Step.andThen, retry]
    | givesUp entry hcharges =>
      refine .inr ⟨hdials ?_ (tally_givesUp _ _ _).dials, rfl, ?_, ?_⟩
      · rintro ticket rfl
        simp [charges, reportsFailure] at hcharges
      · simp [Step.andThen, giveUp]
      · simp [Step.andThen, giveUp]
    | redials timer htimer =>
      exact .inl ⟨hdials (by simp) (tally_beginConnect _ _).dials, by rw [beginConnect_eq]⟩
    | ignores entries _ _ _ hclose =>
      exact .inr ⟨hdials hclose (tally_logs _ _).dials, rfl, id, .inr⟩

theorem generation_le_move (config : SessionConfig) (s : Session) (m : Move) :
    s.generation ≤ (s.move config m).session.generation := by
  rcases move_generation config s m with ⟨_, heq⟩ | ⟨_, heq, _⟩ <;> omega

theorem generation_le_run (config : SessionConfig) (s : Session) (moves : List Move) :
    s.generation ≤ (run config s moves).session.generation := by
  induction moves generalizing s with
  | nil => exact Nat.le_refl _
  | cons m rest ih => exact Nat.le_trans (generation_le_move config s m) (ih _)

/-! ### Tasks are started with the present generation -/

@[simp] theorem transition_tags (config : SessionConfig) (source target : Phase) :
    Effect.tags (transition config source target) = [] := by
  unfold transition
  split <;> rfl

@[simp] theorem replays_tags (config : SessionConfig) (s : Session) :
    Effect.tags (replays config s) = [] := by
  unfold replays
  split <;> rfl

@[simp] theorem cancel_tags (token : Option Nat) :
    Effect.tags (token.map Effect.cancel).toList = [] := by
  cases token <;> rfl

@[simp] theorem cancelTimer_tags (timer : Option Nat) :
    Effect.tags (timer.map Effect.cancelTimer).toList = [] := by
  cases timer <;> rfl

theorem tags_logs (entries : List LogEntry) : Effect.tags (entries.map .log) = [] := by
  induction entries with
  | nil => rfl
  | cons entry rest ih => simpa [Effect.tag?] using ih

/-- A task that is started reports with the generation that the session has then. -/
theorem tags_reacts {input : Input} {step : Step} (hreacts : Reacts config s input step) :
    ∀ g ∈ Effect.tags step.effects, g = step.session.generation := by
  cases hreacts with
  | begins hphase => simp [beginConnect_eq, Effect.tag?]
  | revives hphase => simp [beginConnect_eq, Effect.tag?]
  | shuts ticket => simp [Step.doing, shut_eq, Effect.tag?, entry]
  | opens hphase => simp [Step.doing, cancelReconnect_eq, Effect.tag?]
  | identifies id hphase => simp [identified_eq, Effect.tag?, entry]
  | retries entry hcharges => simp [Step.andThen, retry, Effect.tag?, Session.entry]
  | givesUp entry hcharges => simp [Step.andThen, giveUp, Effect.tag?, Session.entry]
  | redials timer htimer => simp [beginConnect_eq, Effect.tag?]
  | ignores entries => simp [tags_logs]

theorem tags_run (config : SessionConfig) (s : Session) (moves : List Move) :
    ∀ g ∈ Effect.tags (run config s moves).effects,
      g ≤ (run config s moves).session.generation := by
  induction moves generalizing s with
  | nil => simp
  | cons m rest ih =>
    intro g hg
    rw [run_cons_effects, Effect.tags_append, List.mem_append] at hg
    rcases hg with hg | hg
    · have hle := generation_le_run config (s.move config m).session rest
      cases m with
      | input input => rwa [tags_reacts (handle_reacts config s input) g hg]
      | subscriptions table => simp [move] at hg
    · exact ih _ g hg

/-! ### Too late -/

/-- An identifier that was asked for in a generation is of no use any more. -/
def PastIdentifying (g : Nat) (s : Session) : Prop :=
  g < s.generation ∨ g = s.generation ∧ s.phase ≠ .connecting

/-- A verdict on the connection of a generation is of no use any more, nor will be. -/
def PastProbing (g : Nat) (s : Session) : Prop :=
  g < s.generation ∨ g = s.generation ∧ s.phase ≠ .connecting ∧ s.phase ≠ .connected

theorem PastIdentifying.handle {g : Nat} (h : s.PastIdentifying g) (config : SessionConfig)
    (result : Except ProbeError ClientId) :
    s.handle config (.clientId g result) = ⟨s, []⟩ := by
  have hnot : ¬ (g = s.generation ∧ s.phase = .connecting) := by
    rintro ⟨hg, hphase⟩
    rcases h with hlt | ⟨_, hne⟩
    · omega
    · exact hne hphase
  simp only [Session.handle, onClientId, if_neg hnot]

theorem PastProbing.handle {g : Nat} (h : s.PastProbing g) (config : SessionConfig)
    (reason : String) : s.handle config (.livenessFailed g reason) = ⟨s, []⟩ := by
  have hnot : ¬ (g = s.generation ∧ s.phase = .connected) := by
    rintro ⟨hg, hphase⟩
    rcases h with hlt | ⟨_, _, hne⟩
    · omega
    · exact hne hphase
  simp only [Session.handle, onLivenessFailed, if_neg hnot]

theorem PastIdentifying.move {g : Nat} (h : s.PastIdentifying g) (m : Move) :
    (s.move config m).session.PastIdentifying g := by
  rcases move_generation config s m with ⟨_, hgrows⟩ | ⟨_, hsame, hconnecting, _⟩
  · left
    rcases h with hlt | ⟨heq, _⟩ <;> omega
  · rcases h with hlt | ⟨heq, hphase⟩
    · exact .inl (by omega)
    · exact .inr ⟨heq.trans hsame.symm, fun hafter => hphase (hconnecting hafter)⟩

theorem PastProbing.move {g : Nat} (h : s.PastProbing g) (m : Move) :
    (s.move config m).session.PastProbing g := by
  rcases move_generation config s m with ⟨_, hgrows⟩ | ⟨_, hsame, hconnecting, hconnected⟩
  · left
    rcases h with hlt | ⟨heq, _⟩ <;> omega
  · rcases h with hlt | ⟨heq, hnot, hnot'⟩
    · exact .inl (by omega)
    · refine .inr ⟨heq.trans hsame.symm, fun hafter => hnot (hconnecting hafter), fun hafter => ?_⟩
      rcases hconnected hafter with hphase | hphase
      · exact hnot hphase
      · exact hnot' hphase

theorem PastIdentifying.run {g : Nat} (h : s.PastIdentifying g) (moves : List Move) :
    (run config s moves).session.PastIdentifying g :=
  run_invariant (fun _ m hs => hs.move m) moves h

/-! ### One result of a kind in a generation -/

/-- The input of a move, if it is of a kind and changes the session while it has a generation. -/
def told (config : SessionConfig) (kind : Input → Bool) (g : Nat) (s : Session) :
    Move → List Input
  | .input input =>
    if kind input ∧ s.generation = g ∧ (s.handle config input).session ≠ s then [input] else []
  | .subscriptions _ => []

/-- The inputs of a kind that change the session while it has a generation. -/
def telling (config : SessionConfig) (kind : Input → Bool) (g : Nat) :
    Session → List Move → List Input
  | _, [] => []
  | s, m :: rest => s.told config kind g m ++ telling config kind g (s.move config m).session rest

section Telling

variable {kind : Input → Bool} {g : Nat} (Past : Session → Prop)

theorem telling_eq_nil (hmove : ∀ s m, Past s → Past (move config s m).session)
    (hsilent : ∀ s input, Past s → kind input → s.generation = g →
      (handle config s input).session = s) (moves : List Move) (h : Past s) :
    telling config kind g s moves = [] := by
  induction moves generalizing s with
  | nil => rfl
  | cons m rest ih =>
    rw [telling, ih (hmove s m h), List.append_nil]
    cases m with
    | subscriptions table => rfl
    | input input =>
      refine if_neg ?_
      rintro ⟨hkind, hg, hchanged⟩
      exact hchanged (hsilent s input h hkind hg)

/-- If the first input of a kind that changes the session makes all others come too late, there is
only one. -/
theorem telling_le_one (hmove : ∀ s m, Past s → Past (move config s m).session)
    (hsilent : ∀ s input, Past s → kind input → s.generation = g →
      (handle config s input).session = s)
    (hends : ∀ s input, kind input → s.generation = g → (handle config s input).session ≠ s →
      Past (handle config s input).session) (s : Session) (moves : List Move) :
    (telling config kind g s moves).length ≤ 1 := by
  induction moves generalizing s with
  | nil => simp [telling]
  | cons m rest ih =>
    rw [telling]
    cases m with
    | subscriptions table => exact ih _
    | input input =>
      by_cases htold : kind input ∧ s.generation = g ∧ (s.handle config input).session ≠ s
      · have hpast := hends s input htold.1 htold.2.1 htold.2.2
        have hrest : telling config kind g (s.handle config input).session rest = [] :=
          telling_eq_nil Past hmove hsilent rest hpast
        simp [told, htold, move, hrest]
      · simpa [told, htold] using ih _

end Telling

theorem PastIdentifying.silent (h : s.PastIdentifying s.generation) {input : Input}
    (hkind : input.isClientId) : (s.handle config input).session = s := by
  cases input with
  | clientId g result =>
    by_cases hg : g = s.generation
    · rw [hg, h.handle]
    · simp [Session.handle, onClientId, hg]
  | _ => simp [Input.isClientId] at hkind

theorem PastProbing.silent (h : s.PastProbing s.generation) {input : Input}
    (hkind : input.isVerdict) : (s.handle config input).session = s := by
  cases input with
  | livenessFailed g reason =>
    by_cases hg : g = s.generation
    · rw [hg, h.handle]
    · simp [Session.handle, onLivenessFailed, hg]
  | _ => simp [Input.isVerdict] at hkind

theorem pastIdentifying_of_changed {input : Input} (hkind : input.isClientId)
    (hchanged : (s.handle config input).session ≠ s) :
    (s.handle config input).session.PastIdentifying s.generation := by
  have hreacts := handle_reacts config s input
  generalize s.handle config input = step at hreacts hchanged
  right
  cases hreacts with
  | identifies id hphase => simp [identified_eq]
  | retries entry hcharges => simp [Step.andThen, retry]
  | givesUp entry hcharges => simp [Step.andThen, giveUp]
  | ignores entries => exact absurd rfl hchanged
  | _ => simp [Input.isClientId] at hkind

theorem pastProbing_of_changed {input : Input} (hkind : input.isVerdict)
    (hchanged : (s.handle config input).session ≠ s) :
    (s.handle config input).session.PastProbing s.generation := by
  have hreacts := handle_reacts config s input
  generalize s.handle config input = step at hreacts hchanged
  right
  cases hreacts with
  | retries entry hcharges => simp [Step.andThen, retry]
  | givesUp entry hcharges => simp [Step.andThen, giveUp]
  | ignores entries => exact absurd rfl hchanged
  | _ => simp [Input.isVerdict] at hkind

theorem identifiers_tell_once (config : SessionConfig) (g : Nat) (s : Session)
    (moves : List Move) : (telling config Input.isClientId g s moves).length ≤ 1 := by
  refine telling_le_one (PastIdentifying g) (fun _ m h => h.move m) ?_ ?_ s moves
  · rintro s input hpast hkind rfl
    exact hpast.silent hkind
  · rintro s input hkind rfl hchanged
    exact pastIdentifying_of_changed hkind hchanged

theorem verdicts_tell_once (config : SessionConfig) (g : Nat) (s : Session)
    (moves : List Move) : (telling config Input.isVerdict g s moves).length ≤ 1 := by
  refine telling_le_one (PastProbing g) (fun _ m h => h.move m) ?_ ?_ s moves
  · rintro s input hpast hkind rfl
    exact hpast.silent hkind
  · rintro s input hkind rfl hchanged
    exact pastProbing_of_changed hkind hchanged

/-! ### Timers -/

/-- A timer was set, and does not run any more. -/
def Spent (number : Nat) (s : Session) : Prop :=
  number ≤ s.lastTimer ∧ s.reconnect ≠ some number

theorem Spent.handle {number : Nat} (h : s.Spent number) (config : SessionConfig) :
    s.handle config (.reconnectDue number) = ⟨s, []⟩ := by
  simp only [Session.handle, onReconnectDue, if_neg h.2]

theorem Spent.reacts {number : Nat} (h : s.Spent number) {input : Input} {step : Step}
    (hreacts : Reacts config s input step) : step.session.Spent number := by
  obtain ⟨hle, hne⟩ := h
  cases hreacts with
  | begins hphase => simpa [Spent, beginConnect_eq] using ⟨hle, hne⟩
  | revives hphase => simpa [Spent, beginConnect_eq] using ⟨hle, hne⟩
  | shuts ticket => simpa [Spent, Step.doing, shut_eq] using hle
  | opens hphase => simpa [Spent, Step.doing, cancelReconnect_eq] using hle
  | identifies id hphase => simpa [Spent, identified_eq] using ⟨hle, hne⟩
  | retries entry hcharges =>
    -- The new timer has the next number.
    simp only [Spent, Step.andThen, retry, ne_eq, Option.some.injEq]
    omega
  | givesUp entry hcharges => exact ⟨hle, hne⟩
  | redials timer htimer => simpa [Spent, beginConnect_eq] using hle
  | ignores entries => exact ⟨hle, hne⟩

theorem Spent.run {number : Nat} (h : s.Spent number) (moves : List Move) :
    (run config s moves).session.Spent number := by
  refine run_invariant (fun s m hs => ?_) moves h
  cases m with
  | input input => exact hs.reacts (handle_reacts config s input)
  | subscriptions table => exact hs

theorem of_cancelTimer {input : Input} {step : Step} {number : Nat}
    (hreacts : Reacts config s input step) (hmem : .cancelTimer number ∈ step.effects) :
    s.reconnect = some number ∧ step.session.reconnect = none ∧
      step.session.lastTimer = s.lastTimer := by
  have htouches : .cancelTimer number ∈ step.effects.filter Effect.touches :=
    List.mem_filter.mpr ⟨hmem, rfl⟩
  cases hreacts with
  | begins hphase => simp [beginConnect_touches] at htouches
  | revives hphase => simp [beginConnect_touches] at htouches
  | shuts ticket =>
    rw [shuts_touches] at htouches
    refine ⟨by simpa using htouches, ?_, ?_⟩ <;> simp [Step.doing, shut_eq]
  | opens hphase =>
    rw [opens_touches] at htouches
    refine ⟨by simpa using htouches, ?_, ?_⟩ <;> simp [Step.doing, cancelReconnect_eq]
  | identifies id hphase => simp [identified_touches] at htouches
  | retries entry hcharges => simp [retries_touches] at htouches
  | givesUp entry hcharges => simp [givesUp_touches] at htouches
  | redials timer htimer => simp [beginConnect_touches] at htouches
  | ignores entries => simp at hmem

/-- A timer that is stopped or acted on does not run any more. -/
theorem Consistent.spent_of_ends (h : s.Consistent) {m : Move} {happening : Happening}
    {number : Nat} (hmem : happening ∈ s.happenings config m)
    (hends : happening.ends (.timer number)) : (s.move config m).session.Spent number := by
  cases m with
  | subscriptions table => simp [happenings] at hmem
  | input input =>
    rcases List.mem_append.mp hmem with hacts | hdid
    · cases input with
      | reconnectDue timer =>
        by_cases htimer : s.reconnect = some timer
        · obtain rfl : happening = .acted timer := by simpa [acts, htimer] using hacts
          obtain rfl : number = timer := by simpa [Happening.ends] using hends
          have hle := Nat.le_of_eq (h.timer_latest number htimer)
          simpa [Spent, Session.move, Session.handle, onReconnectDue, htimer, beginConnect_eq]
            using hle
        · simp [acts, htimer] at hacts
      | _ => simp [acts] at hacts
    · obtain ⟨effect, heffect, rfl⟩ := List.mem_map.mp hdid
      have hcancels : effect = .cancelTimer number := by
        cases effect <;> simp_all [Happening.ends]
      subst hcancels
      obtain ⟨htimer, hnone, hsame⟩ := of_cancelTimer (handle_reacts config s input) heffect
      refine ⟨?_, by simp [Session.move, hnone]⟩
      rw [h.timer_latest number htimer]
      exact Nat.le_of_eq hsame.symm

theorem Consistent.spent_run (h : s.Consistent) (moves : List Move) {happening : Happening}
    {number : Nat} (hmem : happening ∈ history config s moves)
    (hends : happening.ends (.timer number)) :
    (Session.run config s moves).session.Spent number := by
  induction moves generalizing s with
  | nil => simp [history] at hmem
  | cons m rest ih =>
    rcases List.mem_append.mp hmem with hfirst | hrest
    · exact (h.spent_of_ends hfirst hends).run rest
    · exact ih (h.move m) hrest

/-- A timer with a later number takes the place of one that was set before it. -/
theorem Consistent.spent_of_lt (h : s.Consistent) {number : Nat} (hlt : number < s.lastTimer) :
    s.Spent number := by
  refine ⟨Nat.le_of_lt hlt, fun htimer => ?_⟩
  have := h.timer_latest number htimer
  omega

/-! ### Main result -/

/-- In every run the generation grows with each attempt and each close and at no other time. The
result of a task that was started before one of these leaves the whole session as it is, and starts
and stops nothing. In one generation at most one result of a request for an identifier, and at most
one verdict of the probes, changes the session. A timer that was stopped, acted on or replaced is
never acted on again. After a failed probe, the answer to a request that was made before it changes
nothing any more, so it neither stops the reconnection nor starts another. -/
theorem late_results_ignored (config : SessionConfig) (before : List Move) :
    let past := run config {} before
    (∀ m, let after := (past.session.move config m).session
      (past.session.renews config m → past.session.generation < after.generation) ∧
      (past.session.renews config m = false →
        after.generation = past.session.generation)) ∧
    (∀ first m later, (run config past.session first).session.renews config m →
      let s := (run config past.session (first ++ m :: later)).session
      ∀ g, (.fetchId g ∈ past.effects →
          ∀ result, s.handle config (.clientId g result) = ⟨s, []⟩) ∧
        ∀ token, .probe token g ∈ past.effects →
          ∀ reason, s.handle config (.livenessFailed g reason) = ⟨s, []⟩) ∧
    (∀ g, (telling config Input.isClientId g {} before).length ≤ 1 ∧
      (telling config Input.isVerdict g {} before).length ≤ 1) ∧
    (∀ number later,
      (∃ happening ∈ history config {} before, happening.ends (.timer number)) ∨
        (∃ other ∈ Effect.timers past.effects, number < other.1) →
      let s := (run config past.session later).session
      s.handle config (.reconnectDue number) = ⟨s, []⟩) ∧
    (∀ g reason later, (past.session.handle config (.livenessFailed g reason)).session ≠
        past.session →
      let s := (run config past.session (.input (.livenessFailed g reason) :: later)).session
      ∀ own, .fetchId own ∈ past.effects →
        ∀ result, s.handle config (.clientId own result) = ⟨s, []⟩) := by
  intro past
  have hconsistent : past.session.Consistent := consistent_initial.run before
  have htag : ∀ {effect g}, effect ∈ past.effects → effect.tag? = some g →
      g ≤ past.session.generation :=
    fun hmem htag => tags_run config {} before _ (Effect.mem_tags hmem htag)
  refine ⟨?_, ?_, ?_, ?_, ?_⟩
  · intro m
    rcases move_generation config past.session m with ⟨hrenews, hgrows⟩ | ⟨hrenews, hsame, _⟩
    · exact ⟨fun _ => by omega, fun hnot => by simp [hrenews] at hnot⟩
    · exact ⟨fun hnot => by simp [hrenews] at hnot, fun _ => hsame⟩
  · intro first m later hrenews s g
    have hgrows : past.session.generation < s.generation := by
      have hfirst := generation_le_run config past.session first
      rcases move_generation config (run config past.session first).session m with
        ⟨_, hmove⟩ | ⟨hnot, _⟩
      · have hlater := generation_le_run config
          (Session.move config (run config past.session first).session m).session later
        have hs : s = (run config
            (Session.move config (run config past.session first).session m).session
            later).session := by
          simp only [s, run_append, Step.andThen, run_cons_session]
        rw [hs]
        omega
      · simp [hrenews] at hnot
    constructor
    · intro hstarted result
      have hle := htag hstarted rfl
      exact PastIdentifying.handle (.inl (by omega)) config result
    · intro token hstarted reason
      have hle := htag hstarted rfl
      exact PastProbing.handle (.inl (by omega)) config reason
  · exact fun g => ⟨identifiers_tell_once config g {} before, verdicts_tell_once config g {} before⟩
  · intro number later hspent s
    have hpast : past.session.Spent number := by
      rcases hspent with ⟨happening, hmem, hends⟩ | ⟨other, hmem, hlt⟩
      · exact consistent_initial.spent_run before hmem hends
      · have hle := (timers_run config {} before).2 other hmem
        exact hconsistent.spent_of_lt (Nat.lt_of_lt_of_le hlt hle)
    exact (hpast.run later).handle config
  · intro g reason later hchanged s own hstarted result
    have hle := htag hstarted rfl
    -- The verdict leaves the session in a phase in which no identifier is waited for.
    have hpast : (past.session.handle config (.livenessFailed g reason)).session.PastIdentifying
        own := by
      rcases pastProbing_of_changed rfl hchanged with hlt | ⟨heq, hphase, _⟩
      · exact .inl (by omega)
      · by_cases hown : own = past.session.generation
        · exact .inr ⟨hown.trans heq, hphase⟩
        · exact .inl (by omega)
    exact (hpast.run later).handle config result

end Session

end WorkspaceLink
