import WorkspaceLink.Proofs.Session.Reaction

/-!
# What a phase says about a session

`Consistent` says which of attempt, probes and timer a session keeps in which phase, and what it
knows there. No part of a step sees to all of it, but every reaction to an input keeps it.
-/
namespace WorkspaceLink.Session

variable {config : SessionConfig} {s : Session}

/-- Which tasks a session keeps in which phase, and what it knows there. -/
structure Consistent (s : Session) : Prop where
  timer_iff : s.reconnect.isSome ↔ s.phase = .reconnecting
  timer_latest : ∀ timer, s.reconnect = some timer → timer = s.lastTimer
  probes_iff : s.liveness.isSome ↔ s.phase = .connected
  attempt_iff : s.attempt.isSome ↔
    s.phase = .connecting ∨ s.phase = .connected ∨ s.phase = .reconnecting
  identified : s.phase = .connected → s.clientId.isSome
  cleared : s.phase = .disconnected → s.attempts = 0 ∧ s.clientId = none ∧ s.replayPending = false
  attempt_lt : ∀ token, s.attempt = some token → token < s.nextToken
  probes_lt : ∀ token, s.liveness = some token → token < s.nextToken
  tokens_ne : ∀ token, s.attempt = some token → s.liveness ≠ some token

theorem consistent_initial : Consistent {} := by
  constructor <;> simp

theorem Consistent.no_timer (h : s.Consistent) (hphase : s.phase ≠ .reconnecting) :
    s.reconnect = none := by
  have := h.timer_iff
  cases hr : s.reconnect <;> simp_all

theorem Consistent.no_probes (h : s.Consistent) (hphase : s.phase ≠ .connected) :
    s.liveness = none := by
  have := h.probes_iff
  cases hl : s.liveness <;> simp_all

theorem Consistent.phase_of_timer (h : s.Consistent) {timer : Nat}
    (htimer : s.reconnect = some timer) : s.phase = .reconnecting := by
  rw [← h.timer_iff, htimer]
  rfl

theorem Consistent.attempt_of_phase (h : s.Consistent)
    (hphase : s.phase = .connecting ∨ s.phase = .connected ∨ s.phase = .reconnecting) :
    ∃ token, s.attempt = some token ∧ token < s.nextToken := by
  obtain ⟨token, hattempt⟩ := Option.isSome_iff_exists.mp (h.attempt_iff.mpr hphase)
  exact ⟨token, hattempt, h.attempt_lt token hattempt⟩

/-- A failure that counts is one of a connection that is open or being opened. -/
theorem Consistent.phase_of_charges (h : s.Consistent) {input : Input} (hc : s.charges input) :
    s.phase = .connecting ∨ s.phase = .connected := by
  obtain ⟨hfailure, htimer⟩ : s.reportsFailure input ∧ s.reconnect = none := by
    simpa [charges] using hc
  -- A close also reaches a session that waits, but then its timer runs.
  have hphase : s.phase ≠ .reconnecting := by
    rw [Ne, ← h.timer_iff, htimer]
    simp
  cases input <;> simp only [reportsFailure] at hfailure
  case closed =>
    cases hp : s.phase <;> simp_all
  case clientId generation result =>
    cases result <;> simp_all
  all_goals simp_all

/-- A new attempt clears neither timer nor probes, so there must be none. -/
theorem consistent_beginConnect (hreconnect : s.reconnect = none) (hliveness : s.liveness = none) :
    (beginConnect config s).session.Consistent := by
  rw [beginConnect_eq]
  constructor <;> simp [hreconnect, hliveness]

theorem Consistent.giveUp (h : s.Consistent) (config : SessionConfig)
    (hphase : s.phase ≠ .reconnecting) : (giveUp config s).session.Consistent := by
  constructor <;> simp [Session.giveUp, h.no_timer hphase]

theorem Consistent.retry (h : s.Consistent) (config : SessionConfig)
    (hphase : s.phase = .connecting ∨ s.phase = .connected) :
    (retry config s).session.Consistent := by
  obtain ⟨token, hattempt, hlt⟩ := h.attempt_of_phase (by rcases hphase with hp | hp <;> simp [hp])
  constructor <;> simp [Session.retry, hattempt, hlt]

theorem Consistent.reacts (h : s.Consistent) {input : Input} {step : Step}
    (hreacts : Reacts config s input step) : step.session.Consistent := by
  cases hreacts with
  | begins hphase =>
    exact consistent_beginConnect (h.no_timer (by simp [hphase])) (h.no_probes (by simp [hphase]))
  | revives hphase =>
    exact consistent_beginConnect (h.no_timer (by simp [hphase])) (h.no_probes (by simp [hphase]))
  | shuts ticket =>
    rw [Step.doing, shut_eq]
    constructor <;> simp
  | opens hphase =>
    have hliveness := h.no_probes (by simp [hphase])
    obtain ⟨token, hattempt, hlt⟩ := h.attempt_of_phase (.inl hphase)
    rw [Step.doing, cancelReconnect_eq]
    constructor <;> simp [hphase, hliveness, hattempt, hlt]
  | identifies id hphase =>
    have hreconnect := h.no_timer (by simp [hphase])
    obtain ⟨token, hattempt, hlt⟩ := h.attempt_of_phase (.inl hphase)
    rw [identified_eq]
    constructor <;> simp [hreconnect, hattempt] <;> omega
  | retries entry hcharges => exact h.retry config (h.phase_of_charges hcharges)
  | givesUp entry hcharges =>
    have hphase := h.phase_of_charges hcharges
    exact h.giveUp config (by rcases hphase with hp | hp <;> simp [hp])
  | redials timer htimer =>
    have hphase := h.phase_of_timer htimer
    exact consistent_beginConnect rfl (h.no_probes (by simp [hphase]))
  | ignores entries => exact h

theorem Consistent.move (h : s.Consistent) (m : Move) : (s.move config m).session.Consistent := by
  cases m with
  | input input => exact h.reacts (handle_reacts config s input)
  | subscriptions table =>
    exact ⟨h.timer_iff, h.timer_latest, h.probes_iff, h.attempt_iff, h.identified, h.cleared,
      h.attempt_lt, h.probes_lt, h.tokens_ne⟩

theorem Consistent.run (h : s.Consistent) (moves : List Move) :
    (run config s moves).session.Consistent :=
  run_invariant (fun _ m hs => hs.move m) moves h

end WorkspaceLink.Session
