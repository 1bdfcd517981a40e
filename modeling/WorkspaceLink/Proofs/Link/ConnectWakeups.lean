import WorkspaceLink.Proofs.Link.BeatFrame

/-!
# No call to connect waits in vain

A call to connect looks at the phase, asks the session to connect and then waits for the phase to
change. It is woken by a change and sees only the phase that is current when it runs, so that phases
in between escape it, and it may have looked before the session left the phase it was in.

Beside a link we keep the tasks that were woken and have not run since, and the version of the phase
that each call saw when it looked first. `Watchful` is what every beat keeps: a call that waits has
seen the current version, and then the session is not connected and, if it is at rest, has yet to
hear of a call; or it is among the tasks that were woken. So when the session has nothing to handle,
a call that was not woken waits for a session that is on its way.
-/
namespace WorkspaceLink.Link

variable {link : Link} {id seen : Nat} {task : Task}

/-- A link, the tasks that were woken, and the calls to connect. -/
structure WakeRecord where
  link : Link
  /-- The tasks that were woken and have not run since. -/
  ready : List Nat := []
  /-- The calls to connect, by number. -/
  begun : List Nat := []
  /-- The calls to connect that have looked at the phase, each with the version it saw first. -/
  looks : List (Nat × Nat) := []

def runs? : Beat → Option Nat
  | .task id => some id
  | _ => none

/-- The call to connect that begins in a beat. -/
def begins? (link : Link) : Beat → Option Nat
  | .call .connect => some link.nextTask
  | _ => none

/-- The call to connect that looks at the phase for the first time, and the version it sees. -/
def looks? (link : Link) : Beat → Option (Nat × Nat)
  | .task id =>
    match link.task? id with
    | some (.call (.fresh .connect)) => some (id, link.version)
    | _ => none
  | _ => none

namespace WakeRecord

/-- A beat. The tasks that it wakes join those that are ready. -/
def next (v : WakeRecord) (b : Beat) : WakeRecord where
  link := { v.link.beat b with woken := [] }
  ready := v.ready.filter (fun id => runs? b ≠ some id) ++ (v.link.beat b).woken
  begun := v.begun ++ (v.link.begins? b).toList
  looks := v.looks ++ (v.link.looks? b).toList

/-- A session on a transport, after beats. -/
def after (carrier : Carrier) (config : SessionConfig) (ambient : Ambient) (beats : List Beat) :
    WakeRecord :=
  beats.foldl next { link := { withSession carrier config with ambient } }

end WakeRecord

/-- Where a call to connect can stand. -/
inductive Attends (v : WakeRecord) (id : Nat) : Task → Prop where
  | fresh (hready : id ∈ v.ready) : Attends v id (.call (.fresh .connect))
  /-- It has seen the current phase, and the session is on its way or will be. -/
  | upToDate {look : Nat} (hlook : (id, look) ∈ v.looks) (hle : look ≤ v.link.version)
    (hphase : v.link.session.phase ≠ .connected)
    (hrest : v.link.session.AtRest → .connect ∈ v.link.inputs) :
    Attends v id (.call (.connecting v.link.version))
  /-- It has yet to see the current phase, and was woken. -/
  | behind {look seen : Nat} (hlook : (id, look) ∈ v.looks) (hle : look ≤ seen)
    (hlt : seen < v.link.version) (hready : id ∈ v.ready) :
    Attends v id (.call (.connecting seen))

/-- What every beat keeps. -/
structure Watchful (config : SessionConfig) (v : WakeRecord) : Prop where
  config_eq : v.link.config = config
  consistent : v.link.session.Consistent
  enrolled : v.link.Enrolled
  begun_lt : ∀ id ∈ v.begun, id < v.link.nextTask
  attends : ∀ id ∈ v.begun, ∀ task, v.link.task? id = some task → Attends v id task

/-! ### Calls that do not run -/

variable {v after : WakeRecord} {config : SessionConfig}

theorem Attends.isCall (h : Attends v id task) : ∃ stage, task = .call stage := by
  cases h with
  | fresh => exact ⟨_, rfl⟩
  | upToDate => exact ⟨_, rfl⟩
  | behind => exact ⟨_, rfl⟩

/-- Neither the phase nor the version changes. -/
theorem Attends.spared (h : Attends v id task) (hready : id ∈ v.ready → id ∈ after.ready)
    (hlooks : v.looks <+: after.looks) (hversion : after.link.version = v.link.version)
    (hphase : after.link.session.phase = v.link.session.phase)
    (hconnect : v.link.session.AtRest → .connect ∈ v.link.inputs → .connect ∈ after.link.inputs) :
    Attends after id task := by
  have hrest : after.link.session.AtRest ↔ v.link.session.AtRest := by
    rw [Session.AtRest, Session.AtRest, hphase]
  cases h with
  | fresh hmem => exact .fresh (hready hmem)
  | upToDate hlook hle hne hqueued =>
    rw [← hversion] at hle ⊢
    refine .upToDate (hlooks.subset hlook) hle (hphase ▸ hne) fun hat => ?_
    exact hconnect (hrest.mp hat) (hqueued (hrest.mp hat))
  | behind hlook hle hlt hmem =>
    exact .behind (hlooks.subset hlook) hle (hversion ▸ hlt) (hready hmem)

/-- A phase is published, and the call is woken. -/
theorem Attends.overtaken (h : Attends v id task) (hready : id ∈ after.ready)
    (hlooks : v.looks <+: after.looks) (hversion : v.link.version < after.link.version) :
    Attends after id task := by
  cases h with
  | fresh => exact .fresh hready
  | upToDate hlook hle => exact .behind (hlooks.subset hlook) hle hversion hready
  | behind hlook hle hlt => exact .behind (hlooks.subset hlook) hle (by omega) hready

theorem looks_prefix_next (v : WakeRecord) (b : Beat) : v.looks <+: (v.next b).looks :=
  List.prefix_append _ _

theorem ready_next {b : Beat} (hruns : runs? b ≠ some id) (h : id ∈ v.ready) :
    id ∈ (v.next b).ready := by
  apply List.mem_append_left
  simpa [List.mem_filter, h] using hruns

/-- A beat in which neither the session has a turn nor the call. -/
theorem Attends.beside {b : Beat} (h : Attends v id task) (hdrives : v.link.drives b = false)
    (hruns : runs? b ≠ some id) : Attends (v.next b) id task := by
  have hspares := spares_beat hdrives
  obtain ⟨table, hsession⟩ := hspares.session
  have hphase : (v.link.beat b).session.phase = v.link.session.phase := by rw [hsession]
  exact h.spared (ready_next hruns) (looks_prefix_next v b) hspares.version hphase
    fun _ hmem => hspares.inputs.subset hmem

/-! ### The turn of the session -/

/-- Apart from a disconnect, no effect forgets that a task was woken. -/
theorem woken_runEffects {effects : List Effect} (h : .disconnect ∉ effects)
    (hmem : id ∈ link.woken) : id ∈ (link.runEffects effects).woken := by
  induction effects generalizing link with
  | nil => exact hmem
  | cons effect rest ih =>
    rw [List.mem_cons, not_or] at h
    apply ih h.2
    cases effect with
    | disconnect => exact absurd rfl h.1
    | log entry => exact hmem
    | clearHandlers => exact hmem
    | _ => exact List.mem_append_left _ hmem

/-- A change of phase wakes every call that waits for one. -/
theorem woken_of_publish {before rest : List Effect} {phase : Phase}
    (hrest : .disconnect ∉ rest) (hlt : id < link.nextTask)
    (htask : link.task? id = some (.call (.connecting seen))) :
    id ∈ (link.runEffects (before ++ .publish phase :: rest)).woken := by
  have hsplit : link.runEffects (before ++ .publish phase :: rest) =
      ((link.runEffects before).runEffect (.publish phase)).runEffects rest := by
    simp [runEffects]
  have hkept : (link.runEffects before).task? id = some (.call (.connecting seen)) :=
    ((keeps_runEffects before link).tasks id hlt (Option.some_ne_none _).symm).trans htask
  rw [hsplit]
  apply woken_runEffects hrest
  apply List.mem_append_right
  apply List.mem_map.mpr
  exact ⟨_, List.mem_filter.mpr ⟨mem_of_task? hkept, rfl⟩, rfl⟩

/-- A call that waits is woken when the session changes its phase. -/
theorem woken_of_change {b : Beat} {input : Input} {rest : List Input} (hdrives : link.drives b)
    (hinputs : link.inputs = input :: rest) (hconsistent : link.session.Consistent)
    (hmoves : (link.session.handle link.config input).session.phase ≠ link.session.phase)
    (hlt : id < link.nextTask) (htask : link.task? id = some (.call (.connecting seen))) :
    id ∈ (link.beat b).woken := by
  have hreacts := Session.handle_reacts link.config link.session input
  obtain ⟨before, after, heffects, _, _, hafter⟩ := (hconsistent.announces hreacts).effects_eq
  rw [Session.transition, if_neg hmoves.symm, List.append_assoc, List.cons_append,
    List.append_cons] at heffects
  rw [beat_of_input hdrives hinputs, heffects]
  exact woken_of_publish hafter hlt htask

/-- A session at rest that handles a call to connect leaves its phase. -/
theorem phase_connect (config : SessionConfig) {s : Session} (h : s.AtRest) :
    (s.handle config .connect).session.phase ≠ s.phase := by
  rcases h with hp | hp <;> simp [Session.handle, Session.onConnect, hp, Session.beginConnect_eq]

/-- The session has its turn. -/
theorem Attends.driven {b : Beat} (h : Attends v id task) (hdrives : v.link.drives b)
    (hruns : runs? b ≠ some id) (hconsistent : v.link.session.Consistent)
    (hlt : id < v.link.nextTask) (htask : v.link.task? id = some task) :
    Attends (v.next b) id task := by
  have hlooks := looks_prefix_next v b
  have hkept : id ∈ v.ready → id ∈ (v.next b).ready := ready_next hruns
  cases hinputs : v.link.inputs with
  | nil =>
    have hlink : (v.next b).link = { v.link with woken := [] } := by
      rw [WakeRecord.next, beat_of_idle hdrives hinputs]
    apply h.spared hkept hlooks <;> rw [hlink]
    exact fun _ hmem => hmem
  | cons input rest =>
    obtain ⟨hversion, hsession, hqueue⟩ := turn_of_session hdrives hinputs
    have hreacts := Session.handle_reacts v.link.config v.link.session input
    rw [(hconsistent.announces hreacts).published_eq] at hversion
    by_cases hstays : (v.link.session.handle v.link.config input).session.phase =
        v.link.session.phase
    · rw [if_pos hstays] at hversion
      have hphase : (v.link.beat b).session.phase = v.link.session.phase := by
        rw [hsession, hstays]
      apply h.spared hkept hlooks hversion hphase
      intro hrest hmem
      rw [hinputs] at hmem
      rcases List.mem_cons.mp hmem with rfl | hlater
      · exact absurd hstays (phase_connect v.link.config hrest)
      · exact hqueue ▸ hlater
    · rw [if_neg hstays] at hversion
      have hnewer : v.link.version < (v.link.beat b).version := by
        rw [hversion]
        simp
      have hwoken : ∀ {seen}, task = .call (.connecting seen) → id ∈ (v.next b).ready := by
        rintro seen rfl
        apply List.mem_append_right
        exact woken_of_change hdrives hinputs hconsistent hstays hlt htask
      -- A fresh call was woken when it began, and has not run.
      have hready : id ∈ (v.next b).ready := by
        cases h with
        | fresh hmem => exact hkept hmem
        | upToDate => exact hwoken rfl
        | behind => exact hwoken rfl
      exact h.overtaken hready hlooks hnewer

/-! ### The turn of the call -/

/-- What a call to connect returns when it reads this phase, if it returns. -/
def outcomeAt? (config : SessionConfig) : Phase → Option Outcome
  | .connected => some .done
  | .failed => some (.failed (.exhausted config.settings.maxReconnectAttempts))
  | .disconnected => some (.failed .closed)
  | .connecting | .reconnecting => none

theorem phase_of_outcomeAt? {phase : Phase} (h : outcomeAt? config phase = none) :
    phase = .connecting ∨ phase = .reconnecting := by
  cases phase <;> simp_all [outcomeAt?]

theorem awaitConnected_eq (h : link.version ≠ seen) :
    link.awaitConnected id seen =
      match outcomeAt? link.config link.session.phase with
      | some outcome => link.finish id outcome
      | none => link.setTask id (.call (.connecting link.version)) := by
  unfold awaitConnected
  rw [if_neg h]
  cases link.session.phase <;> rfl

theorem ensureDriver_finished (link : Link) : link.ensureDriver.finished = link.finished := by
  unfold ensureDriver
  split <;> rfl

theorem eq_task_of_runs? {b : Beat} (h : runs? b = some id) : b = .task id := by
  cases b with
  | task other => exact congrArg Beat.task (Option.some.inj h)
  | _ => simp [runs?] at h

theorem beat_task_none (h : link.task? id = none) : link.beat (.task id) = link := by
  simp only [beat, runTask, poll, h]

theorem beat_task_call {stage : Stage} (h : link.task? id = some (.call stage)) :
    link.beat (.task id) = link.runCall id stage := by
  simp only [beat, runTask, poll, h]

theorem drives_call {stage : Stage} (h : link.task? id = some (.call stage)) :
    link.drives (.task id) = false := by
  simp only [drives, h]

/-- A call that has ended is no task any more. -/
theorem task?_finish (id : Nat) (outcome : Outcome) (link : Link) :
    (link.finish id outcome).task? id = none :=
  (task?_endTask id id link).trans (if_pos rfl)

theorem outcome_of_finish {outcome outcome' : Outcome}
    (h : (id, outcome) ∈ (link.finish id outcome').finished)
    (hnew : (id, outcome) ∉ link.finished) : outcome = outcome' := by
  have hlast := (List.mem_append.mp h).resolve_left hnew
  simpa using hlast

theorem eq_of_task?_setTask {task' : Task} (h : (link.setTask id task).task? id = some task') :
    task' = task := by
  rw [task?_setTask, if_pos rfl, Option.map_eq_some_iff] at h
  obtain ⟨_, _, heq⟩ := h
  exact heq.symm

/-- A call changes neither the phase nor the version, and takes no input away. -/
theorem turn_of_call {stage : Stage} (htask : v.link.task? id = some (.call stage)) :
    (v.next (.task id)).link.version = v.link.version ∧
      (v.next (.task id)).link.session.phase = v.link.session.phase ∧
      v.link.inputs <+: (v.next (.task id)).link.inputs := by
  have hspares := spares_beat (drives_call htask)
  obtain ⟨table, hsession⟩ := hspares.session
  have hphase : (v.link.beat (.task id)).session.phase = v.link.session.phase := by rw [hsession]
  exact ⟨hspares.version, hphase, hspares.inputs⟩

/-- The call looks for the first time. -/
theorem attends_first (htask : v.link.task? id = some (.call (.fresh .connect)))
    (hafter : (v.link.beat (.task id)).task? id = some task) :
    Attends (v.next (.task id)) id task := by
  obtain ⟨hversion, hphase, _⟩ := turn_of_call htask
  have hbeat : v.link.beat (.task id) = v.link.beginConnect id := beat_task_call htask
  have hlook : (id, v.link.version) ∈ (v.next (.task id)).looks := by
    apply List.mem_append_right
    simp [looks?, htask]
  by_cases hconnected : v.link.session.phase = .connected
  · rw [hbeat, beginConnect, if_pos hconnected, task?_finish] at hafter
    simp at hafter
  · have hbegun : v.link.beginConnect id = (v.link.ensureDriver.pushInput .connect).setTask id
        (.call (.connecting v.link.version)) := if_neg hconnected
    have hqueued : .connect ∈ (v.link.beat (.task id)).inputs := by
      rw [hbeat, hbegun]
      exact List.mem_append_right _ (List.mem_singleton.mpr rfl)
    rw [hbeat, hbegun] at hafter
    rw [eq_of_task?_setTask hafter, ← hversion]
    apply Attends.upToDate hlook (Nat.le_of_eq hversion.symm)
    · rw [hphase]
      exact hconnected
    · intro _
      exact hqueued

/-- The call was woken, and looks again. -/
theorem attends_again {look : Nat} (htask : v.link.task? id = some (.call (.connecting seen)))
    (hlook : (id, look) ∈ v.looks) (hle : look ≤ seen) (hlt : seen < v.link.version)
    (hafter : (v.link.beat (.task id)).task? id = some task) :
    Attends (v.next (.task id)) id task := by
  obtain ⟨hversion, hphase, _⟩ := turn_of_call htask
  have hbeat := (beat_task_call htask).trans (awaitConnected_eq (Nat.ne_of_gt hlt))
  cases houtcome : outcomeAt? v.link.config v.link.session.phase with
  | some outcome =>
    rw [hbeat, houtcome, task?_finish] at hafter
    simp at hafter
  | none =>
    rw [hbeat, houtcome] at hafter
    rw [eq_of_task?_setTask hafter, ← hversion]
    apply Attends.upToDate ((looks_prefix_next v _).subset hlook) (by omega)
    · rcases phase_of_outcomeAt? houtcome with hp | hp <;> simp [hphase, hp]
    · rcases phase_of_outcomeAt? houtcome with hp | hp <;> simp [Session.AtRest, hphase, hp]

/-- The call has its turn. -/
theorem Attends.runs (h : Attends v id task) (htask : v.link.task? id = some task) {task' : Task}
    (hafter : (v.link.beat (.task id)).task? id = some task') :
    Attends (v.next (.task id)) id task' := by
  cases h with
  | fresh => exact attends_first htask hafter
  | upToDate hlook hle hne hrest =>
    obtain ⟨hversion, hphase, hinputs⟩ := turn_of_call htask
    have hbeat : v.link.beat (.task id) = v.link := (beat_task_call htask).trans (if_pos rfl)
    rw [hbeat, htask, Option.some.injEq] at hafter
    subst hafter
    rw [← hversion] at hle ⊢
    apply Attends.upToDate ((looks_prefix_next v _).subset hlook) hle
    · rw [hphase]
      exact hne
    · intro hat
      rw [Session.AtRest, hphase] at hat
      exact hinputs.subset (hrest hat)
  | behind hlook hle hlt => exact attends_again htask hlook hle hlt hafter

/-! ### Beats -/

/-- A beat that concerns a call which does not run in it drops the call, or does nothing to it. -/
theorem beat_of_concerned {b : Beat}
    (hcall : ∀ task, link.task? id = some task → ∃ stage, task = .call stage)
    (hconcerns : concerns? b = some id) (hruns : runs? b ≠ some id) :
    (link.beat b).finished = link.finished ∧
      ∀ task, (link.beat b).task? id = some task → link.task? id = some task := by
  cases b with
  | task other => exact absurd hconcerns hruns
  | abandon other =>
    obtain rfl : other = id := Option.some.inj hconcerns
    simp only [beat, abandon]
    split
    next stage _ =>
      constructor
      · cases stage <;> rfl
      · intro task htask
        simp [task?_endTask] at htask
    next => exact ⟨rfl, fun _ => id⟩
  | socket turn =>
    cases turn with
    | deliver other =>
      obtain rfl : other = id := Option.some.inj hconcerns
      have hsame : link.beat (.socket (.deliver other)) = link := by
        simp only [beat, take]
        split
        · rfl
        · simp only [takeOn]
          split
          next delivery htask =>
            obtain ⟨stage, heq⟩ := hcall _ htask
            simp at heq
          next => rfl
      rw [hsame]
      exact ⟨rfl, fun _ => id⟩
    | _ => simp [concerns?] at hconcerns
  | _ => simp [concerns?] at hconcerns

/-- A beat that concerns a task which is not there changes nothing. -/
theorem beat_of_absent {b : Beat} (hnone : link.task? id = none)
    (hconcerns : concerns? b = some id) : link.beat b = link := by
  cases b with
  | task other =>
    obtain rfl : other = id := Option.some.inj hconcerns
    exact beat_task_none hnone
  | abandon other =>
    obtain rfl : other = id := Option.some.inj hconcerns
    simp only [beat, abandon, hnone]
  | socket turn =>
    cases turn with
    | deliver other =>
      obtain rfl : other = id := Option.some.inj hconcerns
      simp only [beat, take]
      split
      · rfl
      · simp only [takeOn, hnone]
    | _ => simp [concerns?] at hconcerns
  | _ => simp [concerns?] at hconcerns

theorem Watchful.isCall (h : Watchful config v) (hbegun : id ∈ v.begun) :
    ∀ task, v.link.task? id = some task → ∃ stage, task = .call stage :=
  fun task htask => (h.attends id hbegun task htask).isCall

/-- A beat in which the call has no turn leaves it where it is, or drops it. -/
theorem Watchful.task?_of_beat (h : Watchful config v) (hbegun : id ∈ v.begun) {b : Beat}
    (hruns : runs? b ≠ some id) (htask : (v.link.beat b).task? id = some task) :
    v.link.task? id = some task := by
  by_cases hconcerns : concerns? b = some id
  · exact (beat_of_concerned (h.isCall hbegun) hconcerns hruns).2 task htask
  · rw [← (keeps_beat v.link b).tasks id (h.begun_lt id hbegun) hconcerns]
    exact htask

theorem Watchful.attends_next (h : Watchful config v) (hbegun : id ∈ v.begun) {b : Beat}
    (htask : (v.next b).link.task? id = some task) : Attends (v.next b) id task := by
  by_cases hruns : runs? b = some id
  · obtain rfl := eq_task_of_runs? hruns
    cases hold : v.link.task? id with
    | none =>
      change (v.link.beat (.task id)).task? id = some task at htask
      rw [beat_task_none hold, hold] at htask
      simp at htask
    | some old => exact (h.attends id hbegun old hold).runs hold htask
  · have hold : v.link.task? id = some task := h.task?_of_beat hbegun hruns htask
    have hattends := h.attends id hbegun task hold
    cases hdrives : v.link.drives b with
    | false => exact hattends.beside hdrives hruns
    | true => exact hattends.driven hdrives hruns h.consistent (h.begun_lt id hbegun) hold

theorem begins?_eq_some {b : Beat} (h : link.begins? b = some id) :
    b = .call .connect ∧ link.nextTask = id := by
  unfold begins? at h
  split at h
  next => exact ⟨rfl, Option.some.inj h⟩
  next => simp at h

theorem Enrolled.task?_nextTask (h : link.Enrolled) : link.task? link.nextTask = none := by
  cases htask : link.task? link.nextTask with
  | none => rfl
  | some task => exact absurd (h _ (mem_of_task? htask)) (Nat.lt_irrefl _)

theorem Watchful.next (h : Watchful config v) (b : Beat) : Watchful config (v.next b) := by
  have hkeeps := keeps_beat v.link b
  have henrolled : (v.next b).link.Enrolled :=
    fun entry hmem => hkeeps.enrolled h.enrolled entry hmem
  refine ⟨hkeeps.config.trans h.config_eq, consistent_beat h.consistent b, henrolled,
    fun id hmem => ?_, fun id hmem task htask => ?_⟩
  · rcases List.mem_append.mp hmem with hold | hnew
    · exact Nat.lt_of_lt_of_le (h.begun_lt id hold) hkeeps.nextTask_le
    · obtain ⟨rfl, rfl⟩ := begins?_eq_some (Option.mem_toList.mp hnew)
      exact Nat.lt_succ_self _
  · rcases List.mem_append.mp hmem with hold | hnew
    · exact h.attends_next hold htask
    · obtain ⟨rfl, rfl⟩ := begins?_eq_some (Option.mem_toList.mp hnew)
      have hspawned := task?_spawn (.call (.fresh .connect)) v.link.nextTask v.link
      rw [h.enrolled.task?_nextTask, if_pos rfl, Option.none_or] at hspawned
      obtain rfl : task = .call (.fresh .connect) := by
        simpa using htask.symm.trans hspawned
      apply Attends.fresh
      apply List.mem_append_right
      exact List.mem_append_right _ (List.mem_singleton.mpr rfl)

theorem Watchful.run (h : Watchful config v) (beats : List Beat) :
    Watchful config (beats.foldl WakeRecord.next v) := by
  induction beats generalizing v with
  | nil => exact h
  | cons b rest ih => exact ih (h.next b)

theorem watchful_after (carrier : Carrier) (config : SessionConfig) (ambient : Ambient)
    (beats : List Beat) : Watchful config (WakeRecord.after carrier config ambient beats) := by
  apply Watchful.run
  constructor
  · rfl
  · exact Session.consistent_initial
  · intro entry hmem
    exact absurd hmem List.not_mem_nil
  · intro id hmem
    exact absurd hmem List.not_mem_nil
  · intro id hmem
    exact absurd hmem List.not_mem_nil

/-! ### Outcomes -/

/-- A call to connect returns when it runs, and what it returns is what the phase it reads says. -/
theorem Watchful.outcome (h : Watchful config v) (hbegun : id ∈ v.begun) {b : Beat}
    {outcome : Outcome} (hmem : (id, outcome) ∈ (v.next b).link.finished)
    (hnew : (id, outcome) ∉ v.link.finished) :
    b = .task id ∧ outcomeAt? config v.link.session.phase = some outcome ∧
      (v.link.session.phase ≠ .connected →
        ∃ look, (id, look) ∈ v.looks ∧ look < v.link.version) := by
  have hconcerns : concerns? b = some id :=
    ((keeps_beat v.link b).finished _ hmem).resolve_left hnew
  have hruns : runs? b = some id := by
    by_contra hruns
    have hsame := (beat_of_concerned (h.isCall hbegun) hconcerns hruns).1
    exact hnew (hsame ▸ hmem)
  obtain rfl := eq_task_of_runs? hruns
  refine ⟨rfl, ?_⟩
  change (id, outcome) ∈ (v.link.beat (.task id)).finished at hmem
  cases htask : v.link.task? id with
  | none =>
    rw [beat_task_none htask] at hmem
    exact absurd hmem hnew
  | some task =>
    cases h.attends id hbegun task htask with
    | fresh =>
      have hbeat : v.link.beat (.task id) = v.link.beginConnect id := beat_task_call htask
      rw [hbeat, beginConnect] at hmem
      split at hmem
      next hconnected =>
        rw [outcome_of_finish hmem hnew, hconnected]
        exact ⟨rfl, fun hne => absurd rfl hne⟩
      next =>
        have hsame := ensureDriver_finished v.link
        exact absurd (hsame ▸ hmem) hnew
    | upToDate =>
      have hbeat : v.link.beat (.task id) = v.link := (beat_task_call htask).trans (if_pos rfl)
      exact absurd (hbeat ▸ hmem) hnew
    | behind hlook hle hlt =>
      rw [beat_task_call htask, runCall, awaitConnected_eq (Nat.ne_of_gt hlt), h.config_eq] at hmem
      cases houtcome : outcomeAt? config v.link.session.phase with
      | none =>
        rw [houtcome] at hmem
        exact absurd hmem hnew
      | some outcome' =>
        rw [houtcome] at hmem
        rw [outcome_of_finish hmem hnew]
        exact ⟨rfl, fun _ => ⟨_, hlook, Nat.lt_of_le_of_lt hle hlt⟩⟩

/-- A call that was not woken waits for a session that is on its way, or that has yet to hear of
it. -/
theorem Watchful.onTheWay (h : Watchful config v) (hbegun : id ∈ v.begun)
    (hrunning : v.link.isRunning id) (hready : id ∉ v.ready) (hinputs : v.link.inputs = []) :
    v.link.session.phase = .connecting ∨ v.link.session.phase = .reconnecting := by
  cases htask : v.link.task? id with
  | none => simp [isRunning, htask] at hrunning
  | some task =>
    cases h.attends id hbegun task htask with
    | fresh hmem => exact absurd hmem hready
    | behind _ _ _ hmem => exact absurd hmem hready
    | upToDate _ _ hphase hrest =>
      rw [hinputs] at hrest
      have hbusy : ¬ v.link.session.AtRest := fun hat => by simpa using hrest hat
      cases hp : v.link.session.phase <;> simp_all [Session.AtRest]

/-- However calls to connect, other calls, the transport, time and the session take turns: when the
session has nothing to handle, a call to connect that is not about to run waits for a session that
is connecting or reconnecting. A call returns in a turn of its own, with success if it reads that
the session is connected, and with the failure that belongs to the phase if the session has failed
or is disconnected, in which case the phase has changed since it looked first. -/
theorem connect_calls_attended (carrier : Carrier) (config : SessionConfig) (ambient : Ambient)
    (beats : List Beat) :
    let v := WakeRecord.after carrier config ambient beats
    (v.link.inputs = [] → ∀ id ∈ v.begun, v.link.isRunning id → id ∉ v.ready →
      v.link.session.phase = .connecting ∨ v.link.session.phase = .reconnecting) ∧
    ∀ b, ∀ id ∈ v.begun, ∀ outcome, (id, outcome) ∈ (v.next b).link.finished →
      (id, outcome) ∉ v.link.finished →
      b = .task id ∧ outcomeAt? config v.link.session.phase = some outcome ∧
        (v.link.session.phase ≠ .connected →
          ∃ look, (id, look) ∈ v.looks ∧ look < v.link.version) := by
  intro v
  have hwatchful : Watchful config v := watchful_after carrier config ambient beats
  constructor
  · intro hinputs id hbegun hrunning hready
    exact hwatchful.onTheWay hbegun hrunning hready hinputs
  · intro b id hbegun outcome hmem hnew
    exact hwatchful.outcome hbegun hmem hnew

/-- A session that is closed before the call has run again: that it was connecting escapes the call,
which returns all the same. -/
example :
    let v := WakeRecord.after (.scripted {}) { entrypoint := "wss://example/api" } {}
      [.call .connect, .task 0, .task 1, .call .close, .task 3, .task 1, .task 0]
    v.looks = [(0, 0)] ∧ v.link.version = 2 ∧ v.link.session.phase = .disconnected ∧
      v.link.finished.map Prod.fst = [0] := by
  decide

end WorkspaceLink.Link
