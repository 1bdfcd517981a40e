import WorkspaceLink.Proofs.Link.Provenance
import WorkspaceLink.Proofs.Link.TransportSteps
import WorkspaceLink.Proofs.Session.Publication

/-!
# What a beat spares

A beat concerns at most one task, and only that task goes on, ends or reports an outcome:
`keeps_beat`. Unless the session has its turn, its state stays as it is but for the table of
subscriptions, no phase is published and no attempt is started, and what is heard comes after the
inputs that wait already: `spares_beat`.
-/
namespace WorkspaceLink.Link

variable {link first second third : Link} {who : Option Nat} {id : Nat} {task : Task}

/-- Every task has a number that was given out. -/
def Enrolled (link : Link) : Prop := ∀ entry ∈ link.tasks, entry.1 < link.nextTask

def isAttempt : Task → Bool
  | .attempt _ _ => true
  | _ => false

/-- No task but the one concerned goes on, ends or reports an outcome. -/
structure Keeps (who : Option Nat) (first second : Link) : Prop where
  config : second.config = first.config
  nextTask_le : first.nextTask ≤ second.nextTask
  enrolled : first.Enrolled → second.Enrolled
  tasks : ∀ other, other < first.nextTask → who ≠ some other →
    second.task? other = first.task? other
  finished : ∀ entry ∈ second.finished, entry ∈ first.finished ∨ who = some entry.1

/-- Besides, the session has no turn: its table may change, inputs may come, but no phase is
published and no attempt is started. -/
structure Spares (who : Option Nat) (first second : Link) : Prop extends
    Keeps who first second where
  session : ∃ table, second.session = { first.session with table }
  inputs : first.inputs <+: second.inputs
  version : second.version = first.version
  attempts : ∀ entry ∈ second.tasks, isAttempt entry.2 → entry ∈ first.tasks

/-! ### Frames -/

theorem Keeps.trans (h : Keeps who first second) (h' : Keeps who second third) :
    Keeps who first third where
  config := h'.config.trans h.config
  nextTask_le := Nat.le_trans h.nextTask_le h'.nextTask_le
  enrolled henrolled := h'.enrolled (h.enrolled henrolled)
  tasks other hlt hwho := by
    have hlt' : other < second.nextTask := Nat.lt_of_lt_of_le hlt h.nextTask_le
    rw [h'.tasks other hlt' hwho, h.tasks other hlt hwho]
  finished entry hmem := by
    rcases h'.finished entry hmem with hmid | hwho
    · exact h.finished entry hmid
    · exact .inr hwho

theorem Spares.trans (h : Spares who first second) (h' : Spares who second third) :
    Spares who first third where
  toKeeps := h.toKeeps.trans h'.toKeeps
  session := by
    obtain ⟨table, heq⟩ := h.session
    obtain ⟨table', heq'⟩ := h'.session
    exact ⟨table', by rw [heq', heq]⟩
  inputs := h.inputs.trans h'.inputs
  version := h'.version.trans h.version
  attempts entry hmem hattempt := h.attempts entry (h'.attempts entry hmem hattempt) hattempt

/-- What concerns no task leaves as much alone as what concerns one. -/
theorem Keeps.concerning (h : Keeps none first second) (who : Option Nat) :
    Keeps who first second where
  config := h.config
  nextTask_le := h.nextTask_le
  enrolled := h.enrolled
  tasks other hlt _ := h.tasks other hlt (Option.some_ne_none _).symm
  finished entry hmem := .inl ((h.finished entry hmem).resolve_right (Option.some_ne_none _).symm)

/-- Tasks, outcomes and configuration are the same. -/
theorem Keeps.of_same (hconfig : second.config = first.config)
    (hnext : second.nextTask = first.nextTask) (htasks : second.tasks = first.tasks)
    (hfinished : second.finished = first.finished) : Keeps who first second where
  config := hconfig
  nextTask_le := Nat.le_of_eq hnext.symm
  enrolled h := by rw [Enrolled, htasks, hnext]; exact h
  tasks other _ _ := by rw [task?, task?, htasks]
  finished entry hmem := .inl (hfinished ▸ hmem)

/-- The version is the same besides. -/
theorem Spares.of_same (hconfig : second.config = first.config)
    (hsession : ∃ table, second.session = { first.session with table })
    (hversion : second.version = first.version) (hinputs : first.inputs <+: second.inputs)
    (hnext : second.nextTask = first.nextTask) (htasks : second.tasks = first.tasks)
    (hfinished : second.finished = first.finished) : Spares who first second where
  toKeeps := .of_same hconfig hnext htasks hfinished
  session := hsession
  inputs := hinputs
  version := hversion
  attempts _ hmem _ := htasks ▸ hmem

theorem spares_refl (who : Option Nat) (link : Link) : Spares who link link :=
  .of_same rfl ⟨_, rfl⟩ rfl (List.prefix_refl _) rfl rfl rfl

theorem spares_essence (h : second.essence = first.essence) : Spares who first second := by
  have hinputs : second.inputs = first.inputs := (congrArg Link.inputs h :)
  have hsession : second.session = first.session := (congrArg Link.session h :)
  exact .of_same (congrArg Link.config h :) ⟨_, hsession⟩ (congrArg Link.version h :)
    (hinputs ▸ List.prefix_refl _) (congrArg Link.nextTask h :) (congrArg Link.tasks h :)
    (congrArg Link.finished h :)

theorem keeps_spawn (who : Option Nat) (task : Task) (link : Link) :
    Keeps who link (link.spawn task) where
  config := rfl
  nextTask_le := Nat.le_succ _
  enrolled h entry hmem := by
    rcases mem_spawn.mp hmem with hold | rfl
    · exact Nat.lt_succ_of_lt (h entry hold)
    · exact Nat.lt_succ_self _
  tasks other hlt _ := by
    rw [task?_spawn, if_neg (Nat.ne_of_lt hlt), Option.or_none]
  finished _ hmem := .inl hmem

theorem spares_spawn (who : Option Nat) (htask : isAttempt task = false) (link : Link) :
    Spares who link (link.spawn task) where
  toKeeps := keeps_spawn who task link
  session := ⟨_, rfl⟩
  inputs := List.prefix_refl _
  version := rfl
  attempts entry hmem hattempt := by
    rcases mem_spawn.mp hmem with hold | rfl
    · exact hold
    · simp [htask] at hattempt

theorem spares_setTask (id : Nat) (htask : isAttempt task = false) (link : Link) :
    Spares (some id) link (link.setTask id task) where
  config := rfl
  session := ⟨_, rfl⟩
  inputs := List.prefix_refl _
  nextTask_le := Nat.le_refl _
  enrolled h entry hmem := by
    rcases mem_setTask hmem with ⟨hold, _⟩ | ⟨rfl, old, hold⟩
    · exact h entry hold
    · exact (h (id, old) hold :)
  tasks other _ hwho := by
    rw [task?_setTask, if_neg (by rintro rfl; exact hwho rfl)]
  finished _ hmem := .inl hmem
  version := rfl
  attempts entry hmem hattempt := by
    rcases mem_setTask hmem with ⟨hold, _⟩ | ⟨rfl, _⟩
    · exact hold
    · simp [htask] at hattempt

theorem spares_endTask (id : Nat) (link : Link) : Spares (some id) link (link.endTask id) where
  config := rfl
  session := ⟨_, rfl⟩
  inputs := List.prefix_refl _
  nextTask_le := Nat.le_refl _
  enrolled h entry hmem := h entry (mem_endTask.mp hmem).1
  tasks other _ hwho := by
    rw [task?_endTask, if_neg (by rintro rfl; exact hwho rfl)]
  finished _ hmem := .inl hmem
  version := rfl
  attempts entry hmem _ := (mem_endTask.mp hmem).1

theorem spares_finish (id : Nat) (outcome : Outcome) (link : Link) :
    Spares (some id) link (link.finish id outcome) := by
  have h := spares_endTask id link
  refine ⟨⟨h.config, h.nextTask_le, h.enrolled, h.tasks, ?_⟩, h.session, h.inputs, h.version,
    h.attempts⟩
  intro entry hmem
  rcases List.mem_append.mp hmem with hold | hnew
  · exact .inl hold
  · rw [List.mem_singleton.mp hnew]
    exact .inr rfl

/-! ### The transport -/

theorem spares_emit (who : Option Nat) (event : TransportEvent) (link : Link) :
    Spares who link (link.emit event) := by
  have h := emit_scenery event link
  obtain ⟨heard, hinputs, _⟩ := emitAll_inputs [event] link
  have hsession : (link.emit event).session = link.session := (congrArg Link.session h :)
  have hprefix : link.inputs <+: (link.emit event).inputs := ⟨heard, hinputs.symm⟩
  exact .of_same (congrArg Link.config h :) ⟨_, hsession⟩ (congrArg Link.version h :) hprefix
    (congrArg Link.nextTask h :) (congrArg Link.tasks h :) (congrArg Link.finished h :)

theorem isAttempt_of_isCarrierTask (h : isCarrierTask task) : isAttempt task = false := by
  cases task with
  | attempt token clientId => simp [isCarrierTask] at h
  | _ => rfl

/-- Whatever the transport does concerns the task that works for it. -/
theorem keptByTransport_spares (who : Option Nat) (start : Link) :
    KeptByTransport who (Spares who start) where
  put _ _ h := h.trans (.of_same rfl ⟨_, rfl⟩ rfl (List.prefix_refl _) rfl rfl rfl)
  fetch _ h := h.trans (spares_essence rfl)
  issue h := h.trans (.of_same rfl ⟨_, rfl⟩ rfl (List.prefix_refl _) rfl rfl rfl)
  forget _ h := h.trans (.of_same rfl ⟨_, rfl⟩ rfl (List.prefix_refl _) rfl rfl rfl)
  raise _ h := h.trans (spares_essence rfl)
  emit event h := h.trans (spares_emit who event _)
  spawn hcarrier h := h.trans (spares_spawn who (isAttempt_of_isCarrierTask hcarrier) _)
  setTask id hwho hcarrier h :=
    h.trans (hwho ▸ spares_setTask id (isAttempt_of_isCarrierTask hcarrier) _)
  endTask id hwho h := h.trans (hwho ▸ spares_endTask id _)

theorem spares_request (who : Option Nat) (method : String) (params : Option Json) (link : Link) :
    Spares who link (link.request method params).2 :=
  (keptByTransport_spares who link).request method params (spares_refl who link)

theorem spares_disconnect (who : Option Nat) (link : Link) : Spares who link link.disconnect :=
  (keptByTransport_spares who link).disconnect (spares_refl who link)

theorem isAttempt_of_isAside (h : isAside task) : isAttempt task = false := by
  cases task with
  | attempt token clientId => simp [isAside] at h
  | _ => rfl

/-- Whatever a call, a replay or a task that waits does concerns itself. -/
theorem essenceKeptByCalls_spares (id : Nat) (start : Link) :
    EssenceKeptByCalls id (Spares (some id) start) where
  idle h heq := h.trans (spares_essence heq)
  request params _ h := h.trans (spares_request _ _ params _)
  forget _ h := h.trans (.of_same rfl ⟨_, rfl⟩ rfl (List.prefix_refl _) rfl rfl rfl)
  setTask haside _ h := h.trans (spares_setTask id (isAttempt_of_isAside haside) _)
  endTask h := h.trans (spares_endTask id _)
  finish outcome h := h.trans (spares_finish id outcome _)
  pushInput _ _ h := h.trans (.of_same rfl ⟨_, rfl⟩ rfl (List.prefix_append _ _) rfl rfl rfl)
  spawnDriver h := h.trans (spares_spawn _ rfl _)
  books _ _ h := h.trans (.of_same rfl ⟨_, rfl⟩ rfl (List.prefix_refl _) rfl rfl rfl)
  setCall _ h := h.trans (spares_setTask id rfl _)
  setReplay _ _ h := h.trans (spares_setTask id rfl _)

/-! ### Beats -/

theorem task?_of_drives (h : link.drives (.task id) = false) : link.task? id ≠ some .driver := by
  intro htask
  simp [drives, htask] at h

/-- A beat in which the session has no turn. -/
theorem spares_beat {b : Beat} (h : link.drives b = false) :
    Spares (concerns? b) link (link.beat b) := by
  cases b with
  | call call => exact spares_spawn _ rfl link
  | waitForStatus workspace status =>
    have hsettled : Spares none link (settleStatuses (link.waiter.waitFor workspace status).2.2
        { link with waiter := (link.waiter.waitFor workspace status).2.1 }) :=
      spares_essence (settleStatuses_essence _ _)
    exact hsettled.trans (spares_spawn _ rfl _)
  | abandon id => exact (essenceKeptByCalls_spares id link).abandon (spares_refl _ link)
  | task id =>
    exact (keptByTransport_spares (some id) link).runTask
      (essenceKeptByCalls_spares id link).toKeptByCalls
      (task?_of_drives h) (fun _ _ _ _ => trivial) (spares_refl _ link)
  | elapse millis => exact spares_essence rfl
  | handshakeEnds generation failure => exact spares_essence rfl
  | socket turn => exact (keptByTransport_spares _ link).take (spares_refl _ link)
  | script act => exact (keptByTransport_spares _ link).script act (spares_refl _ link)

/-! ### The turn of the session -/

theorem beat_of_drives {b : Beat} (h : link.drives b) : link.beat b = link.handleNext := by
  cases b with
  | task id =>
    simp only [drives] at h
    split at h
    next htask => simp only [beat, runTask, htask]
    next => simp at h
  | _ => simp [drives] at h

/-- The session has nothing to handle. -/
theorem beat_of_idle {b : Beat} (h : link.drives b) (hinputs : link.inputs = []) :
    link.beat b = link := by
  rw [beat_of_drives h, handleNext, hinputs]

/-- The session handles the oldest input, and what it wants done is done. -/
theorem beat_of_input {b : Beat} {input : Input} {rest : List Input} (h : link.drives b)
    (hinputs : link.inputs = input :: rest) :
    link.beat b =
      runEffects (link.session.handle link.config input).effects
        { link with
          inputs := rest, session := (link.session.handle link.config input).session } := by
  rw [beat_of_drives h, handleNext, hinputs]
  rfl

theorem keeps_runEffect (effect : Effect) (link : Link) :
    Keeps none link (link.runEffect effect) := by
  cases effect with
  | attempt token generation clientId => exact keeps_spawn _ _ link
  | fetchId generation => exact keeps_spawn _ _ link
  | probe token generation => exact keeps_spawn _ _ link
  | timer number delayMs => exact keeps_spawn _ _ link
  | replay topics => exact keeps_spawn _ _ link
  | disconnect => exact (spares_disconnect none link).toKeeps
  | _ => exact .of_same rfl rfl rfl rfl

theorem keeps_runEffects (effects : List Effect) (link : Link) :
    Keeps none link (link.runEffects effects) := by
  induction effects generalizing link with
  | nil => exact (spares_refl none link).toKeeps
  | cons effect rest ih => exact (keeps_runEffect effect link).trans (ih _)

/-- The version counts the phases that are published. -/
theorem runEffects_version (effects : List Effect) (link : Link) :
    (link.runEffects effects).version =
      link.version + (Session.published effects).length := by
  induction effects generalizing link with
  | nil => rfl
  | cons effect rest ih =>
    have hfirst : (link.runEffect effect).version =
        link.version + effect.phase?.toList.length := by
      cases effect with
      | disconnect => exact (spares_disconnect none link).version
      | _ => rfl
    have hrest : (link.runEffects (effect :: rest)).version =
        (link.runEffect effect).version + (Session.published rest).length := ih _
    rw [hrest, hfirst, Session.published_cons, List.length_append, Nat.add_assoc]

/-- What is left when the session has handled an input. -/
theorem turn_of_session {b : Beat} {input : Input} {rest : List Input} (h : link.drives b)
    (hinputs : link.inputs = input :: rest) :
    (link.beat b).version = link.version +
        (Session.published (link.session.handle link.config input).effects).length ∧
      (link.beat b).session = (link.session.handle link.config input).session ∧
      (link.beat b).inputs = rest := by
  rw [beat_of_input h hinputs]
  exact ⟨runEffects_version _ _, runEffects_session _ _, (executes_runEffects _ _).inputs⟩

/-- Whether the session has a turn or not. -/
theorem keeps_beat (link : Link) (b : Beat) : Keeps (concerns? b) link (link.beat b) := by
  cases hdrives : link.drives b with
  | false => exact (spares_beat hdrives).toKeeps
  | true =>
    cases hinputs : link.inputs with
    | nil =>
      rw [beat_of_idle hdrives hinputs]
      exact (spares_refl _ link).toKeeps
    | cons input rest =>
      let step := link.session.handle link.config input
      have hhandled : Keeps (concerns? b) link
          { link with inputs := rest, session := step.session } := .of_same rfl rfl rfl rfl
      rw [beat_of_input hdrives hinputs]
      exact hhandled.trans ((keeps_runEffects step.effects _).concerning _)

theorem consistent_beat (h : link.session.Consistent) (b : Beat) :
    (link.beat b).session.Consistent := by
  cases hdrives : link.drives b with
  | false =>
    obtain ⟨table, hsession⟩ := (spares_beat hdrives).session
    have hmoved : (link.session.move link.config (.subscriptions table)).session.Consistent :=
      h.move _
    rw [hsession]
    exact hmoved
  | true =>
    cases hinputs : link.inputs with
    | nil =>
      rw [beat_of_idle hdrives hinputs]
      exact h
    | cons input rest =>
      rw [(turn_of_session hdrives hinputs).2.1]
      exact h.reacts (Session.handle_reacts link.config link.session input)

end WorkspaceLink.Link
