import WorkspaceLink.Proofs.Link.BeatFrame
import WorkspaceLink.Proofs.Rpc.Notices

/-!
# Nobody who waits is forgotten

A task that waits for the answer to a request, or for a status to be reached, runs again only when
it is woken. `rouses_beat` says that the beat in which the answer comes, or the wait ends, wakes it:
no news comes silently, and no task but the one concerned goes. Replays are started only by the
session.
-/
namespace WorkspaceLink.Link

variable {link first second third : Link} {who : Option Nat} {turn : Prop} {id : Nat} {task : Task}

/-- What a signal tells of is there: the answer to a request, or the end of a wait. -/
def Knows (link : Link) : Signal → Prop
  | .answered number => ∃ answer, (number, answer) ∈ link.answers
  | .statusSettled ticket => ∃ result, (ticket, result) ∈ link.statuses
  | _ => False

def isReplay : Task → Bool
  | .replay _ _ => true
  | _ => false

/-- No task but the one concerned goes, and whoever waits for news is woken when it comes. A replay
starts only if the session has its turn. -/
structure Rouses (who : Option Nat) (turn : Prop) (first second : Link) : Prop where
  tasks : ∀ entry ∈ first.tasks, who ≠ some entry.1 → entry ∈ second.tasks
  woken : first.woken ⊆ second.woken
  news : ∀ signal, second.Knows signal → first.Knows signal ∨
    ∀ entry ∈ first.tasks, who ≠ some entry.1 → entry.2.awaits entry.1 signal →
      entry.1 ∈ second.woken
  replays : ∀ entry ∈ second.tasks, isReplay entry.2 →
    entry ∈ first.tasks ∨ who = some entry.1 ∨ turn

/-! ### Frames -/

theorem Rouses.trans (h : Rouses who turn first second) (h' : Rouses who turn second third) :
    Rouses who turn first third where
  tasks entry hmem hwho := h'.tasks entry (h.tasks entry hmem hwho) hwho
  woken _ hmem := h'.woken (h.woken hmem)
  news signal hknows := by
    rcases h'.news signal hknows with hmid | hwakes
    · rcases h.news signal hmid with hold | hwakes
      · exact .inl hold
      · exact .inr fun entry hmem hwho hawaits => h'.woken (hwakes entry hmem hwho hawaits)
    · exact .inr fun entry hmem hwho hawaits =>
        hwakes entry (h.tasks entry hmem hwho) hwho hawaits
  replays entry hmem hreplay := by
    rcases h'.replays entry hmem hreplay with hmid | hnew
    · exact h.replays entry hmid hreplay
    · exact .inr hnew

/-- No news comes. -/
theorem Rouses.of_silence
    (htasks : ∀ entry ∈ first.tasks, who ≠ some entry.1 → entry ∈ second.tasks)
    (hwoken : first.woken ⊆ second.woken) (hanswers : second.answers ⊆ first.answers)
    (hstatuses : second.statuses ⊆ first.statuses)
    (hreplays : ∀ entry ∈ second.tasks, isReplay entry.2 →
      entry ∈ first.tasks ∨ who = some entry.1 ∨ turn) : Rouses who turn first second where
  tasks := htasks
  woken := hwoken
  news signal hknows := by
    left
    cases signal with
    | answered number =>
      obtain ⟨answer, hmem⟩ := hknows
      exact ⟨answer, hanswers hmem⟩
    | statusSettled ticket =>
      obtain ⟨result, hmem⟩ := hknows
      exact ⟨result, hstatuses hmem⟩
    | _ => exact hknows.elim
  replays := hreplays

/-- Tasks, answers and waits are the same. -/
theorem Rouses.of_same (htasks : second.tasks = first.tasks) (hwoken : first.woken ⊆ second.woken)
    (hanswers : second.answers = first.answers) (hstatuses : second.statuses = first.statuses) :
    Rouses who turn first second := by
  apply Rouses.of_silence
  · exact fun entry hmem _ => htasks ▸ hmem
  · exact hwoken
  · exact hanswers ▸ List.Subset.refl _
  · exact hstatuses ▸ List.Subset.refl _
  · exact fun entry hmem _ => .inl (htasks ▸ hmem)

theorem rouses_refl (who : Option Nat) (turn : Prop) (link : Link) : Rouses who turn link link :=
  .of_same rfl (List.Subset.refl _) rfl rfl

theorem rouses_raise (signal : Signal) (link : Link) : Rouses who turn link (link.raise signal) :=
  .of_same rfl (List.subset_append_left _ _) rfl rfl

theorem mem_woken_raise {signal : Signal} {entry : Nat × Task} (hmem : entry ∈ link.tasks)
    (hawaits : entry.2.awaits entry.1 signal) : entry.1 ∈ (link.raise signal).woken := by
  apply List.mem_append_right
  exact List.mem_map.mpr ⟨entry, List.mem_filter.mpr ⟨hmem, hawaits⟩, rfl⟩

/-- News comes, and is announced. -/
theorem Rouses.of_raise {signal : Signal} (htasks : second.tasks = first.tasks)
    (hwoken : second.woken = first.woken)
    (hnews : ∀ other, second.Knows other → first.Knows other ∨ other = signal) :
    Rouses who turn first (second.raise signal) where
  tasks entry hmem _ := htasks ▸ hmem
  woken := by
    rw [← hwoken]
    exact List.subset_append_left _ _
  news other hknows := by
    rcases hnews other hknows with hold | rfl
    · exact .inl hold
    · exact .inr fun entry hmem _ hawaits => mem_woken_raise (htasks ▸ hmem) hawaits
  replays entry hmem _ := .inl (htasks ▸ hmem)

theorem rouses_settle (number : Nat) (answer : Answer) (link : Link) :
    Rouses who turn link (host.settle number answer link) := by
  let told : Link := { link with answers := link.answers ++ [(number, answer)] }
  have hnews : ∀ other, told.Knows other → link.Knows other ∨ other = .answered number := by
    intro other hknows
    cases other with
    | answered asked =>
      obtain ⟨given, hmem⟩ := hknows
      rcases List.mem_append.mp hmem with hold | hnew
      · exact .inl ⟨given, hold⟩
      · rw [List.mem_singleton, Prod.mk.injEq] at hnew
        exact .inr (by rw [hnew.1])
    | _ => exact .inl hknows
  exact Rouses.of_raise rfl rfl hnews

theorem rouses_settleStatuses (settled : StatusWaiter.Settled) (link : Link) :
    Rouses who turn link (settleStatuses settled link) := by
  unfold settleStatuses
  induction settled generalizing link with
  | nil => exact rouses_refl who turn link
  | cons entry rest ih =>
    let told : Link := { link with statuses := link.statuses ++ [entry] }
    have hnews : ∀ other, told.Knows other → link.Knows other ∨ other = .statusSettled entry.1 := by
      intro other hknows
      cases other with
      | statusSettled ticket =>
        obtain ⟨result, hmem⟩ := hknows
        rcases List.mem_append.mp hmem with hold | hnew
        · exact .inl ⟨result, hold⟩
        · exact .inr (by rw [← List.mem_singleton.mp hnew])
      | _ => exact .inl hknows
    have hraised : Rouses who turn link (told.raise (.statusSettled entry.1)) :=
      Rouses.of_raise rfl rfl hnews
    exact hraised.trans (ih _)

theorem rouses_spawn (h : isReplay task → turn) (link : Link) :
    Rouses who turn link (link.spawn task) := by
  apply Rouses.of_silence
  · exact fun entry hmem _ => mem_spawn.mpr (.inl hmem)
  · exact List.subset_append_left _ _
  · exact List.Subset.refl _
  · exact List.Subset.refl _
  · intro entry hmem hreplay
    rcases mem_spawn.mp hmem with hold | rfl
    · exact .inl hold
    · exact .inr (.inr (h hreplay))

theorem rouses_setTask (id : Nat) (task : Task) (link : Link) :
    Rouses (some id) turn link (link.setTask id task) := by
  apply Rouses.of_silence
  · intro entry hmem hwho
    have hne : entry.1 ≠ id := fun heq => hwho (by rw [heq])
    exact List.mem_map.mpr ⟨entry, hmem, if_neg hne⟩
  · exact List.Subset.refl _
  · exact List.Subset.refl _
  · exact List.Subset.refl _
  · intro entry hmem _
    rcases mem_setTask hmem with ⟨hold, _⟩ | ⟨rfl, _⟩
    · exact .inl hold
    · exact .inr (.inl rfl)

theorem rouses_endTask (id : Nat) (link : Link) :
    Rouses (some id) turn link (link.endTask id) := by
  apply Rouses.of_silence
  · intro entry hmem hwho
    exact mem_endTask.mpr ⟨hmem, fun heq => hwho (by rw [heq])⟩
  · exact List.Subset.refl _
  · exact List.Subset.refl _
  · exact List.Subset.refl _
  · exact fun entry hmem _ => .inl (mem_endTask.mp hmem).1

/-! ### The transport -/

theorem rouses_hear (subscriber : Subscriber) (params : Json) (link : Link) :
    Rouses who turn link (link.hear subscriber params) := by
  unfold hear
  cases subscriber.selection.accept? params with
  | none => exact rouses_refl who turn link
  | some event =>
    cases subscriber.sink with
    | record label => exact .of_same rfl (List.Subset.refl _) rfl rfl
    | print => exact .of_same rfl (List.Subset.refl _) rfl rfl
    | waiter =>
      cases event with
      | workspaceStatus event =>
        have hput : Rouses who turn link { link with waiter := (link.waiter.handle event).1 } :=
          .of_same rfl (List.Subset.refl _) rfl rfl
        exact hput.trans (rouses_settleStatuses _ _)
      | _ => exact rouses_refl who turn link

theorem rouses_listen (event : TransportEvent) (listener : Listener) (link : Link) :
    Rouses who turn link (listen event listener link) := by
  have hpush : ∀ input, Rouses who turn link (link.pushInput input) := by
    intro input
    have hput : Rouses who turn link { link with inputs := link.inputs ++ [input] } :=
      .of_same rfl (List.Subset.refl _) rfl rfl
    exact hput.trans (rouses_raise .input _)
  cases listener with
  | client =>
    have hheard : Rouses who turn link (Client.hear host event (link.client, link)).2 := by
      apply Client.hear_preserves (P := fun state => Rouses who turn link state.2)
      · exact fun subscriber params state h => h.trans (rouses_hear subscriber params state.2)
      · exact fun number answer state h => h.trans (rouses_settle number answer state.2)
      · exact rouses_refl who turn link
    have hput : Rouses who turn (Client.hear host event (link.client, link)).2
        (listen event .client link) := .of_same rfl (List.Subset.refl _) rfl rfl
    exact hheard.trans hput
  | session =>
    cases event with
    | opened => exact hpush _
    | closed code reason => exact hpush _
    | _ => exact rouses_refl who turn link
  | recorder label => exact .of_same rfl (List.Subset.refl _) rfl rfl

theorem rouses_emit (event : TransportEvent) (link : Link) :
    Rouses who turn link (link.emit event) := by
  unfold emit Registry.dispatch
  generalize link.listeners.handlers event.kind = listeners
  induction listeners generalizing link with
  | nil => exact rouses_refl who turn link
  | cons listener rest ih => exact (rouses_listen event listener link).trans (ih _)

theorem isReplay_of_isCarrierTask (h : isCarrierTask task) : ¬ isReplay task := by
  cases task with
  | replay current rest => simp [isCarrierTask] at h
  | _ => simp [isReplay]

theorem keptByTransport_rouses (who : Option Nat) (turn : Prop) (start : Link) :
    KeptByTransport who (Rouses who turn start) where
  put _ _ hp := hp.trans (.of_same rfl (List.Subset.refl _) rfl rfl)
  fetch _ hp := hp.trans (.of_same rfl (List.Subset.refl _) rfl rfl)
  issue hp := hp.trans (.of_same rfl (List.Subset.refl _) rfl rfl)
  forget _ hp := hp.trans <| .of_silence (fun _ hmem _ => hmem) (List.Subset.refl _)
    (List.filter_subset_self _) (List.Subset.refl _) fun _ hmem _ => .inl hmem
  raise _ hp := hp.trans (rouses_raise _ _)
  emit event hp := hp.trans (rouses_emit event _)
  spawn hcarrier hp :=
    hp.trans (rouses_spawn (fun hreplay => absurd hreplay (isReplay_of_isCarrierTask hcarrier)) _)
  setTask id hwho _ hp := hp.trans (hwho ▸ rouses_setTask id _ _)
  endTask id hwho hp := hp.trans (hwho ▸ rouses_endTask id _)

/-! ### Tasks -/

theorem keptByCalls_rouses (id : Nat) (start : Link) :
    KeptByCalls id (fun _ => True) (Rouses (some id) turn start) where
  tick hp heq := by
    have hwoken := (congrArg Link.woken heq :)
    exact hp.trans (.of_same (congrArg Link.tasks heq :) (hwoken ▸ List.Subset.refl _)
      (congrArg Link.answers heq :) (congrArg Link.statuses heq :))
  takeStatus _ _ hp := hp.trans <| .of_silence (fun _ hmem _ => hmem) (List.Subset.refl _)
    (List.Subset.refl _) (List.filter_subset_self _) fun _ hmem _ => .inl hmem
  request params _ hp := (keptByTransport_rouses (some id) turn start).request _ params hp
  forget number hp := (keptByTransport_rouses (some id) turn start).forget number hp
  setTask _ _ hp := hp.trans (rouses_setTask id _ _)
  endTask hp := hp.trans (rouses_endTask id _)
  finish _ hp := hp.trans ((rouses_endTask id _).trans (.of_same rfl (List.Subset.refl _) rfl rfl))
  pushInput {link input} _ _ hp := by
    have hput : Rouses (some id) turn link { link with inputs := link.inputs ++ [input] } :=
      .of_same rfl (List.Subset.refl _) rfl rfl
    exact hp.trans (hput.trans (rouses_raise .input _))
  spawnDriver hp := hp.trans (rouses_spawn nofun _)
  books _ _ hp := hp.trans (.of_same rfl (List.Subset.refl _) rfl rfl)
  setCall _ hp := hp.trans (rouses_setTask id _ _)
  setReplay _ _ hp := hp.trans (rouses_setTask id _ _)
  track _ _ _ hp := hp.trans (.of_same rfl (List.Subset.refl _) rfl rfl)
  untrack {link} workspace _ hp := by
    have hput : Rouses (some id) turn link
        { link with waiter := (link.waiter.untrack workspace).2.1 } :=
      .of_same rfl (List.Subset.refl _) rfl rfl
    exact hp.trans (hput.trans (rouses_settleStatuses _ _))

/-! ### The session -/

theorem rouses_runEffect (effect : Effect) (link : Link) :
    Rouses who True link (link.runEffect effect) := by
  have hspawn : ∀ task, Rouses who True link (link.spawn task) :=
    fun _ => rouses_spawn (fun _ => trivial) link
  cases effect with
  | log entry => exact .of_same rfl (List.Subset.refl _) rfl rfl
  | attempt token generation clientId => exact hspawn _
  | fetchId generation => exact hspawn _
  | probe token generation => exact hspawn _
  | timer number delayMs => exact hspawn _
  | replay topics => exact hspawn _
  | disconnect =>
    exact (keptByTransport_rouses who True link).disconnect (rouses_refl who True link)
  | clearHandlers => exact .of_same rfl (List.Subset.refl _) rfl rfl
  | _ => exact .of_same rfl (List.subset_append_left _ _) rfl rfl

theorem rouses_runEffects (effects : List Effect) (link : Link) :
    Rouses who True link (link.runEffects effects) := by
  induction effects generalizing link with
  | nil => exact rouses_refl who True link
  | cons effect rest ih => exact (rouses_runEffect effect link).trans (ih _)

/-! ### Beats -/

/-- No news comes silently, whatever happens. -/
theorem rouses_beat (link : Link) (b : Beat) :
    Rouses (concerns? b) (link.drives b) link (link.beat b) := by
  cases hdrives : link.drives b with
  | true =>
    cases hinputs : link.inputs with
    | nil =>
      rw [beat_of_idle hdrives hinputs]
      exact rouses_refl _ _ link
    | cons input rest =>
      let step := link.session.handle link.config input
      have hhandled : Rouses (concerns? b) True link
          { link with inputs := rest, session := step.session } :=
        .of_same rfl (List.Subset.refl _) rfl rfl
      rw [beat_of_input hdrives hinputs]
      have hrun := hhandled.trans (rouses_runEffects step.effects _)
      exact ⟨hrun.tasks, hrun.woken, hrun.news, fun _ _ _ => .inr (.inr rfl)⟩
  | false =>
    cases b with
    | call call => exact rouses_spawn nofun link
    | waitForStatus workspace status =>
      have hput : Rouses none (false = true) link
          { link with waiter := (link.waiter.waitFor workspace status).2.1 } :=
        .of_same rfl (List.Subset.refl _) rfl rfl
      exact hput.trans ((rouses_settleStatuses _ _).trans (rouses_spawn nofun _))
    | abandon id => exact (keptByCalls_rouses id link).abandon (rouses_refl _ _ link)
    | task id =>
      exact (keptByTransport_rouses (some id) _ link).runTask (keptByCalls_rouses id link)
        (task?_of_drives hdrives) (fun _ _ _ _ => trivial) (rouses_refl _ _ link)
    | elapse millis => exact .of_same rfl (List.Subset.refl _) rfl rfl
    | handshakeEnds generation failure =>
      exact .of_same rfl (List.subset_append_left _ _) rfl rfl
    | socket turn => exact (keptByTransport_rouses _ _ link).take (rouses_refl _ _ link)
    | script act => exact (keptByTransport_rouses _ _ link).script act (rouses_refl _ _ link)

end WorkspaceLink.Link
