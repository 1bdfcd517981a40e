import WorkspaceLink.Proofs.Link.Tracking
import WorkspaceLink.Proofs.Link.Waking

/-!
# Waits for a status end

A wait for a status is open until an event brings its workspace there. Then its call is woken, and
returns when it has its turn. Every wait has a ticket of its own, so that the end of one is not
taken for the end of another.

`Peaceful` is what beats keep as long as nobody closes the session, ends a subscription or lets
the waiter forget a workspace. Workspaces that are tracked are heard of then, whatever else happens.
`Awaits` says where a wait can stand, and `Reached` that it is not open any more: an event that the
waiter hears gets it there, and every beat keeps it there.
-/
namespace WorkspaceLink

namespace StatusWaiter

variable {w : StatusWaiter} {state : StatusWaiter × Settled} {events : List WorkspaceStatusEvent}
  {entry : Nat × StatusResult}

/-! ### Tickets -/

/-- No two waits have the same ticket, whether they are open or have ended, and none is
abandoned. -/
structure Ticketed (state : StatusWaiter × Settled) : Prop where
  waits_lt : ∀ wait ∈ state.1.waits, wait.ticket < state.1.nextTicket
  waits_once : ∀ wait ∈ state.1.waits, ∀ other ∈ state.1.waits, wait.ticket = other.ticket →
    wait = other
  settled_lt : ∀ entry ∈ state.2, entry.1 < state.1.nextTicket
  settled_closed : ∀ wait ∈ state.1.waits, ∀ entry ∈ state.2, entry.1 ≠ wait.ticket
  kept : ∀ entry ∈ state.2, entry.2 ≠ .abandoned

theorem mem_handle {event : WorkspaceStatusEvent} (h : entry ∈ (w.handle event).2) :
    ∃ wait ∈ w.waits, Ends event wait ∧ entry = (wait.ticket, .reached event) := by
  rw [settled_handle] at h
  obtain ⟨wait, hwait, rfl⟩ := List.mem_map.mp h
  obtain ⟨hmem, hends⟩ := List.mem_filter.mp hwait
  exact ⟨wait, hmem, of_decide_eq_true hends, rfl⟩

theorem nextTicket_learn (state : StatusWaiter × Settled) (events : List WorkspaceStatusEvent) :
    (events.foldl learn state).1.nextTicket = state.1.nextTicket := by
  induction events generalizing state with
  | nil => rfl
  | cons event rest ih => exact (ih _).trans (nextTicket_handle event)

theorem mem_waits_waitFor {wait : StatusWait} (h : wait ∈ w.waits) (workspace : WorkspaceId)
    (status : Status) : wait ∈ (w.waitFor workspace status).2.1.waits := by
  unfold waitFor
  dsimp only
  split
  · exact h
  · exact List.mem_append_left _ h

theorem Ticketed.learn (h : Ticketed state) (event : WorkspaceStatusEvent) :
    Ticketed (StatusWaiter.learn state event) := by
  have hopen : ∀ {wait}, wait ∈ (StatusWaiter.learn state event).1.waits →
      wait ∈ state.1.waits ∧ ¬ Ends event wait := fun hmem => (mem_waits_handle event).mp hmem
  have hentry : ∀ entry ∈ (StatusWaiter.learn state event).2, entry ∈ state.2 ∨
      ∃ wait ∈ state.1.waits, Ends event wait ∧ entry = (wait.ticket, .reached event) := by
    intro entry hmem
    exact (List.mem_append.mp hmem).imp_right mem_handle
  have hnext : (StatusWaiter.learn state event).1.nextTicket = state.1.nextTicket :=
    nextTicket_handle event
  refine ⟨fun wait hmem => ?_, fun wait hmem other hother => ?_, fun entry hmem => ?_,
    fun wait hwait entry hmem => ?_, fun entry hmem => ?_⟩
  · rw [hnext]
    exact h.waits_lt wait (hopen hmem).1
  · exact h.waits_once wait (hopen hmem).1 other (hopen hother).1
  · rw [hnext]
    rcases hentry entry hmem with hold | ⟨wait, hwait, _, rfl⟩
    · exact h.settled_lt entry hold
    · exact h.waits_lt wait hwait
  · obtain ⟨hwait, hnot⟩ := hopen hwait
    rcases hentry entry hmem with hold | ⟨ended, hended, hends, rfl⟩
    · exact h.settled_closed wait hwait entry hold
    · intro hsame
      obtain rfl := h.waits_once ended hended wait hwait hsame
      exact hnot hends
  · rcases hentry entry hmem with hold | ⟨_, _, _, rfl⟩
    · exact h.kept entry hold
    · simp

theorem Ticketed.learnAll (h : Ticketed state) (events : List WorkspaceStatusEvent) :
    Ticketed (events.foldl StatusWaiter.learn state) := by
  induction events generalizing state with
  | nil => exact h
  | cons event rest ih => exact ih (h.learn event)

theorem Ticketed.waitFor {settled : Settled} (h : Ticketed (w, settled)) (workspace : WorkspaceId)
    (status : Status) :
    Ticketed ((w.waitFor workspace status).2.1, settled ++ (w.waitFor workspace status).2.2) := by
  unfold StatusWaiter.waitFor
  dsimp only
  split
  · refine ⟨fun wait hmem => Nat.lt_succ_of_lt (h.waits_lt wait hmem), h.waits_once, ?_, ?_, ?_⟩
    · intro entry hmem
      rcases List.mem_append.mp hmem with hold | hnew
      · exact Nat.lt_succ_of_lt (h.settled_lt entry hold)
      · rw [List.mem_singleton.mp hnew]
        exact Nat.lt_succ_self _
    · intro wait hwait entry hmem
      rcases List.mem_append.mp hmem with hold | hnew
      · exact h.settled_closed wait hwait entry hold
      · rw [List.mem_singleton.mp hnew]
        exact (Nat.ne_of_lt (h.waits_lt wait hwait)).symm
    · intro entry hmem
      rcases List.mem_append.mp hmem with hold | hnew
      · exact h.kept entry hold
      · simp [List.mem_singleton.mp hnew]
  · have hmem : ∀ {wait : StatusWait}, wait ∈ w.waits ++ [⟨w.nextTicket, workspace, status⟩] →
        wait ∈ w.waits ∨ wait = ⟨w.nextTicket, workspace, status⟩ := by simp
    rw [List.append_nil]
    refine ⟨fun wait hwait => ?_, fun wait hwait other hother hsame => ?_,
      fun entry hentry => Nat.lt_succ_of_lt (h.settled_lt entry hentry),
      fun wait hwait entry hentry => ?_, h.kept⟩
    · rcases hmem hwait with hold | rfl
      · exact Nat.lt_succ_of_lt (h.waits_lt wait hold)
      · exact Nat.lt_succ_self _
    · rcases hmem hwait with hold | rfl <;> rcases hmem hother with hold' | rfl
      · exact h.waits_once wait hold other hold' hsame
      · exact absurd hsame (Nat.ne_of_lt (h.waits_lt wait hold))
      · exact absurd hsame.symm (Nat.ne_of_lt (h.waits_lt other hold'))
      · rfl
    · rcases hmem hwait with hold | rfl
      · exact h.settled_closed wait hold entry hentry
      · exact Nat.ne_of_lt (h.settled_lt entry hentry)

/-- Ends are taken note of, and nothing else happens to the waits. -/
theorem Ticketed.forget (h : Ticketed state) {after : StatusWaiter × Settled}
    (hwaiter : { after.1 with tracked := [] } = { state.1 with tracked := [] })
    (hsettled : after.2 ⊆ state.2) : Ticketed after := by
  have hwaits : after.1.waits = state.1.waits := (congrArg StatusWaiter.waits hwaiter :)
  have hnext : after.1.nextTicket = state.1.nextTicket :=
    (congrArg StatusWaiter.nextTicket hwaiter :)
  refine ⟨?_, ?_, ?_, ?_, fun entry hmem => h.kept entry (hsettled hmem)⟩
  · rw [hwaits, hnext]
    exact h.waits_lt
  · rw [hwaits]
    exact h.waits_once
  · rw [hnext]
    exact fun entry hmem => h.settled_lt entry (hsettled hmem)
  · rw [hwaits]
    exact fun wait hwait entry hmem => h.settled_closed wait hwait entry (hsettled hmem)

end StatusWaiter

namespace Link

variable {link first second third : Link} {who : Option Nat} {id : Nat} {task : Task}
  {workspace : WorkspaceId} {wait : StatusWait} {ready ready' : Prop}

/-! ### What only users do -/

/-- The call stands where its user put it: it has yet to run, or waits for a status. -/
def standsAsBegun : Task → Bool
  | .call (.fresh _) | .call (.status _) => true
  | _ => false

/-- No call begins, nobody closes the session, and no outcome is taken back. -/
structure Modest (first second : Link) : Prop where
  calls : ∀ entry ∈ second.tasks, standsAsBegun entry.2 → entry ∈ first.tasks
  closes : ∀ ticket, .close ticket ∈ second.inputs → .close ticket ∈ first.inputs
  finished : first.finished <+: second.finished

theorem Modest.trans (h : Modest first second) (h' : Modest second third) : Modest first third where
  calls entry hmem hbegun := h.calls entry (h'.calls entry hmem hbegun) hbegun
  closes ticket hmem := h.closes ticket (h'.closes ticket hmem)
  finished := h.finished.trans h'.finished

theorem Modest.of_same (htasks : second.tasks = first.tasks)
    (hinputs : second.inputs = first.inputs) (hfinished : second.finished = first.finished) :
    Modest first second where
  calls _ hmem _ := htasks ▸ hmem
  closes _ hmem := hinputs ▸ hmem
  finished := hfinished ▸ List.prefix_refl _

theorem modest_refl (link : Link) : Modest link link := .of_same rfl rfl rfl

theorem modest_spawn (h : standsAsBegun task = false) (link : Link) :
    Modest link (link.spawn task) := by
  refine ⟨fun entry hmem hbegun => ?_, fun _ => id, List.prefix_refl _⟩
  rcases mem_spawn.mp hmem with hold | rfl
  · exact hold
  · simp [h] at hbegun

theorem modest_setTask (h : standsAsBegun task = false) (id : Nat) (link : Link) :
    Modest link (link.setTask id task) := by
  refine ⟨fun entry hmem hbegun => ?_, fun _ hmem => hmem, List.prefix_refl _⟩
  rcases mem_setTask hmem with ⟨hold, _⟩ | ⟨rfl, _⟩
  · exact hold
  · simp [h] at hbegun

theorem modest_endTask (id : Nat) (link : Link) : Modest link (link.endTask id) :=
  ⟨fun _ hmem _ => (mem_endTask.mp hmem).1, fun _ hmem => hmem, List.prefix_refl _⟩

theorem modest_emit (event : TransportEvent) (link : Link) : Modest link (link.emit event) := by
  have h := emit_scenery event link
  have htasks : (link.emit event).tasks = link.tasks := (congrArg Link.tasks h :)
  have hfinished : (link.emit event).finished = link.finished := (congrArg Link.finished h :)
  obtain ⟨heard, hinputs, hheard⟩ := emitAll_inputs [event] link
  refine ⟨fun _ hmem _ => htasks ▸ hmem, fun ticket hmem => ?_, hfinished ▸ List.prefix_refl _⟩
  rcases List.mem_append.mp (hinputs ▸ hmem : _ ∈ link.inputs ++ heard) with hold | hnew
  · exact hold
  · obtain ⟨other, _, hinput⟩ := hheard _ hnew
    cases other <;> simp [inputOf?] at hinput

theorem standsAsBegun_of_isCarrierTask (h : isCarrierTask task) : standsAsBegun task = false := by
  cases task with
  | call stage => simp [isCarrierTask] at h
  | _ => rfl

theorem keptByTransport_modest (who : Option Nat) (start : Link) :
    KeptByTransport who (Modest start) where
  put _ _ h := h.trans (.of_same rfl rfl rfl)
  fetch _ h := h.trans (.of_same rfl rfl rfl)
  issue h := h.trans (.of_same rfl rfl rfl)
  forget _ h := h.trans (.of_same rfl rfl rfl)
  raise _ h := h.trans (.of_same rfl rfl rfl)
  emit event h := h.trans (modest_emit event _)
  spawn hcarrier h := h.trans (modest_spawn (standsAsBegun_of_isCarrierTask hcarrier) _)
  setTask id _ hcarrier h :=
    h.trans (modest_setTask (standsAsBegun_of_isCarrierTask hcarrier) id _)
  endTask id _ h := h.trans (modest_endTask id _)

theorem status_of_isAside (haside : isAside task) (hbegun : standsAsBegun task) :
    ∃ ticket, task = .call (.status ticket) := by
  cases task with
  | call stage =>
    cases stage with
    | status ticket => exact ⟨ticket, rfl⟩
    | fresh call => simp [isAside] at haside
    | _ => simp [standsAsBegun] at hbegun
  | _ => simp [standsAsBegun] at hbegun

theorem keptByCalls_modest {may : Dealing → Prop} {start : Link} (hopen : ¬ may .close)
    (hwaits : ∀ ticket, may (.takeStatus ticket) → (id, .call (.status ticket)) ∈ start.tasks) :
    KeptByCalls id may (Modest start) where
  tick h heq := h.trans (.of_same (congrArg Link.tasks heq :) (congrArg Link.inputs heq :)
    (congrArg Link.finished heq :))
  takeStatus _ _ h := h.trans (.of_same rfl rfl rfl)
  request params _ h := (keptByTransport_modest none start).request _ params h
  forget _ h := h.trans (.of_same rfl rfl rfl)
  setTask {link task} haside hstatus h := by
    refine ⟨fun entry hmem hbegun => ?_, h.closes, h.finished⟩
    rcases mem_setTask hmem with ⟨hold, _⟩ | ⟨rfl, _⟩
    · exact h.calls entry hold hbegun
    · obtain ⟨ticket, rfl⟩ := status_of_isAside haside hbegun
      exact hwaits ticket (hstatus ticket rfl)
  endTask h := h.trans (modest_endTask id _)
  finish _ h :=
    h.trans ((modest_endTask id _).trans ⟨fun _ hmem _ => hmem, fun _ hmem => hmem,
      List.prefix_append _ _⟩)
  pushInput {link input} _ hclose h := by
    refine ⟨h.calls, fun ticket hmem => ?_, h.finished⟩
    rcases List.mem_append.mp hmem with hold | hnew
    · exact h.closes ticket hold
    · exact absurd (hclose ticket (List.mem_singleton.mp hnew).symm) hopen
  spawnDriver h := h.trans (modest_spawn rfl _)
  books _ _ h := h.trans (.of_same rfl rfl rfl)
  setCall {link stage} hunderway h := by
    refine h.trans (modest_setTask ?_ id link)
    cases stage <;> simp_all [isUnderway, standsAsBegun]
  setReplay _ _ h := h.trans (modest_setTask rfl id _)
  track _ _ _ h := h.trans (.of_same rfl rfl rfl)
  untrack {link} workspace _ h := by
    have heq := settleStatuses_essence (link.waiter.untrack workspace).2.2
      { link with waiter := (link.waiter.untrack workspace).2.1 }
    exact h.trans (.of_same (congrArg Link.tasks heq :) (congrArg Link.inputs heq :)
      (congrArg Link.finished heq :))

theorem modest_runEffects (effects : List Effect) (link : Link) :
    Modest link (link.runEffects effects) := by
  induction effects generalizing link with
  | nil => exact modest_refl link
  | cons effect rest ih =>
    refine Modest.trans ?_ (ih _)
    cases effect with
    | attempt token generation clientId => exact modest_spawn rfl link
    | fetchId generation => exact modest_spawn rfl link
    | probe token generation => exact modest_spawn rfl link
    | timer number delayMs => exact modest_spawn rfl link
    | replay topics => exact modest_spawn rfl link
    | disconnect => exact (keptByTransport_modest none link).disconnect (modest_refl link)
    | _ => exact .of_same rfl rfl rfl

def isBeginning : Beat → Bool
  | .call _ | .waitForStatus _ _ => true
  | _ => false

theorem modest_beat {b : Beat} (hbegins : isBeginning b = false)
    (hopen : ¬ link.dealings b .close) : Modest link (link.beat b) := by
  have hrefl := modest_refl link
  cases b with
  | call call => simp [isBeginning] at hbegins
  | waitForStatus workspace status => simp [isBeginning] at hbegins
  | abandon id =>
    have hbyCalls : KeptByCalls id (fun _ => False) (Modest link) :=
      keptByCalls_modest not_false fun _ hnot => hnot.elim
    exact hbyCalls.abandon hrefl
  | elapse millis => exact .of_same rfl rfl rfl
  | handshakeEnds generation failure => exact .of_same rfl rfl rfl
  | socket turn => exact (keptByTransport_modest _ link).take hrefl
  | script act => exact (keptByTransport_modest none link).script act hrefl
  | task id =>
    by_cases hdriver : link.task? id = some .driver
    · have hdrives : link.drives (.task id) := by simp [drives, hdriver]
      cases hinputs : link.inputs with
      | nil => rw [beat_of_idle hdrives hinputs]; exact hrefl
      | cons input rest =>
        have hhandled : Modest link { link with
            inputs := rest, session := (link.session.handle link.config input).session } :=
          ⟨fun _ hmem _ => hmem, fun _ hmem => hinputs ▸ List.mem_cons_of_mem _ hmem,
            List.prefix_refl _⟩
        rw [beat_of_input hdrives hinputs]
        exact hhandled.trans (modest_runEffects _ _)
    · refine (keptByTransport_modest (some id) link).runTask
        (keptByCalls_modest hopen fun ticket hmay => ?_)
        hdriver (fun stage _ htask hdeals => ⟨stage, htask, hdeals⟩) hrefl
      obtain ⟨stage, htask, hdeals⟩ := hmay
      cases stage with
      | status own =>
        obtain rfl : ticket = own := hdeals
        exact mem_of_task? htask
      | fresh call => cases call <;> exact hdeals.elim
      | subscribing number subscription tracking => cases tracking <;> exact hdeals.elim
      | _ => exact hdeals.elim

/-! ### Sessions that nobody disturbs -/

/-- A call that takes nothing away: it does not close the session, ends no subscription, and lets
the waiter forget no workspace. -/
def isGentle : Call → Bool
  | .close | .follow _ _ _ _ | .unfollow _ _ _ _ | .unsubscribe _ | .untrack _ => false
  | _ => true

/-- Only such calls begin. -/
def beginsGently : Beat → Bool
  | .call call => isGentle call
  | _ => true

/-- What is kept as long as only gentle calls begin. -/
structure Peaceful (link : Link) : Prop where
  wired : link.Wired
  enrolled : link.Enrolled
  finished_lt : ∀ entry ∈ link.finished, entry.1 < link.nextTask
  booked : Booked (fun _ => False) link
  kept : Kept (fun _ => False) link
  gentle : ∀ id call, (id, .call (.fresh call)) ∈ link.tasks → isGentle call
  unclosed : ∀ ticket, .close ticket ∉ link.inputs
  tickets : StatusWaiter.Ticketed (link.waiter, link.statuses)
  waits_lt : ∀ id ticket, (id, .call (.status ticket)) ∈ link.tasks →
    ticket < link.waiter.nextTicket
  waits_once : ∀ id other ticket, (id, .call (.status ticket)) ∈ link.tasks →
    (other, .call (.status ticket)) ∈ link.tasks → id = other

/-- Nothing that matters depends on the time, or on who was woken. -/
theorem Peaceful.rested (h : link.Peaceful) (ambient : Ambient) (woken : List Nat) :
    Peaceful { link with ambient, woken } where
  wired := ⟨h.wired.attached, h.wired.prompt⟩
  enrolled := h.enrolled
  finished_lt := h.finished_lt
  booked := h.booked.leaves (.of_tasks rfl rfl rfl)
  kept := h.kept.retains (.of_same rfl rfl rfl)
  gentle := h.gentle
  unclosed := h.unclosed
  tickets := h.tickets
  waits_lt := h.waits_lt
  waits_once := h.waits_once

theorem peaceful_withSession (carrier : Carrier) (config : SessionConfig) :
    (withSession carrier config).Peaceful where
  wired := wired_withSession carrier config
  enrolled := enrolled_play carrier config []
  finished_lt _ hmem := absurd hmem List.not_mem_nil
  booked := booked_withSession carrier config
  kept := kept_withSession carrier config
  gentle _ _ hmem := absurd hmem List.not_mem_nil
  unclosed _ := List.not_mem_nil
  tickets := by constructor <;> exact fun _ hmem => absurd hmem List.not_mem_nil
  waits_lt _ _ hmem := absurd hmem List.not_mem_nil
  waits_once _ _ _ hmem := absurd hmem List.not_mem_nil

theorem stage_of_deals_close {stage : Stage} (h : deals stage .close) : stage = .fresh .close := by
  unfold deals at h
  split at h <;> simp_all

theorem stage_of_deals_untrack {stage : Stage} (h : deals stage (.untrack workspace)) :
    stage = .fresh (.untrack workspace) := by
  unfold deals at h
  split at h <;> simp_all

/-- Nobody closes the session, or lets the waiter forget a workspace. -/
theorem Peaceful.not_dealings (h : link.Peaceful) (b : Beat) :
    ¬ link.dealings b .close ∧ ∀ workspace, ¬ link.dealings b (.untrack workspace) := by
  cases b with
  | task id =>
    constructor
    · rintro ⟨stage, htask, hdeals⟩
      obtain rfl := stage_of_deals_close hdeals
      simpa [isGentle] using h.gentle id _ (mem_of_task? htask)
    · rintro workspace ⟨stage, htask, hdeals⟩
      obtain rfl := stage_of_deals_untrack hdeals
      simpa [isGentle] using h.gentle id _ (mem_of_task? htask)
  | _ => exact ⟨id, fun _ => id⟩

theorem Peaceful.not_closes (h : link.Peaceful) (b : Beat) : link.closes b = false := by
  rw [← Bool.not_eq_true]
  intro hcloses
  obtain ⟨_, ticket, rest, _, _, hinputs⟩ := closes_iff.mp hcloses
  exact h.unclosed ticket (hinputs ▸ List.mem_cons_self)

/-- A wait that begins is a new task, apart from what the waiter makes of it. -/
theorem beat_waitForStatus_essence (workspace : WorkspaceId) (status : Status) (link : Link) :
    (link.beat (.waitForStatus workspace status)).essence =
      (link.spawn (.call (.status link.waiter.nextTicket))).essence := by
  have hsettled : (settleStatuses (link.waiter.waitFor workspace status).2.2
      { link with waiter := (link.waiter.waitFor workspace status).2.1 }).essence = link.essence :=
    settleStatuses_essence _ _
  rw [beat_waitForStatus, StatusWaiter.ticket_waitFor]
  exact spawn_essence hsettled _

/-- Calls that stand as they were begun stood so before, or begin in this beat. -/
theorem Peaceful.begun_beat (h : link.Peaceful) {b : Beat} {entry : Nat × Task}
    (hmem : entry ∈ (link.beat b).tasks) (hbegun : standsAsBegun entry.2) :
    entry ∈ link.tasks ∨
      (∃ call, b = .call call ∧ entry = (link.nextTask, .call (.fresh call))) ∨
      ∃ workspace status, b = .waitForStatus workspace status ∧
        entry = (link.nextTask, .call (.status link.waiter.nextTicket)) := by
  cases hbegins : isBeginning b with
  | false => exact .inl ((modest_beat hbegins (h.not_dealings b).1).calls entry hmem hbegun)
  | true =>
    cases b with
    | call call =>
      rcases mem_spawn.mp hmem with hold | hnew
      · exact .inl hold
      · exact .inr (.inl ⟨call, rfl, hnew⟩)
    | waitForStatus workspace status =>
      have htasks := (congrArg Link.tasks (beat_waitForStatus_essence workspace status link) :)
      rcases mem_spawn.mp (htasks ▸ hmem) with hold | hnew
      · exact .inl hold
      · exact .inr (.inr ⟨workspace, status, rfl, hnew⟩)
    | _ => simp [isBeginning] at hbegins

theorem beat_waitForStatus_waiter (workspace : WorkspaceId) (status : Status) (link : Link) :
    ((link.beat (.waitForStatus workspace status)).waiter,
        (link.beat (.waitForStatus workspace status)).statuses) =
      ((link.waiter.waitFor workspace status).2.1,
        link.statuses ++ (link.waiter.waitFor workspace status).2.2) := by
  rw [beat_waitForStatus]
  exact Prod.ext (settleStatuses_waiter _ _) (settleStatuses_statuses _ _)

/-- What a beat makes of the waiter: ends of waits are taken note of, or a wait begins, or the
waiter hears what arrives. -/
theorem Peaceful.waiter_cases (h : link.Peaceful) (b : Beat) :
    link.arrivals b = [] ∧ Hushed (link.dealings b) link (link.beat b) ∨
      (∃ workspace status, b = .waitForStatus workspace status) ∨
      ((link.beat b).waiter, (link.beat b).statuses) =
        (link.heeded (link.arrivals b)).foldl StatusWaiter.learn (link.waiter, link.statuses) := by
  rcases h.wired.beat_cases b with hhushed | hbegins | ⟨carrier, heq⟩
  · exact .inl hhushed
  · exact .inr (.inl hbegins)
  · have hattached : Attached { link with carrier } := h.wired.attached
    right; right
    rw [heq]
    exact hattached.emitAll_waiter (link.arrivals b)

theorem Peaceful.tickets_beat (h : link.Peaceful) (b : Beat) :
    StatusWaiter.Ticketed ((link.beat b).waiter, (link.beat b).statuses) ∧
      link.waiter.nextTicket ≤ (link.beat b).waiter.nextTicket := by
  rcases h.waiter_cases b with ⟨_, hhushed⟩ | ⟨workspace, status, rfl⟩ | hheard
  · have hwaiter := hhushed.waiter (h.not_dealings b).2
    have hnext := (congrArg StatusWaiter.nextTicket hwaiter :)
    exact ⟨h.tickets.forget hwaiter fun entry => (hhushed.statuses (h.not_dealings b).2 entry).1,
      Nat.le_of_eq hnext.symm⟩
  · have hwaiter := beat_waitForStatus_waiter workspace status link
    have hnext := congrArg (·.1.nextTicket) hwaiter
    refine ⟨hwaiter ▸ h.tickets.waitFor workspace status, ?_⟩
    rw [hnext]
    exact (StatusWaiter.nextTicket_waitFor workspace status).symm ▸ Nat.le_succ _
  · have hnext := congrArg (·.1.nextTicket) hheard
    refine ⟨hheard ▸ h.tickets.learnAll _, ?_⟩
    rw [hnext]
    exact Nat.le_of_eq (StatusWaiter.nextTicket_learn (link.waiter, link.statuses) _).symm

/-- A call that waits for a status waited before, or begins with a new ticket. -/
theorem Peaceful.wait_beat (h : link.Peaceful) {b : Beat} {ticket : Nat}
    (hmem : (id, .call (.status ticket)) ∈ (link.beat b).tasks) :
    (id, .call (.status ticket)) ∈ link.tasks ∨
      id = link.nextTask ∧ ticket = link.waiter.nextTicket ∧
        ticket < (link.beat b).waiter.nextTicket := by
  rcases h.begun_beat hmem rfl with hold | ⟨_, _, heq⟩ | ⟨workspace, status, rfl, heq⟩
  · exact .inl hold
  · simp at heq
  · have hwaiter := congrArg (·.1.nextTicket) (beat_waitForStatus_waiter workspace status link)
    simp only [Prod.mk.injEq, Task.call.injEq, Stage.status.injEq] at heq
    refine .inr ⟨heq.1, heq.2, ?_⟩
    rw [heq.2]
    dsimp only at hwaiter
    rw [hwaiter, StatusWaiter.nextTicket_waitFor]
    exact Nat.lt_succ_self _

theorem Peaceful.beat (h : link.Peaceful) {b : Beat} (hgentle : beginsGently b) :
    (link.beat b).Peaceful := by
  have hopen := h.not_closes b
  obtain ⟨htickets, hnext⟩ := h.tickets_beat b
  have htracking : beginsTrackingCall b := by
    cases b with
    | call call =>
      cases call <;> simp_all [beginsGently, isGentle, beginsTrackingCall, isTrackingCall]
    | _ => rfl
  have hkeeps := keeps_beat link b
  refine ⟨h.wired.beat b, hkeeps.enrolled h.enrolled, fun entry hmem => ?_, ?_, ?_, ?_, ?_,
    htickets, ?_, ?_⟩
  · refine Nat.lt_of_lt_of_le ?_ hkeeps.nextTask_le
    rcases hkeeps.finished entry hmem with hold | hconcerns
    · exact h.finished_lt entry hold
    · cases htask : link.task? entry.1 with
      | none => exact h.finished_lt entry (beat_of_absent htask hconcerns ▸ hmem)
      | some task => exact h.enrolled _ (mem_of_task? htask)
  · refine (h.booked.beat (beginsSessionCall_of_tracking htracking)).congr fun handler => ?_
    simp [orphans, hopen]
  · refine (h.kept.beat h.wired htracking).congr fun handler => ?_
    simp [severs, hopen]
  · intro id call hmem
    rcases h.begun_beat hmem rfl with hold | ⟨begun, rfl, heq⟩ | ⟨_, _, _, heq⟩
    · exact h.gentle id call hold
    · obtain rfl : call = begun := by simpa using (congrArg Prod.snd heq)
      exact hgentle
    · simp at heq
  · intro ticket hmem
    cases hbegins : isBeginning b with
    | false =>
      have hmodest := modest_beat hbegins (h.not_dealings b).1
      exact h.unclosed ticket (hmodest.closes ticket hmem)
    | true =>
      cases b with
      | call call => exact h.unclosed ticket hmem
      | waitForStatus workspace status =>
        have hinputs := (congrArg Link.inputs (beat_waitForStatus_essence workspace status link) :)
        exact h.unclosed ticket (hinputs ▸ hmem)
      | _ => simp [isBeginning] at hbegins
  · intro id ticket hmem
    rcases h.wait_beat hmem with hold | ⟨_, rfl, hlt⟩
    · exact Nat.lt_of_lt_of_le (h.waits_lt id ticket hold) hnext
    · exact hlt
  · -- A new wait has a ticket that no other has.
    intro id other ticket hmem hmem'
    rcases h.wait_beat hmem with hold | ⟨hid, hticket, _⟩ <;>
      rcases h.wait_beat hmem' with hold' | ⟨hother, hticket', _⟩
    · exact h.waits_once id other ticket hold hold'
    · exact absurd hticket' (Nat.ne_of_lt (h.waits_lt id ticket hold))
    · exact absurd hticket (Nat.ne_of_lt (h.waits_lt other ticket hold'))
    · rw [hid, hother]

/-- What was tracked stays tracked. -/
theorem Peaceful.isTracked_beat (h : link.Peaceful) (b : Beat)
    (htracked : link.waiter.isTracked workspace) : (link.beat b).waiter.isTracked workspace := by
  rcases h.waiter_cases b with ⟨_, hhushed⟩ | ⟨other, status, rfl⟩ | hheard
  · exact hhushed.remembers (h.not_dealings b).2 workspace htracked
  · have htracks : (link.beat (.waitForStatus other status)).waiter.tracked = link.waiter.tracked :=
      h.wired.tracked_beat (fun _ hnot => hnot) (fun _ _ hnot => hnot)
    rw [StatusWaiter.isTracked, htracks]
    exact htracked
  · have htracks := congrArg (·.1.tracked) hheard
    dsimp only at htracks
    rw [StatusWaiter.isTracked, htracks, StatusWaiter.learn_tracked]
    exact htracked

/-- What is tracked is heard of. -/
theorem Peaceful.feeds (h : link.Peaceful) (htracked : link.waiter.isTracked workspace) :
    ∃ handler, link.Feeds workspace handler := by
  obtain ⟨subscription, hlookup⟩ := Option.isSome_iff_exists.mp htracked
  exact ⟨subscription.handler, (h.kept.tracked workspace subscription hlookup).feeds.mpr not_false⟩

theorem Peaceful.finished_beat (h : link.Peaceful) (b : Beat) :
    link.finished <+: (link.beat b).finished := by
  cases hbegins : isBeginning b with
  | false => exact (modest_beat hbegins (h.not_dealings b).1).finished
  | true =>
    cases b with
    | call call => exact List.prefix_refl _
    | waitForStatus workspace status =>
      have hfinished : (link.beat (.waitForStatus workspace status)).finished = link.finished :=
        (congrArg Link.finished (beat_waitForStatus_essence workspace status link) :)
      exact hfinished ▸ List.prefix_refl _
    | _ => simp [isBeginning] at hbegins

/-! ### A call that tracks a workspace -/

/-- A call that tracks a workspace is under way or has failed, unless the workspace is tracked. -/
structure Strives (link : Link) (workspace : WorkspaceId) (id : Nat) : Prop where
  pursues : Pursues workspace id link
  tracked : ∀ outcome, (id, outcome) ∈ link.finished → (∃ error, outcome = .failed error) ∨
    link.waiter.isTracked workspace

theorem Strives.rested (h : link.Strives workspace id) (ambient : Ambient) (woken : List Nat) :
    Strives { link with ambient, woken } workspace id :=
  ⟨⟨h.pursues.lt_next, h.pursues.stands⟩, h.tracked⟩

theorem Strives.beat (h : link.Strives workspace id) (hlink : link.Peaceful) (b : Beat) :
    (link.beat b).Strives workspace id := by
  have htries := h.pursues.tries_beat hlink.kept hlink.wired.attached hlink.booked.table b
  refine ⟨h.pursues.beat hlink.kept hlink.wired.attached hlink.booked.table b, ?_⟩
  intro outcome hmem
  rcases htries.remembers outcome hmem with hold | hfailed | ⟨subscription, hlookup⟩
  · exact (h.tracked outcome hold).imp_right (hlink.isTracked_beat b)
  · exact .inl hfailed
  · exact .inr (Option.isSome_iff_exists.mpr ⟨subscription, hlookup⟩)

theorem Peaceful.strives_track (h : link.Peaceful) (workspace : WorkspaceId) :
    (link.beat (.call (.track workspace))).Strives workspace link.nextTask := by
  refine ⟨h.enrolled.pursues_track workspace, fun outcome hmem => ?_⟩
  exact absurd (h.finished_lt (link.nextTask, outcome) hmem) (Nat.lt_irrefl _)

/-! ### One wait -/

/-- The task is ready after a beat: it was and has not run, or it is woken. -/
def ReadyAfter (link : Link) (b : Beat) (id : Nat) (ready : Prop) : Prop :=
  ready ∧ runs? b ≠ some id ∨ id ∈ (link.beat b).woken

/-- A wait has ended: its call is ready to take note of that, or has returned. -/
inductive Reached (link : Link) (ready : Prop) (id ticket : Nat) : Prop where
  | ended {result : StatusResult} (htask : link.task? id = some (.call (.status ticket)))
    (hrunning : ∀ outcome, (id, outcome) ∉ link.finished)
    (hmem : (ticket, result) ∈ link.statuses) (hready : ready) : Reached link ready id ticket
  | returned {event : Option WorkspaceStatusEvent}
    (hlookup : link.finished.lookup id = some (.status event)) : Reached link ready id ticket

/-- Where a wait can stand. -/
inductive Awaits (link : Link) (ready : Prop) (id : Nat) (wait : StatusWait) : Prop where
  | pending (htask : link.task? id = some (.call (.status wait.ticket)))
    (hrunning : ∀ outcome, (id, outcome) ∉ link.finished) (hmem : wait ∈ link.waiter.waits) :
    Awaits link ready id wait
  | reached (h : Reached link ready id wait.ticket) : Awaits link ready id wait

theorem Reached.rested {ticket : Nat} (h : Reached link ready id ticket) (hready : ready → ready')
    (ambient : Ambient) (woken : List Nat) :
    Reached { link with ambient, woken } ready' id ticket := by
  cases h with
  | ended htask hrunning hmem hold => exact .ended htask hrunning hmem (hready hold)
  | returned hlookup => exact .returned hlookup

theorem Awaits.rested (h : Awaits link ready id wait) (hready : ready → ready')
    (ambient : Ambient) (woken : List Nat) :
    Awaits { link with ambient, woken } ready' id wait := by
  cases h with
  | pending htask hrunning hmem => exact .pending htask hrunning hmem
  | reached h => exact .reached (h.rested hready ambient woken)

/-- A call that waits goes on waiting in a beat that does not concern it. -/
theorem Peaceful.waits_on (h : link.Peaceful) {b : Beat} (hconcerns : concerns? b ≠ some id)
    (htask : link.task? id = some task) (hrunning : ∀ outcome, (id, outcome) ∉ link.finished) :
    (link.beat b).task? id = some task ∧ ∀ outcome, (id, outcome) ∉ (link.beat b).finished := by
  have hkeeps := keeps_beat link b
  have hlt : id < link.nextTask := h.enrolled _ (mem_of_task? htask)
  refine ⟨(hkeeps.tasks id hlt hconcerns).trans htask, fun outcome hmem => ?_⟩
  exact hrunning outcome ((hkeeps.finished _ hmem).resolve_right hconcerns)

/-- Only its own call takes note of the end of a wait. -/
theorem Peaceful.mem_statuses (h : link.Peaceful) {b : Beat} {ticket : Nat} {result : StatusResult}
    (hmem : (ticket, result) ∈ link.statuses)
    (htask : link.task? id = some (.call (.status ticket))) (hruns : runs? b ≠ some id) :
    (ticket, result) ∈ (link.beat b).statuses := by
  rcases h.waiter_cases b with ⟨_, hhushed⟩ | ⟨workspace, status, rfl⟩ | hheard
  · refine (hhushed.statuses (h.not_dealings b).2 _).2 (fun hdealing => ?_) hmem
    cases b with
    | task other =>
      obtain ⟨stage, hother, hdeals⟩ := hdealing
      obtain rfl : stage = .status ticket := by
        unfold deals at hdeals
        split at hdeals <;> simp_all
      have hsame := h.waits_once other id ticket (mem_of_task? hother) (mem_of_task? htask)
      exact hruns (congrArg some hsame)
    | _ => exact hdealing.elim
  · have hwaiter := congrArg Prod.snd (beat_waitForStatus_waiter workspace status link)
    dsimp only at hwaiter
    rw [hwaiter]
    exact List.mem_append_left _ hmem
  · have hsettled := congrArg Prod.snd hheard
    dsimp only at hsettled
    rw [hsettled]
    exact (StatusWaiter.prefix_learn _).subset hmem

/-- The call of a wait that has ended returns in its turn. -/
theorem Peaceful.returns (h : link.Peaceful) {ticket : Nat} {result : StatusResult}
    (htask : link.task? id = some (.call (.status ticket)))
    (hrunning : ∀ outcome, (id, outcome) ∉ link.finished)
    (hmem : (ticket, result) ∈ link.statuses) :
    ∃ event, (link.beat (.task id)).finished.lookup id = some (.status event) := by
  have hsome : (link.statuses.lookup ticket).isSome :=
    List.lookup_isSome_iff.mpr ⟨_, hmem, beq_self_eq_true ticket⟩
  obtain ⟨found, hfound⟩ := Option.isSome_iff_exists.mp hsome
  obtain ⟨before, after, heq, _⟩ := List.lookup_eq_some_iff.mp hfound
  have hkept : found ≠ .abandoned := h.tickets.kept (ticket, found) (by simp [heq])
  obtain ⟨event, houtcome⟩ : ∃ event, statusOutcome found = .status event := by
    cases found with
    | already => exact ⟨none, rfl⟩
    | reached event => exact ⟨some event, rfl⟩
    | abandoned => exact absurd rfl hkept
  have hnone : link.finished.lookup id = none := by
    rw [List.lookup_eq_none_iff]
    rintro ⟨other, outcome⟩ hother
    simp only [bne_iff_ne]
    rintro rfl
    exact hrunning outcome hother
  refine ⟨event, ?_⟩
  simp only [beat_task_call htask, runCall, awaitStatus, hfound, finish, List.lookup_append]
  rw [hnone, houtcome]
  simp

theorem Reached.beat {ticket : Nat} (h : Reached link ready id ticket) (hlink : link.Peaceful)
    {b : Beat} (hconcerns : concerns? b = some id → runs? b = some id) :
    Reached (link.beat b) (link.ReadyAfter b id ready) id ticket := by
  cases h with
  | returned hlookup =>
    obtain ⟨more, hmore⟩ := hlink.finished_beat b
    have hlookup' := congrArg (List.lookup id) hmore
    rw [List.lookup_append, hlookup, Option.some_or] at hlookup'
    exact .returned hlookup'.symm
  | ended htask hrunning hmem hready =>
    by_cases hruns : runs? b = some id
    · obtain rfl := eq_task_of_runs? hruns
      obtain ⟨event, hlookup⟩ := hlink.returns htask hrunning hmem
      exact .returned hlookup
    · obtain ⟨htask', hrunning'⟩ := hlink.waits_on (mt hconcerns hruns) htask hrunning
      exact .ended htask' hrunning' (hlink.mem_statuses hmem htask hruns) (.inl ⟨hready, hruns⟩)

/-- The waiter hears an event that ends a wait: the call is woken. -/
theorem Awaits.heard (h : Awaits link ready id wait) (hlink : link.Peaceful) {b : Beat}
    (hconcerns : concerns? b = some id → runs? b = some id) {event : WorkspaceStatusEvent}
    (hmem : event ∈ link.heeded (link.arrivals b)) (hends : StatusWaiter.Ends event wait) :
    Reached (link.beat b) (link.ReadyAfter b id ready) id wait.ticket := by
  cases h with
  | reached h => exact h.beat hlink hconcerns
  | pending htask hrunning hwait =>
    have hsome : link.arrivals b ≠ [] := by
      intro hnone
      simp [heeded, yield, hnone, TransportEvent.allNotices] at hmem
    have hother : concerns? b ≠ some id := by
      intro hown
      obtain rfl := eq_task_of_runs? (hconcerns hown)
      exact hsome rfl
    have hheard := congrArg Prod.snd (hlink.wired.beat_waiter hsome)
    obtain ⟨first, _, _, hsettled⟩ := StatusWaiter.mem_learn_of_ends (link.waiter, link.statuses)
      hwait ⟨event, hmem, hends⟩
    dsimp only at hheard
    rw [← hheard] at hsettled
    obtain ⟨htask', hrunning'⟩ := hlink.waits_on hother htask hrunning
    -- The wait had not ended before, so that this is news, and news wakes the call.
    have hnews := (rouses_beat link b).news (.statusSettled wait.ticket) ⟨_, hsettled⟩
    have hwoken : id ∈ (link.beat b).woken := by
      rcases hnews with ⟨result, hold⟩ | hwakes
      · exact absurd rfl (hlink.tickets.settled_closed wait hwait _ hold)
      · exact hwakes _ (mem_of_task? htask) hother (by simp [Task.awaits, Stage.awaits])
    exact .ended htask' hrunning' hsettled (.inr hwoken)

/-- A wait that no event ends stays open. -/
theorem Peaceful.mem_waits (h : link.Peaceful) {b : Beat} (hmem : wait ∈ link.waiter.waits)
    (hnot : ∀ event ∈ link.heeded (link.arrivals b), ¬ StatusWaiter.Ends event wait) :
    wait ∈ (link.beat b).waiter.waits := by
  rcases h.waiter_cases b with ⟨_, hhushed⟩ | ⟨workspace, status, rfl⟩ | hheard
  · have hwaits := (congrArg StatusWaiter.waits (hhushed.waiter (h.not_dealings b).2) :)
    exact hwaits ▸ hmem
  · have hwaiter := congrArg Prod.fst (beat_waitForStatus_waiter workspace status link)
    dsimp only at hwaiter
    rw [hwaiter]
    exact StatusWaiter.mem_waits_waitFor hmem workspace status
  · have hwaiter := congrArg Prod.fst hheard
    dsimp only at hwaiter
    rw [hwaiter]
    exact (StatusWaiter.mem_waits_learn _).mpr ⟨hmem, hnot⟩

theorem Awaits.beat (h : Awaits link ready id wait) (hlink : link.Peaceful) {b : Beat}
    (hconcerns : concerns? b = some id → runs? b = some id) :
    Awaits (link.beat b) (link.ReadyAfter b id ready) id wait := by
  by_cases hends : ∃ event ∈ link.heeded (link.arrivals b), StatusWaiter.Ends event wait
  · obtain ⟨event, hmem, hends⟩ := hends
    exact .reached (h.heard hlink hconcerns hmem hends)
  · cases h with
    | reached h => exact .reached (h.beat hlink hconcerns)
    | pending htask hrunning hwait =>
      have hstill := hlink.mem_waits hwait fun event hmem hnot => hends ⟨event, hmem, hnot⟩
      by_cases hruns : runs? b = some id
      · obtain rfl := eq_task_of_runs? hruns
        have hnone : link.statuses.lookup wait.ticket = none := by
          rw [List.lookup_eq_none_iff]
          intro entry hentry
          exact bne_iff_ne.mpr (hlink.tickets.settled_closed wait hwait entry hentry).symm
        have hbeat : link.beat (.task id) = link.setTask id (.call (.status wait.ticket)) := by
          simp only [beat_task_call htask, runCall, awaitStatus, hnone]
        rw [hbeat] at hstill ⊢
        refine .pending ?_ hrunning hstill
        rw [task?_setTask, if_pos rfl, htask]
        rfl
      · obtain ⟨htask', hrunning'⟩ := hlink.waits_on (mt hconcerns hruns) htask hrunning
        exact .pending htask' hrunning' hstill

/-- A wait that begins is open, or has ended at once and its call is ready. -/
theorem Peaceful.awaits_new (h : link.Peaceful) (workspace : WorkspaceId) (status : Status) :
    let after := link.beat (.waitForStatus workspace status)
    Awaits after (link.nextTask ∈ after.woken) link.nextTask
      ⟨link.waiter.nextTicket, workspace, status⟩ := by
  intro after
  have hessence := beat_waitForStatus_essence workspace status link
  have htask : after.task? link.nextTask = some (.call (.status link.waiter.nextTicket)) := by
    have htasks : after.task? link.nextTask =
        (link.spawn (.call (.status link.waiter.nextTicket))).task? link.nextTask :=
      (congrArg (·.task? link.nextTask) hessence :)
    rw [htasks, task?_spawn, h.enrolled.task?_nextTask, if_pos rfl]
    rfl
  have hrunning : ∀ outcome, (link.nextTask, outcome) ∉ after.finished := by
    intro outcome hmem
    have hfinished : after.finished = link.finished := (congrArg Link.finished hessence :)
    exact Nat.lt_irrefl _ (h.finished_lt _ (hfinished ▸ hmem))
  have hwaiter := beat_waitForStatus_waiter workspace status link
  unfold StatusWaiter.waitFor at hwaiter
  dsimp only at hwaiter
  split at hwaiter <;> rw [Prod.mk.injEq] at hwaiter
  · have hended : (link.waiter.nextTicket, .already) ∈ after.statuses := by
      rw [hwaiter.2]
      exact List.mem_append_right _ (List.mem_singleton.mpr rfl)
    have hwoken : link.nextTask ∈ after.woken := by
      apply List.mem_append_right
      have hnext := congrArg Link.nextTask (settleStatuses_essence
        (link.waiter.waitFor workspace status).2.2
        { link with waiter := (link.waiter.waitFor workspace status).2.1 })
      exact List.mem_singleton.mpr hnext.symm
    exact .reached (.ended htask hrunning hended hwoken)
  · refine .pending htask hrunning ?_
    rw [hwaiter.1]
    exact List.mem_append_right _ (List.mem_singleton.mpr rfl)

end Link

end WorkspaceLink
