import WorkspaceLink.Proofs.Link.Awaiting
import WorkspaceLink.Watch.Command

/-!
# When the goal of the command is reached

The command prints the events of the workspaces it follows from the moment it subscribes to them. It
begins to wait for their statuses only when it has subscribed to everything: for one workspace after
the other, a wait begins and the status waiter is told to track the workspace. What the command
prints before that is not counted.

The tasks of the link, the server and time take turns with the command in any order, `Cue`.
`Going` is what the command keeps until it cleans up: its session is at peace, and each of its waits
stands somewhere. Main statement: once the command waits, every workspace has a wait, and the status
waiter attends to it; and when, for each of them, a line with the goal was printed after its wait
began and while the waiter attended to it, the command has reached its goal as soon as no wait has a
call that is ready.
-/
namespace WorkspaceLink

namespace Fleet

variable {fleet : Fleet} {k : Nat}

theorem mem_enqueue {queue : List (Nat × Nat)} {entry other : Nat × Nat} :
    entry ∈ enqueue queue other ↔ entry ∈ queue ∨ entry = other := by
  unfold enqueue
  split
  next h =>
    have hmem : other ∈ queue := by simpa using h
    constructor
    · exact .inl
    · rintro (hold | rfl)
      · exact hold
      · exact hmem
  next => simp

theorem mem_enqueueAll {queue entries : List (Nat × Nat)} {entry : Nat × Nat} :
    entry ∈ entries.foldl enqueue queue ↔ entry ∈ queue ∨ entry ∈ entries := by
  induction entries generalizing queue with
  | nil => simp
  | cons other rest ih => rw [List.foldl_cons, ih, mem_enqueue, List.mem_cons, or_assoc]

/-- What acting on a link leaves. -/
theorem act_eq {α : Type} {link : Link} (h : fleet.link? k = some link)
    (action : Link → α × Link) :
    fleet.act k action =
      (some (action { link with ambient := fleet.ambient }).1,
        fleet.restore k (action { link with ambient := fleet.ambient }).2) := by
  unfold link? at h
  simp only [act, h]

theorem update_eq {link : Link} (h : fleet.link? k = some link) (change : Link → Link) :
    fleet.update k change = fleet.restore k (change { link with ambient := fleet.ambient }) :=
  congrArg Prod.snd (act_eq h _)

theorem link?_restore {old : Link} (h : fleet.link? k = some old) (link : Link) :
    (fleet.restore k link).link? k = some { link with woken := [] } := by
  obtain ⟨hlt, _⟩ := List.getElem?_eq_some_iff.mp h
  simp [restore, link?, hlt]

end Fleet

namespace Watch

open Link (Beat Peaceful Awaits Reached ReadyAfter runs? concerns? beginsGently)

variable {w first second : Watch} {b : Beat} {status : Status} {arguments : Arguments}
  {counted : WorkspaceId × Nat → Prop} {entry : WorkspaceId × Nat} {workspace : WorkspaceId}

/-! ### What happens around the command -/

/-- What happens while the command runs. -/
inductive Cue where
  /-- A task of the link has its turn, time passes, or the server does something. -/
  | happens (b : Beat)
  /-- The command goes on, if what it waits for is there. -/
  | step
  | interrupt

/-- The beat is not the command's own. -/
def isOutside : Beat → Bool
  | .task _ | .elapse _ | .handshakeEnds _ _ => true
  | .socket turn => Link.isService turn
  | _ => false

/-- The link of the command takes a beat; a task that runs is not ready any more. -/
def reach (b : Beat) (w : Watch) : Watch :=
  let waiting := { w.connections.fleet with
    ready := w.connections.fleet.ready.filter fun entry =>
      ¬ (entry.1 = w.session ∧ runs? b = some entry.2) }
  { w with connections :=
      { w.connections with fleet := waiting.update w.session fun link => link.beat b } }

def next (w : Watch) : Cue → Watch
  | .happens b => if isOutside b then w.reach b else w
  | .step => w.step?.getD w
  | .interrupt => w.interrupt

def run (w : Watch) (cues : List Cue) : Watch := cues.foldl next w

def link (w : Watch) : Link :=
  { (w.connections.fleet.link? w.session).getD default with ambient := w.connections.fleet.ambient }

def IsLinked (w : Watch) : Prop := (w.connections.fleet.link? w.session).isSome

/-- The task of the link is about to run. -/
def IsReady (w : Watch) (id : Nat) : Prop := (w.session, id) ∈ w.connections.fleet.ready

def followed (w : Watch) : List WorkspaceId := w.arguments.workspaces.map Id.mk

/-! ### The link of the command -/

/-- The link takes a beat, and nothing else happens. -/
structure Moves (b : Beat) (first second : Watch) : Prop where
  arguments : second.arguments = first.arguments
  waits : second.waits = first.waits
  linked : second.IsLinked
  link : second.link = { first.link.beat b with woken := [] }
  ready : ∀ id, first.link.ReadyAfter b id (first.IsReady id) → second.IsReady id

theorem link_eq {link : Link} (h : w.connections.fleet.link? w.session = some link) :
    w.link = { link with ambient := w.connections.fleet.ambient } := by
  simp only [Watch.link, h, Option.getD_some]

theorem act_fst (h : w.IsLinked) (action : Link → Nat × Link) :
    (w.act action).1 = (action w.link).1 := by
  obtain ⟨link, hlink⟩ := Option.isSome_iff_exists.mp h
  simp only [act, Fleet.act_eq hlink, link_eq hlink, Option.getD_some]

/-- The link takes a beat, after the tasks that are ready were put down anew. -/
theorem moves_restore {link : Link} (h : w.connections.fleet.link? w.session = some link)
    {ready : List (Nat × Nat)}
    (hruns : ∀ id, w.IsReady id → runs? b ≠ some id → (w.session, id) ∈ ready) :
    Moves b w { w with connections := { w.connections with
      fleet := Fleet.restore w.session (w.link.beat b) { w.connections.fleet with ready } } } := by
  let waiting : Fleet := { w.connections.fleet with ready }
  have hrestored : (waiting.restore w.session (w.link.beat b)).link? w.session =
      some { w.link.beat b with woken := [] } := Fleet.link?_restore h _
  refine ⟨rfl, rfl, ?_, ?_, fun id hready => ?_⟩
  · exact Option.isSome_iff_exists.mpr ⟨_, hrestored⟩
  · simp only [waiting, Watch.link] at hrestored ⊢
    rw [hrestored]
    rfl
  · apply Fleet.mem_enqueueAll.mpr
    rcases hready with ⟨hold, hnot⟩ | hwoken
    · exact .inl (hruns id hold hnot)
    · exact .inr (List.mem_map.mpr ⟨id, hwoken, rfl⟩)

theorem moves_reach (h : w.IsLinked) (b : Beat) : Moves b w (w.reach b) := by
  obtain ⟨link, hlink⟩ := Option.isSome_iff_exists.mp h
  let waiting : Fleet := { w.connections.fleet with
    ready := w.connections.fleet.ready.filter fun entry =>
      ¬ (entry.1 = w.session ∧ runs? b = some entry.2) }
  have hwaiting : waiting.link? w.session = some link := hlink
  have hupdate : (waiting.update w.session fun link => link.beat b) =
      waiting.restore w.session (w.link.beat b) := by
    rw [Fleet.update_eq hwaiting, link_eq hlink]
  have hreach : w.reach b = { w with connections := { w.connections with
      fleet := waiting.restore w.session (w.link.beat b) } } := by
    rw [← hupdate]
    rfl
  rw [hreach]
  refine moves_restore hlink fun id hready hruns => ?_
  exact List.mem_filter.mpr ⟨hready, by simpa using hruns⟩

theorem moves_act (h : w.IsLinked) {action : Link → Nat × Link}
    (haction : (action w.link).2 = w.link.beat b) : Moves b w (w.act action).2 := by
  obtain ⟨link, hlink⟩ := Option.isSome_iff_exists.mp h
  have hact : (w.act action).2 = { w with connections := { w.connections with
      fleet := w.connections.fleet.restore w.session (w.link.beat b) } } := by
    rw [← haction]
    simp only [act, Fleet.act_eq hlink, link_eq hlink]
  rw [hact]
  exact moves_restore hlink fun id hready _ => hready

theorem outcome?_eq (h : w.IsLinked) (call : Nat) :
    w.outcome? call = w.link.finished.lookup call := by
  obtain ⟨link, hlink⟩ := Option.isSome_iff_exists.mp h
  simp only [outcome?, hlink, link_eq hlink, Option.bind_some]

/-! ### What the command keeps -/

/-- The session is at peace, each wait of the command stands somewhere, and those that count as
reached are not open. -/
structure Sound (arguments : Arguments) (status : Status) (counted : WorkspaceId × Nat → Prop)
    (w : Watch) : Prop where
  arguments_eq : w.arguments = arguments
  linked : w.IsLinked
  peaceful : w.link.Peaceful
  waits : ∀ entry ∈ w.waits, ∃ ticket,
    w.link.Awaits (w.IsReady entry.2) entry.2 ⟨ticket, entry.1, status⟩
  reached : ∀ entry, counted entry → ∃ ticket, w.link.Reached (w.IsReady entry.2) entry.2 ticket

/-- It does not depend on where the command stands, or on what it is subscribed to. -/
theorem Sound.standing (h : Sound arguments status counted w) (stage : WatchStage)
    (subscriptions : List Subscription) :
    Sound arguments status counted { w with stage, subscriptions } :=
  ⟨h.arguments_eq, h.linked, h.peaceful, h.waits, h.reached⟩

/-- No beat of the command concerns a task, unless the task runs. -/
def LeavesTasks (b : Beat) : Prop := ∀ id, concerns? b = some id → runs? b = some id

theorem leavesTasks_of_none (h : concerns? b = none) : LeavesTasks b := by
  intro id hconcerns
  rw [h] at hconcerns
  simp at hconcerns

theorem leavesTasks_of_isOutside (h : isOutside b) : LeavesTasks b := by
  intro id hconcerns
  cases b with
  | task other => exact hconcerns
  | socket turn => cases turn <;> simp_all [isOutside, Link.isService, concerns?]
  | _ => simp_all [isOutside, concerns?]

theorem beginsGently_of_isOutside (h : isOutside b) : beginsGently b := by
  cases b with
  | call call => simp [isOutside] at h
  | _ => rfl

theorem Moves.awaits {wait : StatusWait} {id : Nat} (hm : Moves b first second)
    (hlink : first.link.Peaceful) (hleaves : LeavesTasks b)
    (h : first.link.Awaits (first.IsReady id) id wait) :
    second.link.Awaits (second.IsReady id) id wait := by
  rw [hm.link]
  exact (h.beat hlink (hleaves id)).rested (hm.ready id) _ _

theorem Moves.reached {id ticket : Nat} (hm : Moves b first second)
    (hlink : first.link.Peaceful) (hleaves : LeavesTasks b)
    (h : first.link.Reached (first.IsReady id) id ticket) :
    second.link.Reached (second.IsReady id) id ticket := by
  rw [hm.link]
  exact (h.beat hlink (hleaves id)).rested (hm.ready id) _ _

theorem Moves.isTracked (hm : Moves b first second) (hlink : first.link.Peaceful)
    (h : first.link.waiter.isTracked workspace) : second.link.waiter.isTracked workspace := by
  rw [hm.link]
  exact hlink.isTracked_beat b h

theorem Moves.strives {id : Nat} (hm : Moves b first second) (hlink : first.link.Peaceful)
    (h : first.link.Strives workspace id) : second.link.Strives workspace id := by
  rw [hm.link]
  exact (h.beat hlink b).rested _ _

theorem Sound.moves (h : Sound arguments status counted first) (hm : Moves b first second)
    (hgentle : beginsGently b) (hleaves : LeavesTasks b) :
    Sound arguments status counted second where
  arguments_eq := hm.arguments.trans h.arguments_eq
  linked := hm.linked
  peaceful := by
    rw [hm.link]
    exact (h.peaceful.beat hgentle).rested _ _
  waits entry hmem := by
    obtain ⟨ticket, hawaits⟩ := h.waits entry (hm.waits ▸ hmem)
    exact ⟨ticket, hm.awaits h.peaceful hleaves hawaits⟩
  reached entry hcounted := by
    obtain ⟨ticket, hstands⟩ := h.reached entry hcounted
    exact ⟨ticket, hm.reached h.peaceful hleaves hstands⟩

/-- Where the command stands, and which of the workspaces are tracked there. -/
def Placed (w : Watch) : Prop :=
  match w.stage with
  | .connecting _ | .subscribing _ _ => w.waits = []
  | .tracking call rest => ∃ done workspace, w.followed = done ++ workspace :: rest ∧
      w.waits.map Prod.fst = done ++ [workspace] ∧
      (∀ other ∈ done, w.link.waiter.isTracked other) ∧ w.link.Strives workspace call
  | .waiting => w.waits.map Prod.fst = w.followed ∧
      ∀ other ∈ w.followed, w.link.waiter.isTracked other
  | .unsubscribing _ _ | .ended _ => False

/-- The command has not begun to clean up. -/
structure Going (arguments : Arguments) (status : Status) (counted : WorkspaceId × Nat → Prop)
    (w : Watch) : Prop extends Sound arguments status counted w where
  placed : w.Placed

/-- The command cleans up, or has ended. -/
def isOver (w : Watch) : Bool :=
  match w.stage with
  | .unsubscribing _ _ | .ended _ => true
  | _ => false

theorem Going.moves (h : Going arguments status counted first) (hm : Moves b first second)
    (hgentle : beginsGently b) (hleaves : LeavesTasks b) (hstage : second.stage = first.stage) :
    Going arguments status counted second := by
  refine ⟨h.toSound.moves hm hgentle hleaves, ?_⟩
  have hplaced := h.placed
  have hfollowed : second.followed = first.followed := by rw [followed, hm.arguments]; rfl
  unfold Placed at hplaced ⊢
  rw [hstage, hm.waits, hfollowed]
  split at hplaced
  · exact hplaced
  · exact hplaced
  next call rest _ =>
    obtain ⟨done, workspace, hsplit, hwaits, htracked, hstrives⟩ := hplaced
    exact ⟨done, workspace, hsplit, hwaits,
      fun other hmem => hm.isTracked h.peaceful (htracked other hmem),
      hm.strives h.peaceful hstrives⟩
  · exact ⟨hplaced.1, fun other hmem => hm.isTracked h.peaceful (hplaced.2 other hmem)⟩
  · exact hplaced.elim
  · exact hplaced.elim

/-! ### The command goes on -/

theorem moves_start (h : w.IsLinked) (call : Call) : Moves (.call call) w (w.start call).2 :=
  moves_act h rfl

theorem Sound.start (h : Sound arguments status counted w) {call : Call}
    (hgentle : Link.isGentle call) : Sound arguments status counted (w.start call).2 :=
  h.moves (moves_start h.linked call) hgentle (leavesTasks_of_none rfl)

/-- The command begins to wait for one workspace after the other. -/
theorem Sound.trackNext (h : Sound arguments status counted w) {done rest : List WorkspaceId}
    (hsplit : w.followed = done ++ rest) (hwaits : w.waits.map Prod.fst = done)
    (htracked : ∀ other ∈ done, w.link.waiter.isTracked other) :
    Going arguments status counted (w.trackNext status rest) := by
  cases rest with
  | nil =>
    rw [List.append_nil] at hsplit
    refine ⟨h.standing .waiting w.subscriptions, hwaits.trans hsplit.symm, ?_⟩
    exact fun other hmem => htracked other (hsplit ▸ hmem)
  | cons workspace rest =>
    -- The wait begins before the workspace is tracked.
    let wait := (w.act (Link.waitForStatus workspace status)).1
    let begun := (w.act (Link.waitForStatus workspace status)).2
    have hbegins : Moves (.waitForStatus workspace status) w begun := moves_act h.linked rfl
    have hbegun := h.moves hbegins rfl (leavesTasks_of_none rfl)
    have hnew : begun.link.Awaits (begun.IsReady wait) wait
        ⟨w.link.waiter.nextTicket, workspace, status⟩ := by
      have hwait : wait = w.link.nextTask := act_fst h.linked _
      rw [hbegins.link, hwait]
      refine (h.peaceful.awaits_new workspace status).rested (fun hwoken => ?_) _ _
      exact hbegins.ready _ (.inr hwoken)
    let call := (begun.start (.track workspace)).1
    let tracking := (begun.start (.track workspace)).2
    have hstarts : Moves (.call (.track workspace)) begun tracking := moves_start hbegun.linked _
    have htracking : Sound arguments status counted tracking := hbegun.start rfl
    have hstrives : tracking.link.Strives workspace call := by
      have hcall : call = begun.link.nextTask := act_fst hbegun.linked _
      rw [hstarts.link, hcall]
      exact (hbegun.peaceful.strives_track workspace).rested _ _
    refine ⟨⟨htracking.arguments_eq, htracking.linked, htracking.peaceful, fun entry hmem => ?_,
      htracking.reached⟩, done, workspace, ?_, ?_, fun other hmem => ?_, hstrives⟩
    · rcases List.mem_append.mp hmem with hold | hlast
      · exact htracking.waits entry hold
      · obtain rfl := List.mem_singleton.mp hlast
        exact ⟨_, hstarts.awaits hbegun.peaceful (leavesTasks_of_none rfl) hnew⟩
    · exact hsplit
    · change (w.waits ++ [(workspace, wait)]).map Prod.fst = _
      rw [List.map_append, hwaits]
      rfl
    · exact hstarts.isTracked hbegun.peaceful (hbegins.isTracked h.peaceful (htracked other hmem))

theorem Sound.beginWaiting (h : Sound arguments status counted w)
    (hgoal : arguments.goal = some status) (hwaits : w.waits = []) :
    Going arguments status counted w.beginWaiting := by
  have hown : w.arguments.goal = some status := h.arguments_eq ▸ hgoal
  unfold Watch.beginWaiting
  rw [hown]
  have hnothing : w.followed = [] ++ w.followed := rfl
  exact h.trackNext hnothing (by rw [hwaits]; rfl) nofun

theorem Sound.subscribeNext (h : Sound arguments status counted w)
    (hgoal : arguments.goal = some status) (hwaits : w.waits = []) (rest : List Selection) :
    Going arguments status counted (w.subscribeNext rest) := by
  induction rest with
  | nil => exact h.beginWaiting hgoal hwaits
  | cons selection rest ih =>
    unfold Watch.subscribeNext
    split
    · exact ih
    next topic _ =>
      have hsound : Sound arguments status counted
          (w.start (.subscribe topic ⟨selection, .print⟩)).2 := h.start rfl
      exact ⟨hsound.standing _ _, hwaits⟩

theorem isOver_unsubscribeNext (rest : List Subscription) (w : Watch) :
    (w.unsubscribeNext rest).isOver := by
  cases rest <;> rfl

theorem isOver_cleanUp (failure : Option Failure) (w : Watch) : (w.cleanUp failure).isOver :=
  isOver_unsubscribeNext _ _

theorem Going.step (h : Going arguments status counted w) (hgoal : arguments.goal = some status)
    {after : Watch} (hstep : w.step? = some after) :
    after.isOver ∨ Going arguments status counted after := by
  have hplaced := h.placed
  unfold Placed at hplaced
  unfold step? at hstep
  split at hplaced
  next call hstage =>
    simp only [hstage, Option.map_eq_some_iff] at hstep
    obtain ⟨outcome, _, rfl⟩ := hstep
    split
    · exact .inl rfl
    · exact .inr (h.toSound.subscribeNext hgoal hplaced _)
  next call rest hstage =>
    simp only [hstage, Option.map_eq_some_iff] at hstep
    obtain ⟨outcome, _, rfl⟩ := hstep
    split
    next subscription _ =>
      have hsound := h.toSound.standing w.stage (w.subscriptions ++ [subscription])
      rw [hstage] at hsound
      exact .inr (hsound.subscribeNext hgoal hplaced rest)
    · exact .inl rfl
    · exact .inr (h.toSound.subscribeNext hgoal hplaced rest)
  next call rest hstage =>
    simp only [hstage, Option.map_eq_some_iff] at hstep
    obtain ⟨outcome, houtcome, rfl⟩ := hstep
    obtain ⟨done, workspace, hsplit, hwaits, htracked, hstrives⟩ := hplaced
    split
    · exact .inl (isOver_cleanUp _ w)
    next hworks =>
      rw [outcome?_eq h.linked] at houtcome
      obtain ⟨before, after, hfinished, _⟩ := List.lookup_eq_some_iff.mp houtcome
      have hnew : w.link.waiter.isTracked workspace := by
        refine (hstrives.tracked outcome (by simp [hfinished])).resolve_left ?_
        rintro ⟨error, rfl⟩
        exact hworks error rfl
      have hown : w.arguments.goal.getD .unknown = status := by
        rw [h.arguments_eq, hgoal]
        rfl
      rw [hown]
      refine .inr (h.toSound.trackNext (hsplit.trans (by simp)) hwaits fun other hmem => ?_)
      rcases List.mem_append.mp hmem with hold | hlast
      · exact htracked other hold
      · exact List.mem_singleton.mp hlast ▸ hnew
  next hstage =>
    simp only [hstage] at hstep
    split at hstep
    · obtain ⟨failure, _, rfl⟩ := Option.map_eq_some_iff.mp hstep
      exact .inl (isOver_cleanUp failure w)
    · simp at hstep
  · exact hplaced.elim
  · exact hplaced.elim

/-- Only the command's own end makes it end. -/
theorem isOver_next (h : w.isOver) (cue : Cue) : (w.next cue).isOver := by
  cases cue with
  | happens b =>
    unfold next
    dsimp only
    split
    · exact h
    · exact h
  | step =>
    unfold next step?
    dsimp only
    unfold isOver at h
    split at h
    next call rest hstage =>
      simp only [hstage]
      cases houtcome : w.outcome? call with
      | none => simp [isOver, hstage]
      | some outcome => exact isOver_unsubscribeNext rest w
    next failure hstage => simp [isOver, hstage]
    · simp at h
  | interrupt =>
    unfold isOver at h
    unfold next interrupt
    split at h <;> simp_all [isOver]

/-! ### What the command shows -/

/-- The status event that a subscriber prints when it hears a notification. -/
def shows? (subscriber : Subscriber) (params : Json) : Option WorkspaceStatusEvent :=
  match subscriber.sink, subscriber.selection.accept? params with
  | .print, some (.workspaceStatus event) => some event
  | _, _ => none

/-- The status events that a beat brings and of which lines are printed. -/
def shown (w : Watch) (b : Beat) : List WorkspaceStatusEvent :=
  ((TransportEvent.allNotices w.link.client.pending (w.link.arrivals b)).filter fun notice =>
    notice.method = Channel.workspaceStatus.method).flatMap
      (Link.gotten shows? w.link.client.handlers)

theorem mem_shown {event : WorkspaceStatusEvent} (h : event ∈ w.shown b) :
    ∃ params, ⟨Channel.workspaceStatus.method, params⟩ ∈
        TransportEvent.allNotices w.link.client.pending (w.link.arrivals b) ∧
      ∃ subscriber ∈ w.link.client.handlers.handlers Channel.workspaceStatus.method,
        subscriber.sink = .print ∧
        subscriber.selection.accept? params = some (.workspaceStatus event) := by
  obtain ⟨⟨method, params⟩, hnotice, hgotten⟩ := List.mem_flatMap.mp h
  obtain ⟨harrives, hmethod⟩ := List.mem_filter.mp hnotice
  obtain rfl : method = Channel.workspaceStatus.method := by simpa using hmethod
  obtain ⟨subscriber, hmem, hshows⟩ := List.mem_filterMap.mp hgotten
  refine ⟨params, harrives, subscriber, hmem, ?_⟩
  unfold shows? at hshows
  split at hshows
  next hprints haccepts => exact ⟨hprints, haccepts.trans (by rw [Option.some.inj hshows])⟩
  · simp at hshows

/-- What is shown is among the lines that were printed. -/
theorem Sound.mem_printed (h : Sound arguments status counted w) {event : WorkspaceStatusEvent}
    (hshown : event ∈ w.shown b) : event.line ∈ (w.reach b).printed := by
  obtain ⟨params, hnotice, subscriber, hmem, hprints, haccepts⟩ := mem_shown hshown
  have hnote : Note.line event.line ∈ w.link.noted (w.link.arrivals b) := by
    refine List.mem_flatMap.mpr ⟨_, hnotice, List.mem_filterMap.mpr ⟨subscriber, hmem, ?_⟩⟩
    simp [Subscriber.note?, haccepts, hprints, ChannelEvent.line]
  have hmoves := moves_reach h.linked b
  obtain ⟨link, hlink⟩ := Option.isSome_iff_exists.mp hmoves.linked
  have hnotes : link.notes = w.link.notes ++ w.link.noted (w.link.arrivals b) := by
    have hsame := (link_eq hlink).symm.trans hmoves.link
    rw [← h.peaceful.wired.beat_notes b]
    exact (congrArg Link.notes hsame :)
  simp only [printed, hlink, Option.map_some, Option.getD_some]
  refine List.mem_filterMap.mpr ⟨.line event.line, ?_, rfl⟩
  rw [hnotes]
  exact List.mem_append_right _ hnote

/-- The status waiter is registered for what happens to the workspace. -/
def Attends (w : Watch) (workspace : WorkspaceId) : Prop :=
  Link.trackingSubscriber workspace ∈
    w.link.client.handlers.handlers Channel.workspaceStatus.method

theorem Sound.attends (h : Sound arguments status counted w)
    (htracked : w.link.waiter.isTracked workspace) : w.Attends workspace := by
  obtain ⟨handler, hfeeds⟩ := h.peaceful.feeds htracked
  exact List.mem_map.mpr ⟨_, hfeeds, rfl⟩

/-- What is shown of such a workspace, the status waiter hears. -/
theorem Attends.mem_heeded {event : WorkspaceStatusEvent} (h : w.Attends event.workspaceId)
    (hshown : event ∈ w.shown b) : event ∈ w.link.heeded (w.link.arrivals b) := by
  obtain ⟨params, hnotice, _, _, _, haccepts⟩ := mem_shown hshown
  obtain ⟨⟨handler, subscriber⟩, hfeeds, rfl⟩ := List.mem_map.mp h
  have hown : w.link.Feeds event.workspaceId handler := hfeeds
  exact hown.mem_heeded hnotice (Link.decode_of_accept? haccepts) rfl

/-- A wait that began is shown to be over: a line is printed that its workspace has reached the
goal, while the status waiter attends to the workspace. -/
def ShowsReached (status : Status) (entry : WorkspaceId × Nat) (w : Watch) : Cue → Prop
  | .happens b => isOutside b ∧ entry ∈ w.waits ∧ w.Attends entry.1 ∧
      ∃ event ∈ w.shown b, event.workspaceId = entry.1 ∧ event.effectiveStatus = some status
  | .step | .interrupt => False

/-- The end of a wait was shown in the course of a run. -/
def ShownReached (status : Status) (start : Watch) (cues : List Cue)
    (entry : WorkspaceId × Nat) : Prop :=
  ∃ before cue after, cues = before ++ cue :: after ∧
    ShowsReached status entry (start.run before) cue

theorem shownReached_snoc {start : Watch} {cues : List Cue} {cue : Cue} :
    ShownReached status start (cues ++ [cue]) entry ↔
      ShownReached status start cues entry ∨ ShowsReached status entry (start.run cues) cue :=
  Link.exists_turn_snoc fun (w : Watch) (cue : Cue) => ShowsReached status entry w cue

theorem Sound.reached_of_shows (h : Sound arguments status counted w)
    (hshows : ShowsReached status entry w (.happens b)) :
    ∃ ticket, (w.reach b).link.Reached ((w.reach b).IsReady entry.2) entry.2 ticket := by
  obtain ⟨houtside, hmem, hattends, event, hshown, hown, hstatus⟩ := hshows
  obtain ⟨ticket, hawaits⟩ := h.waits entry hmem
  have hattends : w.Attends event.workspaceId := hown ▸ hattends
  have hreached := hawaits.heard h.peaceful (leavesTasks_of_isOutside houtside entry.2)
    (hattends.mem_heeded hshown) ⟨hown, hstatus⟩
  have hmoves := moves_reach h.linked b
  refine ⟨ticket, ?_⟩
  rw [hmoves.link]
  exact hreached.rested (hmoves.ready entry.2) _ _

theorem Going.congr {counted' : WorkspaceId × Nat → Prop} (h : Going arguments status counted w)
    (hreached : ∀ entry, counted' entry →
      ∃ ticket, w.link.Reached (w.IsReady entry.2) entry.2 ticket) :
    Going arguments status counted' w :=
  ⟨⟨h.arguments_eq, h.linked, h.peaceful, h.waits, hreached⟩, h.placed⟩

/-- Whatever happens, the command goes on or is over. -/
theorem Going.next (h : Going arguments status counted w) (hgoal : arguments.goal = some status)
    (cue : Cue) :
    (w.next cue).isOver ∨
      Going arguments status (fun entry => counted entry ∨ ShowsReached status entry w cue)
        (w.next cue) := by
  cases cue with
  | happens b =>
    right
    unfold Watch.next
    dsimp only
    split
    next houtside =>
      have hgoing := h.moves (moves_reach h.linked b) (beginsGently_of_isOutside houtside)
        (leavesTasks_of_isOutside houtside) rfl
      refine hgoing.congr fun entry hcounted => ?_
      exact hcounted.elim (hgoing.reached entry) h.toSound.reached_of_shows
    next hinside =>
      refine h.congr fun entry hcounted => ?_
      exact hcounted.elim (h.reached entry) fun hshows => absurd hshows.1 hinside
  | step =>
    cases hstep : w.step? with
    | none =>
      have hsame : w.next .step = w := by simp [Watch.next, hstep]
      rw [hsame]
      exact .inr (h.congr fun entry hcounted => h.reached entry (hcounted.resolve_right id))
    | some after =>
      have hnext : w.next .step = after := by simp [Watch.next, hstep]
      rw [hnext]
      refine (h.step hgoal hstep).imp_right fun hgoing => ?_
      exact hgoing.congr fun entry hcounted => hgoing.reached entry (hcounted.resolve_right id)
  | interrupt =>
    unfold Watch.next interrupt
    dsimp only
    split
    · exact .inl (isOver_cleanUp none w)
    · exact .inl (isOver_cleanUp none _)
    · exact .inr (h.congr fun entry hcounted => h.reached entry (hcounted.resolve_right id))

theorem going_begin (arguments : Arguments) (settings : ClientSettings) (status : Status) :
    Going arguments status (fun _ => False) (begin arguments settings) := by
  let made : Watch := {
    arguments
    connections := (Connections.getOrCreate
      { settings := settings.session
        fleet := { ambient := { tokens := ⟨arguments.token.toList.map some⟩ } } }
      arguments.entrypoint (.socket { settings := settings.transport })).2
    session := 0
    stage := .waiting }
  have hmade : Sound arguments status (fun _ => False) made :=
    ⟨rfl, rfl, (Link.peaceful_withSession _ _).rested _ _, nofun, fun _ => False.elim⟩
  have hsound : Sound arguments status (fun _ => False) (made.start .connect).2 := hmade.start rfl
  exact ⟨hsound.standing _ _, rfl⟩

theorem going_run (arguments : Arguments) (settings : ClientSettings)
    (hgoal : arguments.goal = some status) (cues : List Cue) :
    ((begin arguments settings).run cues).isOver ∨
      Going arguments status (ShownReached status (begin arguments settings) cues)
        ((begin arguments settings).run cues) := by
  induction cues using List.reverseRecOn with
  | nil =>
    refine .inr ((going_begin arguments settings status).congr ?_)
    rintro entry ⟨before, cue, after, heq, _⟩
    simp at heq
  | append_singleton cues cue ih =>
    rw [run, List.foldl_concat]
    rcases ih with hover | hgoing
    · exact .inl (isOver_next hover cue)
    · refine (hgoing.next hgoal cue).imp_right fun hnext => ?_
      exact hnext.congr fun entry hshown => hnext.reached entry (shownReached_snoc.mp hshown)

/-! ### The goal is reached -/

/-- A wait that is not open any more, and whose call is not ready, has returned well. -/
theorem Sound.outcome?_of_reached (h : Sound arguments status counted w) (hcounted : counted entry)
    (hready : ¬ w.IsReady entry.2) : ∃ event, w.outcome? entry.2 = some (.status event) := by
  obtain ⟨ticket, hreached⟩ := h.reached entry hcounted
  cases hreached with
  | ended _ _ _ hnot => exact absurd hnot hready
  | returned hlookup => exact ⟨_, (outcome?_eq h.linked _).trans hlookup⟩

theorem Sound.waitResult?_eq (h : Sound arguments status counted w)
    {waits : List (WorkspaceId × Nat)} (hcounted : ∀ entry ∈ waits, counted entry)
    (hready : ∀ entry ∈ waits, ¬ w.IsReady entry.2) : w.waitResult? waits = some none := by
  induction waits with
  | nil => rfl
  | cons entry rest ih =>
    obtain ⟨event, houtcome⟩ := h.outcome?_of_reached (hcounted entry List.mem_cons_self)
      (hready entry List.mem_cons_self)
    rw [waitResult?, houtcome]
    exact ih (fun other hmem => hcounted other (List.mem_cons_of_mem _ hmem))
      fun other hmem => hready other (List.mem_cons_of_mem _ hmem)

/-- Once the command waits, every workspace that it follows has a wait, and the status waiter
attends to it. When the end of every wait was shown, and no wait is about to go on, the command has
reached its goal and ends well. -/
theorem shown_statuses_counted (arguments : Arguments) (settings : ClientSettings)
    (hgoal : arguments.goal = some status) (cues : List Cue) :
    let start := begin arguments settings
    let w := start.run cues
    w.isWaiting →
    w.waits.map Prod.fst = arguments.workspaces.map Id.mk ∧
    (∀ entry ∈ w.waits, w.Attends entry.1) ∧
    (∀ b, isOutside b → ∀ event ∈ w.shown b, event.line ∈ (w.next (.happens b)).printed) ∧
    ((∀ entry ∈ w.waits, ShownReached status start cues entry) →
      (∀ entry ∈ w.waits, ¬ w.IsReady entry.2) → w.step? = some (w.cleanUp none)) := by
  intro start w hwaiting
  have hstage : w.stage = .waiting := by
    unfold isWaiting at hwaiting
    split at hwaiting
    · assumption
    · simp at hwaiting
  have hon : ¬ w.isOver := by simp [isOver, hstage]
  have hgoing := (going_run arguments settings hgoal cues).resolve_left hon
  have hplaced : w.Placed := hgoing.placed
  have hown : w.arguments = arguments := hgoing.arguments_eq
  simp only [Placed, hstage, followed, hown] at hplaced
  obtain ⟨hwaits, htracked⟩ := hplaced
  refine ⟨hwaits, fun entry hmem => ?_, fun b houtside event hmem => ?_, fun hshown hready => ?_⟩
  · exact hgoing.toSound.attends (htracked entry.1 (hwaits ▸ List.mem_map_of_mem hmem))
  · rw [Watch.next, if_pos houtside]
    exact hgoing.toSound.mem_printed hmem
  · have hresult : w.waitResult? w.waits = some none := hgoing.toSound.waitResult?_eq hshown hready
    simp [step?, hstage, hown, hgoal, hresult]

/-! ### A status that is shown too early -/

/-- The command follows one workspace until it runs. -/
def untilRunning : Arguments where
  entrypoint := "wss://example/api"
  workspaces := ["w1"]
  goal := some .running
  noLogs := true

def turns (ids : List Nat) : List Cue := ids.map fun id => .happens (.task id)

def receives (message : Json) : Beat := .socket (.takeIn 1 (.text message.render))

def answers (id : String) (result : Json) : Cue :=
  .happens (receives (.object [("id", .str id), ("result", result)]))

/-- The server says that the workspace runs. -/
def runningBeat : Beat :=
  receives (.object [("method", .str Channel.workspaceStatus.method),
    ("params", .object [("status", .str "RUNNING"), ("workspaceId", .str "w1")])])

/-- The socket hands over what was written. -/
def writes : Cue := .happens (.socket (.write 1))

/-- The command connects, and its first subscription is confirmed. -/
def subscribing : List Cue :=
  turns [0, 1, 2] ++ .happens (.handshakeEnds 1 none) :: turns [2] ++
    .happens (.socket (.announce 1)) :: turns [3, 1, 4] ++ writes ::
    answers "1" (.arr [.str "c1"]) :: turns [4, 1, 0] ++ .step :: turns [5, 6] ++ writes ::
    [answers "2" .null]

/-- The command makes its other subscription, and waits. -/
def settling : List Cue :=
  turns [6] ++ .step :: turns [7] ++ writes :: answers "3" .null :: turns [7] ++ .step ::
    turns [9] ++ .step :: turns [8, 3]

/-- The status is announced while the command waits. -/
def timely : List Cue := subscribing ++ settling ++ .happens runningBeat :: turns [8]

theorem timely_status_counted :
    let w := (begin untilRunning {}).run timely
    w.step? = some (w.cleanUp none) := by
  have hend : ((begin untilRunning {}).run timely).isWaiting ∧
      ((begin untilRunning {}).run timely).waits = [(⟨"w1"⟩, 8)] ∧
      ¬ ((begin untilRunning {}).run timely).IsReady 8 := by
    unfold IsReady
    decide +kernel
  obtain ⟨hwaiting, hwaits, hready⟩ := hend
  have hshows : ShowsReached .running (⟨"w1"⟩, 8)
      ((begin untilRunning {}).run (subscribing ++ settling)) (.happens runningBeat) := by
    unfold ShowsReached Attends
    decide +kernel
  have hgoal : untilRunning.goal = some .running := rfl
  obtain ⟨_, _, _, hends⟩ := shown_statuses_counted untilRunning {} hgoal timely hwaiting
  rw [hwaits] at hends
  apply hends
  · intro entry hmem
    rw [List.mem_singleton.mp hmem]
    exact ⟨subscribing ++ settling, .happens runningBeat, turns [8], rfl, hshows⟩
  · intro entry hmem
    rw [List.mem_singleton.mp hmem]
    exact hready

/-- The status is announced before that, when the command has subscribed to it and prints it. The
wait begins later and does not end, though no task is ready. -/
theorem early_status_uncounted :
    let start := begin untilRunning {}
    let w := start.run (subscribing ++ .happens runningBeat :: settling)
    (∃ event ∈ (start.run subscribing).shown runningBeat,
      event.workspaceId = ⟨"w1"⟩ ∧ event.effectiveStatus = some .running) ∧
    w.printed = ["[w1] status RUNNING"] ∧ w.isWaiting ∧ w.connections.fleet.ready = [] ∧
      w.link.inputs = [] ∧ w.step?.isNone := by
  decide +kernel

end Watch

end WorkspaceLink
