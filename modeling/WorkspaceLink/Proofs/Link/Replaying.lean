import WorkspaceLink.Proofs.Link.Listing
import WorkspaceLink.Proofs.Link.ConnectWakeups
import WorkspaceLink.Proofs.Link.Waking

/-!
# Replays

A session that has failed and is connected again by its user asks the server once more for all
topics with subscribers, if it is told to. Whether a replay is due is decided when the user calls,
which topics it is about when the session gets to be connected, and any number of failed cycles can
lie in between. What decides is read off the history of a link, `turnings`.

A replay asks for one topic after the other and waits for the answer to each. `Stands` says where it
can stand: it has asked for the first of its topics, and has yet to hear about the last of these, or
is about to run.
-/
namespace WorkspaceLink

/-! ### When a replay is due -/

namespace Session

variable {config : SessionConfig} {s : Session} {input : Input} {step : Step}

/-- What decides whether a replay is due. -/
inductive Turning where
  /-- A call finds that the session has failed: whether replays are enabled, and the table. -/
  | revived (enabled : Bool) (table : SubscriptionTable)
  | closed
  | connected

def Turning.isDue : Turning → Bool
  | .revived enabled table => enabled && !table.isEmpty
  | _ => false

/-- What an input decides about replays. -/
def turning? (config : SessionConfig) (s : Session) : Input → Option Turning
  | .connect =>
    if s.phase = .failed then some (.revived config.settings.replaySubscriptions s.table) else none
  | .close _ => some .closed
  | .clientId generation (.ok _) =>
    if generation = s.generation ∧ s.phase = .connecting then some .connected else none
  | _ => none

theorem turning?_of_charges (h : s.charges input) : s.turning? config input = none := by
  cases input with
  | connect => simp [charges, reportsFailure] at h
  | close ticket => simp [charges, reportsFailure] at h
  | clientId generation result =>
    cases result with
    | ok id => simp [charges, reportsFailure] at h
    | error error => rfl
  | _ => rfl

/-- The session remembers what was decided last, enters the connected phase only when it hears its
identifier, and starts a replay only then, with the topics of its table, if one is due. -/
structure Replays (config : SessionConfig) (s : Session) (input : Input) (step : Step) : Prop where
  pending : step.session.replayPending =
    ((s.turning? config input).map Turning.isDue).getD s.replayPending
  connects : s.phase ≠ .connected ∧ step.session.phase = .connected ↔
    s.turning? config input = some .connected
  starts : s.turning? config input = some .connected → s.replayPending →
    ∃ before, step.effects = before ++ [.replay (SubscriptionTable.topics s.table)] ∧
      ∀ effect ∈ before, ∀ topics, effect ≠ .replay topics
  only : ∀ topics, .replay topics ∈ step.effects →
    s.turning? config input = some .connected ∧ s.replayPending

theorem replay_not_mem_transition (config : SessionConfig) (source target : Phase)
    (topics : List Topic) : Effect.replay topics ∉ transition config source target := by
  unfold transition
  split <;> simp [entry]

/-- An input that decides nothing. -/
theorem replays_of_none (hnone : s.turning? config input = none)
    (hpending : step.session.replayPending = s.replayPending)
    (hphase : step.session.phase = .connected → s.phase = .connected)
    (heffects : ∀ topics, .replay topics ∉ step.effects) : Replays config s input step where
  pending := by rw [hnone]; exact hpending
  connects := by
    rw [hnone]
    exact iff_of_false (fun h => h.1 (hphase h.2)) nofun
  starts h := by simp [hnone] at h
  only topics hmem := absurd hmem (heffects topics)

theorem replays_reacts (h : Reacts config s input step) : Replays config s input step := by
  have htransition := replay_not_mem_transition config
  cases h with
  | begins hphase =>
    apply replays_of_none
    · simp [turning?, hphase]
    · rw [beginConnect_eq]
    · simp [beginConnect_eq]
    · simp [beginConnect_eq, htransition]
  | revives hphase =>
    have hturning : s.turning? config .connect =
        some (.revived config.settings.replaySubscriptions s.table) := if_pos hphase
    constructor
    · rw [hturning, beginConnect_eq]
      rfl
    · rw [hturning]
      exact iff_of_false (by simp [beginConnect_eq]) (by simp)
    · simp [hturning]
    · simp [beginConnect_eq, htransition]
  | shuts ticket =>
    constructor
    · simp [turning?, Step.doing, shut_eq, Turning.isDue]
    · exact iff_of_false (by simp [Step.doing, shut_eq]) (by simp [turning?])
    · simp [turning?]
    · simp [Step.doing, shut_eq, htransition, entry]
  | opens hphase =>
    apply replays_of_none rfl
    · simp [Step.doing, cancelReconnect_eq]
    · simp [Step.doing, cancelReconnect_eq]
    · simp [Step.doing, cancelReconnect_eq]
  | identifies id hphase =>
    have hturning : s.turning? config (.clientId s.generation (.ok id)) = some .connected :=
      if_pos ⟨rfl, hphase⟩
    constructor
    · rw [hturning, identified_eq]
      rfl
    · rw [hturning]
      exact iff_of_true (by simp [hphase, identified_eq]) rfl
    · intro _ hpending
      refine ⟨[entry config .info "connected" [("client_id", id.text)]] ++
        transition config s.phase .connected ++ ((s.liveness.map Effect.cancel).toList ++
        [.probe s.nextToken s.generation]) ++
        [entry config .info "replaying subscriptions" [("count", Nat.repr s.table.length)]], ?_, ?_⟩
      · simp [identified_eq, replays, hpending]
      · rintro effect hmem topics rfl
        simp [entry, htransition] at hmem
    · intro topics hmem
      refine ⟨hturning, ?_⟩
      by_contra hnot
      simp [identified_eq, replays, hnot, htransition, entry] at hmem
  | retries entry hcharges =>
    apply replays_of_none (turning?_of_charges hcharges)
    · simp [Step.andThen, retry]
    · simp [Step.andThen, retry]
    · simp [Step.andThen, retry, htransition, Session.entry]
  | givesUp entry hcharges =>
    apply replays_of_none (turning?_of_charges hcharges)
    · simp [Step.andThen, giveUp]
    · simp [Step.andThen, giveUp]
    · simp [Step.andThen, giveUp, htransition, Session.entry]
  | redials timer htimer =>
    apply replays_of_none rfl
    · rw [beginConnect_eq]
    · simp [beginConnect_eq]
    · simp [beginConnect_eq, htransition]
  | ignores entries hcharges hconnect _ hclose hid =>
    have hnone : s.turning? config input = none := by
      cases input with
      | connect => exact if_neg (hconnect rfl).2
      | close ticket => exact absurd rfl (hclose ticket)
      | clientId generation result =>
        cases result with
        | ok id =>
          apply if_neg
          rintro ⟨rfl, hphase⟩
          exact hid id rfl hphase
        | error error => rfl
      | _ => rfl
    exact replays_of_none hnone rfl (fun h => h) (by simp)

end Session

namespace Link

variable {link first second : Link} {id : Nat} {b : Beat} {topics : List Topic}

/-- What a beat decides about replays. -/
def turning? (link : Link) (b : Beat) : Option Session.Turning :=
  if link.drives b then link.inputs.head?.bind (link.session.turning? link.config) else none

/-- What is decided about replays in the course of beats. -/
def WakeRecord.turnings : WakeRecord → List Beat → List Session.Turning
  | _, [] => []
  | v, b :: rest => (v.link.turning? b).toList ++ (v.next b).turnings rest

/-- A replay starts in a beat, with a number of its own. -/
def StartsReplay (link : Link) (b : Beat) (id : Nat) (topics : List Topic) : Prop :=
  link.nextTask ≤ id ∧ (link.beat b).task? id = some (.replay none topics)

/-- The session gets to be connected in a beat. -/
def connects (link : Link) (b : Beat) : Prop :=
  link.session.phase ≠ .connected ∧ (link.beat b).session.phase = .connected

theorem pending_beat (link : Link) (b : Beat) :
    (link.beat b).session.replayPending =
      ((link.turning? b).map Session.Turning.isDue).getD link.session.replayPending := by
  unfold turning?
  cases hdrives : link.drives b with
  | false =>
    obtain ⟨table, hsession⟩ := (spares_beat hdrives).session
    rw [hsession]
    rfl
  | true =>
    cases hinputs : link.inputs with
    | nil =>
      rw [beat_of_idle hdrives hinputs]
      rfl
    | cons input rest =>
      rw [(turn_of_session hdrives hinputs).2.1]
      exact (Session.replays_reacts (Session.handle_reacts link.config link.session input)).pending

theorem connects_iff : link.connects b ↔ link.turning? b = some .connected := by
  unfold connects turning?
  cases hdrives : link.drives b with
  | false =>
    obtain ⟨table, hsession⟩ := (spares_beat hdrives).session
    rw [hsession]
    exact iff_of_false (fun h => h.1 h.2) nofun
  | true =>
    cases hinputs : link.inputs with
    | nil =>
      rw [beat_of_idle hdrives hinputs]
      exact iff_of_false (fun h => h.1 h.2) nofun
    | cons input rest =>
      rw [(turn_of_session hdrives hinputs).2.1]
      exact (Session.replays_reacts (Session.handle_reacts link.config link.session input)).connects

/-- A session remembers what its history says. -/
theorem pending_after (v : WakeRecord) (beats : List Beat) :
    (beats.foldl WakeRecord.next v).link.session.replayPending =
      ((v.turnings beats).getLast?.map Session.Turning.isDue).getD
        v.link.session.replayPending := by
  induction beats generalizing v with
  | nil => rfl
  | cons b rest ih =>
    have hfirst : (v.next b).link.session.replayPending = _ := pending_beat v.link b
    rw [List.foldl_cons, ih, hfirst, WakeRecord.turnings, List.getLast?_append]
    cases ((v.next b).turnings rest).getLast? <;> cases v.link.turning? b <;> rfl

/-! ### How a replay starts -/

theorem Enrolled.task?_eq_none (h : link.Enrolled) (hnew : link.nextTask ≤ id) :
    link.task? id = none := by
  cases htask : link.task? id with
  | none => rfl
  | some task => exact absurd (h _ (mem_of_task? htask)) (Nat.not_lt.mpr hnew)

/-- A replay starts only in the turn of the session, if an effect says so. -/
theorem effect_of_startsReplay (henrolled : link.Enrolled) (h : link.StartsReplay b id topics) :
    link.drives b ∧ ∃ input rest, link.inputs = input :: rest ∧
      .replay topics ∈ (link.session.handle link.config input).effects := by
  obtain ⟨hnew, htask⟩ := h
  have hmem := mem_of_task? htask
  have hfresh : ∀ task, (id, task) ∉ link.tasks :=
    fun task hold => Nat.not_lt.mpr hnew (henrolled _ hold)
  have hdrives : link.drives b := by
    rcases (rouses_beat link b).replays _ hmem rfl with hold | hconcerns | hdrives
    · exact absurd hold (hfresh _)
    · have hnone := henrolled.task?_eq_none hnew
      simp [beat_of_absent hnone hconcerns, hnone] at htask
    · exact hdrives
  refine ⟨hdrives, ?_⟩
  cases hinputs : link.inputs with
  | nil =>
    rw [beat_of_idle hdrives hinputs] at hmem
    exact absurd hmem (hfresh _)
  | cons input rest =>
    rw [beat_of_input hdrives hinputs] at hmem
    rcases (executes_runEffects _ _).tasks _ hmem with hold | ⟨effect, heffect, hstarts⟩
    · exact absurd hold (hfresh _)
    · refine ⟨input, rest, rfl, ?_⟩
      cases effect <;> simp_all [startedTask?]

/-- When the session gets to be connected and a replay is due, one replay starts, and is about to
run. -/
theorem startsReplay_of_connects (henrolled : link.Enrolled) (hconnects : link.connects b)
    (hdue : link.session.replayPending) : ∃ id,
      link.StartsReplay b id (SubscriptionTable.topics link.session.table) ∧
      id ∈ (link.beat b).woken ∧
      ∀ other topics, link.StartsReplay b other topics → other = id := by
  have hturning := connects_iff.mp hconnects
  simp only [turning?] at hturning
  split at hturning
  next hdrives =>
    cases hinputs : link.inputs with
    | nil => simp [hinputs] at hturning
    | cons input rest =>
      simp only [hinputs, List.head?_cons, Option.bind_some] at hturning
      have hreplays :=
        Session.replays_reacts (Session.handle_reacts link.config link.session input)
      obtain ⟨before, heffects, hbefore⟩ := hreplays.starts hturning hdue
      let handled : Link := { link with
        inputs := rest, session := (link.session.handle link.config input).session }
      let mid := handled.runEffects before
      let replay : Task := .replay none (SubscriptionTable.topics link.session.table)
      have hbeat : link.beat b = mid.spawn replay := by
        rw [beat_of_input hdrives hinputs, heffects, runEffects, List.foldl_append]
        rfl
      have hkeeps : Keeps none handled mid := keeps_runEffects before handled
      have hmid : mid.Enrolled := hkeeps.enrolled henrolled
      have hnext : link.nextTask ≤ mid.nextTask := hkeeps.nextTask_le
      refine ⟨mid.nextTask, ⟨hnext, ?_⟩, ?_, fun other topics hother => ?_⟩
      · rw [hbeat, task?_spawn, hmid.task?_nextTask, if_pos rfl]
        rfl
      · rw [hbeat]
        exact List.mem_append_right _ (List.mem_singleton.mpr rfl)
      · have hmem := mem_of_task? hother.2
        rw [hbeat, mem_spawn] at hmem
        rcases hmem with hold | hnew
        · rcases (executes_runEffects before handled).tasks _ hold with
            hold | ⟨effect, heffect, hstarts⟩
          · exact absurd (henrolled _ hold) (Nat.not_lt.mpr hother.1)
          · have hreplay : effect = .replay topics := by
              cases effect <;> simp_all [startedTask?]
            exact absurd hreplay (hbefore effect heffect topics)
        · exact congrArg Prod.fst hnew
  next => simp at hturning

theorem connects_of_startsReplay (henrolled : link.Enrolled)
    (h : link.StartsReplay b id topics) :
    link.connects b ∧ link.session.replayPending ∧
      topics = SubscriptionTable.topics link.session.table := by
  obtain ⟨hdrives, input, rest, hinputs, heffect⟩ := effect_of_startsReplay henrolled h
  have hreplays := Session.replays_reacts (Session.handle_reacts link.config link.session input)
  obtain ⟨hturning, hdue⟩ := hreplays.only topics heffect
  obtain ⟨before, heffects, hbefore⟩ := hreplays.starts hturning hdue
  refine ⟨connects_iff.mpr ?_, hdue, ?_⟩
  · rw [turning?, if_pos hdrives, hinputs]
    exact hturning
  · rw [heffects] at heffect
    rcases List.mem_append.mp heffect with hmem | hlast
    · exact absurd rfl (hbefore _ hmem topics)
    · simpa using hlast

/-! ### The topics of a table -/

/-- Every topic of the table is listed once, and has a subscriber. -/
def Tidy (link : Link) : Prop := Grouped.Sound link.session.table

theorem Tidy.congr (h : first.Tidy) (heq : second.session.table = first.session.table) :
    second.Tidy := by
  rw [Tidy, heq]
  exact h

theorem awaitConfirmation_table (id number : Nat) (link : Link) :
    (link.awaitConfirmation id number).session.table = link.session.table := by
  unfold awaitConfirmation
  split <;> rfl

theorem awaitFollowing_table (id number : Nat) (method : String) (handler : HandlerId)
    (link : Link) :
    (link.awaitFollowing id number method handler).session.table = link.session.table := by
  unfold awaitFollowing
  split <;> rfl

theorem unfollow_table (id : Nat) (method : String) (handler : HandlerId) (request : String)
    (params : Option Json) (link : Link) :
    (link.unfollow id method handler request params).session.table = link.session.table :=
  (awaitConfirmation_table _ _ _).trans (leaves_request request params _).table

theorem follow_table (id : Nat) (method : String) (subscriber : Subscriber) (request : String)
    (params : Option Json) (link : Link) :
    (link.follow id method subscriber request params).session.table = link.session.table :=
  (awaitFollowing_table _ _ _ _ _).trans (leaves_request request params _).table

theorem Tidy.endSubscription (h : link.Tidy) (id : Nat) (subscription : Subscription) :
    (link.endSubscription id subscription).Tidy := by
  have hremoved : (link.updateTable
      (SubscriptionTable.remove subscription.topic subscription.handler)).Tidy :=
    SubscriptionTable.sound_remove h _ _
  unfold Link.endSubscription
  dsimp only
  split
  · exact h.congr rfl
  · split
    · exact hremoved.congr (unfollow_table _ _ _ _ _ _)
    · exact hremoved.congr rfl

theorem Tidy.completeSubscription (h : link.Tidy) (id : Nat) (subscription : Subscription)
    (tracking : Option WorkspaceId) :
    (link.completeSubscription id subscription tracking).Tidy := by
  have hadded : (link.updateTable
      (SubscriptionTable.add subscription.topic subscription.handler)).Tidy :=
    SubscriptionTable.sound_add h _ _
  unfold Link.completeSubscription
  cases tracking with
  | none => exact hadded.congr rfl
  | some workspace =>
    dsimp only
    split
    · refine Tidy.endSubscription ?_ _ _
      exact hadded.congr rfl
    · exact hadded.congr rfl

theorem Tidy.awaitSubscription (h : link.Tidy) (id number : Nat) (subscription : Subscription)
    (tracking : Option WorkspaceId) :
    (link.awaitSubscription id number subscription tracking).Tidy := by
  unfold Link.awaitSubscription
  split
  · refine Tidy.completeSubscription ?_ _ _ _
    exact h.congr rfl
  · exact h.congr rfl
  · exact h.congr rfl

theorem Tidy.beginSubscription (h : link.Tidy) (id : Nat) (topic : Topic) (subscriber : Subscriber)
    (tracking : Option WorkspaceId) :
    (link.beginSubscription id topic subscriber tracking).Tidy := by
  unfold Link.beginSubscription
  dsimp only
  split
  · have hasked := (leaves_request Message.subscribeMethod (some topic.params)
      (link.addHandler topic.channel.method subscriber).2).table
    refine Tidy.awaitSubscription ?_ _ _ _ _
    exact h.congr hasked
  · refine Tidy.completeSubscription ?_ _ _ _
    exact h.congr rfl

theorem Tidy.runCall (h : link.Tidy) (id : Nat) (stage : Stage) : (link.runCall id stage).Tidy := by
  have hplain : isPlainStage (fun _ => True) stage → (link.runCall id stage).Tidy :=
    fun hstage =>
      h.congr ((essenceKeptByRequests_leaves id link).runCall trivial hstage (.refl link)).table
  cases stage with
  | fresh call =>
    cases call with
    | follow method subscriber request params => exact h.congr (follow_table _ _ _ _ _ _)
    | unfollow method handler request params => exact h.congr (unfollow_table _ _ _ _ _ _)
    | subscribe topic subscriber => exact h.beginSubscription _ _ _ _
    | unsubscribe subscription => exact h.endSubscription _ _
    | track workspace =>
      simp only [Link.runCall, startCall, track]
      split
      · exact h.congr rfl
      · exact h.beginSubscription _ _ _ _
    | untrack workspace =>
      have hsettled := h.congr (leaves_settleStatuses (link.waiter.untrack workspace).2.2
        { link with waiter := (link.waiter.untrack workspace).2.1 }).table
      simp only [Link.runCall, startCall, untrack]
      split
      · exact Tidy.endSubscription hsettled id _
      · exact hsettled.congr rfl
    | _ => exact hplain trivial
  | following number method handler => exact h.congr (awaitFollowing_table _ _ _ _ _)
  | subscribing number subscription tracking => exact h.awaitSubscription _ _ _ _
  | _ => exact hplain trivial

theorem Tidy.beat (h : link.Tidy) (b : Beat) : (link.beat b).Tidy := by
  by_cases hcloses : link.closes b
  · have hemptied : link.emptied.Tidy := Grouped.sound_nil
    exact hemptied.congr (leaves_beat_close hcloses).table
  · rw [Bool.not_eq_true] at hcloses
    by_cases hplain : link.isPlainBeat b
    · exact h.congr (leaves_beat hcloses hplain).table
    · cases b with
      | call call => exact h
      | abandon id =>
        simp only [Link.beat, Link.abandon]
        split
        next stage _ => cases stage <;> exact h
        next => exact h
      | task id =>
        simp only [isPlainBeat, isPlainTask, Classical.not_forall] at hplain
        obtain ⟨stage, htask, _⟩ := hplain
        rw [beat_task_call htask]
        exact h.runCall id stage
      | _ => exact absurd trivial hplain

theorem Tidy.nodup_topics (h : link.Tidy) :
    (SubscriptionTable.topics link.session.table).Nodup :=
  h.keys

/-! ### What a replay asks for -/

/-- The second link is left of the first when these topics were asked for, one after the other, and
answers were taken note of in between. -/
inductive Asks : List Topic → Link → Link → Prop where
  | nothing (link : Link) : Asks [] link link
  | ask {topic : Topic} {rest : List Topic} {link after : Link}
    (hrest : Asks rest (link.request Message.subscribeMethod (some topic.params)).2 after) :
    Asks (topic :: rest) link after
  | note {number : Nat} {topic : Topic} {answer : Answer} {asked : List Topic} {link after : Link}
    (hanswer : link.answer? number = some answer)
    (hrest : Asks asked (link.noteReplay number topic answer) after) : Asks asked link after

/-- A replay asks for topics until it has to wait for an answer, or is over. -/
theorem replayFrom_asks (id : Nat) (topics : List Topic) (link : Link) :
    ∃ asked left after, topics = asked ++ left ∧ Asks asked link after ∧
      (left = [] ∧ link.replayFrom id topics = after.endTask id ∨
        ∃ number topic, asked.getLast? = some topic ∧ after.answer? number = none ∧
          link.replayFrom id topics = after.setTask id (.replay (some (number, topic)) left)) := by
  induction topics generalizing link with
  | nil => exact ⟨[], [], link, rfl, .nothing link, .inl ⟨rfl, rfl⟩⟩
  | cons topic rest ih =>
    let asking := link.request Message.subscribeMethod (some topic.params)
    simp only [replayFrom]
    cases hanswer : asking.2.answer? asking.1 with
    | none =>
      exact ⟨[topic], rest, asking.2, rfl, .ask (.nothing _),
        .inr ⟨asking.1, topic, rfl, hanswer, rfl⟩⟩
    | some answer =>
      obtain ⟨asked, left, after, rfl, hasks, hends⟩ :=
        ih (asking.2.noteReplay asking.1 topic answer)
      refine ⟨topic :: asked, left, after, rfl, .ask (.note hanswer hasks), ?_⟩
      rcases hends with hover | ⟨number, last, hlast, hwaits⟩
      · exact .inl hover
      · refine .inr ⟨number, last, ?_, hwaits⟩
        rw [List.getLast?_cons, hlast]
        rfl

/-! ### Where a replay stands -/

variable {v : WakeRecord} {asked : List Topic}

/-- A replay of these topics has asked for the first of them. -/
inductive Stands (topics : List Topic) (v : WakeRecord) (id : Nat) : List Topic → Prop where
  | fresh (hready : id ∈ v.ready) (htask : v.link.task? id = some (.replay none topics)) :
    Stands topics v id []
  /-- It waits for the answer about the topic that it asked for last, or was woken. -/
  | waits {asked left : List Topic} {number : Nat} {topic : Topic}
    (htopics : topics = asked ++ left) (hlast : asked.getLast? = some topic)
    (htask : v.link.task? id = some (.replay (some (number, topic)) left))
    (hready : v.link.answer? number = none ∨ id ∈ v.ready) : Stands topics v id asked
  | gone (htask : v.link.task? id = none) : Stands topics v id topics

/-- What a task has done to a link, apart from waiting at another place or ending. -/
def Rests (id : Nat) (mid after : Link) : Prop :=
  after = mid ∨ after = mid.endTask id ∨ ∃ task, after = mid.setTask id task

/-- In the course of beats the replay with this number asks for these topics, and does nothing
else. -/
inductive Asked (id : Nat) : WakeRecord → List Beat → List Topic → Prop where
  | nil (v : WakeRecord) : Asked id v [] []
  | beside {v : WakeRecord} {b : Beat} {rest : List Beat} {later : List Topic}
    (hruns : runs? b ≠ some id) (hrest : Asked id (v.next b) rest later) :
    Asked id v (b :: rest) later
  | turn {v : WakeRecord} {mid : Link} {rest : List Beat} {now later : List Topic}
    (hasks : Asks now v.link mid) (hrests : Rests id mid (v.link.beat (.task id)))
    (hrest : Asked id (v.next (.task id)) rest later) :
    Asked id v (.task id :: rest) (now ++ later)

variable {current : Option (Nat × Topic)} {left : List Topic}

/-- A replay cannot be dropped as a call can, or delivered as a report. -/
theorem beat_of_replay (htask : link.task? id = some (.replay current left))
    (hconcerns : concerns? b = some id) (hruns : runs? b ≠ some id) : link.beat b = link := by
  cases b with
  | task other => exact absurd hconcerns hruns
  | abandon other =>
    obtain rfl : other = id := Option.some.inj hconcerns
    simp only [Link.beat, Link.abandon, htask]
  | socket turn =>
    cases turn with
    | deliver other =>
      obtain rfl : other = id := Option.some.inj hconcerns
      simp only [Link.beat, take, takeOn, htask]
      split <;> rfl
    | _ => simp [concerns?] at hconcerns
  | _ => simp [concerns?] at hconcerns

/-- A beat that is not its turn leaves a replay where it is. -/
theorem task?_replay (hlt : id < link.nextTask)
    (htask : link.task? id = some (.replay current left)) (hruns : runs? b ≠ some id) :
    (link.beat b).task? id = some (.replay current left) := by
  by_cases hconcerns : concerns? b = some id
  · rw [beat_of_replay htask hconcerns hruns]
    exact htask
  · rw [(keeps_beat link b).tasks id hlt hconcerns]
    exact htask

theorem beat_task_replay (htask : link.task? id = some (.replay current left)) :
    link.beat (.task id) = link.runReplay id current left := by
  simp only [Link.beat, Link.runTask, poll, htask]

theorem knows_answered {number : Nat} :
    link.Knows (.answered number) ↔ link.answer? number ≠ none := by
  constructor
  · rintro ⟨answer, hmem⟩ hnone
    simpa using List.lookup_eq_none_iff.mp hnone _ hmem
  · intro h
    obtain ⟨answer, hanswer⟩ := Option.ne_none_iff_exists'.mp h
    obtain ⟨before, after, heq, _⟩ := List.lookup_eq_some_iff.mp hanswer
    exact ⟨answer, by simp [heq]⟩

/-- A beat that is not its turn. When an answer comes, the replay is woken. -/
theorem Stands.beside (h : Stands topics v id asked) (hlt : id < v.link.nextTask)
    (hruns : runs? b ≠ some id) : Stands topics (v.next b) id asked := by
  cases h with
  | fresh hready htask =>
    exact .fresh (ready_next hruns hready) (task?_replay hlt htask hruns :)
  | @waits _ left number topic htopics hlast htask hready =>
    have hstill := task?_replay hlt htask hruns
    refine .waits htopics hlast hstill ?_
    rcases hready with hnone | hready
    · by_cases hanswer : (v.link.beat b).answer? number = none
      · exact .inl hanswer
      · right
        apply List.mem_append_right
        have hconcerns : concerns? b ≠ some id := by
          intro hconcerns
          rw [beat_of_replay htask hconcerns hruns] at hanswer
          exact hanswer hnone
        rcases (rouses_beat v.link b).news _ (knows_answered.mpr hanswer) with hold | hwakes
        · exact absurd hnone (knows_answered.mp hold)
        · exact hwakes _ (mem_of_task? htask) hconcerns (by simp [Task.awaits, Task.request?])
    · exact .inr (ready_next hruns hready)
  | gone htask =>
    apply Stands.gone
    change (v.link.beat b).task? id = none
    by_cases hconcerns : concerns? b = some id
    · rw [beat_of_absent htask hconcerns]
      exact htask
    · rw [(keeps_beat v.link b).tasks id hlt hconcerns]
      exact htask

/-- Asking leaves all tasks where they are. -/
theorem Asks.task?_eq {after : Link} (h : Asks asked link after) (hlt : id < link.nextTask) :
    after.task? id = link.task? id := by
  induction h with
  | nothing link => rfl
  | @ask topic rest link after _ ih =>
    have hspares := spares_request none Message.subscribeMethod (some topic.params) link
    rw [ih (Nat.lt_of_lt_of_le hlt hspares.nextTask_le), hspares.tasks id hlt nofun]
  | @note number topic answer asked link after _ _ ih =>
    have hsame : (link.noteReplay number topic answer).tasks = link.tasks ∧
        (link.noteReplay number topic answer).nextTask = link.nextTask := by
      cases answer <;> exact ⟨rfl, rfl⟩
    rw [ih (hsame.2 ▸ hlt), task?, hsame.1]
    rfl

/-- A replay goes on with the topics that are left. -/
theorem stands_replayFrom {mid : Link} (htopics : topics = asked ++ left)
    (hbeat : v.link.beat (.task id) = mid.replayFrom id left) (hlt : id < mid.nextTask)
    (htask : mid.task? id ≠ none) :
    ∃ now after, Stands topics (v.next (.task id)) id (asked ++ now) ∧ Asks now mid after ∧
      Rests id after (v.link.beat (.task id)) := by
  obtain ⟨now, later, after, rfl, hasks, hends⟩ := replayFrom_asks id left mid
  refine ⟨now, after, ?_⟩
  rcases hends with ⟨rfl, hover⟩ | ⟨number, topic, hlast, hanswer, hwaits⟩
  · have hgone : (v.link.beat (.task id)).task? id = none := by
      rw [hbeat, hover, task?_endTask, if_pos rfl]
    rw [List.append_nil] at htopics
    rw [← htopics]
    exact ⟨.gone hgone, hasks, .inr (.inl (hbeat.trans hover))⟩
  · obtain ⟨old, hold⟩ := Option.ne_none_iff_exists'.mp htask
    have hset : (v.link.beat (.task id)).task? id =
        some (.replay (some (number, topic)) later) := by
      rw [hbeat, hwaits, task?_setTask, if_pos rfl, hasks.task?_eq hlt, hold]
      rfl
    have hsilent : (v.link.beat (.task id)).answer? number = none := by
      rw [hbeat, hwaits]
      exact hanswer
    have hlast' : (asked ++ now).getLast? = some topic := by
      rw [List.getLast?_append, hlast]
      rfl
    rw [← List.append_assoc] at htopics
    exact ⟨.waits htopics hlast' hset (.inl hsilent), hasks, .inr (.inr ⟨_, hbeat.trans hwaits⟩)⟩

/-- The turn of a replay. -/
theorem Stands.turn (h : Stands topics v id asked) (hlt : id < v.link.nextTask) :
    ∃ now mid, Stands topics (v.next (.task id)) id (asked ++ now) ∧ Asks now v.link mid ∧
      Rests id mid (v.link.beat (.task id)) := by
  cases h with
  | fresh hready htask =>
    have hthere : v.link.task? id ≠ none := by simp [htask]
    exact stands_replayFrom rfl (beat_task_replay htask) hlt hthere
  | @waits _ left number topic htopics hlast htask hready =>
    have hbeat := beat_task_replay htask
    simp only [runReplay] at hbeat
    cases hanswer : v.link.answer? number with
    | none =>
      rw [hanswer] at hbeat
      refine ⟨[], v.link, ?_, .nothing _, .inl hbeat⟩
      rw [List.append_nil]
      have hstill : (v.link.beat (.task id)).task? id =
          some (.replay (some (number, topic)) left) := by
        rw [hbeat, htask]
      have hsilent : (v.link.beat (.task id)).answer? number = none := by
        rw [hbeat, hanswer]
      exact .waits htopics hlast hstill (.inl hsilent)
    | some answer =>
      rw [hanswer] at hbeat
      have hsame : (v.link.noteReplay number topic answer).tasks = v.link.tasks ∧
          (v.link.noteReplay number topic answer).nextTask = v.link.nextTask := by
        cases answer <;> exact ⟨rfl, rfl⟩
      have hthere : (v.link.noteReplay number topic answer).task? id ≠ none := by
        rw [task?, hsame.1]
        exact fun hnone => by simp [task?, hnone] at htask
      obtain ⟨now, after, hstands, hasks, hrests⟩ :=
        stands_replayFrom htopics hbeat (hsame.2 ▸ hlt) hthere
      exact ⟨now, after, hstands, .note hanswer hasks, hrests⟩
  | gone htask =>
    have hidle := beat_task_none htask
    refine ⟨[], v.link, ?_, .nothing _, .inl hidle⟩
    rw [List.append_nil]
    apply Stands.gone
    change (v.link.beat (.task id)).task? id = none
    rw [hidle, htask]

/-- Whatever happens, a replay only asks for its topics, one after the other. -/
theorem Stands.run (h : Stands topics v id asked) (hlt : id < v.link.nextTask) (beats : List Beat) :
    ∃ later, Asked id v beats later ∧
      Stands topics (beats.foldl WakeRecord.next v) id (asked ++ later) := by
  induction beats generalizing v asked with
  | nil => exact ⟨[], .nil v, (List.append_nil asked).symm ▸ h⟩
  | cons b rest ih =>
    have hnext : id < (v.next b).link.nextTask :=
      Nat.lt_of_lt_of_le hlt (keeps_beat v.link b).nextTask_le
    by_cases hruns : runs? b = some id
    · obtain rfl := eq_task_of_runs? hruns
      obtain ⟨now, mid, hstands, hasks, hrests⟩ := h.turn hlt
      obtain ⟨later, hasked, hafter⟩ := ih hstands hnext
      refine ⟨now ++ later, .turn hasks hrests hasked, ?_⟩
      rw [← List.append_assoc]
      exact hafter
    · obtain ⟨later, hasked, hafter⟩ := ih (h.beside hlt hruns) hnext
      exact ⟨later, .beside hruns hasked, hafter⟩

/-! ### Replays along runs -/

/-- What every beat keeps. -/
structure Regular (v : WakeRecord) : Prop where
  enrolled : v.link.Enrolled
  tidy : v.link.Tidy

theorem regular_after (carrier : Carrier) (config : SessionConfig) (ambient : Ambient)
    (beats : List Beat) : Regular (WakeRecord.after carrier config ambient beats) := by
  have hrun : ∀ v : WakeRecord, Regular v → Regular (beats.foldl WakeRecord.next v) := by
    induction beats with
    | nil => exact fun v h => h
    | cons b rest ih =>
      intro v h
      exact ih (v.next b) ⟨(keeps_beat v.link b).enrolled h.enrolled, h.tidy.beat b⟩
  exact hrun _ ⟨fun _ hmem => absurd hmem List.not_mem_nil, Grouped.sound_nil⟩

theorem Turning.isDue_iff {turning : Session.Turning} :
    turning.isDue ↔ ∃ table, turning = .revived true table ∧ table ≠ [] := by
  cases turning with
  | revived enabled table => cases enabled <;> cases table <;> simp [Session.Turning.isDue]
  | _ => simp [Session.Turning.isDue]

/-- A replay is due if a call that found reason for one decided last. -/
theorem pending_iff (carrier : Carrier) (config : SessionConfig) (ambient : Ambient)
    (beats : List Beat) :
    (WakeRecord.after carrier config ambient beats).link.session.replayPending ↔
      ∃ table, ((WakeRecord.after carrier config ambient []).turnings beats).getLast? =
        some (.revived true table) ∧ table ≠ [] := by
  have hpending : (WakeRecord.after carrier config ambient beats).link.session.replayPending = _ :=
    pending_after (WakeRecord.after carrier config ambient []) beats
  have hstart : (WakeRecord.after carrier config ambient []).link.session.replayPending = false :=
    rfl
  rw [hpending, hstart]
  cases ((WakeRecord.after carrier config ambient []).turnings beats).getLast? with
  | none => simp
  | some turning => simpa using Turning.isDue_iff

/-- Whatever happens to a session and its transport: a replay starts in a beat exactly if the
session gets to be connected in it and what decided last was a call that found the session failed,
replays enabled and subscribers in the table; neither a close nor another connection came after it.
One replay starts then. It is about the topics of the table at that moment, each of which is listed
once, and from then on it asks for them, each once and one after the other, with the parameters of
the topic, and does nothing else. As long as topics are left, it is about to run or waits for an
answer about the topic that it asked for last. -/
theorem replays_follow_revivals (carrier : Carrier) (config : SessionConfig) (ambient : Ambient)
    (beats : List Beat) (b : Beat) :
    let start := WakeRecord.after carrier config ambient []
    let v := WakeRecord.after carrier config ambient beats
    ((∃ id topics, v.link.StartsReplay b id topics) ↔
      v.link.session.phase ≠ .connected ∧ (v.link.beat b).session.phase = .connected ∧
        ∃ table, (start.turnings beats).getLast? = some (.revived true table) ∧ table ≠ []) ∧
    ∀ id topics, v.link.StartsReplay b id topics →
      (∀ other topics', v.link.StartsReplay b other topics' → other = id) ∧
      topics = SubscriptionTable.topics v.link.session.table ∧ topics.Nodup ∧
      ∀ later, ∃ asked left, topics = asked ++ left ∧ Asked id (v.next b) later asked ∧
        (left ≠ [] → id ∈ (later.foldl WakeRecord.next (v.next b)).ready ∨
          ∃ number topic, asked.getLast? = some topic ∧
            (later.foldl WakeRecord.next (v.next b)).link.task? id =
              some (.replay (some (number, topic)) left) ∧
            (later.foldl WakeRecord.next (v.next b)).link.answer? number = none) := by
  intro start v
  have hregular : Regular v := regular_after carrier config ambient beats
  have hdue := pending_iff carrier config ambient beats
  constructor
  · constructor
    · rintro ⟨id, topics, hstarts⟩
      obtain ⟨⟨hbefore, hafter⟩, hpending, _⟩ := connects_of_startsReplay hregular.enrolled hstarts
      exact ⟨hbefore, hafter, hdue.mp hpending⟩
    · rintro ⟨hbefore, hafter, hdecided⟩
      obtain ⟨id, hstarts, _⟩ :=
        startsReplay_of_connects hregular.enrolled ⟨hbefore, hafter⟩ (hdue.mpr hdecided)
      exact ⟨id, _, hstarts⟩
  · intro id topics hstarts
    obtain ⟨hconnects, hpending, htopics⟩ := connects_of_startsReplay hregular.enrolled hstarts
    obtain ⟨first, _, hwoken, honly⟩ :=
      startsReplay_of_connects hregular.enrolled hconnects hpending
    obtain rfl : id = first := honly id topics hstarts
    refine ⟨honly, htopics, htopics ▸ hregular.tidy.nodup_topics, fun later => ?_⟩
    have hlt : id < (v.next b).link.nextTask :=
      (keeps_beat v.link b).enrolled hregular.enrolled _ (mem_of_task? hstarts.2)
    have hfresh : Stands topics (v.next b) id [] :=
      .fresh (List.mem_append_right _ hwoken) hstarts.2
    obtain ⟨asked, hasked, hstands⟩ := hfresh.run hlt later
    rw [List.nil_append] at hstands
    cases hstands with
    | fresh hready htask => exact ⟨[], topics, rfl, hasked, fun _ => .inl hready⟩
    | @waits _ left number topic hsplit hlast htask hready =>
      refine ⟨asked, left, hsplit, hasked, fun _ => ?_⟩
      rcases hready with hnone | hready
      · exact .inr ⟨number, topic, hlast, htask, hnone⟩
      · exact .inl hready
    | gone htask => exact ⟨topics, [], (List.append_nil _).symm, hasked, fun hne => absurd rfl hne⟩

/-- The connection is lost for good while a topic has a subscriber, and a user connects again. -/
example :
    let v := WakeRecord.after (.scripted {})
      { entrypoint := "wss://example/api", settings := { maxReconnectAttempts := 1 } } {}
      [.call .connect, .task 0, .task 1, .task 2, .script Scripted.opens, .task 1, .task 3,
        answered 1 (.arr [.str "c1"]), .task 3, .task 1, subscribeStatus, .task 5, confirms 2,
        .task 5, .script Scripted.drops, .task 1, .call .connect, .task 6, .task 1, .task 7,
        .script Scripted.opens, .task 1, .task 8, answered 3 (.arr [.str "c2"]), .task 8, .task 1,
        .task 10]
    v.link.session.phase = .connected ∧
      v.link.sent.drop 3 =
        [Message.request "4" Message.subscribeMethod (some statusTopic.params)] := by
  decide +kernel

end Link

end WorkspaceLink
