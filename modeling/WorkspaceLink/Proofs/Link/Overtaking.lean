import WorkspaceLink.Proofs.Link.Asking

/-!
# Calls that overtake each other

A connected session, the calls on its subscriptions and a replay take turns in any order, and every
subscription is confirmed. `Proceeds` holds of each beat, so `Served` holds after every run.

Main statement: once no call and no replay is to ask for a topic, a topic with subscribers was asked
for last and one without was given up last, except in two cases. The topic was given up while the
call of another subscriber waited; or a replay asked for it after its last subscriber had left.
-/
namespace WorkspaceLink.Link

variable {link first second : Link} {id base : Nat} {isReplay : Prop}

/-! ### Tasks -/

/-- Nothing of concern changes. -/
theorem proceeds_of_same (id : Nat) (hreliable : second.Reliable) (hnumbered : second.Numbered)
    (hsound : Grouped.Sound first.session.table) (hsent : second.sent = first.sent)
    (hsession : second.session = first.session)
    (htasks : ∀ other, second.task? other = first.task? other)
    (hcalm : ∀ id stage, first.task? id = some (.call stage) → isCalmStage stage) :
    Proceeds id base isReplay first second := by
  have hawaited : ∀ topic, second.Awaited topic ↔ first.Awaited topic := by
    intro topic
    simp only [Awaited, AwaitsTopic, htasks]
  have hreplaying : ∀ topic, first.Replaying topic → second.Replaying topic := by
    intro topic
    simp only [Replaying, ReplaysTopic, htasks]
    exact fun h => h
  refine ⟨⟨[], hreliable, hnumbered, hsession ▸ hsound, ⟨[], by simp [hsent], rfl⟩, ?_, ?_⟩, ?_,
    fun topic => ?_⟩
  · rw [hsession]
  · intro other task _ _
    rw [htasks]
  · intro stage htask
    exact hcalm id stage (htasks id ▸ htask)
  · exact .same (by rw [askings, askings, hsent]) (followed_congr hsession topic) (hawaited topic)
      (hreplaying topic)

theorem Quiet.refl (h : link.Working) (id : Nat) : Quiet id link link :=
  ⟨h.beside id, rfl, fun _ htask => .inr htask⟩

/-- The transport does something and emits events, but sends nothing and fails nothing. -/
theorem script_facts (hreliable : link.Reliable) (hnumbered : link.Numbered)
    {act : Scripted → Scripted × List TransportEvent}
    (hact : ∀ t, (act t).1.sent = t.sent ∧ (act t).1.sendFailures = t.sendFailures) :
    (link.script act).Reliable ∧ (link.script act).Numbered ∧
      (link.script act).sent = link.sent ∧ (link.script act).session = link.session ∧
      (link.script act).tasks = link.tasks := by
  obtain ⟨t, hc, hfail⟩ := hreliable
  let mid : Link := { link with carrier := .scripted (act t).1 }
  have hscript : link.script act = mid.emitAll (act t).2 := by
    simp only [script, hc]
    rfl
  have hscenery := emitAll_scenery (act t).2 mid
  have hcarrier : (mid.emitAll (act t).2).carrier = .scripted (act t).1 :=
    (congrArg Link.carrier hscenery :)
  have hmid : mid.Numbered := ⟨hnumbered.client, hnumbered.answers⟩
  rw [hscript]
  refine ⟨⟨_, hcarrier, (hact t).2.trans hfail⟩, hmid.emitAll _, ?_,
    (congrArg Link.session hscenery :), (congrArg Link.tasks hscenery :)⟩
  simp only [sent, hcarrier, hc, (hact t).1]

theorem Quiet.script (h : Quiet id first second) {act : Scripted → Scripted × List TransportEvent}
    (hact : ∀ t, (act t).1.sent = t.sent ∧ (act t).1.sendFailures = t.sendFailures) :
    Quiet id first (second.script act) := by
  obtain ⟨hreliable, hnumbered, hsent, hsession, htasks⟩ :=
    script_facts h.beside.reliable h.beside.numbered hact
  have htask : ∀ other, (second.script act).task? other = second.task? other := by
    intro other
    rw [task?, task?, htasks]
  refine ⟨⟨hreliable, hnumbered, hsession ▸ h.beside.sound, hsent ▸ h.beside.sends, ?_, ?_⟩, ?_, ?_⟩
  · rw [hsession]
    exact h.beside.phase
  · intro other task hne hdriver
    rw [htask]
    exact h.beside.others other task hne hdriver
  · rw [hsession]
    exact h.table
  · intro task heq
    exact h.own task (htask id ▸ heq)

theorem quiet_runAttempt (h : link.Working) (id token : Nat) (clientId : Option ClientId) :
    Quiet id link (link.runAttempt id token clientId) := by
  have hbyRequests := essenceKeptByRequests_quiet id link
  obtain ⟨t, hc, _⟩ := h.reliable
  unfold runAttempt
  split
  · exact hbyRequests.endTask (.refl h id)
  · dsimp only
    split
    · have hfetched : Quiet id link
          { link with ambient := { link.ambient with tokens := link.ambient.tokens.next.2 } } :=
        (Quiet.refl h id).of_tasks rfl rfl rfl rfl rfl
      exact hbyRequests.endTask (hfetched.script fun _ => ⟨rfl, rfl⟩)
    next t' hc' => exact absurd (hc.symm.trans hc') (by simp)

theorem quiet_runHandshake (h : link.Working) (id token g : Nat) :
    Quiet id link (link.runHandshake id token g) := by
  obtain ⟨t, hc, _⟩ := h.reliable
  simp only [runHandshake, hc]
  exact (essenceKeptByRequests_quiet id link).endTask (.refl h id)

theorem quiet_runDelivery (h : link.Working) (id : Nat) (delivery : Delivery) :
    Quiet id link (link.runDelivery id delivery) := by
  obtain ⟨t, hc, _⟩ := h.reliable
  have hc' : (link.endTask id).carrier = .scripted t := hc
  simp only [runDelivery, hc']
  exact (essenceKeptByRequests_quiet id link).endTask (.refl h id)

theorem isOther_clientIdMethod : isOther Message.clientIdMethod := by
  unfold isOther
  decide

theorem Working.idle (h : link.Working) (heq : second.essence = link.essence) : second.Working := by
  have hcarrier : second.carrier = link.carrier := (congrArg Link.carrier heq :)
  have hclient : second.client = link.client := (congrArg Link.client heq :)
  have hanswers : second.answers = link.answers := (congrArg Link.answers heq :)
  have hsession : second.session = link.session := (congrArg Link.session heq :)
  obtain ⟨t, hc, hfail⟩ := h.reliable
  refine ⟨hsession ▸ h.connected, ⟨t, hcarrier.trans hc, hfail⟩, ⟨hclient ▸ h.numbered.client, ?_⟩,
    hsession ▸ h.sound⟩
  rw [hclient, hanswers]
  exact h.numbered.answers

/-- A call that has just begun. -/
theorem proceeds_startCall (h : link.Working) {call : Call}
    (htask : link.task? id = some (.call (.fresh call))) (hcalm : isCalmCall call)
    (hbase : base ≤ link.sent.length) :
    Proceeds id base isReplay link (link.startCall id call) := by
  have hbyRequests := essenceKeptByRequests_quiet id link
  have hawaits : ∀ topic, ¬ link.AwaitsTopic id topic := by
    rintro topic ⟨_, _, _, heq⟩
    simp [htask] at heq
  have hreplays : ∀ topic, ¬ link.ReplaysTopic id topic := by
    rintro topic ⟨_, _, heq, _⟩
    simp [htask] at heq
  have hquiet : ∀ {after : Link}, Quiet id link after → Proceeds id base isReplay link after := by
    intro after hafter
    refine hafter.proceeds hbase (fun stage heq => ?_) hawaits hreplays
    rw [htask, Option.some.injEq, Task.call.injEq] at heq
    exact heq ▸ hcalm
  have hplain : isPlainCall isOther call →
      Proceeds id base isReplay link (link.startCall id call) := fun hcall =>
    hquiet (hbyRequests.runCall isOther_clientIdMethod
      (show isPlainStage isOther (.fresh call) from hcall) (.refl h id))
  have hended : ∀ {mid : Link} (subscription : Subscription), mid.essence = link.essence →
      Proceeds id base isReplay link (mid.endSubscription id subscription) := by
    intro mid subscription heq
    have hsettled := settled_endSubscription (h.idle heq) id subscription
    have hbeside := (hbyRequests.idle (.refl h id) heq).beside
    have hsession : mid.session = link.session := (congrArg Link.session heq :)
    refine (hsettled.after hbeside fun topic => ?_).proceeds hbase
      (fun _ hgained => absurd hgained Bool.false_ne_true)
      (fun topic hw => absurd hw (hawaits topic)) hreplays
    rw [followed_congr hsession]
  cases call with
  | subscribe topic subscriber =>
    exact proceeds_beginSubscription h htask hbase topic subscriber none
  | unsubscribe subscription => exact hended subscription rfl
  | track workspace =>
    simp only [startCall, track]
    split
    · exact hquiet (hbyRequests.finish _ (.refl h id))
    · exact proceeds_beginSubscription h htask hbase _ _ _
  | untrack workspace =>
    have heq := settleStatuses_essence (link.waiter.untrack workspace).2.2
      { link with waiter := (link.waiter.untrack workspace).2.1 }
    simp only [startCall, untrack]
    split
    · exact hended _ heq
    · exact hquiet (hbyRequests.finish _ (hbyRequests.idle (.refl h id) heq))
  | follow method subscriber request params => exact hcalm.elim
  | unfollow method handler request params => exact hcalm.elim
  | request method params limitMs => exact hplain hcalm
  | _ => exact hplain trivial

theorem proceeds_runCall (h : link.Working) {stage : Stage}
    (htask : link.task? id = some (.call stage)) (hcalm : isCalmStage stage)
    (hconfirmed : ∀ number subscription tracking error,
      stage = .subscribing number subscription tracking →
        link.answer? number ≠ some (.error error))
    (hbase : base ≤ link.sent.length) :
    Proceeds id base isReplay link (link.runCall id stage) := by
  have hplain : isPlainStage isOther stage →
      Proceeds id base isReplay link (link.runCall id stage) := by
    intro hstage
    have hquiet :=
      (essenceKeptByRequests_quiet id link).runCall isOther_clientIdMethod hstage (.refl h id)
    refine hquiet.proceeds hbase (fun other heq => ?_) ?_ ?_
    · rw [htask, Option.some.injEq, Task.call.injEq] at heq
      exact heq ▸ hcalm
    · rintro topic ⟨number, handler, tracking, heq⟩
      rw [htask, Option.some.injEq, Task.call.injEq] at heq
      rw [heq] at hstage
      exact hstage
    · rintro topic ⟨_, _, heq, _⟩
      simp [htask] at heq
  cases stage with
  | fresh call => exact proceeds_startCall h htask hcalm hbase
  | subscribing number subscription tracking =>
    exact proceeds_awaitSubscription h htask
      (fun error => hconfirmed number subscription tracking error rfl) hbase
  | following number method handler => exact hcalm.elim
  | _ => exact hplain trivial

/-! ### Inputs -/

/-- A session that is connected and stays so ignores what it hears. -/
theorem handle_connected {config : SessionConfig} {s : Session} {input : Input}
    (hbefore : s.phase = .connected)
    (hafter : (s.handle config input).session.phase = .connected) :
    ∃ entries : List LogEntry, s.handle config input = ⟨s, entries.map .log⟩ := by
  have hreacts := Session.handle_reacts config s input
  generalize s.handle config input = step at hreacts hafter
  cases hreacts with
  | begins hphase => simp [hbefore] at hphase
  | revives hphase => simp [hbefore] at hphase
  | shuts ticket => simp [Session.Step.doing, Session.shut_eq] at hafter
  | opens hphase => simp [hbefore] at hphase
  | identifies client hphase => simp [hbefore] at hphase
  | retries entry => simp [Session.Step.andThen, Session.retry] at hafter
  | givesUp entry => simp [Session.Step.andThen, Session.giveUp] at hafter
  | redials timer => simp [Session.beginConnect_eq] at hafter
  | ignores entries => exact ⟨entries, rfl⟩

/-- Calls ask for subscriptions only through the session. -/
def CallsCalm (link : Link) : Prop :=
  ∀ id stage, link.task? id = some (.call stage) → isCalmStage stage

theorem proceeds_handleNext (h : link.Working) (hcalls : link.CallsCalm) (id : Nat)
    (hafter : link.handleNext.session.phase = .connected) :
    Proceeds id base isReplay link link.handleNext := by
  cases hinputs : link.inputs with
  | nil =>
    have hsame : link.handleNext = link := by simp only [handleNext, hinputs]
    rw [hsame]
    exact proceeds_of_same id h.reliable h.numbered h.sound rfl rfl (fun _ => rfl) hcalls
  | cons input rest =>
    let step := link.session.handle link.config input
    have hrun : link.handleNext =
        runEffects step.effects { link with inputs := rest, session := step.session } := by
      simp only [handleNext, hinputs]
      rfl
    rw [hrun, runEffects_session] at hafter
    obtain ⟨entries, heq⟩ := handle_connected h.connected hafter
    have hstep : step = ⟨link.session, entries.map .log⟩ := heq
    rw [hrun, hstep, runEffects_logs]
    refine proceeds_of_same id h.reliable ⟨h.numbered.client, h.numbered.answers⟩ h.sound rfl rfl
      (fun _ => rfl) hcalls

/-! ### Beats -/

def isReplayBeat (link : Link) (b : Beat) : Prop :=
  ∃ id current rest, b = .task id ∧ link.task? id = some (.replay current rest)

/-- No call is dropped, calls ask for subscriptions only through the session, and the transport
itself neither sends nor fails. -/
def isCalmBeat : Beat → Prop
  | .call call => isCalmCall call
  | .abandon _ => False
  | .script act => ∀ t, (act t).1.sent = t.sent ∧ (act t).1.sendFailures = t.sendFailures
  | _ => True

/-- The session is connected, and no subscription was refused. -/
structure Undisturbed (link : Link) : Prop where
  connected : link.session.phase = .connected
  confirmed : ∀ id number subscription tracking error,
    link.task? id = some (.call (.subscribing number subscription tracking)) →
      link.answer? number ≠ some (.error error)

theorem proceeds_runTask (h : link.Working) (hcalls : link.CallsCalm)
    (hundisturbed : link.Undisturbed) (id : Nat)
    (hafter : (link.runTask id).session.phase = .connected) (hbase : base ≤ link.sent.length) :
    Proceeds id base (link.isReplayBeat (.task id)) link (link.runTask id) := by
  have hbyRequests := essenceKeptByRequests_quiet id link
  have hsame : Proceeds id base (link.isReplayBeat (.task id)) link link :=
    proceeds_of_same id h.reliable h.numbered h.sound rfl rfl (fun _ => rfl) hcalls
  cases htask : link.task? id with
  | none => simpa only [runTask, poll, htask] using hsame
  | some task =>
    -- A task that is neither a call nor a replay.
    have hquiet : ∀ {after : Link}, (∀ stage, task ≠ .call stage) →
        (∀ current rest, task ≠ .replay current rest) → Quiet id link after →
        Proceeds id base (link.isReplayBeat (.task id)) link after := by
      intro after hcall hreplay hafter
      refine hafter.proceeds hbase (fun stage heq => ?_) ?_ ?_
      · exact absurd (Option.some.inj (htask.symm.trans heq)) (hcall stage)
      · rintro topic ⟨_, _, _, heq⟩
        exact hcall _ (Option.some.inj (htask.symm.trans heq))
      · rintro topic ⟨_, _, heq, _⟩
        exact hreplay _ _ (Option.some.inj (htask.symm.trans heq))
    simp only [runTask, poll, htask] at hafter ⊢
    cases task with
    | driver => exact proceeds_handleNext h hcalls id hafter
    | attempt token clientId => exact hquiet (by simp) (by simp) (quiet_runAttempt h _ _ _)
    | handshake token g => exact hquiet (by simp) (by simp) (quiet_runHandshake h _ _ _)
    | identify g inquiry? =>
      exact hquiet (by simp) (by simp)
        (hbyRequests.runIdentify isOther_clientIdMethod _ _ (.refl h id))
    | probes token g stage =>
      exact hquiet (by simp) (by simp)
        (hbyRequests.runProbes isOther_clientIdMethod _ _ _ (.refl h id))
    | delay number delayMs due? =>
      exact hquiet (by simp) (by simp) (hbyRequests.runDelay _ _ _ (.refl h id))
    | delivery delivery => exact hquiet (by simp) (by simp) (quiet_runDelivery h _ _)
    | stream g => exact hsame
    | replay current rest =>
      have hruns := proceeds_runReplay h htask hbase
      exact ⟨hruns.beside, hruns.own, fun topic =>
        (hruns.change topic).mono fun _ => ⟨id, current, rest, rfl, htask⟩⟩
    | call stage =>
      refine proceeds_runCall h htask (hcalls id stage htask) ?_ hbase
      rintro number subscription tracking error rfl
      exact hundisturbed.confirmed id number subscription tracking error htask

/-- A call begins. -/
theorem proceeds_spawn (h : link.Working) (hcalls : link.CallsCalm) (stage : Stage)
    (hcalm : isCalmStage stage)
    (hwaits : ∀ number subscription tracking, stage ≠ .subscribing number subscription tracking)
    (heq : second.essence = (link.spawn (.call stage)).essence) :
    Proceeds link.nextTask base isReplay link second := by
  have htask : ∀ other, second.task? other =
      (link.task? other).or (if other = link.nextTask then some (.call stage) else none) :=
    fun other => (congrArg (fun l : Link => l.task? other) heq :).trans (task?_spawn _ other link)
  have hbeside : Beside link.nextTask [] link second := by
    refine (h.beside _).of_tasks (congrArg Link.carrier heq :) (congrArg Link.client heq :)
      (congrArg Link.answers heq :) (congrArg Link.session heq :) fun other task hne _ => ?_
    rw [htask, if_neg hne, Option.or_none]
  -- Under the number of the new call stands the call, unless a task had the number before.
  have hown : ∀ task, second.task? link.nextTask = some task →
      link.task? link.nextTask = some task ∨ task = .call stage := by
    intro task hfound
    rw [htask, if_pos rfl, Option.or_eq_some_iff, Option.some.injEq] at hfound
    rcases hfound with hold | ⟨_, hnew⟩
    · exact .inl hold
    · exact .inr hnew.symm
  have hkept : ∀ task, link.task? link.nextTask = some task →
      second.task? link.nextTask = some task := by
    intro task hfound
    rw [htask, hfound]
    rfl
  refine ⟨⟨[], hbeside⟩, fun other hfound => ?_, fun topic => ?_⟩
  · rcases hown _ hfound with hold | hnew
    · exact hcalls _ other hold
    · rw [Task.call.injEq] at hnew
      exact hnew ▸ hcalm
  · have hsent : second.sent = link.sent := (congrArg Link.sent heq :)
    have hsession : second.session = link.session := (congrArg Link.session heq :)
    refine .same (by rw [askings, askings, hsent]) (followed_congr hsession topic)
      ⟨hbeside.awaited ?_, hbeside.awaited_kept ?_⟩ (hbeside.replaying ?_)
    · rintro ⟨number, handler, tracking, hfound⟩
      rcases hown _ hfound with hold | hnew
      · exact ⟨number, handler, tracking, hold⟩
      · rw [Task.call.injEq] at hnew
        exact absurd hnew.symm (hwaits _ _ _)
    · rintro ⟨number, handler, tracking, hfound⟩
      exact ⟨number, handler, tracking, hkept _ hfound⟩
    · rintro ⟨current, rest, hfound, hmem⟩
      exact ⟨current, rest, hkept _ hfound, hmem⟩

theorem proceeds_beat (h : link.Working) (hcalls : link.CallsCalm)
    (hundisturbed : link.Undisturbed) {b : Beat} (hcalm : isCalmBeat b)
    (hafter : (link.beat b).session.phase = .connected) (hbase : base ≤ link.sent.length) :
    ∃ id, Proceeds id base (link.isReplayBeat b) link (link.beat b) := by
  have hidle : ∀ {after : Link}, after.essence = link.essence →
      Proceeds 0 base (link.isReplayBeat b) link after := by
    intro after heq
    have hworking := h.idle heq
    have htasks : ∀ other, after.task? other = link.task? other :=
      fun other => (congrArg (fun l : Link => l.task? other) heq :)
    refine proceeds_of_same 0 hworking.reliable hworking.numbered h.sound ?_
      (congrArg Link.session heq :) htasks hcalls
    exact (congrArg Link.sent heq :)
  cases b with
  | call call => exact ⟨_, proceeds_spawn h hcalls (.fresh call) hcalm (by simp) rfl⟩
  | waitForStatus workspace status =>
    have hsettled := settleStatuses_essence (link.waiter.waitFor workspace status).2.2
      { link with waiter := (link.waiter.waitFor workspace status).2.1 }
    exact ⟨_, proceeds_spawn h hcalls (.status _) trivial (by simp) (spawn_essence hsettled _)⟩
  | abandon id => exact hcalm.elim
  | task id => exact ⟨id, proceeds_runTask h hcalls hundisturbed id hafter hbase⟩
  | elapse millis => exact ⟨0, hidle rfl⟩
  | handshakeEnds g failure => exact ⟨0, hidle rfl⟩
  | socket turn =>
    obtain ⟨t, hc, _⟩ := h.reliable
    have hsame : link.beat (.socket turn) = link := by simp only [beat, take, hc]
    rw [hsame]
    exact ⟨0, hidle rfl⟩
  | script act =>
    obtain ⟨hreliable, hnumbered, hsent, hsession, htasks⟩ :=
      script_facts h.reliable h.numbered hcalm
    have htask : ∀ other, (link.script act).task? other = link.task? other := by
      intro other
      rw [task?, task?, htasks]
    exact ⟨0, proceeds_of_same 0 hreliable hnumbered h.sound hsent hsession htask hcalls⟩

/-! ### Runs -/

/-- The messages about a topic since the start. -/
def asked (start : Link) (beats : List Beat) (topic : Topic) : List Json :=
  (start.play beats).askings start.sent.length topic

/-- The last message about the topic was sent in this beat. -/
structure AskedLast (start : Link) (beats : List Beat) (topic : Topic) (before : List Beat)
    (b : Beat) : Prop where
  split : ∃ after, beats = before ++ b :: after
  sends : asked start (before ++ [b]) topic ≠ asked start before topic
  last : asked start beats topic = asked start (before ++ [b]) topic

/-- The last message about the topic was sent while the call of a subscriber waited. -/
def Overtaken (start : Link) (beats : List Beat) (topic : Topic) : Prop :=
  ∃ before b, AskedLast start beats topic before b ∧ (start.play before).Awaited topic

/-- The last message about the topic was sent by a replay when it had no subscriber. -/
def Belated (start : Link) (beats : List Beat) (topic : Topic) : Prop :=
  ∃ before b, AskedLast start beats topic before b ∧ (start.play before).isReplayBeat b ∧
    (start.play before).followed topic = false

variable {start : Link} {beats : List Beat} {b : Beat} {topic : Topic}

theorem AskedLast.snoc {before : List Beat} {sender : Beat}
    (h : AskedLast start beats topic before sender)
    (hsame : asked start (beats ++ [b]) topic = asked start beats topic) :
    AskedLast start (beats ++ [b]) topic before sender := by
  obtain ⟨after, rfl⟩ := h.split
  exact ⟨⟨after ++ [b], by simp⟩, h.sends, hsame.trans h.last⟩

theorem askedLast_new (hnew : asked start (beats ++ [b]) topic ≠ asked start beats topic) :
    AskedLast start (beats ++ [b]) topic beats b :=
  ⟨⟨[], rfl⟩, hnew, rfl⟩

theorem Served.mono {overtaken overtaken' belated belated' : Prop}
    (h : Served base topic overtaken belated link) (ho : overtaken → overtaken')
    (hb : belated → belated') : Served base topic overtaken' belated' link where
  followed hf := (h.followed hf).imp_right (Or.imp_right ho)
  unfollowed hf ha := (h.unfollowed hf ha).imp_right hb
  awaited ha := (h.awaited ha).imp_right ho

/-- What holds after the beats of a calm run. -/
structure Attended (start : Link) (beats : List Beat) : Prop where
  reliable : (start.play beats).Reliable
  numbered : (start.play beats).Numbered
  sound : Grouped.Sound (start.play beats).session.table
  calls : (start.play beats).CallsCalm
  sent : start.sent.length ≤ (start.play beats).sent.length
  served : ∀ topic, Served start.sent.length topic (Overtaken start beats topic)
    (Belated start beats topic) (start.play beats)

theorem Attended.beat (h : Attended start beats) (hcalm : isCalmBeat b)
    (hbefore : (start.play beats).Undisturbed)
    (hafter : (start.play (beats ++ [b])).Undisturbed) : Attended start (beats ++ [b]) := by
  have hworking : (start.play beats).Working :=
    ⟨hbefore.connected, h.reliable, h.numbered, h.sound⟩
  have hconnected := hafter.connected
  rw [play_snoc] at hconnected
  obtain ⟨id, hproceeds⟩ :=
    proceeds_beat hworking h.calls hbefore hcalm hconnected h.sent
  obtain ⟨asks, hbeside⟩ := hproceeds.beside
  rw [← play_snoc] at hproceeds hbeside
  refine ⟨hbeside.reliable, hbeside.numbered, hbeside.sound, fun other stage htask => ?_,
    hbeside.base_le h.sent, fun topic => ?_⟩
  · by_cases heq : other = id
    · subst heq
      exact hproceeds.own stage htask
    · exact h.calls other stage ((hbeside.others other _ heq (by simp)).mp htask)
  · refine ((hproceeds.change topic).served (h.served topic)).mono ?_ ?_
    · rintro (⟨hsame, before, sender, hlast, hawaited⟩ | ⟨hnew, hawaited⟩)
      · exact ⟨before, sender, hlast.snoc hsame, hawaited⟩
      · exact ⟨beats, b, askedLast_new hnew, hawaited⟩
    · rintro (⟨hsame, before, sender, hlast, hlate⟩ | ⟨hnew, hlate⟩)
      · exact ⟨before, sender, hlast.snoc hsame, hlate⟩
      · exact ⟨beats, b, askedLast_new hnew, hlate⟩

/-- A session that has just been connected: no call on its subscriptions waits, and the topics that
it follows from before are about to be asked for again. -/
structure Opening (start : Link) : Prop where
  reliable : start.Reliable
  numbered : start.Numbered
  sound : Grouped.Sound start.session.table
  calls : start.CallsCalm
  awaited : ∀ topic, ¬ start.Awaited topic
  replaying : ∀ topic, start.followed topic = true → start.Replaying topic

/-- The session stays connected, the server confirms every subscription, and no call is dropped. -/
structure Calm (start : Link) (beats : List Beat) : Prop where
  calm : ∀ b ∈ beats, isCalmBeat b
  states : ∀ before after, beats = before ++ after → (start.play before).Undisturbed

theorem attended_nil (h : Opening start) : Attended start [] := by
  refine ⟨h.reliable, h.numbered, h.sound, h.calls, Nat.le_refl _, fun topic => ?_⟩
  refine ⟨fun hf => .inr (.inl (h.replaying topic hf)), fun _ hasked => ?_,
    fun ha => absurd ha (h.awaited topic)⟩
  obtain ⟨message, hlast, _⟩ := hasked
  simp [play, askings] at hlast

theorem attended_play (h : Opening start) (hcalm : Calm start beats) : Attended start beats := by
  -- The beats already played are carried along, as what was overtaken is a fact about them.
  have hrun : ∀ rest done, done ++ rest = beats → Attended start done → Attended start beats := by
    intro rest
    induction rest with
    | nil =>
      intro done heq hdone
      rw [← heq, List.append_nil]
      exact hdone
    | cons b rest ih =>
      intro done heq hdone
      have hsplit : (done ++ [b]) ++ rest = beats := by simpa using heq
      refine ih (done ++ [b]) hsplit (hdone.beat ?_ ?_ ?_)
      · exact hcalm.calm b (by simp [← heq])
      · exact hcalm.states done (b :: rest) heq.symm
      · exact hcalm.states (done ++ [b]) rest hsplit.symm
  exact hrun beats [] rfl (attended_nil h)

/-- Let a connected session, the calls on it, its server and a replay take turns in any order, and
let every subscription be confirmed. When no call and no replay is still to ask for a topic, then
the last message about a topic with subscribers asked for it, unless that message was sent while the
call of a subscriber waited; and the last message about a topic without subscribers gave it up,
unless a replay sent it after the last of them had left. -/
theorem asked_as_followed (start : Link) (hstart : Opening start) (beats : List Beat)
    (hcalm : Calm start beats) (topic : Topic)
    (hsettled : ¬ (start.play beats).Awaited topic ∧ ¬ (start.play beats).Replaying topic) :
    let subscribers := SubscriptionTable.subscribers (start.play beats).session.table topic
    let messages :=
      ((start.play beats).sent.drop start.sent.length).filter topic.concernedBy
    (subscribers ≠ [] → (∃ message, messages.getLast? = some message ∧ topic.startedBy message) ∨
      Overtaken start beats topic) ∧
    (subscribers = [] → ∀ message, messages.getLast? = some message →
      topic.endedBy message ∨ Belated start beats topic) := by
  intro subscribers messages
  have h := attended_play hstart hcalm
  have hserved := h.served topic
  have hfollowed : (start.play beats).followed topic = !subscribers.isEmpty :=
    SubscriptionTable.follows_eq h.sound topic
  constructor
  · intro hsome
    have hf : (start.play beats).followed topic = true := by simpa [hfollowed] using hsome
    rcases hserved.followed hf with hasked | hreplaying | hovertaken
    · exact .inl hasked
    · exact absurd hreplaying hsettled.2
    · exact .inr hovertaken
  · intro hnone message hlast
    have hf : (start.play beats).followed topic = false := by simp [hfollowed, hnone]
    have hconcerns : topic.concernedBy message :=
      (List.mem_filter.mp (List.mem_of_getLast? hlast)).2
    rcases Bool.or_eq_true_iff.mp hconcerns with hstarts | hends
    · rcases hserved.unfollowed hf ⟨message, hlast, hstarts⟩ with hawaited | hbelated
      · exact absurd hawaited hsettled.1
      · exact .inr hbelated
    · exact .inl hends

/-! ### A subscriber that is overtaken -/

/-- No topic is followed, no request and no call on a subscription waits, and sends do not fail. -/
def isVacant (link : Link) : Bool :=
  link.session.table.isEmpty && link.client.pending.isEmpty && link.answers.isEmpty &&
    link.tasks.all (fun entry => isAside entry.2) &&
    match link.carrier with
    | .scripted t => t.sendFailures.isEmpty
    | .socket _ => false

theorem opening_of_isVacant (h : link.isVacant) : Opening link := by
  simp only [isVacant, Bool.and_eq_true, List.isEmpty_iff, List.all_eq_true] at h
  obtain ⟨⟨⟨⟨htable, hpending⟩, hanswers⟩, htasks⟩, hcarrier⟩ := h
  have haside : ∀ id task, link.task? id = some task → isAside task :=
    fun id task htask => htasks _ (mem_of_task? htask)
  refine ⟨?_, ⟨⟨by simp [hpending], by simp [hpending]⟩, by simp [hanswers]⟩,
    htable ▸ Grouped.sound_nil, fun id stage htask => isCalmStage_of_isAside (haside id _ htask),
    ?_, fun topic hf => ?_⟩
  · split at hcarrier
    next t hc => exact ⟨t, hc, by simpa using hcarrier⟩
    next => simp at hcarrier
  · rintro topic ⟨id, hawaits⟩
    exact not_awaitsTopic_of_isAside (haside id) hawaits
  · simp [followed, htable, SubscriptionTable.follows] at hf

/-- The session is connected, and every answer that nobody has taken is a success. -/
def isPlacid (link : Link) : Bool :=
  link.session.phase = .connected && link.answers.all fun entry => entry.2.isOk

theorem undisturbed_of_isPlacid (h : link.isPlacid) : link.Undisturbed := by
  simp only [isPlacid, Bool.and_eq_true, decide_eq_true_eq, List.all_eq_true] at h
  refine ⟨h.1, fun id number subscription tracking error _ hanswer => ?_⟩
  obtain ⟨before, after, heq, _⟩ := List.lookup_eq_some_iff.mp hanswer
  have hok := h.2 (number, .error error) (by simp [heq])
  simp [Except.isOk, Except.toBool] at hok

/-- Two subscribers ask for a topic. The first is confirmed and leaves again, then the second is
confirmed. -/
def overtaking : List Beat :=
  [subscribeStatus, subscribeStatus, .task 5, .task 6, confirms 2, .task 5,
    .call (.unsubscribe ⟨statusTopic, ⟨1⟩⟩), .task 7, confirms 3, .task 6, confirms 4, .task 7]

/-- The second subscriber is left, no request is out, and the topic was given up last. -/
theorem overtaken_subscriber_unserved :
    let link := (rehearsed.play connecting).play overtaking
    link.session.phase = .connected ∧ link.client.pending = [] ∧
      SubscriptionTable.subscribers link.session.table statusTopic = [⟨2⟩] ∧
      (link.sent.getLast?).any statusTopic.endedBy = true := by
  decide +kernel

theorem calm_of_isPlacid (hcalm : ∀ b ∈ beats, isCalmBeat b)
    (hplacid : ∀ n < beats.length + 1, (start.play (beats.take n)).isPlacid) :
    Calm start beats := by
  refine ⟨hcalm, fun before after heq => ?_⟩
  have hbefore : before = beats.take before.length := by simp [heq]
  have hlength : before.length < beats.length + 1 := by
    rw [heq, List.length_append]
    omega
  rw [hbefore]
  exact undisturbed_of_isPlacid (hplacid _ hlength)

theorem settled_of_isAside (h : ∀ entry ∈ link.tasks, isAside entry.2) (topic : Topic) :
    ¬ link.Awaited topic ∧ ¬ link.Replaying topic := by
  constructor
  · rintro ⟨id, hawaits⟩
    exact not_awaitsTopic_of_isAside (fun task htask => h _ (mem_of_task? htask)) hawaits
  · rintro ⟨id, current, rest, htask, _⟩
    have haside := h _ (mem_of_task? htask)
    simp [isAside] at haside

/-- The task waits for the answer to a request for a topic, or is to ask for topics again. -/
def isAsking : Task → Bool
  | .call (.subscribing _ _ _) | .replay _ _ => true
  | _ => false

/-- A message that is sent while nobody else is asking is not overtaken. -/
theorem undisputed_of_alone
    (h : ∀ n < beats.length,
      asked start (beats.take (n + 1)) topic = asked start (beats.take n) topic ∨
        (start.play (beats.take n)).tasks.all fun entry => !isAsking entry.2) :
    ¬ Overtaken start beats topic ∧ ¬ Belated start beats topic := by
  have halone : ∀ before b, AskedLast start beats topic before b →
      ∀ id task, (start.play before).task? id = some task → isAsking task = false := by
    rintro before b ⟨⟨after, rfl⟩, hsends, -⟩ id task htask
    have hbefore : (before ++ b :: after).take before.length = before := List.take_left
    have hsender : (before ++ b :: after).take (before.length + 1) = before ++ [b] := by
      simp [List.take_append, List.take_of_length_le]
    have hquiet := h before.length (by simp)
    rw [hbefore, hsender] at hquiet
    have hothers := hquiet.resolve_left hsends
    simp only [List.all_eq_true, Bool.not_eq_true'] at hothers
    exact hothers (id, task) (mem_of_task? htask)
  constructor
  · rintro ⟨before, b, hlast, id, number, handler, tracking, htask⟩
    simpa [isAsking] using halone before b hlast id _ htask
  · rintro ⟨before, b, hlast, ⟨id, current, rest, -, htask⟩, -⟩
    simpa [isAsking] using halone before b hlast id _ htask

theorem calm_overtaking : Calm (rehearsed.play connecting) overtaking := by
  refine calm_of_isPlacid ?_ (by decide +kernel)
  simp [overtaking, isCalmBeat, isCalmCall, subscribeStatus, confirms, answered]

/-- One subscriber asks for a topic and is confirmed. -/
def joining : List Beat := [subscribeStatus, .task 5, confirms 2, .task 5]

/-- It leaves again. -/
def parting : List Beat :=
  joining ++ [.call (.unsubscribe ⟨statusTopic, ⟨1⟩⟩), .task 6, confirms 3, .task 6]

/-- In the first run the second subscriber is overtaken. In the others nobody is: the topic was
asked for last while it has a subscriber, and given up last when it has none. -/
theorem overtaking_overtaken :
    let start := rehearsed.play connecting
    Opening start ∧ (Calm start overtaking ∧ Overtaken start overtaking statusTopic) ∧
      (Calm start joining ∧ ∃ message,
        (asked start joining statusTopic).getLast? = some message ∧
          statusTopic.startedBy message) ∧
      Calm start parting ∧ ∃ message,
        (asked start parting statusTopic).getLast? = some message ∧
          statusTopic.endedBy message := by
  intro start
  have hopening : Opening start := opening_of_isVacant (by decide +kernel)
  have hsettled : ∀ beats, ((start.play beats).tasks.all fun entry => isAside entry.2) →
      ¬ (start.play beats).Awaited statusTopic ∧ ¬ (start.play beats).Replaying statusTopic :=
    fun beats haside => settled_of_isAside (by simpa using haside) statusTopic
  have hcalmJoining : Calm start joining := by
    refine calm_of_isPlacid ?_ (by decide +kernel)
    simp [joining, isCalmBeat, isCalmCall, subscribeStatus, confirms, answered]
  have hcalmParting : Calm start parting := by
    refine calm_of_isPlacid ?_ (by decide +kernel)
    simp [parting, joining, isCalmBeat, isCalmCall, subscribeStatus, confirms, answered]
  refine ⟨hopening, ⟨calm_overtaking, ?overtaken⟩, ⟨hcalmJoining, ?joining⟩, hcalmParting,
    ?parting⟩
  case overtaken =>
    have hserved := (asked_as_followed _ hopening overtaking calm_overtaking statusTopic
      (hsettled _ (by decide +kernel))).1 (by decide +kernel)
    refine hserved.resolve_left ?_
    rintro ⟨message, hlast, hstarts⟩
    have hends : (asked start overtaking statusTopic).getLast?.any statusTopic.endedBy = true := by
      decide +kernel
    rw [asked, askings, hlast] at hends
    simp [Topic.not_startedBy_of_endedBy hends] at hstarts
  case joining =>
    have hserved := (asked_as_followed _ hopening joining hcalmJoining statusTopic
      (hsettled _ (by decide +kernel))).1 (by decide +kernel)
    exact hserved.resolve_right (undisputed_of_alone (by decide +kernel)).1
  case parting =>
    have hserved := (asked_as_followed _ hopening parting hcalmParting statusTopic
      (hsettled _ (by decide +kernel))).2 (by decide +kernel)
    have hasked : ∃ message, (asked start parting statusTopic).getLast? = some message := by
      rw [← Option.isSome_iff_exists]
      decide +kernel
    obtain ⟨message, hlast⟩ := hasked
    have hends := (hserved message hlast).resolve_right
      (undisputed_of_alone (by decide +kernel)).2
    exact ⟨message, hlast, hends⟩

end WorkspaceLink.Link
