import WorkspaceLink.Proofs.Link.Mirroring

/-!
# Links in lockstep

What the tasks outside of a margin, the users and the transport do, they do to a link and to its
image alike: `Mirrors.beat`. Calls that wait for a status are kept in the margin, since what ends
their waits is left out when the links are compared.
-/
namespace WorkspaceLink.Link

variable {margin : Margin} {link image : Link} {id number : Nat}

namespace Mirrors

section

variable (h : Mirrors margin link image)
include h

/-! ### Tasks of the session -/

theorem inquiryResult? {inquiry : Inquiry} (hne : inquiry.number ≠ margin.number) :
    link.inquiryResult? inquiry = image.inquiryResult? inquiry := by
  unfold Link.inquiryResult?
  rw [h.answer? hne, h.now]

theorem inquire (limitMs : Nat) :
    Mirrors margin (link.inquire limitMs).2 (image.inquire limitMs).2 :=
  h.request _ _

theorem inquire_inquiry (limitMs : Nat) :
    (link.inquire limitMs).1 = (image.inquire limitMs).1 := by
  have hnow : (link.request Message.clientIdMethod none).2.now =
      (image.request Message.clientIdMethod none).2.now := (h.request _ _).now
  simp only [Link.inquire, h.request_number, hnow]

theorem runIdentify (id generation : Nat) (inquiry? : Option Inquiry)
    (hpermits : margin.Permits image.client.nextId (.identify generation inquiry?)) :
    Mirrors margin (link.runIdentify id generation inquiry?)
      (image.runIdentify id generation inquiry?) := by
  unfold Link.runIdentify
  rw [h.released]
  split
  · cases inquiry? with
    | none => exact h.endTask id
    | some inquiry => exact (h.forget _).endTask id
  · cases inquiry? with
    | some inquiry =>
      have hnumber := hpermits.request inquiry.number rfl
      dsimp only
      rw [h.inquiryResult? hnumber.1]
      split
      · exact ((h.forget _).endTask id).pushInput _
      · exact h
    | none =>
      have hasked := h.inquire image.config.settings.livenessTimeoutMs
      have hfresh := h.request_fresh Message.clientIdMethod none
      dsimp only
      rw [h.config, h.inquire_inquiry, hasked.inquiryResult? hfresh.1]
      split
      · exact ((hasked.forget _).endTask id).pushInput _
      · exact (hasked.setTask id (Margin.permits_of_some hfresh rfl)).arm id _

theorem rest (id token generation due : Nat) :
    Mirrors margin (link.rest id token generation due) (image.rest id token generation due) :=
  (h.setTask id (Margin.permits_of_none rfl (by nofun))).arm id due

theorem reportDead (id generation : Nat) (error : ProbeError) :
    Mirrors margin (link.reportDead id generation error) (image.reportDead id generation error) :=
  (h.endTask id).pushInput _

theorem startProbe (id token generation due : Nat) :
    Mirrors margin (link.startProbe id token generation due)
      (image.startProbe id token generation due) := by
  have hasked := h.inquire image.config.settings.livenessTimeoutMs
  have hfresh := h.request_fresh Message.clientIdMethod none
  unfold Link.startProbe
  dsimp only
  rw [h.config, h.now, h.inquire_inquiry, hasked.inquiryResult? hfresh.1]
  split
  · exact (hasked.setTask id (Margin.permits_of_some hfresh rfl)).arm id _
  · exact (hasked.forget _).reportDead _ _ _
  · exact (hasked.forget _).rest _ _ _ _

theorem runProbes (id token generation : Nat) (stage : ProbeStage)
    (hpermits : margin.Permits image.client.nextId (.probes token generation stage)) :
    Mirrors margin (link.runProbes id token generation stage)
      (image.runProbes id token generation stage) := by
  cases stage with
  | fresh =>
    simp only [Link.runProbes, h.isStopped, h.now, h.config]
    split
    · exact h.endTask id
    · exact h.rest _ _ _ _
  | resting due =>
    simp only [Link.runProbes, h.isStopped, h.now]
    split
    · exact h.endTask id
    · split
      · exact h.startProbe _ _ _ _
      · exact h
  | probing inquiry next =>
    have hnumber := hpermits.request inquiry.number rfl
    have hforgot := h.forget inquiry.number
    simp only [Link.runProbes, h.isStopped, h.inquiryResult? hnumber.1, hforgot.now]
    split
    · exact hforgot.endTask id
    · split
      · exact h
      · exact hforgot.reportDead _ _ _
      · split
        · exact hforgot.startProbe _ _ _ _
        · exact hforgot.rest _ _ _ _

theorem runDelay (id number delayMs : Nat) (due? : Option Nat) :
    Mirrors margin (link.runDelay id number delayMs due?)
      (image.runDelay id number delayMs due?) := by
  have htimers : link.cancelledTimers = image.cancelledTimers :=
    (congrArg Link.cancelledTimers h.outline :)
  unfold Link.runDelay
  rw [h.released, htimers, h.now]
  split
  · exact h.endTask id
  · dsimp only
    split
    · exact (h.endTask id).pushInput _
    · split
      · exact h
      · exact (h.setTask id (Margin.permits_of_none rfl (by nofun))).arm id _

theorem noteReplay (number : Nat) (topic : Topic) (answer : Answer) :
    Mirrors margin (link.noteReplay number topic answer)
      (image.noteReplay number topic answer) := by
  cases answer with
  | ok value => exact h.forget number
  | error error => exact (h.forget number).congr ⟨rfl, rfl⟩ ⟨rfl, rfl⟩

theorem replayFrom (id : Nat) (topics : List Topic) :
    Mirrors margin (link.replayFrom id topics) (image.replayFrom id topics) := by
  induction topics generalizing link image with
  | nil => exact h.endTask id
  | cons topic rest ih =>
    have hasked := h.request Message.subscribeMethod (some topic.params)
    have hfresh := h.request_fresh Message.subscribeMethod (some topic.params)
    simp only [Link.replayFrom, h.request_number, hasked.answer? hfresh.1]
    split
    · exact ih (hasked.noteReplay _ _ _)
    · exact hasked.setTask id (Margin.permits_of_some hfresh rfl)

theorem runReplay (id : Nat) (current : Option (Nat × Topic)) (rest : List Topic)
    (hpermits : margin.Permits image.client.nextId (.replay current rest)) :
    Mirrors margin (link.runReplay id current rest) (image.runReplay id current rest) := by
  cases current with
  | none => exact h.replayFrom id rest
  | some pair =>
    simp only [Link.runReplay, h.answer? (hpermits.request pair.1 rfl).1]
    split
    · exact (h.noteReplay _ _ _).replayFrom id rest
    · exact h

/-! ### Calls -/

theorem awaitAnswer (id : Nat) (due? : Option Nat) (fresh : Bool)
    (hnumber : number ≠ margin.number ∧ number < image.client.nextId) :
    Mirrors margin (link.awaitAnswer id number due? fresh)
      (image.awaitAnswer id number due? fresh) := by
  unfold Link.awaitAnswer
  rw [h.answer? hnumber.1, h.now]
  split
  · exact (h.forget number).finish id _
  · exact h.setTask id (Margin.permits_of_some hnumber rfl)
  · split
    · exact (h.forget number).finish id _
    · split
      · exact (h.setTask id (Margin.permits_of_some hnumber rfl)).arm id _
      · exact h

theorem awaitIdentity (id : Nat) {inquiry : Inquiry} (fresh : Bool)
    (hnumber : inquiry.number ≠ margin.number ∧ inquiry.number < image.client.nextId) :
    Mirrors margin (link.awaitIdentity id inquiry fresh)
      (image.awaitIdentity id inquiry fresh) := by
  unfold Link.awaitIdentity
  rw [h.inquiryResult? hnumber.1]
  split
  · exact (h.forget _).finish id _
  · exact (h.forget _).finish id _
  · split
    · exact (h.setTask id (Margin.permits_of_some hnumber rfl)).arm id _
    · exact h

theorem awaitConfirmation (id : Nat)
    (hnumber : number ≠ margin.number ∧ number < image.client.nextId) :
    Mirrors margin (link.awaitConfirmation id number) (image.awaitConfirmation id number) := by
  unfold Link.awaitConfirmation
  rw [h.answer? hnumber.1]
  split
  · exact (h.forget number).finish id _
  · exact h.setTask id (Margin.permits_of_some hnumber rfl)

theorem awaitFollowing (id : Nat) (method : String) (handler : HandlerId)
    (hnumber : number ≠ margin.number ∧ number < image.client.nextId) :
    Mirrors margin (link.awaitFollowing id number method handler)
      (image.awaitFollowing id number method handler) := by
  unfold Link.awaitFollowing
  rw [h.answer? hnumber.1]
  split
  · exact (h.forget number).finish id _
  · exact ((h.forget number).removeHandler method handler).finish id _
  · exact h.setTask id (Margin.permits_of_some hnumber rfl)

theorem follow (id : Nat) (method : String) (subscriber : Subscriber) (request : String)
    (params : Option Json) :
    Mirrors margin (link.follow id method subscriber request params)
      (image.follow id method subscriber request params) := by
  have hadded := h.addHandler method subscriber
  have hasked := hadded.request request params
  unfold Link.follow
  dsimp only
  rw [h.addHandler_handler, hadded.request_number]
  exact hasked.awaitFollowing id method _ (hadded.request_fresh request params)

theorem unfollow (id : Nat) (method : String) (handler : HandlerId) (request : String)
    (params : Option Json) :
    Mirrors margin (link.unfollow id method handler request params)
      (image.unfollow id method handler request params) := by
  have hremoved := h.removeHandler method handler
  have hasked := hremoved.request request params
  unfold Link.unfollow
  dsimp only
  rw [hremoved.request_number]
  exact hasked.awaitConfirmation id (hremoved.request_fresh request params)

theorem endSubscription (id : Nat) (subscription : Subscription) :
    Mirrors margin (link.endSubscription id subscription)
      (image.endSubscription id subscription) := by
  have hremoved :=
    h.updateTable (SubscriptionTable.remove subscription.topic subscription.handler)
  unfold Link.endSubscription
  dsimp only
  rw [h.session, hremoved.session]
  split
  · exact h.finish id _
  · split
    · exact hremoved.unfollow id _ _ _ _
    · exact (hremoved.removeHandler _ _).finish id _

theorem setTracked (workspace : WorkspaceId) (subscription : Subscription) :
    (link.waiter.setTracked workspace subscription).1 =
        (image.waiter.setTracked workspace subscription).1 ∧
      Mirrors margin { link with waiter := (link.waiter.setTracked workspace subscription).2 }
        { image with waiter := (image.waiter.setTracked workspace subscription).2 } := by
  have htracked : link.waiter.tracked = image.waiter.tracked :=
    (congrArg (fun link : Link => link.waiter.tracked) h.outline :)
  refine ⟨congrArg (List.lookup workspace) htracked, ?_⟩
  exact h.change (fun link => { link with waiter :=
    (link.waiter.setTracked workspace subscription).2 }) rfl rfl rfl rfl rfl

theorem completeSubscription (id : Nat) (subscription : Subscription)
    (tracking : Option WorkspaceId) :
    Mirrors margin (link.completeSubscription id subscription tracking)
      (image.completeSubscription id subscription tracking) := by
  have hlisted := h.updateTable (SubscriptionTable.add subscription.topic subscription.handler)
  unfold Link.completeSubscription
  cases tracking with
  | none => exact hlisted.finish id _
  | some workspace =>
    obtain ⟨hbefore, hset⟩ := hlisted.setTracked workspace subscription
    dsimp only
    rw [hbefore]
    split
    · exact hset.endSubscription id _
    · exact hset.finish id _

theorem awaitSubscription (id : Nat) (subscription : Subscription)
    (tracking : Option WorkspaceId)
    (hnumber : number ≠ margin.number ∧ number < image.client.nextId) :
    Mirrors margin (link.awaitSubscription id number subscription tracking)
      (image.awaitSubscription id number subscription tracking) := by
  unfold Link.awaitSubscription
  rw [h.answer? hnumber.1]
  split
  · exact (h.forget number).completeSubscription id subscription tracking
  · exact ((h.forget number).removeHandler _ _).finish id _
  · exact h.setTask id (Margin.permits_of_some hnumber rfl)

theorem beginSubscription (id : Nat) (topic : Topic) (subscriber : Subscriber)
    (tracking : Option WorkspaceId) :
    Mirrors margin (link.beginSubscription id topic subscriber tracking)
      (image.beginSubscription id topic subscriber tracking) := by
  have hadded := h.addHandler topic.channel.method subscriber
  have hasked := hadded.request Message.subscribeMethod (some topic.params)
  unfold Link.beginSubscription
  dsimp only
  rw [h.session, h.addHandler_handler, hadded.request_number]
  split
  · exact hasked.awaitSubscription id _ tracking (hadded.request_fresh _ _)
  · exact hadded.completeSubscription id _ tracking

theorem track (id : Nat) (workspace : WorkspaceId) :
    Mirrors margin (link.track id workspace) (image.track id workspace) := by
  have htracked : link.waiter.isTracked workspace = image.waiter.isTracked workspace :=
    (congrArg (fun link : Link => link.waiter.isTracked workspace) h.outline :)
  unfold Link.track
  rw [htracked]
  split
  · exact h.finish id _
  · exact h.beginSubscription id _ _ _

theorem untrack (id : Nat) (workspace : WorkspaceId) :
    Mirrors margin (link.untrack id workspace) (image.untrack id workspace) := by
  have htracked : link.waiter.tracked = image.waiter.tracked :=
    (congrArg (fun link : Link => link.waiter.tracked) h.outline :)
  have hset : Mirrors margin { link with waiter := (link.waiter.untrack workspace).2.1 }
      { image with waiter := (image.waiter.untrack workspace).2.1 } :=
    h.change (fun link => { link with waiter :=
      { tracked := (link.waiter.untrack workspace).2.1.tracked } }) rfl rfl rfl rfl rfl
  have hsettled : Mirrors margin
      (settleStatuses (link.waiter.untrack workspace).2.2
        { link with waiter := (link.waiter.untrack workspace).2.1 })
      (settleStatuses (image.waiter.untrack workspace).2.2
        { image with waiter := (image.waiter.untrack workspace).2.1 }) :=
    hset.congr ⟨settleStatuses_outline margin _ _, settleStatuses_client _ _⟩
      ⟨settleStatuses_outline margin _ _, settleStatuses_client _ _⟩
  have hheld : (link.waiter.untrack workspace).1 = (image.waiter.untrack workspace).1 :=
    congrArg (List.lookup workspace) htracked
  unfold Link.untrack
  dsimp only
  rw [hheld]
  split
  · exact hsettled.endSubscription id _
  · exact hsettled.finish id _

theorem ensureDriver : Mirrors margin link.ensureDriver image.ensureDriver := by
  unfold Link.ensureDriver
  rw [h.driving]
  split
  · exact h
  · exact (h.spawn (Margin.permits_of_none rfl (by nofun))).change
      (fun link => { link with driving := true }) rfl rfl rfl rfl rfl

theorem beginConnect (id : Nat) :
    Mirrors margin (link.beginConnect id) (image.beginConnect id) := by
  unfold Link.beginConnect
  rw [h.session, h.version]
  split
  · exact h.finish id _
  · exact (h.ensureDriver.pushInput _).setTask id (Margin.permits_of_none rfl nofun)

theorem beginClose (id : Nat) : Mirrors margin (link.beginClose id) (image.beginClose id) :=
  (h.ensureDriver.pushInput _).setTask id (Margin.permits_of_none rfl nofun)

theorem awaitConnected (id seen : Nat) :
    Mirrors margin (link.awaitConnected id seen) (image.awaitConnected id seen) := by
  unfold Link.awaitConnected
  rw [h.version, h.session, h.config]
  split
  · exact h
  · split
    · exact h.finish id _
    · exact h.finish id _
    · exact h.finish id _
    · exact h.setTask id (Margin.permits_of_none rfl nofun)
    · exact h.setTask id (Margin.permits_of_none rfl nofun)

theorem awaitClosed (id : Nat) : Mirrors margin (link.awaitClosed id) (image.awaitClosed id) := by
  have hdone : link.closesDone = image.closesDone := (congrArg Link.closesDone h.outline :)
  unfold Link.awaitClosed
  rw [hdone]
  split
  · exact h.finish id _
  · exact h

theorem awaitPhase (id : Nat) (target : Phase) :
    Mirrors margin (link.awaitPhase id target) (image.awaitPhase id target) := by
  unfold Link.awaitPhase
  rw [h.session]
  split
  · exact h.finish id _
  · exact h.setTask id (Margin.permits_of_none rfl nofun)

theorem startCall (id : Nat) (call : Call) :
    Mirrors margin (link.startCall id call) (image.startCall id call) := by
  cases call with
  | connect => exact h.beginConnect id
  | close => exact h.beginClose id
  | awaitPhase phase => exact h.awaitPhase id phase
  | request method params limitMs =>
    have hasked := h.request method params
    simp only [Link.startCall, h.request_number, hasked.now]
    exact hasked.awaitAnswer id _ true (h.request_fresh method params)
  | identify limitMs =>
    have hasked := h.inquire limitMs
    simp only [Link.startCall, h.inquire_inquiry]
    exact hasked.awaitIdentity id true (h.request_fresh Message.clientIdMethod none)
  | follow method subscriber request params => exact h.follow id method subscriber request params
  | unfollow method handler request params => exact h.unfollow id method handler request params
  | subscribe topic subscriber => exact h.beginSubscription id topic subscriber none
  | unsubscribe subscription => exact h.endSubscription id subscription
  | track workspace => exact h.track id workspace
  | untrack workspace => exact h.untrack id workspace

theorem runCall (id : Nat) {stage : Stage}
    (hpermits : margin.Permits image.client.nextId (.call stage)) :
    Mirrors margin (link.runCall id stage) (image.runCall id stage) := by
  cases stage with
  | fresh call => exact h.startCall id call
  | connecting seen => exact h.awaitConnected id seen
  | closing => exact h.awaitClosed id
  | phase target => exact h.awaitPhase id target
  | answer number due => exact h.awaitAnswer id due false (hpermits.request number rfl)
  | identity inquiry => exact h.awaitIdentity id false (hpermits.request inquiry.number rfl)
  | following number method handler =>
    exact h.awaitFollowing id method handler (hpermits.request number rfl)
  | subscribing number subscription tracking =>
    exact h.awaitSubscription id subscription tracking (hpermits.request number rfl)
  | confirmation number => exact h.awaitConfirmation id (hpermits.request number rfl)
  | status ticket => exact absurd rfl (hpermits.not_status ticket)

theorem undo (stage : Stage) : Mirrors margin (link.undo stage) (image.undo stage) := by
  cases stage with
  | answer number due => exact h.forget number
  | identity inquiry => exact h.forget inquiry.number
  | confirmation number => exact h.forget number
  | following number method handler => exact (h.forget number).removeHandler method handler
  | subscribing number subscription tracking => exact (h.forget number).removeHandler _ _
  | _ => exact h

/-! ### Tasks of the transport -/

theorem runAttempt (id token : Nat) (clientId : Option ClientId) :
    Mirrors margin (link.runAttempt id token clientId) (image.runAttempt id token clientId) := by
  have htokens : link.ambient.tokens = image.ambient.tokens :=
    (congrArg (fun link : Link => link.ambient.tokens) h.outline :)
  have hfetched : ∀ tokens, Mirrors margin
      { link with
        ambient := { link.ambient with tokens }, config := image.config, carrier := image.carrier }
      { image with ambient := { image.ambient with tokens } } := fun tokens =>
    h.change (fun link => { link with
      ambient := { link.ambient with tokens }, config := image.config, carrier := image.carrier })
      rfl rfl rfl rfl rfl
  unfold Link.runAttempt
  rw [h.isStopped, h.config, h.carrier, htokens]
  split
  · exact h.endTask id
  · dsimp only
    split
    · exact ((hfetched _).script _).endTask id
    · exact ((hfetched _).updateSocket _ _).setTask id (Margin.permits_of_none rfl nofun)

theorem setCarrier (carrier : Carrier) :
    Mirrors margin { link with carrier } { image with carrier } :=
  h.change (fun link => { link with carrier }) rfl rfl rfl rfl rfl

theorem concludeHandshake (handshake : Handshake) (failure : Option String) (t : Socket) :
    Mirrors margin (link.concludeHandshake handshake failure t).2
      (image.concludeHandshake handshake failure t).2 := by
  unfold Link.concludeHandshake
  cases failure with
  | none =>
    have hput := h.setCarrier (.socket (t.accept handshake.generation handshake.url).1)
    dsimp only
    split
    · exact hput.spawn (Margin.permits_of_none rfl nofun)
    · exact hput
  | some reason => exact (h.setCarrier _).spawn (Margin.permits_of_none rfl nofun)

theorem runHandshake (id token generation : Nat) :
    Mirrors margin (link.runHandshake id token generation)
      (image.runHandshake id token generation) := by
  have hresults : link.handshakeResults = image.handshakeResults :=
    (congrArg Link.handshakeResults h.outline :)
  unfold Link.runHandshake
  rw [h.carrier, h.isStopped]
  split
  · exact h.endTask id
  · split
    · exact (h.setCarrier _).endTask id
    · rw [hresults]
      split
      · exact h.endTask id
      · exact h
      · exact (h.concludeHandshake _ _ _).endTask id

theorem runDelivery (id : Nat) (delivery : Delivery) :
    Mirrors margin (link.runDelivery id delivery) (image.runDelivery id delivery) := by
  have hended := h.endTask id
  unfold Link.runDelivery
  dsimp only
  rw [hended.carrier]
  split
  · exact hended
  · exact hended.emitAll _

theorem serves (generation : Nat) : link.serves generation = image.serves generation :=
  (congrArg (fun link : Link => link.serves generation) h.outline :)

theorem announceStream (generation : Nat) :
    Mirrors margin (link.announceStream generation) (image.announceStream generation) := by
  unfold Link.announceStream
  rw [h.carrier]
  split
  · exact h
  · split
    · split
      · exact h
      · exact h.transport _ _
    · exact h

theorem writeStream (generation count : Nat) :
    Mirrors margin (link.writeStream generation count) (image.writeStream generation count) := by
  have hwire : link.wire = image.wire := (congrArg Link.wire h.outline :)
  induction count generalizing link image with
  | zero => exact h
  | succ count ih =>
    simp only [Link.writeStream, h.carrier, hwire]
    split
    · exact h
    · split
      · exact ih (h.put _ _) rfl
      · exact h

/-- The transport takes a turn that delivers nothing for a task in the margin. -/
theorem take {turn : Turn} (hturn : ∀ task ∈ margin.tasks, turn ≠ .deliver task) :
    Mirrors margin (link.take turn) (image.take turn) := by
  unfold Link.take
  rw [h.carrier]
  split
  · exact h
  next t _ =>
    cases turn with
    | connect url => exact h.updateSocket _ _
    | handshake generation failure =>
      simp only [takeOn]
      split
      · exact h.concludeHandshake _ _ _
      · exact h
    | abandon generation => exact h.setCarrier _
    | disconnect => exact h.disconnect
    | request method params => exact h.request method params
    | forget number => exact h.forget number
    | notify method params => exact h.send _
    | deliver task =>
      have htask : task ∉ margin.tasks := fun hmem => hturn task hmem rfl
      simp only [takeOn, h.task? htask]
      split
      · exact h.runDelivery _ _
      · exact h
    | announce generation => exact h.announceStream generation
    | write generation => exact h.writeStream generation 1
    | writeFails generation reason =>
      simp only [takeOn]
      split
      · exact h.transport _ _
      · exact h
    | takeIn generation inbound =>
      simp only [takeOn, h.serves]
      split
      · exact h.transport _ _
      · exact h
    | stop generation =>
      simp only [takeOn, h.serves]
      split
      · exact h
      · exact h.setCarrier _

/-! ### Effects -/

theorem runEffect (effect : Effect) :
    Mirrors margin (link.runEffect effect) (image.runEffect effect) := by
  cases effect with
  | log entry => exact h.congr ⟨rfl, rfl⟩ ⟨rfl, rfl⟩
  | publish phase =>
    exact h.change (fun link => { link with version := link.version + 1 }) rfl rfl rfl rfl rfl
  | attempt token generation clientId => exact h.spawn (Margin.permits_of_none rfl nofun)
  | fetchId generation => exact h.spawn (Margin.permits_of_none rfl nofun)
  | probe token generation => exact h.spawn (Margin.permits_of_none rfl nofun)
  | timer number delayMs => exact h.spawn (Margin.permits_of_none rfl nofun)
  | cancel token =>
    exact h.change (fun link => { link with cancelledTokens := token :: link.cancelledTokens })
      rfl rfl rfl rfl rfl
  | cancelTimer number =>
    exact h.change (fun link => { link with cancelledTimers := number :: link.cancelledTimers })
      rfl rfl rfl rfl rfl
  | replay topics => exact h.spawn (Margin.permits_of_none rfl nofun)
  | disconnect => exact h.disconnect
  | clearHandlers => exact h.clearHandlers
  | confirmClose ticket =>
    exact h.change (fun link => { link with closesDone := ticket :: link.closesDone })
      rfl rfl rfl rfl rfl

theorem runEffects (effects : List Effect) :
    Mirrors margin (link.runEffects effects) (image.runEffects effects) := by
  unfold Link.runEffects
  induction effects generalizing link image with
  | nil => exact h
  | cons effect rest ih => exact ih (h.runEffect effect)

theorem handleNext : Mirrors margin link.handleNext image.handleNext := by
  cases hinputs : image.inputs with
  | nil =>
    simp only [Link.handleNext, h.inputs, hinputs]
    exact h
  | cons input rest =>
    let step := image.session.handle image.config input
    have hlink := h.inputs.trans hinputs
    have hstep : link.session.handle link.config input = step := by rw [h.session, h.config]
    have hhandled : Mirrors margin { link with inputs := rest, session := step.session }
        { image with inputs := rest, session := step.session } :=
      h.change (fun link => { link with inputs := rest, session := step.session })
        rfl rfl rfl rfl rfl
    simp only [Link.handleNext, hlink, hinputs, handleInput, hstep]
    exact hhandled.runEffects step.effects

/-! ### Beats -/

theorem runTask (hid : id ∉ margin.tasks) :
    Mirrors margin (link.runTask id) (image.runTask id) := by
  cases htask : image.task? id with
  | none =>
    simp only [Link.runTask, poll, h.task? hid, htask]
    exact h
  | some task =>
    have hpermits : margin.Permits image.client.nextId task := by
      refine h.permits (id, task) (mem_of_task? ?_)
      rw [task?_outline hid, htask]
    simp only [Link.runTask, poll, h.task? hid, htask]
    cases task with
    | driver => exact h.handleNext
    | attempt token clientId => exact h.runAttempt id token clientId
    | handshake token generation => exact h.runHandshake id token generation
    | identify generation inquiry? => exact h.runIdentify id generation inquiry? hpermits
    | probes token generation stage => exact h.runProbes id token generation stage hpermits
    | delay number delayMs due? => exact h.runDelay id number delayMs due?
    | replay current rest => exact h.runReplay id current rest hpermits
    | delivery delivery => exact h.runDelivery id delivery
    | stream generation => exact h
    | call stage => exact h.runCall id hpermits

theorem abandon (hid : id ∉ margin.tasks) :
    Mirrors margin (link.abandon id) (image.abandon id) := by
  unfold Link.abandon
  rw [h.task? hid]
  split
  · exact (h.undo _).endTask id
  · exact h

end

end Mirrors

/-- The margin takes in the calls that wait for a status. -/
def Beat.widen (b : Beat) (nextTask : Nat) (margin : Margin) : Margin :=
  match b with
  | .waitForStatus _ _ => { margin with tasks := nextTask :: margin.tasks }
  | _ => margin

/-- The tasks in the margin, but for one if there is one of its own, wait for a status as long as
they are there. -/
def Idle (margin : Margin) (own : Option Nat) (link : Link) : Prop :=
  ∀ k ∈ margin.tasks, own ≠ some k → k < link.nextTask ∧
    ∀ task, link.task? k = some task → ∃ ticket, task = .call (.status ticket)

/-- A call has nothing to deliver. -/
theorem beat_deliver_call {stage : Stage} (h : link.task? id = some (.call stage)) :
    link.beat (.socket (.deliver id)) = link := by
  simp only [beat, take]
  split
  · rfl
  · simp only [takeOn, h]

/-- A task in the margin that waits for a status has its turn or is dropped. -/
theorem beat_outline_own {k : Nat} {b : Beat} (hk : k ∈ margin.tasks)
    (hwaits : ∀ task, link.task? k = some task → ∃ ticket, task = .call (.status ticket))
    (hconcerns : concerns? b = some k) :
    (link.beat b).outline margin = link.outline margin ∧ (link.beat b).client = link.client := by
  cases htask : link.task? k with
  | none =>
    rw [beat_of_absent htask hconcerns]
    exact ⟨rfl, rfl⟩
  | some task =>
    obtain ⟨ticket, rfl⟩ := hwaits task htask
    cases b with
    | task other =>
      obtain rfl : other = k := Option.some.inj hconcerns
      rw [beat_task_call htask, runCall, awaitStatus]
      split
      · exact ⟨endTask_outline_own hk link, rfl⟩
      · exact ⟨setTask_outline_own hk _ link, rfl⟩
    | abandon other =>
      obtain rfl : other = k := Option.some.inj hconcerns
      simp only [beat, abandon, htask, undo]
      exact ⟨endTask_outline_own hk link, rfl⟩
    | socket turn =>
      cases turn with
      | deliver other =>
        obtain rfl : other = k := Option.some.inj hconcerns
        rw [beat_deliver_call htask]
        exact ⟨rfl, rfl⟩
      | _ => cases hconcerns
    | _ => cases hconcerns

theorem Enrolled.task?_spawn_nextTask (h : link.Enrolled) (task : Task) :
    (link.spawn task).task? link.nextTask = some task := by
  rw [task?_spawn, h.task?_nextTask, if_pos rfl]
  rfl

theorem Idle.beat {own : Option Nat} (h : link.Idle margin own) (henrolled : link.Enrolled)
    (b : Beat) : (link.beat b).Idle (b.widen link.nextTask margin) own := by
  have hkeeps := keeps_beat link b
  have hold : (link.beat b).Idle margin own := by
    intro k hk hne
    obtain ⟨hlt, hwaits⟩ := h k hk hne
    refine ⟨Nat.lt_of_lt_of_le hlt hkeeps.nextTask_le, fun task htask => ?_⟩
    by_cases hconcerns : concerns? b = some k
    · by_cases hruns : runs? b = some k
      · obtain rfl := eq_task_of_runs? hruns
        cases hbefore : link.task? k with
        | none =>
          rw [beat_task_none hbefore, hbefore] at htask
          cases htask
        | some before =>
          obtain ⟨ticket, rfl⟩ := hwaits before hbefore
          rw [beat_task_call hbefore, runCall, awaitStatus] at htask
          split at htask
          · rw [task?_finish] at htask
            cases htask
          · exact ⟨ticket, eq_of_task?_setTask htask⟩
      · have hcall : ∀ task, link.task? k = some task → ∃ stage, task = .call stage := by
          intro task htask
          obtain ⟨ticket, heq⟩ := hwaits task htask
          exact ⟨_, heq⟩
        exact hwaits task ((beat_of_concerned hcall hconcerns hruns).2 task htask)
    · rw [hkeeps.tasks k hlt hconcerns] at htask
      exact hwaits task htask
  cases b with
  | waitForStatus workspace status =>
    intro k hk hne
    rcases List.mem_cons.mp hk with rfl | hk
    · let waits : Task := .call (.status link.waiter.nextTicket)
      have hbegun := beat_waitForStatus_essence workspace status link
      have hnext : (link.beat (.waitForStatus workspace status)).nextTask = link.nextTask + 1 :=
        (congrArg Link.nextTask hbegun :)
      have hnew : (link.beat (.waitForStatus workspace status)).task? link.nextTask =
          (link.spawn waits).task? link.nextTask :=
        (congrArg (fun after : Link => after.task? link.nextTask) hbegun :)
      refine ⟨hnext ▸ Nat.lt_succ_self _, fun task htask => ?_⟩
      rw [hnew, henrolled.task?_spawn_nextTask] at htask
      exact ⟨_, (Option.some.inj htask).symm⟩
    · exact hold k hk hne
  | _ => exact hold

/-! ### In lockstep -/

/-- The margin grows. -/
theorem Mirrors.widen (h : Mirrors margin link image) (b : Beat) (nextTask : Nat) :
    Mirrors (b.widen nextTask margin) link image := by
  cases b with
  | waitForStatus workspace status =>
    have hfilter : ∀ link : Link,
        link.outline { margin with tasks := nextTask :: margin.tasks } =
          { link.outline margin with
            tasks := (link.outline margin).tasks.filter fun entry => entry.1 ≠ nextTask } := by
      intro link
      simp only [Link.outline, List.filter_filter, List.mem_cons, not_or, Bool.decide_and]
    refine ⟨?_, { h.client with }, fun entry hmem => ?_⟩
    · rw [Beat.widen, hfilter, hfilter, h.outline]
    · rw [Beat.widen, hfilter] at hmem
      exact { h.permits entry (List.mem_filter.mp hmem).1 with }
  | _ => exact h

/-- The next task is in the margin: it may be another one. -/
theorem Mirrors.spawn_own (h : Mirrors margin link image) (hown : link.nextTask ∈ margin.tasks)
    (task task' : Task) : Mirrors margin (link.spawn task) (image.spawn task') := by
  have hnone : ∀ (link : Link) task, link.nextTask ∈ margin.tasks →
      (link.spawn task).outline margin =
        { link.outline margin with nextTask := link.nextTask + 1 } := by
    intro link task hown
    rw [spawn_outline, List.filter_cons_of_neg (by simpa using hown)]
    simp
  refine h.change (fun after => { after with nextTask := image.nextTask + 1 }) ?_ ?_ rfl rfl rfl
  · rw [hnone link task hown, h.nextTask]
  · exact hnone image task' (h.nextTask ▸ hown)

/-- A beat of others happens to both links. -/
theorem Mirrors.beat {own : Option Nat} (h : Mirrors margin link image)
    (hlink : link.Idle margin own) (himage : image.Idle margin own) {b : Beat}
    (hb : ∀ id, own = some id → concerns? b ≠ some id) :
    Mirrors (b.widen link.nextTask margin) (link.beat b) (image.beat b) := by
  by_cases hown : ∃ k ∈ margin.tasks, concerns? b = some k
  · obtain ⟨k, hk, hconcerns⟩ := hown
    have hne : own ≠ some k := fun heq => hb k heq hconcerns
    have hwiden : b.widen link.nextTask margin = margin := by
      cases b with
      | waitForStatus workspace status => cases hconcerns
      | _ => rfl
    rw [hwiden]
    exact h.congr (beat_outline_own hk (hlink k hk hne).2 hconcerns)
      (beat_outline_own hk (himage k hk hne).2 hconcerns)
  · have hout : ∀ k, concerns? b = some k → k ∉ margin.tasks :=
      fun k hconcerns hk => hown ⟨k, hk, hconcerns⟩
    cases b with
    | call call => exact h.spawn (Margin.permits_of_none rfl nofun)
    | waitForStatus workspace status =>
      have hwidened := h.widen (.waitForStatus workspace status) link.nextTask
      have htracked : ∀ link : Link,
          (link.waiter.waitFor workspace status).2.1.tracked = link.waiter.tracked := by
        intro link
        unfold StatusWaiter.waitFor
        dsimp only
        split <;> rfl
      have hset : ∀ (margin : Margin) (link : Link),
          Link.outline margin (settleStatuses (link.waiter.waitFor workspace status).2.2
            { link with waiter := (link.waiter.waitFor workspace status).2.1 }) =
              link.outline margin := fun margin link =>
        (settleStatuses_outline margin _ _).trans (setWaiter_outline margin link (htracked link))
      have hsettled := hwidened.congr ⟨hset _ link, settleStatuses_client _ _⟩
        ⟨hset _ image, settleStatuses_client _ _⟩
      simp only [beat_waitForStatus]
      refine hsettled.spawn_own (List.mem_cons.mpr (.inl ?_)) _ _
      exact (congrArg Link.nextTask (hset margin link) :)
    | abandon other => exact h.abandon (hout other rfl)
    | task other => exact h.runTask (hout other rfl)
    | elapse millis =>
      exact h.change (fun link => { link with
        ambient := { link.ambient with clock := link.ambient.clock + millis } }) rfl rfl rfl rfl rfl
    | handshakeEnds generation failure =>
      exact h.change (fun link => { link with
        handshakeResults := link.handshakeResults ++ [(generation, failure)] }) rfl rfl rfl rfl rfl
    | socket turn =>
      refine h.take fun task hk heq => ?_
      subst heq
      exact hout task rfl hk
    | script act => exact h.script act

end WorkspaceLink.Link
