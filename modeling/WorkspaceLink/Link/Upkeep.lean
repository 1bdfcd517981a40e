import WorkspaceLink.Link.Basic
import WorkspaceLink.Transport.Address

/-!
# The tasks that keep a connection alive

One task handles the inputs of the session; the others wait on its behalf and report back with an
input. A task that was told to stop does nothing more.
-/
namespace WorkspaceLink.Link

/-! ### Inputs -/

def runEffect (effect : Effect) (link : Link) : Link :=
  match effect with
  | .log entry => { link with log := link.log ++ [entry] }
  | .publish _ => raise .phaseChanged { link with version := link.version + 1 }
  | .attempt token _ clientId => link.spawn (.attempt token clientId)
  | .fetchId generation => link.spawn (.identify generation none)
  | .probe token generation => link.spawn (.probes token generation .fresh)
  | .timer number delayMs => link.spawn (.delay number delayMs none)
  | .cancel token =>
    raise (.cancelled token) { link with cancelledTokens := token :: link.cancelledTokens }
  | .cancelTimer number =>
    raise (.timerCancelled number) { link with cancelledTimers := number :: link.cancelledTimers }
  | .replay topics => link.spawn (.replay none topics)
  | .disconnect => link.disconnect
  | .clearHandlers => link.clearHandlers
  | .confirmClose ticket =>
    raise (.closeDone ticket) { link with closesDone := ticket :: link.closesDone }

def handleInput (link : Link) (input : Input) : Link :=
  let step := link.session.handle link.config input
  step.effects.foldl (fun link effect => link.runEffect effect)
    { link with session := step.session }

/-- How many inputs the session handles before every other task that is ready has its turn. -/
def inputShare : Nat := 128

/-- The task runs again after those that are ready now. -/
def yieldTurn (id : Nat) (link : Link) : Link := { link with woken := link.woken ++ [id] }

/-- Let the session handle what is queued, up to its share. -/
def runDriver (id : Nat) (link : Link) : Link :=
  if link.released then link.endTask id
  else
    let after := (link.inputs.take inputShare).foldl handleInput
      { link with inputs := link.inputs.drop inputShare }
    if inputShare ≤ link.inputs.length then after.yieldTurn id else after

/-- Start the task that handles inputs, unless that was done. -/
def ensureDriver (link : Link) : Link :=
  if link.driving then link else { link.spawn .driver with driving := true }

/-! ### Attempts -/

/-- The attempt or the probes with a token are to stop. -/
def isStopped (link : Link) (token : Nat) : Bool :=
  link.released || link.cancelledTokens.contains token

/-- Open a connection. Over sockets, the end of the handshake is waited for. An attempt that was
told to stop never connects here. In general one whose token is there by then may, and connects
once more before it stops. -/
def runAttempt (id token : Nat) (clientId : Option ClientId) (link : Link) : Link :=
  if link.isStopped token then link.endTask id
  else
    let (secret, tokens) := link.ambient.tokens.next
    let link := { link with ambient := { link.ambient with tokens } }
    let url := Url.connection link.config.entrypoint clientId secret
    match link.carrier with
    | .scripted _ =>
      (link.script fun t => let (t, events, _) := t.connect url; (t, events)).endTask id
    | .socket t =>
      let (generation, t, emissions) := t.connect url
      (link.updateSocket t emissions).setTask id (.handshake token generation)

/-- A handshake that ended with this failure, or succeeded, takes effect. -/
def concludeHandshake (handshake : Handshake) (failure : Option String) (t : Socket)
    (link : Link) : Except TransportError Unit × Link :=
  match failure with
  | none =>
    let (t, result) := t.accept handshake.generation handshake.url
    let link := { link with carrier := .socket t }
    (result, if result.isOk then link.spawn (.stream handshake.generation) else link)
  | some reason =>
    let (t, delivery, error) := t.refuse handshake.generation handshake.url reason
    (.error error, spawn (.delivery delivery) { link with carrier := .socket t })

/-- Why no connection to a URL can be opened, if so. -/
def dialFailure? (network : Network) (url : String) : Option String :=
  match network.dial url with
  | .ok _ => none
  | .error reason => some reason

/-- Connect the transport itself, without a session, and wait for the result. -/
def connectOver (network : Network) (url : String) (link : Link) :
    Except TransportError Unit × Link :=
  match link.carrier with
  | .scripted t =>
    let (t, events, result) := t.connect url
    (result, emitAll events { link with carrier := .scripted t })
  | .socket t =>
    let (generation, t, emissions) := t.connect url
    (link.updateSocket t emissions).concludeHandshake ⟨generation, url⟩ (dialFailure? network url) t

/-- Wait for the end of a handshake; one that is not waited for any more has no effect. If the
attempt was told to stop and the handshake has ended as well, the stop wins here; in general either
may. -/
def runHandshake (id token generation : Nat) (link : Link) : Link :=
  match link.carrier with
  | .scripted _ => link.endTask id
  | .socket t =>
    if link.isStopped token then
      endTask id { link with carrier := .socket (t.endHandshake generation) }
    else
      match t.handshakes.find? (fun h => h.generation = generation),
          link.handshakeResults.lookup generation with
      | none, _ => link.endTask id
      | some _, none => link
      | some handshake, some failure => (link.concludeHandshake handshake failure t).2.endTask id

/-! ### Identifiers and probes -/

/-- Ask for the identifier of the connection. -/
def inquire (limitMs : Nat) (link : Link) : Inquiry × Link :=
  let (number, link) := link.request Message.clientIdMethod none
  (⟨number, limitMs, link.now + limitMs⟩, link)

/-- The result of an inquiry, once it is over. An answer that is there wins over the time. -/
def inquiryResult? (link : Link) (inquiry : Inquiry) : Option (Except ProbeError ClientId) :=
  match link.answer? inquiry.number with
  | some (.ok value) => some (clientIdOfAnswer value)
  | some (.error error) => some (.error (.request error))
  | none =>
    if inquiry.due ≤ link.now then
      some (.error (.timeout (inquiry.limitMs * Duration.nanosPerMilli)))
    else none

/-- Ask for the identifier and report it to the session. -/
def runIdentify (id generation : Nat) (inquiry? : Option Inquiry) (link : Link) : Link :=
  if link.released then
    match inquiry? with
    | some inquiry => (link.forget inquiry.number).endTask id
    | none => link.endTask id
  else
    let (inquiry, link) :=
      match inquiry? with
      | some inquiry => (inquiry, link)
      | none => link.inquire link.config.settings.livenessTimeoutMs
    match link.inquiryResult? inquiry with
    | some result =>
      ((link.forget inquiry.number).endTask id).pushInput (.clientId generation result)
    | none =>
      if inquiry?.isSome then link
      else (link.setTask id (.identify generation (some inquiry))).arm id inquiry.due

def rest (id token generation due : Nat) (link : Link) : Link :=
  (link.setTask id (.probes token generation (.resting due))).arm id due

def reportDead (id generation : Nat) (error : ProbeError) (link : Link) : Link :=
  (link.endTask id).pushInput (.livenessFailed generation error.message)

/-- Start the probe that was due at a time. -/
def startProbe (id token generation due : Nat) (link : Link) : Link :=
  let next := Liveness.nextDue link.config.settings.livenessIntervalMs due link.now
  let (inquiry, link) := link.inquire link.config.settings.livenessTimeoutMs
  match link.inquiryResult? inquiry with
  | none =>
    (link.setTask id (.probes token generation (.probing inquiry next))).arm id inquiry.due
  | some (.error error) => (link.forget inquiry.number).reportDead id generation error
  | some (.ok _) => (link.forget inquiry.number).rest id token generation next

/-- Probe the connection at intervals. A stop wins as in `runDelay`. -/
def runProbes (id token generation : Nat) (stage : ProbeStage) (link : Link) : Link :=
  match stage with
  | .fresh =>
    if link.isStopped token then link.endTask id
    else link.rest id token generation (link.now + link.config.settings.livenessIntervalMs)
  | .resting due =>
    if link.isStopped token then link.endTask id
    else if due ≤ link.now then link.startProbe id token generation due
    else link
  | .probing inquiry next =>
    if link.isStopped token then (link.forget inquiry.number).endTask id
    else
      match link.inquiryResult? inquiry with
      | none => link
      | some (.error error) => (link.forget inquiry.number).reportDead id generation error
      | some (.ok _) =>
        let link := link.forget inquiry.number
        if next ≤ link.now then link.startProbe id token generation next
        else link.rest id token generation next

/-! ### Delays and replays -/

/-- Wait before the next attempt. If the wait was cancelled and is over as well, the cancellation
wins here; in general either may. -/
def runDelay (id number delayMs : Nat) (due? : Option Nat) (link : Link) : Link :=
  if link.released || link.cancelledTimers.contains number then link.endTask id
  else
    let due := due?.getD (link.now + delayMs)
    if due ≤ link.now then (link.endTask id).pushInput (.reconnectDue number)
    else if due?.isSome then link
    else (link.setTask id (.delay number delayMs (some due))).arm id due

/-- The entry about a topic that could not be asked for again. -/
def replayFailure (topic : Topic) (error : RequestError) : LogEntry where
  level := .warn
  target := "che_session::manager"
  message := "subscription replay failed"
  fields := [("channel", topic.channel.method), ("scope", topic.scope), ("error", error.message)]

/-- The answer about a topic is there. -/
def noteReplay (number : Nat) (topic : Topic) (answer : Answer) (link : Link) : Link :=
  match answer with
  | .ok _ => link.forget number
  | .error error =>
    { link.forget number with log := link.log ++ [replayFailure topic error] }

/-- Ask again for topics, one after the other, until an answer has to be waited for. -/
def replayFrom (id : Nat) : List Topic → Link → Link
  | [], link => link.endTask id
  | topic :: rest, link =>
    let (number, link) := link.request Message.subscribeMethod (some topic.params)
    match link.answer? number with
    | some answer => replayFrom id rest (link.noteReplay number topic answer)
    | none => link.setTask id (.replay (some (number, topic)) rest)

def runReplay (id : Nat) (current : Option (Nat × Topic)) (rest : List Topic) (link : Link) :
    Link :=
  match current with
  | none => replayFrom id rest link
  | some (number, topic) =>
    match link.answer? number with
    | some answer => replayFrom id rest (link.noteReplay number topic answer)
    | none => link

end WorkspaceLink.Link
