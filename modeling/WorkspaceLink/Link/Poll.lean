import WorkspaceLink.Link.Calls

/-!
# Running a task

A task that is woken runs until it waits again or ends. Running one that has nothing to do changes
nothing that matters, so a task may be woken too often.
-/
namespace WorkspaceLink.Link

/-- Announce events that were put off. -/
def runDelivery (id : Nat) (delivery : Delivery) (link : Link) : Link :=
  let link := link.endTask id
  match link.carrier with
  | .scripted _ => link
  | .socket t => link.emitAll ((t.due delivery).map (·.event))

/-! ### Sockets -/

def serves (link : Link) (generation : Nat) : Bool :=
  match link.carrier with
  | .scripted _ => false
  | .socket t => (t.stream? generation).any fun s => !s.cancelled

/-- Announce the opening of a socket, if that was not done. -/
def announceStream (generation : Nat) (link : Link) : Link :=
  match link.carrier with
  | .scripted _ => link
  | .socket t =>
    match t.stream? generation with
    | some s =>
      if s.announced then link
      else
        let (t, emissions) := t.announce generation
        emitAll (emissions.map (·.event)) { link with carrier := .socket t }
    | none => link

/-- Write the frames that wait, at most so many. -/
def writeStream (generation : Nat) : Nat → Link → Link
  | 0, link => link
  | count + 1, link =>
    match link.carrier with
    | .scripted _ => link
    | .socket t =>
      match t.write generation with
      | (t, some frame) =>
        writeStream generation count
          { link with carrier := .socket t, wire := link.wire ++ [(generation, frame)] }
      | (_, none) => link

/-- How many frames wait to be written to a socket. -/
def outboundCount (link : Link) (generation : Nat) : Nat :=
  match link.carrier with
  | .scripted _ => 0
  | .socket t => ((t.stream? generation).map (·.outbound.length)).getD 0

/-- Take in what arrived, while the socket is served; frames that wait are written first. -/
def takeInStream (generation : Nat) : List Inbound → Link → Link
  | [], link => link
  | inbound :: rest, link =>
    if link.serves generation then
      let link := link.writeStream generation (link.outboundCount generation)
      match link.carrier with
      | .scripted _ => link
      | .socket t =>
        let (t, emissions) := t.takeIn generation inbound
        takeInStream generation rest
          (emitAll (emissions.map (·.event)) { link with carrier := .socket t })
    else link

def inboxOf (link : Link) (generation : Nat) : List Inbound :=
  (link.inbox.filter fun entry => entry.1 = generation).map Prod.snd

/-- End the task of a socket that is not served any more. -/
def endStreamIfDone (id generation : Nat) (link : Link) : Link :=
  match link.carrier with
  | .scripted _ => link.endTask id
  | .socket t =>
    if link.serves generation then link
    else endTask id { link with carrier := .socket (t.stop generation) }

/-- Serve a socket: announce its opening, then write and take in, until it is told to stop or
closes. -/
def runStream (id generation : Nat) (link : Link) : Link :=
  let link := link.announceStream generation
  let link :=
    if link.serves generation then
      let link := link.writeStream generation (link.outboundCount generation)
      let arrived := link.inboxOf generation
      takeInStream generation arrived
        { link with inbox := link.inbox.filter fun entry => entry.1 ≠ generation }
    else link
  link.endStreamIfDone id generation

/-! ### All tasks -/

/-- Run a task until it waits or ends. -/
def poll (id : Nat) (link : Link) : Link :=
  match link.task? id with
  | none => link
  | some .driver => link.runDriver id
  | some (.attempt token clientId) => link.runAttempt id token clientId
  | some (.handshake token generation) => link.runHandshake id token generation
  | some (.identify generation inquiry?) => link.runIdentify id generation inquiry?
  | some (.probes token generation stage) => link.runProbes id token generation stage
  | some (.delay number delayMs due?) => link.runDelay id number delayMs due?
  | some (.replay current rest) => link.runReplay id current rest
  | some (.delivery delivery) => link.runDelivery id delivery
  | some (.stream generation) => link.runStream id generation
  | some (.call stage) => link.runCall id stage

/-! ### What comes from outside -/

/-- A handshake ends; `failure` says why if it failed. -/
def endHandshake (generation : Nat) (failure : Option String) (link : Link) : Link :=
  raise (.handshakeEnded generation)
    { link with handshakeResults := link.handshakeResults ++ [(generation, failure)] }

def arrive (generation : Nat) (inbound : Inbound) (link : Link) : Link :=
  raise (.traffic generation) { link with inbox := link.inbox ++ [(generation, inbound)] }

end WorkspaceLink.Link
