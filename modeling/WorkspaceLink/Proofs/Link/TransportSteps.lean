import WorkspaceLink.Proofs.Link.Beats

/-!
# What the transport and its tasks do

Whatever the transport does is made of a few operations: it changes its state, wakes the tasks of
sockets, emits events, and starts or ends tasks of its own. `KeptByTransport` lists them, so that a
property that they keep is kept by every turn of the transport and by its tasks; with `KeptByCalls`
it is kept by every task but the one that handles the inputs of the session.
-/
namespace WorkspaceLink.Link

variable {link : Link} {who : Option Nat} {id : Nat} {P : Link → Prop}

/-- The task that a beat concerns. -/
def concerns? : Beat → Option Nat
  | .task id | .abandon id | .socket (.deliver id) => some id
  | _ => none

/-- The task works for the transport once a connection is called for. -/
def isCarrierTask : Task → Bool
  | .handshake _ _ | .delivery _ | .stream _ => true
  | _ => false

/-- A property that survives what the transport does, where `who` is the task that goes on or ends
if one does. -/
structure KeptByTransport (who : Option Nat) (P : Link → Prop) : Prop where
  put : ∀ {link : Link} (carrier : Carrier) (wire : List (Nat × Json)), P link →
    P { link with carrier, wire }
  fetch : ∀ {link : Link} (tokens : TokenSource), P link →
    P { link with ambient := { link.ambient with tokens } }
  issue : ∀ {link : Link}, P link → P { link with client := link.client.issue.2 }
  forget : ∀ {link : Link} (number : Nat), P link → P (link.forget number)
  raise : ∀ {link : Link} (generation : Nat), P link → P (link.raise (.traffic generation))
  emit : ∀ {link : Link} (event : TransportEvent), P link → P (link.emit event)
  spawn : ∀ {link : Link} {task : Task}, isCarrierTask task → P link → P (link.spawn task)
  setTask : ∀ {link : Link} {task : Task} (id : Nat), who = some id → isCarrierTask task → P link →
    P (link.setTask id task)
  endTask : ∀ {link : Link} (id : Nat), who = some id → P link → P (link.endTask id)

namespace KeptByTransport

variable (h : KeptByTransport who P)
include h

theorem emitAll (events : List TransportEvent) (hp : P link) : P (link.emitAll events) := by
  unfold Link.emitAll
  induction events generalizing link with
  | nil => exact hp
  | cons event rest ih => exact ih (h.emit event hp)

/-- The transport is in another state and emits events. -/
theorem transport (carrier : Carrier) (wire : List (Nat × Json)) (events : List TransportEvent)
    (hp : P link) : P (Link.emitAll events { link with carrier, wire }) :=
  h.emitAll events (h.put carrier wire hp)

theorem updateSocket (after : Socket) (emissions : List Emission) (hp : P link) :
    P (link.updateSocket after emissions) := by
  have hstreams : ∀ (streams : List Stream) {link : Link}, P link →
      P (streams.foldl (fun link s => link.raise (.traffic s.generation)) link) := by
    intro streams
    induction streams with
    | nil => exact fun hp => hp
    | cons s rest ih => exact fun hp => ih (h.raise s.generation hp)
  exact h.emitAll _ (hstreams after.streams (h.put (.socket after) link.wire hp))

theorem script (act : Scripted → Scripted × List TransportEvent) (hp : P link) :
    P (link.script act) := by
  unfold Link.script
  split
  · exact h.transport _ link.wire _ hp
  · exact hp

theorem send (message : Json) (hp : P link) : P (link.send message) := by
  unfold Link.send
  split
  · exact h.transport _ link.wire _ hp
  next t _ =>
    have hupdated : P (link.updateSocket (t.send message).1 []) := h.updateSocket _ _ hp
    dsimp only
    split
    · exact h.spawn rfl hupdated
    · exact hupdated

theorem request (method : String) (params : Option Json) (hp : P link) :
    P (link.request method params).2 :=
  h.send _ (h.issue hp)

theorem disconnect (hp : P link) : P link.disconnect := by
  unfold Link.disconnect
  split
  · exact h.script _ hp
  · exact h.updateSocket _ _ hp

/-! ### Tasks of the transport -/

theorem runAttempt (hwho : who = some id) (token : Nat) (clientId : Option ClientId)
    (hp : P link) : P (link.runAttempt id token clientId) := by
  unfold Link.runAttempt
  split
  · exact h.endTask id hwho hp
  · have hfetched := h.fetch link.ambient.tokens.next.2 hp
    dsimp only
    split
    · exact h.endTask id hwho (h.script _ hfetched)
    · exact h.setTask id hwho rfl (h.updateSocket _ _ hfetched)

theorem concludeHandshake (handshake : Handshake) (failure : Option String) (t : Socket)
    (hp : P link) : P (link.concludeHandshake handshake failure t).2 := by
  unfold Link.concludeHandshake
  cases failure with
  | none =>
    dsimp only
    split
    · exact h.spawn rfl (h.put _ link.wire hp)
    · exact h.put _ link.wire hp
  | some reason => exact h.spawn rfl (h.put _ link.wire hp)

theorem runHandshake (hwho : who = some id) (token generation : Nat) (hp : P link) :
    P (link.runHandshake id token generation) := by
  unfold Link.runHandshake
  split
  · exact h.endTask id hwho hp
  · split
    · exact h.endTask id hwho (h.put _ link.wire hp)
    · split
      · exact h.endTask id hwho hp
      · exact hp
      · exact h.endTask id hwho (h.concludeHandshake _ _ _ hp)

theorem runDelivery (hwho : who = some id) (delivery : Delivery) (hp : P link) :
    P (link.runDelivery id delivery) := by
  have hended := h.endTask id hwho hp
  unfold Link.runDelivery
  dsimp only
  split
  · exact hended
  · exact h.emitAll _ hended

theorem announceStream (generation : Nat) (hp : P link) : P (link.announceStream generation) := by
  unfold Link.announceStream
  split
  · exact hp
  · split
    · split
      · exact hp
      · exact h.transport _ link.wire _ hp
    · exact hp

theorem writeStream (generation count : Nat) (hp : P link) :
    P (link.writeStream generation count) := by
  induction count generalizing link with
  | zero => exact hp
  | succ count ih =>
    simp only [Link.writeStream]
    split
    · exact hp
    · split
      · exact ih (h.put _ _ hp)
      · exact hp

end KeptByTransport

/-- The transport takes a turn. -/
theorem KeptByTransport.take {turn : Turn} (h : KeptByTransport (concerns? (.socket turn)) P)
    (hp : P link) : P (link.take turn) := by
  unfold Link.take
  split
  · exact hp
  next t _ =>
    have hput : ∀ carrier, P { link with carrier } := fun carrier => h.put carrier link.wire hp
    cases turn with
    | connect url => exact h.updateSocket _ _ hp
    | handshake generation failure =>
      simp only [takeOn]
      split
      · exact h.concludeHandshake _ _ _ hp
      · exact hp
    | abandon generation => exact hput _
    | disconnect => exact h.disconnect hp
    | request method params => exact h.request method params hp
    | forget number => exact h.forget number hp
    | notify method params => exact h.send _ hp
    | deliver task =>
      simp only [takeOn]
      split
      · exact h.runDelivery rfl _ hp
      · exact hp
    | announce generation => exact h.announceStream generation hp
    | write generation => exact h.writeStream generation 1 hp
    | writeFails generation reason =>
      simp only [takeOn]
      split
      · exact h.transport _ link.wire _ hp
      · exact hp
    | takeIn generation inbound =>
      simp only [takeOn]
      split
      · exact h.transport _ link.wire _ hp
      · exact hp
    | stop generation =>
      simp only [takeOn]
      split
      · exact hp
      · exact hput _

/-- A task that is not the session's has its turn. -/
theorem KeptByTransport.runTask (h : KeptByTransport (some id) P) {may : Dealing → Prop}
    (hbyCalls : KeptByCalls id may P) (hdriver : link.task? id ≠ some .driver)
    (hmay : ∀ stage dealing, link.task? id = some (.call stage) → deals stage dealing → may dealing)
    (hp : P link) : P (link.runTask id) := by
  cases htask : link.task? id with
  | none =>
    simp only [Link.runTask, poll, htask]
    exact hp
  | some task =>
    simp only [Link.runTask, poll, htask]
    cases task with
    | driver => exact absurd htask hdriver
    | attempt token clientId => exact h.runAttempt rfl token clientId hp
    | handshake token g => exact h.runHandshake rfl token g hp
    | identify g inquiry? => exact hbyCalls.runIdentify trivial g inquiry? hp
    | probes token g stage => exact hbyCalls.runProbes trivial token g stage hp
    | delay number delayMs due? => exact hbyCalls.runDelay number delayMs due? hp
    | replay current rest => exact hbyCalls.runReplay current rest hp
    | delivery delivery => exact h.runDelivery rfl delivery hp
    | stream g => exact hp
    | call stage => exact hbyCalls.runCall stage (fun dealing => hmay stage dealing htask) hp

end WorkspaceLink.Link
