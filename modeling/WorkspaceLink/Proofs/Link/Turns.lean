import WorkspaceLink.Link.Poll
import WorkspaceLink.Proofs.Link.Frame
import WorkspaceLink.Proofs.Transport.Installed

/-!
# Every waiting request is accounted for

A client on a socket transport takes turns with the transport: calls, handshakes, the steps of the
sockets' tasks and the deliveries that were put off, in any order. `Accounted` is what every turn
keeps: a request that waits was queued on the socket that is installed, or the report that it could
not be sent is still to come. So no request waits for ever, and no answer comes from another socket
than the one a request was queued on.
-/
namespace WorkspaceLink.Link

/-! ### Turns -/

/-- What happens without interruption. -/
inductive Turn where
  /-- A connect call begins. -/
  | connect (url : String)
  /-- A handshake ends, with the reason if it failed. -/
  | handshake (generation : Nat) (failure : Option String)
  /-- A connect call is given up before its handshake has ended. -/
  | abandon (generation : Nat)
  | disconnect
  | request (method : String) (params : Option Json)
  /-- Nobody waits for the answer of a request any more. -/
  | forget (number : Nat)
  | notify (method : String) (params : Option Json)
  /-- Events that were put off are delivered. -/
  | deliver (task : Nat)
  /-- The task of a socket starts. -/
  | announce (generation : Nat)
  | write (generation : Nat)
  | writeFails (generation : Nat) (reason : String)
  | takeIn (generation : Nat) (inbound : Inbound)
  /-- The task of a socket that was told to stop does. -/
  | stop (generation : Nat)

/-- The turn is one of the task of a socket. -/
def isService : Turn → Bool
  | .announce _ | .write _ | .writeFails _ _ | .takeIn _ _ | .stop _ => true
  | _ => false

/-- Take a turn on a transport in a state. A turn that is not possible changes nothing. -/
def takeOn (t : Socket) (turn : Turn) (link : Link) : Link :=
  match turn with
  | .connect url => link.updateSocket (t.connect url).2.1 (t.connect url).2.2
  | .handshake generation failure =>
    match t.handshakes.find? fun h => h.generation = generation with
    | some handshake => (link.concludeHandshake handshake failure t).2
    | none => link
  | .abandon generation => { link with carrier := .socket (t.endHandshake generation) }
  | .disconnect => link.disconnect
  | .request method params => (link.request method params).2
  | .forget number => link.forget number
  | .notify method params => link.notify method params
  | .deliver task =>
    match link.task? task with
    | some (.delivery delivery) => link.runDelivery task delivery
    | _ => link
  | .announce generation => link.announceStream generation
  | .write generation => link.writeStream generation 1
  | .writeFails generation reason =>
    if (t.stream? generation).isSome then
      emitAll ((t.fail generation reason).2.map (·.event))
        { link with carrier := .socket (t.fail generation reason).1 }
    else link
  | .takeIn generation inbound =>
    if link.serves generation then
      emitAll ((t.takeIn generation inbound).2.map (·.event))
        { link with carrier := .socket (t.takeIn generation inbound).1 }
    else link
  | .stop generation =>
    if link.serves generation then link
    else { link with carrier := .socket (t.stop generation) }

def take (turn : Turn) (link : Link) : Link :=
  match link.carrier with
  | .scripted _ => link
  | .socket t => link.takeOn t turn

/-- The request that a turn puts on the queue of a socket, and the socket. -/
def queues? (turn : Turn) (link : Link) : Option (Nat × Nat) :=
  match turn, link.carrier with
  | .request method params, .socket t =>
    let number := link.client.issue.1
    match (t.send (Message.request (Client.idText number) method params)).2 with
    | some _ => none
    | none => t.installed.map fun generation => (number, generation)
  | _, _ => none

/-- A link, and the requests that were queued so far, each with its socket. -/
structure Course where
  link : Link
  queued : List (Nat × Nat) := []

def Course.next (course : Course) (turn : Turn) : Course :=
  ⟨course.link.take turn, course.queued ++ (course.link.queues? turn).toList⟩

/-- A client with handlers on a fresh transport, after turns. -/
def Course.after (settings : TransportSettings) (handlers : Registry String Subscriber)
    (turns : List Turn) : Course :=
  turns.foldl Course.next ⟨{ plain (.socket { settings }) with client := { handlers } }, []⟩

/-- The socket that sends go to. -/
def installed? (link : Link) : Option Nat :=
  match link.carrier with
  | .scripted _ => none
  | .socket t => t.installed

/-- The report that a request could not be sent is still to be delivered. -/
def FailureDue (link : Link) (number : Nat) : Prop :=
  ∃ task delivery reason, (task, .delivery delivery) ∈ link.tasks ∧ delivery.onlyIf = none ∧
    TransportEvent.sendFailed (some (Client.idText number)) reason ∈ delivery.events

/-! ### The invariant -/

/-- A request was queued on the installed socket, or never and the report of that is due. -/
def Covered (course : Course) (number : Nat) : Prop :=
  (∃ generation, course.link.installed? = some generation ∧
      (number, generation) ∈ course.queued) ∨
    (course.link.FailureDue number ∧ ∀ generation, (number, generation) ∉ course.queued)

/-- What every turn keeps. -/
structure Accounted (course : Course) : Prop where
  orderly : ∃ t, course.link.carrier = .socket t ∧ t.Orderly
  listens : course.link.ClientListens
  numbered : course.link.client.WellNumbered
  task_lt : ∀ entry ∈ course.link.tasks, entry.1 < course.link.nextTask
  task_unique : ∀ id a b, (id, a) ∈ course.link.tasks → (id, b) ∈ course.link.tasks → a = b
  deferred : ∀ task delivery, (task, .delivery delivery) ∈ course.link.tasks →
    ∀ event ∈ delivery.events, ∀ message, event ≠ .received message
  queued_lt : ∀ number generation, (number, generation) ∈ course.queued →
    number < course.link.client.nextId
  queued_once : ∀ number g g', (number, g) ∈ course.queued → (number, g') ∈ course.queued → g = g'
  covered : ∀ number ∈ course.link.client.pending, Covered course number

variable {link : Link} {queued : List (Nat × Nat)} {t : Socket}

theorem Accounted.socket (h : Accounted ⟨link, queued⟩) :
    ∃ t, link.carrier = .socket t ∧ t.Orderly :=
  h.orderly

/-- Whether a request is covered depends on the transport, the tasks and the queued requests. -/
theorem Covered.congr {link' : Link} {number : Nat} (h : Covered ⟨link, queued⟩ number)
    (hcarrier : link'.carrier = link.carrier) (htasks : ∀ entry ∈ link.tasks, entry ∈ link'.tasks) :
    Covered ⟨link', queued⟩ number := by
  rcases h with ⟨g, hg, hmem⟩ | ⟨⟨task, delivery, reason, hmem, hdue⟩, hnever⟩
  · left
    refine ⟨g, ?_, hmem⟩
    simpa only [installed?, hcarrier] using hg
  · exact .inr ⟨⟨task, delivery, reason, htasks _ hmem, hdue⟩, hnever⟩

/-- Events settle what they give a verdict on. If the rest stays covered, all is accounted for. -/
theorem Accounted.emitAll (h : Accounted ⟨link, queued⟩) (mid : Link)
    (hclient : mid.client = link.client) (hlisteners : mid.listeners = link.listeners)
    (hnext : mid.nextTask = link.nextTask) (htasks : ∀ entry ∈ mid.tasks, entry ∈ link.tasks)
    (hcarrier : ∃ t, mid.carrier = .socket t ∧ t.Orderly) (events : List TransportEvent)
    (hcovered : ∀ number ∈ link.client.pending,
      (∀ event ∈ events, event.verdict? number = none) → Covered ⟨mid, queued⟩ number) :
    Accounted ⟨mid.emitAll events, queued⟩ := by
  have hlistens : mid.ClientListens := fun kind => by rw [hlisteners]; exact h.listens kind
  have hnumbered : mid.client.WellNumbered := by rw [hclient]; exact h.numbered
  obtain ⟨hback, hsettles⟩ := hlistens.emitAll hnumbered.nodup events
  have hcarrier' : (mid.emitAll events).carrier = mid.carrier := (congrArg Link.carrier hback :)
  have htasks' : (mid.emitAll events).tasks = mid.tasks := (congrArg Link.tasks hback :)
  have hnext' : (mid.emitAll events).nextTask = mid.nextTask := (congrArg Link.nextTask hback :)
  have hlisteners' : (mid.emitAll events).listeners = mid.listeners :=
    (congrArg Link.listeners hback :)
  have hid : (mid.emitAll events).client.nextId = link.client.nextId := by
    rw [← hclient]; exact hsettles.nextId
  constructor
  · obtain ⟨t, ht, ho⟩ := hcarrier
    exact ⟨t, hcarrier'.trans ht, ho⟩
  · intro kind
    simp only [hlisteners']
    exact hlistens kind
  · exact hsettles.wellNumbered hnumbered
  · intro entry hentry
    simp only [htasks', hnext', hnext] at hentry ⊢
    exact h.task_lt entry (htasks entry hentry)
  · intro id a b ha hb
    simp only [htasks'] at ha hb
    exact h.task_unique id a b (htasks _ ha) (htasks _ hb)
  · intro task delivery hmem
    simp only [htasks'] at hmem
    exact h.deferred task delivery (htasks _ hmem)
  · intro number g hmem
    simp only [hid]
    exact h.queued_lt number g hmem
  · exact h.queued_once
  · intro number hmem
    have hpending := hsettles.pending
    simp only at hmem hpending
    rw [hpending, List.mem_filter, hclient] at hmem
    have hsilent : ∀ event ∈ events, event.verdict? number = none := by
      simpa using hmem.2
    refine (hcovered number hmem.1 hsilent).congr hcarrier' fun entry hentry => ?_
    rw [htasks']
    exact hentry

theorem take_eq (hc : link.carrier = .socket t) (turn : Turn) :
    link.take turn = link.takeOn t turn := by
  simp only [take, hc]

/-! ### The transport -/

theorem verdict?_of_isLoss {event : TransportEvent} (h : event.isLoss) (number : Nat) :
    event.verdict? number = some (.error .connectionClosed) := by
  cases event with
  | closed code reason => rfl
  | reset => rfl
  | _ => simp [TransportEvent.isLoss] at h

/-- A step of the transport that announces what it takes away. -/
theorem Accounted.transport (h : Accounted ⟨link, queued⟩) (hc : link.carrier = .socket t)
    {after : Socket} (hafter : after.Orderly) {emissions : List Emission}
    (hann : t.Announces after emissions) (woken : List Nat) (wire : List (Nat × Json)) :
    Accounted ⟨Link.emitAll (emissions.map (·.event))
      { link with carrier := .socket after, woken, wire }, queued⟩ := by
  refine h.emitAll { link with carrier := .socket after, woken, wire } rfl rfl rfl
    (fun _ hentry => hentry) ⟨after, rfl, hafter⟩ _ ?_
  intro number hmem hsilent
  rcases h.covered number hmem with ⟨g, hg, hqueued⟩ | hdue
  · have hg : t.installed = some g := by simpa only [installed?, hc] using hg
    rcases hann g hg with hkept | ⟨emission, hemission, hloss⟩
    · exact .inl ⟨g, hkept, hqueued⟩
    · have hverdict := hsilent _ (List.mem_map_of_mem hemission)
      simp [verdict?_of_isLoss hloss] at hverdict
  · exact .inr hdue

/-- A step of the transport that is not heard of. -/
theorem Accounted.quiet (h : Accounted ⟨link, queued⟩) (hc : link.carrier = .socket t)
    {after : Socket} (hafter : after.Orderly) (hsame : after.installed = t.installed)
    (woken : List Nat) (wire : List (Nat × Json)) :
    Accounted ⟨{ link with carrier := .socket after, woken, wire }, queued⟩ :=
  h.transport hc hafter (Socket.announces_of_same hsame []) woken wire

theorem raiseTraffic_eq (link : Link) : ∃ woken, raiseTraffic link = { link with woken } := by
  unfold raiseTraffic
  split
  · exact ⟨link.woken, rfl⟩
  next t hc =>
    clear hc
    generalize t.streams = streams
    induction streams generalizing link with
    | nil => exact ⟨link.woken, rfl⟩
    | cons s rest ih => exact ih (link.raise (.traffic s.generation))

theorem updateSocket_eq (after : Socket) (emissions : List Emission) (link : Link) :
    ∃ woken, link.updateSocket after emissions =
      emitAll (emissions.map (·.event)) { link with carrier := .socket after, woken } := by
  obtain ⟨woken, hwoken⟩ := raiseTraffic_eq { link with carrier := .socket after }
  exact ⟨woken, congrArg (emitAll _) hwoken⟩

theorem Accounted.updateSocket (h : Accounted ⟨link, queued⟩) (hc : link.carrier = .socket t)
    {after : Socket} (hafter : after.Orderly) {emissions : List Emission}
    (hann : t.Announces after emissions) :
    Accounted ⟨link.updateSocket after emissions, queued⟩ := by
  obtain ⟨woken, hupdate⟩ := updateSocket_eq after emissions link
  rw [hupdate]
  exact h.transport hc hafter hann woken link.wire

/-! ### Tasks -/

theorem Accounted.spawn (h : Accounted ⟨link, queued⟩) {task : Task}
    (hquiet : ∀ delivery, task = .delivery delivery →
      ∀ event ∈ delivery.events, ∀ message, event ≠ .received message) :
    Accounted ⟨link.spawn task, queued⟩ := by
  have hmem : ∀ {id other}, (id, other) ∈ (link.spawn task).tasks →
      (id, other) ∈ link.tasks ∨ id = link.nextTask ∧ other = task := by
    intro id other hmem
    simpa [Link.spawn] using hmem
  constructor
  · exact h.orderly
  · exact h.listens
  · exact h.numbered
  · rintro ⟨id, other⟩ hentry
    rcases hmem hentry with hold | ⟨rfl, _⟩
    · exact Nat.lt_succ_of_lt (h.task_lt _ hold)
    · exact Nat.lt_succ_self _
  · intro id a b ha hb
    rcases hmem ha with hold | ⟨hid, hnew⟩ <;> rcases hmem hb with hold' | ⟨hid', hnew'⟩
    · exact h.task_unique id a b hold hold'
    · exact absurd (h.task_lt _ hold) (Nat.not_lt_of_le (Nat.le_of_eq hid'.symm))
    · exact absurd (h.task_lt _ hold') (Nat.not_lt_of_le (Nat.le_of_eq hid.symm))
    · exact hnew.trans hnew'.symm
  · intro id delivery hentry
    rcases hmem hentry with hold | ⟨_, heq⟩
    · exact h.deferred id delivery hold
    · exact hquiet delivery heq.symm
  · exact h.queued_lt
  · exact h.queued_once
  · intro number hpending
    refine (h.covered number hpending).congr rfl fun entry hentry => ?_
    exact List.mem_append_left _ hentry

theorem mem_of_task? {id : Nat} {task : Task} (h : link.task? id = some task) :
    (id, task) ∈ link.tasks := by
  obtain ⟨before, after, heq, _⟩ := List.lookup_eq_some_iff.mp h
  simp [heq]

/-- A report that is delivered reaches its request. -/
theorem Accounted.runDelivery (h : Accounted ⟨link, queued⟩) {id : Nat} {delivery : Delivery}
    (htask : link.task? id = some (.delivery delivery)) :
    Accounted ⟨link.runDelivery id delivery, queued⟩ := by
  obtain ⟨t, hc, ho⟩ := h.socket
  have hrun : link.runDelivery id delivery =
      (link.endTask id).emitAll ((t.due delivery).map (·.event)) := by
    have hc' : (link.endTask id).carrier = .socket t := hc
    simp only [Link.runDelivery, hc']
  rw [hrun]
  have hsub : ∀ entry ∈ (link.endTask id).tasks, entry ∈ link.tasks :=
    fun _ hentry => (List.mem_filter.mp hentry).1
  refine h.emitAll (link.endTask id) rfl rfl rfl hsub ⟨t, hc, ho⟩ _ fun number hmem hsilent => ?_
  rcases h.covered number hmem with hqueued | ⟨⟨task, other, reason, hentry, honly, hfail⟩, hnever⟩
  · exact .inl hqueued
  · by_cases hid : task = id
    · -- The report itself is delivered, and names the request.
      subst hid
      have heq := h.task_unique _ _ _ hentry (mem_of_task? htask)
      obtain rfl : other = delivery := by simpa using heq
      have hverdict := hsilent (.sendFailed (some (Client.idText number)) reason) (by
        simpa [Socket.due, honly] using hfail)
      simp [TransportEvent.verdict?] at hverdict
    · refine .inr ⟨⟨task, other, reason, ?_, honly, hfail⟩, hnever⟩
      exact List.mem_filter.mpr ⟨hentry, by simpa using hid⟩

/-! ### Requests -/

/-- What sending does on a socket transport. -/
theorem send_eq (link : Link) (hc : link.carrier = .socket t) (message : Json) :
    ∃ woken, link.send message =
      match (t.send message).2 with
      | some delivery =>
        spawn (.delivery delivery) { link with carrier := .socket (t.send message).1, woken }
      | none => { link with carrier := .socket (t.send message).1, woken } := by
  obtain ⟨woken, hupdate⟩ := updateSocket_eq (t.send message).1 [] link
  refine ⟨woken, ?_⟩
  simp only [Link.send, hc]
  rw [hupdate]
  rfl

theorem not_received_of_send {message : Json} {delivery : Delivery}
    (h : (t.send message).2 = some delivery) :
    ∀ other, Task.delivery delivery = .delivery other →
      ∀ event ∈ other.events, ∀ received, event ≠ .received received := by
  obtain ⟨_, _, reason, hevents⟩ := Socket.send_failed h
  rintro other hother event hevent received rfl
  obtain rfl : delivery = other := by simpa using hother
  simp [hevents] at hevent

theorem Accounted.send (h : Accounted ⟨link, queued⟩) (message : Json) :
    Accounted ⟨link.send message, queued⟩ := by
  obtain ⟨t, hc, ho⟩ := h.socket
  obtain ⟨woken, heq⟩ := send_eq link hc message
  have hmid := h.quiet hc (ho.send message) (t.send_installed message) woken link.wire
  rw [heq]
  cases hsent : (t.send message).2 with
  | none => exact hmid
  | some delivery => exact hmid.spawn (not_received_of_send hsent)

/-- A new request, queued on the installed socket or with a report of its failure to come. -/
theorem Accounted.issue (h : Accounted ⟨link, queued⟩) {socket? : Option Nat}
    (hcovered : (∃ g, socket? = some g ∧ link.installed? = some g) ∨
      socket? = none ∧ link.FailureDue link.client.nextId) :
    Accounted ⟨{ link with client := link.client.issue.2 },
      queued ++ (socket?.map fun g => (link.client.nextId, g)).toList⟩ := by
  have hmem : ∀ {number g}, (number, g) ∈
      queued ++ (socket?.map fun g => (link.client.nextId, g)).toList ↔
        (number, g) ∈ queued ∨ number = link.client.nextId ∧ socket? = some g := by
    intro number g
    cases socket? <;> simp [eq_comm]
  have hfresh : ∀ {number g}, (number, g) ∈ queued → number ≠ link.client.nextId :=
    fun hold => Nat.ne_of_lt (h.queued_lt _ _ hold)
  constructor
  · exact h.orderly
  · exact h.listens
  · exact h.numbered.issue
  · exact h.task_lt
  · exact h.task_unique
  · exact h.deferred
  · intro number g hentry
    rcases hmem.mp hentry with hold | ⟨rfl, _⟩
    · exact Nat.lt_succ_of_lt (h.queued_lt _ _ hold)
    · exact Nat.lt_succ_self _
  · intro number g g' hg hg'
    rcases hmem.mp hg with hold | ⟨hnumber, hnew⟩ <;>
      rcases hmem.mp hg' with hold' | ⟨hnumber', hnew'⟩
    · exact h.queued_once number g g' hold hold'
    · exact absurd hnumber' (hfresh hold)
    · exact absurd hnumber (hfresh hold')
    · rw [hnew, Option.some.injEq] at hnew'
      exact hnew'
  · intro number hpending
    rcases List.mem_append.mp hpending with hold | hnew
    · have hlt := h.numbered.lt_nextId number hold
      rcases h.covered number hold with ⟨g, hg, hqueued⟩ | ⟨hdue, hnever⟩
      · exact .inl ⟨g, hg, hmem.mpr (.inl hqueued)⟩
      · refine .inr ⟨hdue, fun g hentry => ?_⟩
        rcases hmem.mp hentry with hqueued | ⟨heq, _⟩
        · exact hnever g hqueued
        · exact Nat.ne_of_lt hlt heq
    · obtain rfl := List.mem_singleton.mp hnew
      rcases hcovered with ⟨g, hsocket, hg⟩ | ⟨hsocket, hdue⟩
      · exact .inl ⟨g, hg, hmem.mpr (.inr ⟨rfl, hsocket⟩)⟩
      · refine .inr ⟨hdue, fun g hentry => ?_⟩
        rcases hmem.mp hentry with hqueued | ⟨_, hsome⟩
        · exact hfresh hqueued rfl
        · simp [hsocket] at hsome

theorem Accounted.request (h : Accounted ⟨link, queued⟩) (method : String)
    (params : Option Json) :
    Accounted (Course.next ⟨link, queued⟩ (.request method params)) := by
  obtain ⟨t, hc, ho⟩ := h.socket
  let frame := Message.request (Client.idText link.client.nextId) method params
  have htake : link.take (.request method params) =
      Link.send frame { link with client := link.client.issue.2 } :=
    take_eq hc _
  have hqueues : link.queues? (.request method params) =
      match (t.send frame).2 with
      | some _ => none
      | none => t.installed.map fun g => (link.client.nextId, g) := by
    simp only [queues?, hc]
    rfl
  obtain ⟨woken, hsend⟩ := send_eq { link with client := link.client.issue.2 } hc frame
  have hmid := h.quiet hc (ho.send frame) (t.send_installed frame) woken link.wire
  rw [Course.next, htake, hsend, hqueues]
  cases hsent : (t.send frame).2 with
  | none =>
    obtain ⟨g, _, hg, _⟩ := Socket.send_queued hsent
    exact hmid.issue (.inl ⟨g, hg, (t.send_installed frame).trans hg⟩)
  | some delivery =>
    obtain ⟨_, honly, reason, hevents⟩ := Socket.send_failed hsent
    have hdue : FailureDue (Link.spawn (.delivery delivery)
        { link with carrier := .socket (t.send frame).1, woken }) link.client.nextId := by
      refine ⟨link.nextTask, delivery, reason, ?_, honly, ?_⟩
      · exact List.mem_append_right _ (List.mem_singleton.mpr rfl)
      · rw [hevents, Client.id?_request]
        exact List.mem_singleton.mpr rfl
    exact (hmid.spawn (not_received_of_send hsent)).issue (.inr ⟨rfl, hdue⟩)

theorem Accounted.forget (h : Accounted ⟨link, queued⟩) (number : Nat) :
    Accounted ⟨link.forget number, queued⟩ where
  orderly := h.orderly
  listens := h.listens
  numbered := h.numbered.forget number
  task_lt := h.task_lt
  task_unique := h.task_unique
  deferred := h.deferred
  queued_lt := h.queued_lt
  queued_once := h.queued_once
  covered other hmem := h.covered other (List.mem_filter.mp hmem).1

/-! ### Handshakes and sockets -/

theorem Accounted.concludeHandshake (h : Accounted ⟨link, queued⟩) (hc : link.carrier = .socket t)
    (ho : t.Orderly) {handshake : Handshake} (hmem : handshake ∈ t.handshakes)
    (failure : Option String) :
    Accounted ⟨(link.concludeHandshake handshake failure t).2, queued⟩ := by
  cases failure with
  | none =>
    have hmid := h.transport hc (ho.accept hmem handshake.url)
      (ho.accept_announces hmem handshake.url) link.woken link.wire
    simp only [Link.concludeHandshake]
    split
    · exact hmid.spawn (by simp)
    · exact hmid
  | some reason =>
    have hmid := h.quiet hc (ho.endHandshake handshake.generation) rfl link.woken link.wire
    exact hmid.spawn (by simp)

theorem Accounted.announceStream (h : Accounted ⟨link, queued⟩) (hc : link.carrier = .socket t)
    (ho : t.Orderly) (g : Nat) : Accounted ⟨link.announceStream g, queued⟩ := by
  simp only [Link.announceStream, hc]
  split
  · split
    · exact h
    · exact h.transport hc (ho.announce g) (Socket.announces_of_same rfl _) link.woken link.wire
  · exact h

theorem Accounted.writeStream (h : Accounted ⟨link, queued⟩) (hc : link.carrier = .socket t)
    (ho : t.Orderly) (g : Nat) : Accounted ⟨link.writeStream g 1, queued⟩ := by
  have hmid := h.quiet hc (ho.write g) (t.write_installed g) link.woken
  simp only [Link.writeStream, hc]
  split
  next after frame heq =>
    rw [heq] at hmid
    exact hmid _
  next => exact h

/-! ### A turn, and turns -/

theorem Accounted.next {course : Course} (h : Accounted course) (turn : Turn) :
    Accounted (course.next turn) := by
  obtain ⟨link, queued⟩ := course
  obtain ⟨t, hc, ho⟩ := h.socket
  have hkept : ∀ {after : Link}, link.takeOn t turn = after → link.queues? turn = none →
      Accounted ⟨after, queued⟩ → Accounted (Course.next ⟨link, queued⟩ turn) := by
    intro after hafter hqueues haccounted
    rw [Course.next, take_eq hc, hafter, hqueues]
    simpa using haccounted
  cases turn with
  | connect url =>
    exact hkept rfl rfl (h.updateSocket hc (ho.connect url) t.disconnect_announces)
  | handshake g failure =>
    refine hkept rfl rfl ?_
    simp only [takeOn]
    split
    next handshake hfound =>
      exact h.concludeHandshake hc ho (List.mem_of_find?_eq_some hfound) failure
    next => exact h
  | abandon g => exact hkept rfl rfl (h.quiet hc (ho.endHandshake g) rfl link.woken link.wire)
  | disconnect =>
    refine hkept rfl rfl ?_
    simp only [takeOn, Link.disconnect, hc]
    exact h.updateSocket hc ho.disconnect t.disconnect_announces
  | request method params => exact h.request method params
  | forget number => exact hkept rfl rfl (h.forget number)
  | notify method params => exact hkept rfl rfl (h.send _)
  | deliver task =>
    refine hkept rfl rfl ?_
    simp only [takeOn]
    split
    next delivery htask => exact h.runDelivery htask
    next => exact h
  | announce g => exact hkept rfl rfl (h.announceStream hc ho g)
  | write g => exact hkept rfl rfl (h.writeStream hc ho g)
  | writeFails g reason =>
    refine hkept rfl rfl ?_
    simp only [takeOn]
    split
    · exact h.transport hc (ho.fail g reason) (ho.fail_announces g reason) link.woken link.wire
    · exact h
  | takeIn g inbound =>
    refine hkept rfl rfl ?_
    simp only [takeOn]
    split
    · exact h.transport hc (ho.takeIn g inbound) (ho.takeIn_announces g inbound) link.woken
        link.wire
    · exact h
  | stop g =>
    refine hkept rfl rfl ?_
    simp only [takeOn]
    split
    · exact h
    · exact h.quiet hc (ho.dropStream g) rfl link.woken link.wire

theorem accounted_after (settings : TransportSettings) (handlers : Registry String Subscriber)
    (turns : List Turn) : Accounted (Course.after settings handlers turns) := by
  have hstart : Accounted ⟨{ plain (.socket { settings }) with client := { handlers } }, []⟩ := by
    refine ⟨⟨_, rfl, Socket.orderly_initial settings⟩, clientListens_plain _,
      ⟨List.nodup_nil, ?_⟩, ?_, ?_, ?_, ?_, ?_, ?_⟩ <;> simp [plain, addListeners, addListener]
  have hrun : ∀ course, Accounted course → Accounted (turns.foldl Course.next course) := by
    induction turns with
    | nil => exact fun _ h => h
    | cons turn rest ih => exact fun course h => ih _ (h.next turn)
  exact hrun _ hstart

/-! ### What a turn does -/

/-- The state in which a turn leaves a transport that is in state `t`, and the events of that. -/
inductive Moves (link : Link) (t : Socket) : Turn → Socket → List TransportEvent → Prop where
  | connect (url : String) :
    Moves link t (.connect url) (t.connect url).2.1 ((t.connect url).2.2.map (·.event))
  | accept {generation : Nat} {handshake : Handshake}
    (found : t.handshakes.find? (fun h => h.generation = generation) = some handshake) :
    Moves link t (.handshake generation none) (t.accept handshake.generation handshake.url).1 []
  | refuse {generation : Nat} {handshake : Handshake} (reason : String)
    (found : t.handshakes.find? (fun h => h.generation = generation) = some handshake) :
    Moves link t (.handshake generation (some reason)) (t.endHandshake handshake.generation) []
  /-- A handshake that has ended does not end again. -/
  | ended {generation : Nat} (failure : Option String)
    (gone : t.handshakes.find? (fun h => h.generation = generation) = none) :
    Moves link t (.handshake generation failure) t []
  | abandon (generation : Nat) : Moves link t (.abandon generation) (t.endHandshake generation) []
  | disconnect : Moves link t .disconnect t.disconnect.1 (t.disconnect.2.map (·.event))
  | request (method : String) (params : Option Json) :
    Moves link t (.request method params)
      (t.send (Message.request (Client.idText link.client.nextId) method params)).1 []
  | forget (number : Nat) : Moves link t (.forget number) t []
  | notify (method : String) (params : Option Json) :
    Moves link t (.notify method params) (t.send (Message.notification method params)).1 []
  | deliver {task : Nat} {delivery : Delivery}
    (found : link.task? task = some (.delivery delivery)) :
    Moves link t (.deliver task) t ((t.due delivery).map (·.event))
  | undelivered (task : Nat) : Moves link t (.deliver task) t []
  | announce {generation : Nat} {s : Stream} (found : t.stream? generation = some s) :
    Moves link t (.announce generation) (t.announce generation).1 [.opened]
  | write (generation : Nat) : Moves link t (.write generation) (t.write generation).1 []
  | writeFails {generation : Nat} {s : Stream} (reason : String)
    (found : t.stream? generation = some s) :
    Moves link t (.writeFails generation reason) (t.fail generation reason).1
      ((t.fail generation reason).2.map (·.event))
  | takeIn {generation : Nat} (inbound : Inbound) (served : link.serves generation) :
    Moves link t (.takeIn generation inbound) (t.takeIn generation inbound).1
      ((t.takeIn generation inbound).2.map (·.event))
  | stop (generation : Nat) : Moves link t (.stop generation) (t.stop generation) []
  /-- The task of a socket has nothing to do. -/
  | unserved {turn : Turn} (service : isService turn) : Moves link t turn t []

/-- What else a turn does before its events are announced. Without events it may issue or forget a
request, and a turn that is not of a socket's task may start and end tasks. -/
structure Leads (link : Link) (turn : Turn) (after : Socket) (events : List TransportEvent)
    (mid : Link) : Prop where
  carrier : mid.carrier = .socket after
  listeners : mid.listeners = link.listeners
  session : mid.session = link.session
  inputs : mid.inputs = link.inputs
  cancelled : mid.cancelledTokens = link.cancelledTokens
  tasks : isService turn → mid.tasks = link.tasks
  answers : ∀ entry ∈ mid.answers, entry ∈ link.answers
  client : events = [] ∨ mid.client = link.client ∧ mid.answers = link.answers

theorem leads_put {turn : Turn} {events : List TransportEvent} (after : Socket) (woken : List Nat)
    (wire : List (Nat × Json)) :
    Leads link turn after events { link with carrier := .socket after, woken, wire } :=
  ⟨rfl, rfl, rfl, rfl, rfl, fun _ => rfl, fun _ hmem => hmem, .inr ⟨rfl, rfl⟩⟩

theorem Leads.spawn {turn : Turn} {after : Socket} {events : List TransportEvent} {mid : Link}
    (h : Leads link turn after events mid) (task : Task) (hservice : ¬ isService turn) :
    Leads link turn after events (mid.spawn task) :=
  { h with tasks := fun hturn => absurd hturn hservice }

theorem leads_send {turn : Turn} (hc : link.carrier = .socket t) (message : Json)
    (hservice : ¬ isService turn) :
    Leads link turn (t.send message).1 [] (link.send message) := by
  obtain ⟨woken, heq⟩ := send_eq link hc message
  have hput : Leads link turn (t.send message).1 []
      { link with carrier := .socket (t.send message).1, woken } :=
    leads_put _ woken link.wire
  rw [heq]
  split
  · exact hput.spawn _ hservice
  · exact hput

/-- The turn is made, and ends with this link. -/
def Made (link : Link) (t : Socket) (turn : Turn) (final : Link) : Prop :=
  ∃ after events mid, Moves link t turn after events ∧ Leads link turn after events mid ∧
    final = emitAll events mid

/-- Nothing is done. -/
theorem Moves.made_idle {turn : Turn} (h : Moves link t turn t []) (hc : link.carrier = .socket t) :
    Made link t turn link :=
  ⟨t, [], link, h,
    ⟨hc, rfl, rfl, rfl, rfl, fun _ => rfl, fun _ hmem => hmem, .inr ⟨rfl, rfl⟩⟩, rfl⟩

/-- The transport is in another state, and announces events. -/
theorem Moves.made {turn : Turn} {after : Socket} {events : List TransportEvent}
    (h : Moves link t turn after events) (woken : List Nat) (wire : List (Nat × Json)) :
    Made link t turn (emitAll events { link with carrier := .socket after, woken, wire }) :=
  ⟨after, events, _, h, leads_put after woken wire, rfl⟩

theorem Moves.made_updateSocket {turn : Turn} {after : Socket} {emissions : List Emission}
    (h : Moves link t turn after (emissions.map (·.event))) :
    Made link t turn (link.updateSocket after emissions) := by
  obtain ⟨woken, heq⟩ := updateSocket_eq after emissions link
  rw [heq]
  exact h.made woken link.wire

theorem made_concludeHandshake {generation : Nat} {handshake : Handshake}
    (found : t.handshakes.find? (fun h => h.generation = generation) = some handshake)
    (failure : Option String) : Made link t (.handshake generation failure)
      (link.concludeHandshake handshake failure t).2 := by
  have hput : ∀ (turn : Turn) (after : Socket),
      Leads link turn after [] { link with carrier := .socket after } :=
    fun _ after => leads_put after link.woken link.wire
  cases failure with
  | none =>
    simp only [concludeHandshake]
    split
    · exact ⟨_, _, _, .accept found, (hput _ _).spawn _ (by simp [isService]), rfl⟩
    · exact ⟨_, _, _, .accept found, hput _ _, rfl⟩
  | some reason =>
    exact ⟨_, _, _, .refuse reason found, (hput _ _).spawn _ (by simp [isService]), rfl⟩

theorem made_request (hc : link.carrier = .socket t) (method : String) (params : Option Json) :
    Made link t (.request method params) (link.request method params).2 := by
  let issued : Link := { link with client := link.client.issue.2 }
  let frame := Message.request (Client.idText link.client.nextId) method params
  have hissued : issued.carrier = .socket t := hc
  have hsent : Leads issued (.request method params) (t.send frame).1 [] (issued.send frame) :=
    leads_send hissued frame (by simp [isService])
  exact ⟨_, _, _, .request method params, { hsent with client := .inl rfl }, rfl⟩

theorem made_forget (hc : link.carrier = .socket t) (number : Nat) :
    Made link t (.forget number) (link.forget number) := by
  have hkept : ∀ entry ∈ (link.forget number).answers, entry ∈ link.answers :=
    fun _ hmem => (List.mem_filter.mp hmem).1
  refine ⟨_, _, _, .forget number, ?_, rfl⟩
  exact ⟨hc, rfl, rfl, rfl, rfl, fun _ => rfl, hkept, .inl rfl⟩

theorem made_runDelivery (hc : link.carrier = .socket t) {task : Nat} {delivery : Delivery}
    (found : link.task? task = some (.delivery delivery)) :
    Made link t (.deliver task) (link.runDelivery task delivery) := by
  have hc' : (link.endTask task).carrier = .socket t := hc
  simp only [runDelivery, hc']
  refine ⟨_, _, _, .deliver found, ?_, rfl⟩
  exact ⟨hc, rfl, rfl, rfl, rfl, by simp [isService], fun _ hmem => hmem, .inr ⟨rfl, rfl⟩⟩

theorem made_writeStream (hc : link.carrier = .socket t) (generation : Nat) :
    Made link t (.write generation) (link.writeStream generation 1) := by
  simp only [writeStream, hc]
  split
  next after frame hwrite =>
    have hmoves : Moves link t (.write generation) (t.write generation).1 [] := .write generation
    rw [hwrite] at hmoves
    exact hmoves.made link.woken _
  next => exact (Moves.unserved rfl).made_idle hc

/-- What a turn on a socket transport does, all that it can do included. -/
theorem take_moves (hc : link.carrier = .socket t) (turn : Turn) :
    Made link t turn (link.take turn) := by
  rw [take_eq hc]
  cases turn with
  | connect url => exact (Moves.connect url).made_updateSocket
  | handshake g failure =>
    simp only [takeOn]
    split
    next handshake hfound => exact made_concludeHandshake hfound failure
    next hgone => exact (Moves.ended failure hgone).made_idle hc
  | abandon g => exact (Moves.abandon g).made link.woken link.wire
  | disconnect =>
    simp only [takeOn, Link.disconnect, hc]
    exact Moves.disconnect.made_updateSocket
  | request method params => exact made_request hc method params
  | forget number => exact made_forget hc number
  | notify method params =>
    exact ⟨_, _, _, .notify method params, leads_send hc _ (by simp [isService]), rfl⟩
  | deliver task =>
    simp only [takeOn]
    split
    next delivery htask => exact made_runDelivery hc htask
    next => exact (Moves.undelivered task).made_idle hc
  | announce g =>
    simp only [takeOn, announceStream, hc]
    split
    next s hfound =>
      split
      · exact (Moves.unserved rfl).made_idle hc
      · exact (Moves.announce hfound).made link.woken link.wire
    next => exact (Moves.unserved rfl).made_idle hc
  | write g => exact made_writeStream hc g
  | writeFails g reason =>
    simp only [takeOn]
    split
    next hfound =>
      obtain ⟨s, hs⟩ := Option.isSome_iff_exists.mp hfound
      exact (Moves.writeFails reason hs).made link.woken link.wire
    next => exact (Moves.unserved rfl).made_idle hc
  | takeIn g inbound =>
    simp only [takeOn]
    split
    next hserves => exact (Moves.takeIn inbound hserves).made link.woken link.wire
    next => exact (Moves.unserved rfl).made_idle hc
  | stop g =>
    simp only [takeOn]
    split
    · exact (Moves.unserved rfl).made_idle hc
    · exact (Moves.stop g).made link.woken link.wire

/-! ### Answers of the server -/

/-- The answer is what the server said. -/
def isReply : Answer → Bool
  | .ok _ | .error (.rpc _) => true
  | _ => false

theorem received_of_isReply {event : TransportEvent} {number : Nat} {answer : Answer}
    (h : event.verdict? number = some answer) (hreply : isReply answer) :
    ∃ message, event = .received message := by
  cases event with
  | received message => exact ⟨message, rfl⟩
  | closed code reason =>
    obtain rfl := Option.some.inj h
    simp [isReply] at hreply
  | reset =>
    obtain rfl := Option.some.inj h
    simp [isReply] at hreply
  | opened => simp [TransportEvent.verdict?] at h
  | failed reason => simp [TransportEvent.verdict?] at h
  | sendFailed id reason =>
    cases id with
    | none => simp [TransportEvent.verdict?] at h
    | some id =>
      simp only [TransportEvent.verdict?, Option.ite_none_right_eq_some, Option.some.injEq] at h
      simp [← h.2, isReply] at hreply

/-- A turn adds no answers, or those that its events give. Messages are among these events only if
the turn takes in a text from a socket that is served. -/
theorem take_answers (hc : link.carrier = .socket t)
    (hdeferred : ∀ task delivery, (task, .delivery delivery) ∈ link.tasks →
      ∀ event ∈ delivery.events, ∀ message, event ≠ .received message) (turn : Turn) :
    (∀ entry ∈ (link.take turn).answers, entry ∈ link.answers) ∨
      ∃ mid events, link.take turn = emitAll events mid ∧ mid.client = link.client ∧
        mid.listeners = link.listeners ∧ mid.answers = link.answers ∧
        ∀ message, .received message ∈ events → ∃ g content,
          turn = .takeIn g (.text content) ∧ Json.parse content = .ok message ∧ link.serves g := by
  obtain ⟨after, events, mid, hmoves, hleads, htake⟩ := take_moves hc turn
  rcases hleads.client with rfl | ⟨hclient, hanswers⟩
  · left
    rw [htake]
    exact hleads.answers
  · refine .inr ⟨mid, events, htake, hclient, hleads.listeners, hanswers, fun message hmem => ?_⟩
    cases hmoves with
    | connect url => exact absurd hmem (t.received_not_mem_disconnect message)
    | disconnect => exact absurd hmem (t.received_not_mem_disconnect message)
    | deliver htask =>
      have hevent := Socket.mem_of_mem_due hmem
      exact absurd rfl (hdeferred _ _ (mem_of_task? htask) _ hevent message)
    | writeFails reason hfound => exact absurd hmem (t.received_not_mem_fail _ reason message)
    | takeIn inbound hserves =>
      obtain ⟨content, rfl, hparsed⟩ := Socket.text_of_received hmem
      exact ⟨_, content, rfl, hparsed, hserves⟩
    | _ => simp at hmem

theorem Accounted.reply {course : Course} (h : Accounted course) {turn : Turn} {number : Nat}
    {answer : Answer} (hnew : (number, answer) ∈ (course.next turn).link.answers)
    (hold : (number, answer) ∉ course.link.answers) (hreply : isReply answer) :
    ∃ g content message, turn = .takeIn g (.text content) ∧ Json.parse content = .ok message ∧
      course.link.installed? = some g ∧ number ∈ course.link.client.pending ∧
      TransportEvent.verdict? number (.received message) = some answer := by
  obtain ⟨link, queued⟩ := course
  obtain ⟨t, hc, ho⟩ := h.socket
  rcases take_answers hc h.deferred turn with hnone | ⟨mid, events, heq, hclient, hlisteners,
      hanswers, htext⟩
  · exact absurd (hnone _ hnew) hold
  · -- The client hears all events, so the answer is the verdict of one of them.
    have hlistens : mid.ClientListens := fun kind => by rw [hlisteners]; exact h.listens kind
    have hnodup : mid.client.pending.Nodup := by rw [hclient]; exact h.numbered.nodup
    have hsettles := (hlistens.emitAll hnodup events).2
    have hnew : (number, answer) ∈ (mid.emitAll events).answers := heq ▸ hnew
    obtain ⟨hmem, hverdict⟩ := hsettles.verdict_of_new hnew (by rw [hanswers]; exact hold)
    obtain ⟨event, hevent, hverdict⟩ := List.exists_of_findSome?_eq_some hverdict
    obtain ⟨message, rfl⟩ := received_of_isReply hverdict hreply
    obtain ⟨g, content, hturn, hparsed, hserves⟩ := htext message hevent
    refine ⟨g, content, message, hturn, hparsed, ?_, by simpa [hclient] using hmem, hverdict⟩
    simp only [serves, hc] at hserves
    simpa only [installed?, hc] using ho.installed_of_served hserves

/-- After every interleaving of turns, a request that waits was queued on the socket that is
installed, or the report of its failure is due. So none waits once no socket is installed and all
is delivered. A server's answer settles a request only when it arrives on the installed socket, and
that is the socket, and the only one, that the request was queued on. One that was never queued can
be answered only until the report of that is delivered. -/
theorem waiting_requests_accounted (settings : TransportSettings)
    (handlers : Registry String Subscriber) (turns : List Turn) :
    let course := Course.after settings handlers turns
    (∀ number ∈ course.link.client.pending,
      (∃ g, course.link.installed? = some g ∧ (number, g) ∈ course.queued) ∨
        course.link.FailureDue number) ∧
    (course.link.installed? = none →
      (∀ task delivery, (task, .delivery delivery) ∉ course.link.tasks) →
        course.link.client.pending = []) ∧
    ∀ turn number answer, (number, answer) ∈ (course.next turn).link.answers →
      (number, answer) ∉ course.link.answers → isReply answer →
        ∃ g content message, turn = .takeIn g (.text content) ∧ Json.parse content = .ok message ∧
          course.link.installed? = some g ∧ number ∈ course.link.client.pending ∧
          TransportEvent.verdict? number (.received message) = some answer ∧
          (((number, g) ∈ course.queued ∧ ∀ other, (number, other) ∈ course.queued → other = g) ∨
            course.link.FailureDue number ∧ ∀ other, (number, other) ∉ course.queued) := by
  intro course
  have h : Accounted course := accounted_after settings handlers turns
  refine ⟨?_, ?_, ?_⟩
  · intro number hmem
    rcases h.covered number hmem with hqueued | ⟨hdue, _⟩
    · exact .inl hqueued
    · exact .inr hdue
  · intro hnone hdelivered
    apply List.eq_nil_iff_forall_not_mem.mpr
    intro number hmem
    rcases h.covered number hmem with ⟨g, hg, _⟩ | ⟨⟨task, delivery, _, htask, _⟩, _⟩
    · simp [hnone] at hg
    · exact hdelivered task delivery htask
  · intro turn number answer hnew hold hreply
    obtain ⟨g, content, message, hturn, hparsed, hg, hmem, hverdict⟩ := h.reply hnew hold hreply
    refine ⟨g, content, message, hturn, hparsed, hg, hmem, hverdict, ?_⟩
    rcases h.covered number hmem with ⟨g', hg', hqueued⟩ | hdue
    · obtain rfl : g' = g := Option.some.inj (hg'.symm.trans hg)
      exact .inl ⟨hqueued, fun other hother => h.queued_once _ _ _ hother hqueued⟩
    · exact .inr hdue

/-- A request is issued before the first socket is installed; then a connection opens. -/
def issuedUnconnected : Course :=
  Course.after {} {} [.request "workspace/list" none, .connect "wss://example/api",
    .handshake 1 none, .announce 1]

/-- A message that names its identifier settles a request that was queued on no socket, before the
report that it could not be sent is delivered. -/
theorem unqueued_request_answered :
    let guess := Turn.takeIn 1 (.text "\x7b\"id\":\"1\",\"result\":7\x7d")
    let before := issuedUnconnected.link
    let after := (issuedUnconnected.next guess).link
    issuedUnconnected.queued = [] ∧ before.installed? = some 1 ∧ before.client.pending = [1] ∧
      before.answers.isEmpty ∧ after.client.pending = [] ∧
      (after.answer? 1).map Except.toOption = some (some (.nat 7)) ∧
      after.answers.all fun entry => isReply entry.2 := by
  decide +kernel

end WorkspaceLink.Link
