import WorkspaceLink.Proofs.Link.Awaiting
import WorkspaceLink.Proofs.Link.Unsubscribing

/-!
# Links that mirror each other

Two links are compared apart from a margin: some tasks, one request and one handler. `Mirrors` says
that the second link, the image, is the first without the request and the handler, and that both
have the same books, transport, session and tasks otherwise. Notes, outcomes, alarms and what the
status waiter knows are left out, since who is registered decides who hears a notification.

An answer for the request in the margin is a notification for the image. Apart from that, events and
the operations of the transport change both links alike.
-/
namespace WorkspaceLink

/-- What is left out when two links are compared. -/
structure Margin where
  tasks : List Nat
  number : Nat
  handler : HandlerId

/-- The task waits for no status, and for no request but one that was numbered and is not in the
margin. -/
structure Margin.Permits (margin : Margin) (nextId : Nat) (task : Task) : Prop where
  not_status : ∀ ticket, task ≠ .call (.status ticket)
  request : ∀ number, task.request? = some number → number ≠ margin.number ∧ number < nextId

variable {margin : Margin}

theorem Margin.permits_of_none {nextId : Nat} {task : Task} (h : task.request? = none)
    (hstatus : ∀ ticket, task ≠ .call (.status ticket)) : margin.Permits nextId task := by
  refine ⟨hstatus, fun number hasks => ?_⟩
  rw [h] at hasks
  cases hasks

theorem Margin.permits_of_some {nextId number : Nat} {task : Task}
    (hnumber : number ≠ margin.number ∧ number < nextId) (h : task.request? = some number) :
    margin.Permits nextId task := by
  constructor
  · rintro ticket rfl
    cases h
  · intro other hasks
    rw [h] at hasks
    cases hasks
    exact hnumber

/-! ### Clients -/

theorem Grouped.Sound.add {registry : Registry String Subscriber}
    (h : Grouped.Sound registry.lists) (method : String) (subscriber : Subscriber) :
    Grouped.Sound (registry.add method subscriber).2.lists := by
  simp only [Registry.add, Registry.append_eq]
  exact h.insert _ _

theorem Grouped.Sound.remove {registry : Registry String Subscriber}
    (h : Grouped.Sound registry.lists) (method : String) (gone : HandlerId) :
    Grouped.Sound (registry.remove method gone).2.lists := by
  simp only [Registry.remove, Registry.discard_eq]
  exact h.prune _ _

namespace Client

variable {client image : Client Subscriber} {number : Nat}

/-- The image is the client without the request and the handler in the margin. -/
structure Mirrors (margin : Margin) (client image : Client Subscriber) : Prop where
  nextId : client.nextId = image.nextId
  pending : client.pending.filter (· ≠ margin.number) = image.pending
  next : client.handlers.next = image.handlers.next
  entries : ∀ method,
    (client.handlers.entries method).filter (fun entry => entry.1 ≠ margin.handler) =
      image.handlers.entries method
  sound : Grouped.Sound client.handlers.lists
  image_sound : Grouped.Sound image.handlers.lists
  waiting_lt : ∀ number ∈ image.pending, number < image.nextId
  number_lt : margin.number < image.nextId
  handler_lt : margin.handler.number < image.handlers.next

namespace Mirrors

theorem mem_pending (h : client.Mirrors margin image) :
    number ∈ image.pending ↔ number ∈ client.pending ∧ number ≠ margin.number := by
  rw [← h.pending]
  simp

/-- The same request waits, or it is the one in the margin and no request of the image waits. -/
theorem waiting? (h : client.Mirrors margin image) (text : String) :
    client.waiting? text = image.waiting? text ∨
      client.waiting? text = some margin.number ∧ image.waiting? text = none := by
  cases hwaits : image.waiting? text with
  | some number =>
    obtain ⟨hmem, htext⟩ := waiting?_eq_some.mp hwaits
    exact .inl (waiting?_eq_some.mpr ⟨(h.mem_pending.mp hmem).1, htext⟩)
  | none =>
    cases hown : client.waiting? text with
    | none => exact .inl rfl
    | some number =>
      obtain ⟨hmem, htext⟩ := waiting?_eq_some.mp hown
      refine .inr ⟨congrArg some ?_, rfl⟩
      by_contra hne
      exact waiting?_eq_none.mp hwaits number (h.mem_pending.mpr ⟨hmem, hne⟩) htext

theorem issue (h : client.Mirrors margin image) : client.issue.2.Mirrors margin image.issue.2 :=
  { h with
    nextId := congrArg (· + 1) h.nextId
    pending := by
      have hne : image.nextId ≠ margin.number := Nat.ne_of_gt h.number_lt
      simp only [Client.issue, List.filter_append, h.pending, h.nextId]
      simp [hne]
    waiting_lt := by
      intro number hmem
      rcases List.mem_append.mp hmem with hold | hnew
      · exact Nat.lt_succ_of_lt (h.waiting_lt number hold)
      · rw [List.mem_singleton.mp hnew]
        exact Nat.lt_succ_self _
    number_lt := Nat.lt_succ_of_lt h.number_lt }

theorem forget (h : client.Mirrors margin image) (number : Nat) :
    (client.forget number).Mirrors margin (image.forget number) :=
  { h with
    pending := by
      simp only [forget_pending, ← h.pending, List.filter_filter]
      simp only [Bool.and_comm]
    waiting_lt := fun other hmem => h.waiting_lt other (List.mem_filter.mp hmem).1 }

/-- The request in the margin waits no longer. -/
theorem forget_own (h : client.Mirrors margin image) :
    (client.forget margin.number).Mirrors margin image :=
  { h with
    pending := by
      rw [forget_pending, List.filter_filter, ← h.pending]
      simp }

theorem add (h : client.Mirrors margin image) (method : String) (subscriber : Subscriber) :
    Mirrors margin { client with handlers := (client.handlers.add method subscriber).2 }
      { image with handlers := (image.handlers.add method subscriber).2 } :=
  { h with
    next := congrArg (· + 1) h.next
    entries := by
      intro other
      have hne : (⟨image.handlers.next⟩ : HandlerId) ≠ margin.handler := by
        intro heq
        exact Nat.lt_irrefl _ (heq ▸ h.handler_lt)
      simp only [Registry.entries_add, h.next]
      split
      · rw [List.filter_append, h.entries]
        simp [hne]
      · exact h.entries other
    sound := h.sound.add method subscriber
    image_sound := h.image_sound.add method subscriber
    handler_lt := Nat.lt_succ_of_lt h.handler_lt }

theorem remove (h : client.Mirrors margin image) (method : String) (gone : HandlerId) :
    Mirrors margin { client with handlers := (client.handlers.remove method gone).2 }
      { image with handlers := (image.handlers.remove method gone).2 } :=
  { h with
    entries := by
      intro other
      simp only [Registry.entries_remove h.sound, Registry.entries_remove h.image_sound]
      split
      · rw [← h.entries, List.filter_filter, List.filter_filter]
        simp only [Bool.and_comm]
      · exact h.entries other
    sound := h.sound.remove method gone
    image_sound := h.image_sound.remove method gone }

/-- The handler in the margin is removed. -/
theorem remove_own (h : client.Mirrors margin image) (method : String) :
    Mirrors margin { client with handlers := (client.handlers.remove method margin.handler).2 }
      image :=
  { h with
    entries := by
      intro other
      simp only [Registry.entries_remove h.sound]
      split
      · rw [List.filter_filter, ← h.entries]
        simp
      · exact h.entries other
    sound := h.sound.remove method margin.handler }

theorem clear (h : client.Mirrors margin image) :
    Mirrors margin { client with handlers := client.handlers.clear }
      { image with handlers := image.handlers.clear } :=
  { h with
    entries := fun _ => rfl
    sound := Grouped.sound_nil
    image_sound := Grouped.sound_nil }

end Mirrors

end Client

namespace Link

variable {link image : Link} {id number : Nat}

/-! ### Links -/

/-- A link without its client, without what is in the margin, and without what is left out. -/
def outline (margin : Margin) (link : Link) : Link :=
  { link with
    ambient := { link.ambient with alarms := 0 }
    client := {}
    waiter := { tracked := link.waiter.tracked }
    tasks := link.tasks.filter fun entry => entry.1 ∉ margin.tasks
    answers := link.answers.filter fun entry => entry.1 ≠ margin.number
    alarms := [], woken := [], statuses := [], log := [], notes := [], finished := [] }

/-- The image is the link without the request and the handler in the margin, and otherwise the two
are alike. -/
structure Mirrors (margin : Margin) (link image : Link) : Prop where
  outline : link.outline margin = image.outline margin
  client : link.client.Mirrors margin image.client
  permits : ∀ entry ∈ (image.outline margin).tasks, margin.Permits image.client.nextId entry.2

/-! ### What the client hears -/

/-- The same of clients that act on their links. -/
structure Acts (margin : Margin) (state image : Client Subscriber × Link) : Prop where
  client : state.1.Mirrors margin image.1
  outline : state.2.outline margin = image.2.outline margin

theorem settleStatuses_outline (margin : Margin) (settled : StatusWaiter.Settled) (link : Link) :
    (settleStatuses settled link).outline margin = link.outline margin := by
  unfold settleStatuses
  induction settled generalizing link with
  | nil => rfl
  | cons entry rest ih => exact ih _

theorem settleStatuses_client (settled : StatusWaiter.Settled) (link : Link) :
    (settleStatuses settled link).client = link.client :=
  (congrArg Link.client (settleStatuses_essence settled link) :)

/-- What the waiter knows is left out, but not what it tracks. -/
theorem setWaiter_outline (margin : Margin) {waiter : StatusWaiter} (link : Link)
    (h : waiter.tracked = link.waiter.tracked) :
    outline margin { link with waiter } = link.outline margin := by
  simp only [outline, h]

theorem hear_outline (margin : Margin) (subscriber : Subscriber) (params : Json) (link : Link) :
    (link.hear subscriber params).outline margin = link.outline margin := by
  have hhandle : ∀ event, (link.waiter.handle event).1.tracked = link.waiter.tracked := by
    intro event
    unfold StatusWaiter.handle
    split <;> rfl
  unfold hear
  split
  next event =>
    unfold deliver
    split
    · rfl
    · rfl
    · split
      · exact (settleStatuses_outline margin _ _).trans (setWaiter_outline margin link (hhandle _))
      · rfl
  next => rfl

/-- A notification, whoever hears it, changes nothing that is compared. -/
theorem dispatch_outline (margin : Margin) (handlers : Registry String Subscriber)
    (method : String) (params : Json) (state : Client Subscriber × Link) :
    let after := handlers.dispatch method
      (fun handler state => host.invoke handler params state) state
    after.1 = state.1 ∧ after.2.outline margin = state.2.outline margin := by
  have hinvoke : ∀ handler params state,
      ((host.invoke handler params state).1, (host.invoke handler params state).2.outline margin) =
        (state.1, state.2.outline margin) :=
    fun handler params state => by simp only [host, hear_outline]
  have hkeeps := Client.dispatch_keeps (fun state => (state.1, state.2.outline margin)) hinvoke
    (handlers.handlers method) params state
  exact Prod.mk.injEq .. ▸ hkeeps

theorem Acts.congr {state image state' image' : Client Subscriber × Link}
    (h : Acts margin state image)
    (hstate : state'.1 = state.1 ∧ state'.2.outline margin = state.2.outline margin)
    (himage : image'.1 = image.1 ∧ image'.2.outline margin = image.2.outline margin) :
    Acts margin state' image' where
  client := by rw [hstate.1, himage.1]; exact h.client
  outline := by rw [hstate.2, himage.2]; exact h.outline

theorem settle_outline (margin : Margin) (number : Nat) (answer : Answer) (link : Link) :
    (host.settle number answer link).outline margin =
      { link.outline margin with
        answers := (link.outline margin).answers ++
          [(number, answer)].filter fun entry => entry.1 ≠ margin.number } := by
  simp only [host, raise, outline, List.filter_append]

section

variable {state mirror : Client Subscriber × Link}

theorem Acts.conclude (h : Acts margin state mirror) (number : Nat) (answer : Answer) :
    Acts margin (Client.conclude host number answer state)
      (Client.conclude host number answer mirror) where
  client := h.client.forget number
  outline := by
    simp only [Client.conclude, settle_outline, h.outline]

/-- The request in the margin is answered. -/
theorem Acts.conclude_own (h : Acts margin state mirror) (answer : Answer) :
    Acts margin (Client.conclude host margin.number answer state) mirror where
  client := h.client.forget_own
  outline := by
    have hnone : [(margin.number, answer)].filter (fun entry => entry.1 ≠ margin.number) = [] := by
      simp
    rw [Client.conclude, settle_outline, hnone, List.append_nil]
    exact h.outline

theorem Acts.receiveOne (h : Acts margin state mirror) (message : Json) :
    Acts margin (Client.receiveOne host message state) (Client.receiveOne host message mirror) := by
  have hnotified : ∀ handlers method params,
      Acts margin state (Registry.dispatch handlers method
        (fun handler state => host.invoke handler params state) mirror) :=
    fun handlers method params => h.congr ⟨rfl, rfl⟩ (dispatch_outline margin _ _ _ mirror)
  have hwaits : (Message.id? message).bind state.1.waiting? =
        (Message.id? message).bind mirror.1.waiting? ∨
      (Message.id? message).bind state.1.waiting? = some margin.number ∧
        (Message.id? message).bind mirror.1.waiting? = none := by
    cases Message.id? message with
    | none => exact .inl rfl
    | some text => exact h.client.waiting? text
  unfold Client.receiveOne
  rcases hwaits with hsame | ⟨hown, hnone⟩
  · rw [hsame]
    split
    · split
      · exact h.conclude _ _
      · exact h.conclude _ _
      · exact h
    · split
      · exact h.congr (dispatch_outline margin _ _ _ state) (dispatch_outline margin _ _ _ mirror)
      · exact h
  · -- the answer is for the request in the margin, which the image takes as a notification
    rw [hown, hnone]
    dsimp only
    split
    · split
      · exact (hnotified _ _ _).conclude_own _
      · exact h.conclude_own _
    · split
      · exact (hnotified _ _ _).conclude_own _
      · exact h.conclude_own _
    · split
      · exact hnotified _ _ _
      · exact h

theorem Acts.failOne (h : Acts margin state mirror) (text reason : String) :
    Acts margin (Client.failOne host text reason state)
      (Client.failOne host text reason mirror) := by
  unfold Client.failOne
  rcases h.client.waiting? text with hsame | ⟨hown, hnone⟩
  · rw [hsame]
    split
    · exact h.conclude _ _
    · exact h
  · rw [hown, hnone]
    exact h.conclude_own _

/-- Requests fail, in the image all but the one in the margin. -/
theorem Acts.failEach (h : Acts margin state mirror) (numbers : List Nat) (answer : Answer) :
    Acts margin
      (numbers.foldl (fun state number => Client.conclude host number answer state) state)
      ((numbers.filter (· ≠ margin.number)).foldl
        (fun state number => Client.conclude host number answer state) mirror) := by
  induction numbers generalizing state mirror with
  | nil => exact h
  | cons number rest ih =>
    by_cases hown : number = margin.number
    · subst hown
      rw [List.filter_cons_of_neg (by simp)]
      exact ih (h.conclude_own answer)
    · rw [List.filter_cons_of_pos (by simpa using hown)]
      exact ih (h.conclude number answer)

theorem Acts.hear (h : Acts margin state mirror) (event : TransportEvent) :
    Acts margin (Client.hear host event state) (Client.hear host event mirror) := by
  have hlost : Acts margin (Client.failAll host state) (Client.failAll host mirror) := by
    unfold Client.failAll
    rw [← h.client.pending]
    exact h.failEach _ _
  cases event with
  | received message =>
    simp only [Client.hear, Client.receive_eq_foldl]
    clear hlost
    generalize Message.leaves message = messages
    induction messages generalizing state mirror with
    | nil => exact h
    | cons message rest ih => exact ih (h.receiveOne message)
  | closed code reason => exact hlost
  | reset => exact hlost
  | opened => exact h
  | failed reason => exact h
  | sendFailed text reason =>
    cases text with
    | none => exact h
    | some text => exact h.failOne text reason

end

/-! ### Numbers of requests -/

theorem emit_nextId (event : TransportEvent) (link : Link) :
    (link.emit event).client.nextId = link.client.nextId := by
  have hlisten : ∀ listener (link : Link),
      (listen event listener link).client.nextId = link.client.nextId := by
    intro listener link
    cases listener with
    | client => exact (congrArg Client.nextId (clientHears_client event link) :)
    | session => exact (congrArg Client.nextId (sessionHears_client event link) :)
    | recorder label => rfl
  unfold emit Registry.dispatch
  generalize link.listeners.handlers event.kind = listeners
  induction listeners generalizing link with
  | nil => rfl
  | cons listener rest ih => exact (ih _).trans (hlisten listener link)

/-- Numbers that were given out stay so. -/
theorem keptByTransport_issued (who : Option Nat) (number : Nat) :
    KeptByTransport who fun link => number < link.client.nextId where
  put _ _ h := h
  fetch _ h := h
  issue h := Nat.lt_succ_of_lt h
  forget _ h := h
  raise _ h := h
  emit event h := by
    rw [emit_nextId]
    exact h
  spawn _ h := h
  setTask _ _ _ h := h
  endTask _ _ h := h

theorem lt_nextId_request (method : String) (params : Option Json) (link : Link) :
    (link.request method params).1 < (link.request method params).2.client.nextId :=
  (keptByTransport_issued none link.client.nextId).send _ (Nat.lt_succ_self _)

/-! ### Tasks -/

theorem setTask_outline (margin : Margin) (id : Nat) (task : Task) (link : Link) :
    (link.setTask id task).outline margin = (link.outline margin).setTask id task := by
  have hkeeps : ((fun entry : Nat × Task => decide (entry.1 ∉ margin.tasks)) ∘
      fun entry => if entry.1 = id then (id, task) else entry) =
        fun entry => decide (entry.1 ∉ margin.tasks) := by
    funext entry
    dsimp only [Function.comp_apply]
    split
    next heq => rw [heq]
    next => rfl
  simp only [outline, setTask, List.filter_map, hkeeps]

theorem endTask_outline (margin : Margin) (id : Nat) (link : Link) :
    (link.endTask id).outline margin = (link.outline margin).endTask id := by
  simp only [outline, endTask, disarm, List.filter_filter, List.filter_nil]
  simp only [Bool.and_comm]

theorem spawn_outline (margin : Margin) (task : Task) (link : Link) :
    (link.spawn task).outline margin =
      { link.outline margin with
        tasks := (link.outline margin).tasks ++
          [(link.nextTask, task)].filter fun entry => entry.1 ∉ margin.tasks
        nextTask := link.nextTask + 1 } := by
  simp only [outline, spawn, List.filter_append]

theorem ne_of_mem_outline (h : id ∈ margin.tasks) {entry : Nat × Task}
    (hmem : entry ∈ (link.outline margin).tasks) : entry.1 ≠ id := by
  have hout : entry.1 ∉ margin.tasks := by simpa using (List.mem_filter.mp hmem).2
  rintro rfl
  exact hout h

/-- A task in the margin goes on, or ends. -/
theorem setTask_outline_own (h : id ∈ margin.tasks) (task : Task) (link : Link) :
    (link.setTask id task).outline margin = link.outline margin := by
  have hsame : (link.outline margin).tasks.map
      (fun entry => if entry.1 = id then (id, task) else entry) = (link.outline margin).tasks := by
    refine (List.map_congr_left fun entry hmem => ?_).trans (List.map_id _)
    exact if_neg (ne_of_mem_outline h hmem)
  rw [setTask_outline, setTask, hsame]

theorem endTask_outline_own (h : id ∈ margin.tasks) (link : Link) :
    (link.endTask id).outline margin = link.outline margin := by
  have hsame : (link.outline margin).tasks.filter (fun entry => entry.1 ≠ id) =
      (link.outline margin).tasks := by
    refine List.filter_eq_self.mpr fun entry hmem => ?_
    simpa using ne_of_mem_outline h hmem
  rw [endTask_outline, endTask, hsame]
  rfl

theorem task?_outline (h : id ∉ margin.tasks) (link : Link) :
    (link.outline margin).task? id = link.task? id := by
  unfold task? outline
  dsimp only
  induction link.tasks with
  | nil => rfl
  | cons entry rest ih =>
    obtain ⟨other, task⟩ := entry
    by_cases hother : other ∈ margin.tasks
    · have hne : id ≠ other := by
        rintro rfl
        exact h hother
      rw [List.filter_cons_of_neg (by simpa using hother), ih, lookup_cons_number, if_neg hne]
    · rw [List.filter_cons_of_pos (by simpa using hother), lookup_cons_number,
        lookup_cons_number, ih]

/-! ### Operations -/

namespace Mirrors

section

variable (h : Mirrors margin link image)
include h

theorem carrier : link.carrier = image.carrier := (congrArg Link.carrier h.outline :)
theorem config : link.config = image.config := (congrArg Link.config h.outline :)
theorem session : link.session = image.session := (congrArg Link.session h.outline :)
theorem inputs : link.inputs = image.inputs := (congrArg Link.inputs h.outline :)
theorem driving : link.driving = image.driving := (congrArg Link.driving h.outline :)
theorem version : link.version = image.version := (congrArg Link.version h.outline :)
theorem released : link.released = image.released := (congrArg Link.released h.outline :)
theorem listeners : link.listeners = image.listeners := (congrArg Link.listeners h.outline :)
theorem nextTask : link.nextTask = image.nextTask := (congrArg Link.nextTask h.outline :)
theorem now : link.now = image.now := (congrArg Link.now h.outline :)

theorem isStopped (token : Nat) : link.isStopped token = image.isStopped token :=
  (congrArg (fun link : Link => link.isStopped token) h.outline :)

theorem answer? (hne : number ≠ margin.number) : link.answer? number = image.answer? number := by
  have heq : link.answers.filter (fun entry => entry.1 ≠ margin.number) =
      image.answers.filter fun entry => entry.1 ≠ margin.number :=
    (congrArg Link.answers h.outline :)
  have hlookup := congrArg (List.lookup number) heq
  rw [StatusWaiter.lookup_filter_ne, StatusWaiter.lookup_filter_ne, if_neg hne, if_neg hne]
    at hlookup
  exact hlookup

theorem task? (hid : id ∉ margin.tasks) : link.task? id = image.task? id := by
  rw [← task?_outline hid link, ← task?_outline hid image, h.outline]

/-- Both change in the same way, apart from their clients and tasks. -/
theorem change {link' image' : Link} (act : Link → Link)
    (hlink : link'.outline margin = act (link.outline margin))
    (himage : image'.outline margin = act (image.outline margin))
    (htasks : (act (image.outline margin)).tasks = (image.outline margin).tasks)
    (hclient : link'.client = link.client) (hclient' : image'.client = image.client) :
    Mirrors margin link' image' where
  outline := by rw [hlink, himage, h.outline]
  client := by rw [hclient, hclient']; exact h.client
  permits := by rw [himage, htasks, hclient']; exact h.permits

/-- What is left out changes. -/
theorem congr {link' image' : Link}
    (hlink : link'.outline margin = link.outline margin ∧ link'.client = link.client)
    (himage : image'.outline margin = image.outline margin ∧ image'.client = image.client) :
    Mirrors margin link' image' :=
  h.change id hlink.1 himage.1 rfl hlink.2 himage.2

theorem put (carrier : Carrier) (wire : List (Nat × Json)) :
    Mirrors margin { link with carrier, wire } { image with carrier, wire } :=
  h.change (fun link => { link with carrier, wire }) rfl rfl rfl rfl rfl

theorem pushInput (input : Input) : Mirrors margin (link.pushInput input) (image.pushInput input) :=
  h.change (fun link => { link with inputs := link.inputs ++ [input] }) rfl rfl rfl rfl rfl

theorem updateTable (change : SubscriptionTable → SubscriptionTable) :
    Mirrors margin (link.updateTable change) (image.updateTable change) :=
  h.change (fun link => link.updateTable change) rfl rfl rfl rfl rfl

theorem arm (id due : Nat) : Mirrors margin (link.arm id due) (image.arm id due) :=
  h.congr ⟨rfl, rfl⟩ ⟨rfl, rfl⟩

theorem setTask (id : Nat) {task : Task} (htask : margin.Permits image.client.nextId task) :
    Mirrors margin (link.setTask id task) (image.setTask id task) where
  outline := by rw [setTask_outline, setTask_outline, h.outline]
  client := h.client
  permits entry hmem := by
    rw [setTask_outline] at hmem
    rcases mem_setTask hmem with ⟨hold, _⟩ | ⟨rfl, _⟩
    · exact h.permits entry hold
    · exact htask

theorem endTask (id : Nat) : Mirrors margin (link.endTask id) (image.endTask id) where
  outline := by rw [endTask_outline, endTask_outline, h.outline]
  client := h.client
  permits entry hmem := by
    rw [endTask_outline] at hmem
    exact h.permits entry (mem_endTask.mp hmem).1

theorem finish (id : Nat) (outcome : Outcome) :
    Mirrors margin (link.finish id outcome) (image.finish id outcome) :=
  (h.endTask id).congr ⟨rfl, rfl⟩ ⟨rfl, rfl⟩

theorem spawn {task : Task} (htask : margin.Permits image.client.nextId task) :
    Mirrors margin (link.spawn task) (image.spawn task) where
  outline := by rw [spawn_outline, spawn_outline, h.outline, h.nextTask]
  client := h.client
  permits entry hmem := by
    rw [spawn_outline] at hmem
    rcases List.mem_append.mp hmem with hold | hnew
    · exact h.permits entry hold
    · rw [List.mem_singleton.mp (List.mem_filter.mp hnew).1]
      exact htask

/-! ### Clients -/

theorem forget (number : Nat) : Mirrors margin (link.forget number) (image.forget number) where
  outline := by
    have hfilter : ∀ link : Link, (link.forget number).outline margin = { link.outline margin with
        answers := (link.outline margin).answers.filter fun entry => entry.1 ≠ number } := by
      intro link
      simp only [Link.outline, Link.forget, List.filter_filter]
      simp only [Bool.and_comm]
    rw [hfilter, hfilter, h.outline]
  client := h.client.forget number
  permits := h.permits

theorem addHandler (method : String) (subscriber : Subscriber) :
    Mirrors margin (link.addHandler method subscriber).2 (image.addHandler method subscriber).2 :=
  ⟨h.outline, h.client.add method subscriber, h.permits⟩

theorem addHandler_handler (method : String) (subscriber : Subscriber) :
    (link.addHandler method subscriber).1 = (image.addHandler method subscriber).1 :=
  congrArg HandlerId.mk h.client.next

theorem removeHandler (method : String) (handler : HandlerId) :
    Mirrors margin (link.removeHandler method handler).2 (image.removeHandler method handler).2 :=
  ⟨h.outline, h.client.remove method handler, h.permits⟩

theorem clearHandlers : Mirrors margin link.clearHandlers image.clearHandlers :=
  ⟨h.outline, h.client.clear, h.permits⟩

theorem clientHears (event : TransportEvent) :
    Mirrors margin (link.clientHears event) (image.clientHears event) := by
  have hacts : Acts margin (link.client, link) (image.client, image) := ⟨h.client, h.outline⟩
  have hheard := hacts.hear event
  have htasks : (image.clientHears event).tasks = image.tasks :=
    (congrArg Link.tasks (clientHears_backdrop event image) :)
  have hnext : (image.clientHears event).client.nextId = image.client.nextId :=
    (congrArg Client.nextId (clientHears_client event image) :)
  refine ⟨hheard.outline, hheard.client, ?_⟩
  rw [hnext]
  intro entry hmem
  refine h.permits entry ?_
  rw [Link.outline] at hmem ⊢
  dsimp only at hmem ⊢
  rw [← htasks]
  exact hmem

/-! ### The transport -/

theorem listen (event : TransportEvent) (listener : Listener) :
    Mirrors margin (Link.listen event listener link) (Link.listen event listener image) := by
  cases listener with
  | client => exact h.clientHears event
  | session =>
    cases event with
    | opened => exact h.pushInput .opened
    | closed code reason => exact h.pushInput .closed
    | _ => exact h
  | recorder label => exact h.congr ⟨rfl, rfl⟩ ⟨rfl, rfl⟩

theorem emit (event : TransportEvent) : Mirrors margin (link.emit event) (image.emit event) := by
  unfold Link.emit Registry.dispatch
  rw [h.listeners]
  generalize image.listeners.handlers event.kind = listeners
  induction listeners generalizing link image with
  | nil => exact h
  | cons listener rest ih => exact ih (h.listen event listener)

theorem emitAll (events : List TransportEvent) :
    Mirrors margin (link.emitAll events) (image.emitAll events) := by
  unfold Link.emitAll
  induction events generalizing link image with
  | nil => exact h
  | cons event rest ih => exact ih (h.emit event)

/-- The transport is in another state and emits events. -/
theorem transport (carrier : Carrier) (events : List TransportEvent) :
    Mirrors margin (Link.emitAll events { link with carrier })
      (Link.emitAll events { image with carrier }) := by
  have hput : Mirrors margin { link with carrier } { image with carrier } :=
    h.change (fun link => { link with carrier }) rfl rfl rfl rfl rfl
  exact hput.emitAll events

theorem updateSocket (after : Socket) (emissions : List Emission) :
    Mirrors margin (link.updateSocket after emissions) (image.updateSocket after emissions) := by
  obtain ⟨woken, hlink⟩ := updateSocket_eq after emissions link
  obtain ⟨woken', himage⟩ := updateSocket_eq after emissions image
  have hput : Mirrors margin { link with carrier := .socket after, woken }
      { image with carrier := .socket after, woken := woken' } :=
    h.change (fun link => { link with carrier := .socket after }) rfl rfl rfl rfl rfl
  rw [hlink, himage]
  exact hput.emitAll _

theorem script (act : Scripted → Scripted × List TransportEvent) :
    Mirrors margin (link.script act) (image.script act) := by
  unfold Link.script
  rw [h.carrier]
  split
  · exact h.transport _ _
  · exact h

theorem send (message : Json) : Mirrors margin (link.send message) (image.send message) := by
  unfold Link.send
  rw [h.carrier]
  split
  · exact h.transport _ _
  next t _ =>
    have hupdated := h.updateSocket (t.send message).1 []
    dsimp only
    split
    · exact hupdated.spawn (Margin.permits_of_none rfl nofun)
    · exact hupdated

theorem disconnect : Mirrors margin link.disconnect image.disconnect := by
  unfold Link.disconnect
  rw [h.carrier]
  split
  · exact h.script _
  · exact h.updateSocket _ _

theorem request (method : String) (params : Option Json) :
    Mirrors margin (link.request method params).2 (image.request method params).2 := by
  have hissued : Mirrors margin { link with client := link.client.issue.2 }
      { image with client := image.client.issue.2 } := by
    refine ⟨h.outline, h.client.issue, fun entry hmem => ?_⟩
    refine ⟨(h.permits entry hmem).not_status, fun number hasks => ?_⟩
    obtain ⟨hne, hlt⟩ := (h.permits entry hmem).request number hasks
    exact ⟨hne, Nat.lt_succ_of_lt hlt⟩
  have hlink : (link.request method params).2 =
      Link.send (Message.request (Client.idText image.client.nextId) method params)
        { link with client := link.client.issue.2 } := by
    rw [← h.client.nextId]
    rfl
  rw [hlink]
  exact hissued.send _

theorem request_number (method : String) (params : Option Json) :
    (link.request method params).1 = (image.request method params).1 :=
  h.client.nextId

/-- The number of a new request is not the one in the margin. -/
theorem request_fresh (method : String) (params : Option Json) :
    (image.request method params).1 ≠ margin.number ∧
      (image.request method params).1 < (image.request method params).2.client.nextId :=
  ⟨Nat.ne_of_gt h.client.number_lt, lt_nextId_request method params image⟩

end

end Mirrors

end Link

end WorkspaceLink
