import WorkspaceLink.Rpc.Client

/-!
# What an event does to the waiting requests

Whatever a client hears of its transport gives a verdict on some of its requests: the answer in a
message, a failure to send, the loss of the connection. `hear_settles` says that a waiting request
with a verdict gets it and waits no longer, and that nothing else happens to the requests. The
handlers that run meanwhile are arbitrary, as long as they leave the requests alone.
-/
namespace WorkspaceLink

/-! ### Batches -/

mutual

/-- The messages of a batch in order, however deeply batches nest; a message that is no batch is the
only one of itself. -/
def Message.leaves : Json → List Json
  | .arr items => leavesOf items
  | message => [message]

def Message.leavesOf : List Json → List Json
  | [] => []
  | message :: rest => leaves message ++ leavesOf rest

end

/-! ### Verdicts -/

/-- The message names a request, by its identifier as a text or as a number. -/
def Message.names (message : Json) (number : Nat) : Prop :=
  message.get? "id" = some (.str (Client.idText number)) ∨
    ∃ n, message.get? "id" = some (.num n) ∧ Json.numberText n = Client.idText number

theorem Message.id?_eq_some_iff {message : Json} {number : Nat} :
    Message.id? message = some (Client.idText number) ↔ Message.names message number := by
  unfold Message.id? Message.names
  cases message.get? "id" with
  | none => simp
  | some value => cases value <;> simp

instance (message : Json) (number : Nat) : Decidable (Message.names message number) :=
  decidable_of_iff _ Message.id?_eq_some_iff

/-- The answer that a message which is no batch holds for a request: a result, `null` included, or
else an error. -/
def Message.answer? (number : Nat) (message : Json) : Option Answer :=
  if Message.names message number then
    match message.get? "result" with
    | some value => some (.ok value)
    | none => (message.get? "error").map fun value => .error (.rpc (.ofWire value))
  else none

/-- What an event decides about a request. -/
def TransportEvent.verdict? (number : Nat) : TransportEvent → Option Answer
  | .received message => (Message.leaves message).findSome? (Message.answer? number)
  | .closed _ _ | .reset => some (.error .connectionClosed)
  | .sendFailed (some id) reason =>
    if id = Client.idText number then some (.error (.notSent reason)) else none
  | _ => none

namespace Client

variable {η ε : Type}

/-! ### Identifiers -/

theorem idText_injective {m n : Nat} (h : idText m = idText n) : m = n := by
  have hd : Nat.toDigits 10 m = Nat.toDigits 10 n := by
    rw [← Nat.toList_repr, ← Nat.toList_repr]
    exact congrArg String.toList h
  have hv := congrArg (fun digits => Nat.ofDigitChars 10 digits 0) hd
  simpa using hv

@[simp] theorem idText_inj {m n : Nat} : idText m = idText n ↔ m = n :=
  ⟨idText_injective, congrArg idText⟩

theorem id?_request (id method : String) (params : Option Json) :
    Message.id? (Message.request id method params) = some id := by
  have hget : (Message.request id method params).get? "id" = some (.str id) := by
    cases params <;>
      simp [Message.request, Message.paramsMember, Json.object, Json.get?, Members.ofList,
        Members.lookup_insert_of_ne]
  simp [Message.id?, hget]

theorem waiting?_eq_some {client : Client η} {id : String} {number : Nat} :
    client.waiting? id = some number ↔ number ∈ client.pending ∧ idText number = id := by
  unfold waiting?
  constructor
  · intro h
    exact ⟨List.mem_of_find?_eq_some h, by simpa using List.find?_some h⟩
  · rintro ⟨hmem, rfl⟩
    cases h : client.pending.find? fun other => idText other = idText number with
    | none => simpa using List.find?_eq_none.mp h number hmem
    | some other =>
      have heq : idText other = idText number := by simpa using List.find?_some h
      rw [idText_injective heq]

theorem waiting?_eq_none {client : Client η} {id : String} :
    client.waiting? id = none ↔ ∀ number ∈ client.pending, idText number ≠ id := by
  simp [waiting?]

@[simp] theorem forget_pending (client : Client η) (number : Nat) :
    (client.forget number).pending = client.pending.filter (· ≠ number) := rfl

@[simp] theorem forget_nextId (client : Client η) (number : Nat) :
    (client.forget number).nextId = client.nextId := rfl

/-! ### Settling -/

/-- The answers to a request, of those on record. -/
def answersTo (number : Nat) (record : List (Nat × Answer)) : List Answer :=
  (record.filter fun entry => entry.1 = number).map Prod.snd

@[simp] theorem answersTo_append (number : Nat) (record more : List (Nat × Answer)) :
    answersTo number (record ++ more) = answersTo number record ++ answersTo number more := by
  simp [answersTo]

@[simp] theorem answersTo_singleton (number other : Nat) (answer : Answer) :
    answersTo number [(other, answer)] = if other = number then [answer] else [] := by
  by_cases h : other = number <;> simp [answersTo, h]

theorem mem_answersTo {number : Nat} {answer : Answer} {record : List (Nat × Answer)} :
    answer ∈ answersTo number record ↔ (number, answer) ∈ record := by
  simp [answersTo]

end Client

/-- The host leaves the requests to the client, and keeps a record of the answers. -/
structure ClientHost.Records {η ε : Type} (host : ClientHost η ε)
    (record : ε → List (Nat × Answer)) : Prop where
  nextId_invoke : ∀ handler params state,
    (host.invoke handler params state).1.nextId = state.1.nextId
  pending_invoke : ∀ handler params state,
    (host.invoke handler params state).1.pending = state.1.pending
  record_invoke : ∀ handler params state,
    record (host.invoke handler params state).2 = record state.2
  record_settle : ∀ number answer e,
    record (host.settle number answer e) = record e ++ [(number, answer)]

namespace Client

variable {η ε : Type} {host : ClientHost η ε} {record : ε → List (Nat × Answer)}

/-- Every waiting request with a verdict got it and waits no longer; nothing else happened to the
requests. -/
structure Settles (record : ε → List (Nat × Answer)) (verdict : Nat → Option Answer)
    (before after : Client η × ε) : Prop where
  nextId : after.1.nextId = before.1.nextId
  pending : after.1.pending = before.1.pending.filter fun number => verdict number = none
  answers : ∀ number, answersTo number (record after.2) = answersTo number (record before.2) ++
    if number ∈ before.1.pending then (verdict number).toList else []

theorem Settles.of_same {a b : Client η × ε} (hid : b.1.nextId = a.1.nextId)
    (hpending : b.1.pending = a.1.pending) (hrecord : record b.2 = record a.2) :
    Settles record (fun _ => none) a b where
  nextId := hid
  pending := by rw [hpending, List.filter_eq_self.mpr (by simp)]
  answers := by simp [hrecord]

theorem Settles.refl (state : Client η × ε) : Settles record (fun _ => none) state state :=
  .of_same rfl rfl rfl

/-- Verdicts one after the other: the first one counts. -/
theorem Settles.trans {first second : Nat → Option Answer} {a b c : Client η × ε}
    (hab : Settles record first a b) (hbc : Settles record second b c) :
    Settles record (fun number => (first number).or (second number)) a c where
  nextId := hbc.nextId.trans hab.nextId
  pending := by
    rw [hbc.pending, hab.pending, List.filter_filter]
    congr 1
    funext number
    simp [Bool.and_comm]
  answers := by
    intro number
    rw [hbc.answers, hab.answers, hab.pending, List.append_assoc]
    congr 1
    by_cases hmem : number ∈ a.1.pending
    · cases hfirst : first number <;> simp [hmem, hfirst]
    · simp [hmem]

theorem Settles.congr {verdict other : Nat → Option Answer} {a b : Client η × ε}
    (h : Settles record verdict a b) (heq : ∀ number ∈ a.1.pending, verdict number = other number) :
    Settles record other a b where
  nextId := h.nextId
  pending := by
    rw [h.pending]
    apply List.filter_congr
    intro number hmem
    rw [heq number hmem]
  answers := by
    intro number
    rw [h.answers]
    split
    next hmem => rw [heq number hmem]
    next => rfl

/-- An answer that is new on record is the verdict on a request that waited. -/
theorem Settles.verdict_of_new {verdict : Nat → Option Answer} {a b : Client η × ε}
    (h : Settles record verdict a b) {number : Nat} {answer : Answer}
    (hnew : (number, answer) ∈ record b.2) (hold : (number, answer) ∉ record a.2) :
    number ∈ a.1.pending ∧ verdict number = some answer := by
  rw [← mem_answersTo, h.answers, List.mem_append, mem_answersTo] at hnew
  rcases hnew with hnew | hnew
  · exact absurd hnew hold
  · split at hnew
    next hmem => exact ⟨hmem, by simpa using hnew⟩
    next => simp at hnew

/-! ### The operations of a client -/

theorem conclude_settles (hrec : host.Records record) {state : Client η × ε} {number : Nat}
    (hmem : number ∈ state.1.pending) (answer : Answer) :
    Settles record (fun other => if other = number then some answer else none) state
      (conclude host number answer state) where
  nextId := rfl
  pending := by
    change state.1.pending.filter _ = _
    congr 1
    funext other
    by_cases h : other = number <;> simp [h]
  answers := by
    intro other
    change answersTo other (record (host.settle number answer state.2)) = _
    rw [hrec.record_settle, answersTo_append, answersTo_singleton]
    congr 1
    by_cases h : number = other
    · subst h
      simp [hmem]
    · simp [h, Ne.symm h]

/-- Handlers change nothing about the requests. -/
theorem dispatch_settles (hrec : host.Records record) (handlers : List η) (params : Json)
    (state : Client η × ε) :
    Settles record (fun _ => none) state
      (handlers.foldl (fun state handler => host.invoke handler params state) state) := by
  induction handlers generalizing state with
  | nil => exact Settles.refl state
  | cons handler rest ih =>
    have hstep : Settles record (fun _ => none) state (host.invoke handler params state) :=
      .of_same (hrec.nextId_invoke ..) (hrec.pending_invoke ..) (hrec.record_invoke ..)
    exact (hstep.trans (ih _)).congr fun _ _ => rfl

theorem body_answer? {message : Json} {number : Nat} (h : Message.names message number) :
    Message.answer? number message =
      match Message.body message with
      | .result value => some (.ok value)
      | .error value => some (.error (.rpc (.ofWire value)))
      | .empty => none := by
  unfold Message.answer? Message.body
  rw [if_pos h]
  cases message.get? "result" with
  | some value => rfl
  | none => cases message.get? "error" <;> rfl

theorem receiveOne_settles (hrec : host.Records record) (message : Json) (state : Client η × ε) :
    Settles record (fun number => Message.answer? number message) state
      (receiveOne host message state) := by
  unfold receiveOne
  split
  next number hwaits =>
    obtain ⟨id, hid, hwaits⟩ := Option.bind_eq_some_iff.mp hwaits
    obtain ⟨hmem, rfl⟩ := waiting?_eq_some.mp hwaits
    have hnames : ∀ other, Message.names message other ↔ other = number := by
      intro other
      rw [← Message.id?_eq_some_iff, hid]
      simp [eq_comm]
    have hanswer : ∀ other, Message.answer? other message =
        if other = number then Message.answer? number message else none := by
      intro other
      by_cases h : other = number
      · rw [if_pos h, h]
      · simp [Message.answer?, hnames, h]
    have hbody := body_answer? ((hnames number).mpr rfl)
    split <;> rename_i hb <;> rw [hb] at hbody
    · exact (conclude_settles hrec hmem _).congr fun other _ => by rw [hanswer, hbody]
    · exact (conclude_settles hrec hmem _).congr fun other _ => by rw [hanswer, hbody]
    · exact (Settles.refl state).congr fun other _ => by simp [hanswer other, hbody]
  next hwaits =>
    have hnone : ∀ number ∈ state.1.pending, none = Message.answer? number message := by
      intro number hmem
      have hnot : ¬ Message.names message number := by
        rw [← Message.id?_eq_some_iff]
        intro hid
        have := Option.bind_eq_none_iff.mp hwaits _ hid
        exact waiting?_eq_none.mp this number hmem rfl
      simp [Message.answer?, hnot]
    split
    · exact (dispatch_settles hrec _ _ state).congr hnone
    · exact (Settles.refl state).congr hnone

mutual

theorem receive_eq_foldl (host : ClientHost η ε) : (message : Json) → (state : Client η × ε) →
    receive host message state =
      (Message.leaves message).foldl (fun state leaf => receiveOne host leaf state) state
  | .arr items, state => by
    rw [receive, Message.leaves]
    exact receiveAll_eq_foldl host items state
  | .null, _ | .bool _, _ | .num _, _ | .str _, _ | .obj _, _ => by
    simp [receive, Message.leaves]

theorem receiveAll_eq_foldl (host : ClientHost η ε) : (items : List Json) →
    (state : Client η × ε) → receiveAll host items state =
      (Message.leavesOf items).foldl (fun state leaf => receiveOne host leaf state) state
  | [], _ => by simp [receiveAll, Message.leavesOf]
  | message :: rest, state => by
    rw [receiveAll, Message.leavesOf, List.foldl_append, receive_eq_foldl host message state]
    exact receiveAll_eq_foldl host rest _

end

theorem receive_settles (hrec : host.Records record) (message : Json) (state : Client η × ε) :
    Settles record (fun number => (Message.leaves message).findSome? (Message.answer? number)) state
      (receive host message state) := by
  rw [receive_eq_foldl]
  generalize Message.leaves message = leaves
  induction leaves generalizing state with
  | nil => exact Settles.refl state
  | cons leaf rest ih =>
    refine ((receiveOne_settles hrec leaf state).trans (ih _)).congr fun number _ => ?_
    rw [List.findSome?_cons]
    cases Message.answer? number leaf <;> rfl

theorem failOne_settles (hrec : host.Records record) (id reason : String)
    (state : Client η × ε) :
    Settles record
      (fun number => if id = idText number then some (.error (.notSent reason)) else none) state
      (failOne host id reason state) := by
  unfold failOne
  split
  next number hwaits =>
    obtain ⟨hmem, rfl⟩ := waiting?_eq_some.mp hwaits
    refine (conclude_settles hrec hmem _).congr fun other _ => ?_
    simp [eq_comm]
  next hwaits =>
    refine (Settles.refl state).congr fun number hmem => ?_
    rw [if_neg (Ne.symm (waiting?_eq_none.mp hwaits number hmem))]

/-- Settling the members of a list one by one settles them together. -/
theorem foldl_conclude_settles (hrec : host.Records record) (answer : Answer)
    (numbers : List Nat) (state : Client η × ε) (hnodup : numbers.Nodup)
    (hmem : ∀ number ∈ numbers, number ∈ state.1.pending) :
    Settles record (fun number => if number ∈ numbers then some answer else none) state
      (numbers.foldl (fun state number => conclude host number answer state) state) := by
  induction numbers generalizing state with
  | nil => exact (Settles.refl state).congr fun _ _ => by simp
  | cons number rest ih =>
    obtain ⟨hfresh, hnodup⟩ := List.nodup_cons.mp hnodup
    have hfirst := conclude_settles hrec (hmem number (by simp)) answer
    have hkept : ∀ other ∈ rest, other ∈ (conclude host number answer state).1.pending := by
      intro other hother
      have hne : other ≠ number := fun h => hfresh (h ▸ hother)
      rw [hfirst.pending]
      simp [hmem other (by simp [hother]), hne]
    refine (hfirst.trans (ih _ hnodup hkept)).congr fun other _ => ?_
    by_cases h : other = number <;> simp [h]

theorem failAll_settles (hrec : host.Records record) (state : Client η × ε)
    (hnodup : state.1.pending.Nodup) :
    Settles record (fun _ => some (.error .connectionClosed)) state (failAll host state) := by
  refine (foldl_conclude_settles hrec _ _ state hnodup fun _ h => h).congr fun number hmem => ?_
  rw [if_pos hmem]

/-- An event settles the requests on which it gives a verdict, and does nothing else to them. -/
theorem hear_settles (hrec : host.Records record) (event : TransportEvent) (state : Client η × ε)
    (hnodup : state.1.pending.Nodup) :
    Settles record (fun number => event.verdict? number) state (hear host event state) := by
  cases event with
  | received message => exact receive_settles hrec message state
  | closed code reason => exact failAll_settles hrec state hnodup
  | reset => exact failAll_settles hrec state hnodup
  | opened => exact Settles.refl state
  | failed reason => exact Settles.refl state
  | sendFailed id reason =>
    cases id with
    | none => exact Settles.refl state
    | some id => exact failOne_settles hrec id reason state

/-! ### Numbers -/

/-- The waiting requests differ, and all were issued. -/
structure WellNumbered (client : Client η) : Prop where
  nodup : client.pending.Nodup
  lt_nextId : ∀ number ∈ client.pending, number < client.nextId

theorem WellNumbered.issue {client : Client η} (h : client.WellNumbered) :
    client.issue.2.WellNumbered := by
  constructor
  · have hfresh : ∀ number ∈ client.pending, number ≠ client.nextId :=
      fun number hmem => Nat.ne_of_lt (h.lt_nextId number hmem)
    simpa [Client.issue, List.nodup_append] using ⟨h.nodup, hfresh⟩
  · intro number hmem
    simp only [Client.issue, List.mem_append, List.mem_singleton] at hmem ⊢
    rcases hmem with hmem | rfl
    · exact Nat.lt_succ_of_lt (h.lt_nextId number hmem)
    · exact Nat.lt_succ_self _

theorem WellNumbered.forget {client : Client η} (h : client.WellNumbered) (number : Nat) :
    (client.forget number).WellNumbered where
  nodup := h.nodup.filter _
  lt_nextId other hmem := h.lt_nextId other (List.mem_filter.mp hmem).1

theorem Settles.wellNumbered {verdict : Nat → Option Answer} {a b : Client η × ε}
    (hab : Settles record verdict a b) (h : a.1.WellNumbered) : b.1.WellNumbered := by
  constructor
  · rw [hab.pending]
    exact h.nodup.filter _
  · intro number hmem
    rw [hab.pending] at hmem
    rw [hab.nextId]
    exact h.lt_nextId number (List.mem_filter.mp hmem).1

/-! ### What is left alone -/

section Keeps

variable {α : Type} (view : Client η × ε → α)
  (hinvoke : ∀ handler params state, view (host.invoke handler params state) = view state)
  (hsettle : ∀ number answer state, view (conclude host number answer state) = view state)

include hinvoke in
theorem dispatch_keeps (handlers : List η) (params : Json) (state : Client η × ε) :
    view (handlers.foldl (fun state handler => host.invoke handler params state) state) =
      view state := by
  induction handlers generalizing state with
  | nil => rfl
  | cons handler rest ih => exact (ih _).trans (hinvoke _ _ _)

include hsettle in
theorem failAll_keeps (state : Client η × ε) : view (failAll host state) = view state := by
  unfold failAll
  generalize state.1.pending = numbers
  induction numbers generalizing state with
  | nil => rfl
  | cons number rest ih => exact (ih _).trans (hsettle _ _ _)

include hsettle in
theorem failOne_keeps (id reason : String) (state : Client η × ε) :
    view (failOne host id reason state) = view state := by
  unfold failOne
  split
  · exact hsettle _ _ _
  · rfl

include hinvoke hsettle in
theorem receiveOne_keeps (message : Json) (state : Client η × ε) :
    view (receiveOne host message state) = view state := by
  unfold receiveOne
  split
  · split
    · exact hsettle _ _ _
    · exact hsettle _ _ _
    · rfl
  · split
    · exact dispatch_keeps view hinvoke _ _ state
    · rfl

include hinvoke hsettle in
/-- What neither handlers nor settlements change, a client that hears of something leaves alone. -/
theorem hear_keeps (event : TransportEvent) (state : Client η × ε) :
    view (hear host event state) = view state := by
  cases event with
  | received message =>
    rw [hear, receive_eq_foldl]
    generalize Message.leaves message = leaves
    induction leaves generalizing state with
    | nil => rfl
    | cons leaf rest ih => exact (ih _).trans (receiveOne_keeps view hinvoke hsettle leaf state)
  | closed code reason => exact failAll_keeps view hsettle state
  | reset => exact failAll_keeps view hsettle state
  | opened => rfl
  | failed reason => rfl
  | sendFailed id reason =>
    cases id with
    | none => rfl
    | some id => exact failOne_keeps view hsettle id reason state

end Keeps

end Client

end WorkspaceLink
