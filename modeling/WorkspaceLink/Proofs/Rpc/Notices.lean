import WorkspaceLink.Proofs.Rpc.Reception

/-!
# The notifications among what arrives

A message is a notification if it names a method and answers no request that waits at that moment.
Handlers run for notifications only, those of the method in order of registration.
`hear_view` and `after_hear` say exactly which handlers an event of the transport makes run, for
handlers that leave their client alone, and what becomes of the client.
-/
namespace WorkspaceLink

/-- A notification: its method and its parameters. -/
structure Notice where
  method : String
  params : Json
  deriving DecidableEq

/-! ### Notifications of messages and events -/

/-- The notification in a message that is no batch, while these requests wait. -/
def Message.notice? (pending : List Nat) (message : Json) : Option Notice :=
  if ∃ number ∈ pending, Message.names message number then none
  else (Message.method? message).map fun method => ⟨method, Message.params message⟩

/-- The notifications in messages, in order of arrival. An answer takes its request from those that
wait. -/
def Message.notices (pending : List Nat) : List Json → List Notice
  | [] => []
  | message :: rest =>
    (Message.notice? pending message).toList ++
      notices (pending.filter fun number => Message.answer? number message = none) rest

namespace TransportEvent

def notices (pending : List Nat) : TransportEvent → List Notice
  | .received message => Message.notices pending (Message.leaves message)
  | _ => []

/-- The requests that still wait after an event. -/
def leaves (event : TransportEvent) (pending : List Nat) : List Nat :=
  pending.filter fun number => event.verdict? number = none

/-- The notifications in events, in order of arrival. -/
def allNotices (pending : List Nat) : List TransportEvent → List Notice
  | [] => []
  | event :: rest => event.notices pending ++ allNotices (event.leaves pending) rest

end TransportEvent

/-! ### A client that hears of them -/

namespace Client

variable {η ε α : Type}

/-- What the handlers of its method make of a notification. -/
def respond (act : η → Json → α → α) (handlers : Registry String η) (a : α) (notice : Notice) : α :=
  handlers.dispatch notice.method (fun handler a => act handler notice.params a) a

/-- The client when only these requests wait. -/
def withPending (client : Client η) (pending : List Nat) : Client η := { client with pending }

theorem withPending_filter {client : Client η} {kept : Nat → Bool}
    (h : ∀ number ∈ client.pending, kept number) :
    client.withPending (client.pending.filter kept) = client := by
  rw [List.filter_eq_self.mpr h]
  rfl

section

variable {host : ClientHost η ε}
  (hclient : ∀ handler params state, (host.invoke handler params state).1 = state.1)

include hclient in
theorem dispatch_client (handlers : List η) (params : Json) (state : Client η × ε) :
    (handlers.foldl (fun state handler => host.invoke handler params state) state).1 = state.1 := by
  induction handlers generalizing state with
  | nil => rfl
  | cons handler rest ih => exact (ih _).trans (hclient _ _ _)

/-- Whether a message answers a waiting request, said by the request. -/
theorem names_of_waiting {message : Json} {client : Client η} {number : Nat}
    (h : (Message.id? message).bind client.waiting? = some number) :
    number ∈ client.pending ∧ ∀ other, Message.names message other ↔ other = number := by
  obtain ⟨id, hid, hwaits⟩ := Option.bind_eq_some_iff.mp h
  obtain ⟨hmem, rfl⟩ := waiting?_eq_some.mp hwaits
  refine ⟨hmem, fun other => ?_⟩
  rw [← Message.id?_eq_some_iff, hid]
  simp [eq_comm]

theorem not_names_of_not_waiting {message : Json} {client : Client η}
    (h : (Message.id? message).bind client.waiting? = none) :
    ∀ number ∈ client.pending, ¬ Message.names message number := by
  intro number hmem hnames
  have hid := Message.id?_eq_some_iff.mpr hnames
  exact waiting?_eq_none.mp (Option.bind_eq_none_iff.mp h _ hid) number hmem rfl

theorem answer?_of_not_names {message : Json} {number : Nat} (h : ¬ Message.names message number) :
    Message.answer? number message = none := by
  simp [Message.answer?, h]

include hclient in
theorem after_receiveOne (message : Json) (state : Client η × ε) :
    (receiveOne host message state).1 = state.1.withPending
      (state.1.pending.filter fun number => Message.answer? number message = none) := by
  have hsame : (∀ number ∈ state.1.pending, Message.answer? number message = none) →
      state.1 = state.1.withPending
        (state.1.pending.filter fun number => Message.answer? number message = none) :=
    fun hnone => (withPending_filter (by simpa using hnone)).symm
  unfold receiveOne
  split
  next number hwaits =>
    obtain ⟨_, hnames⟩ := names_of_waiting hwaits
    have hbody := body_answer? ((hnames number).mpr rfl)
    have hother : ∀ other, other ≠ number → Message.answer? other message = none :=
      fun other hne => answer?_of_not_names fun h => hne ((hnames other).mp h)
    have hgone : ∀ answer, Message.answer? number message = some answer →
        state.1.forget number = state.1.withPending
          (state.1.pending.filter fun number => Message.answer? number message = none) := by
      intro answer hanswer
      simp only [forget, withPending]
      congr 2
      funext other
      by_cases h : other = number
      · simp [h, hanswer]
      · simp [h, hother other h]
    split <;> rename_i hb <;> rw [hb] at hbody
    · exact hgone _ hbody
    · exact hgone _ hbody
    · apply hsame
      intro other _
      by_cases h : other = number
      · rw [h, hbody]
      · exact hother other h
  next hwaits =>
    have hnone := hsame fun number hmem =>
      answer?_of_not_names (not_names_of_not_waiting hwaits number hmem)
    split
    · exact (dispatch_client hclient _ _ state).trans hnone
    · exact hnone

variable (view : ε → α) (act : η → Json → α → α)
  (hact : ∀ handler params state,
    view (host.invoke handler params state).2 = act handler params (view state.2))
  (hsettle : ∀ number answer e, view (host.settle number answer e) = view e)

include hact in
theorem dispatch_view (handlers : List η) (params : Json) (state : Client η × ε) :
    view (handlers.foldl (fun state handler => host.invoke handler params state) state).2 =
      handlers.foldl (fun a handler => act handler params a) (view state.2) := by
  induction handlers generalizing state with
  | nil => rfl
  | cons handler rest ih => rw [List.foldl_cons, List.foldl_cons, ih, hact]

include hact hsettle in
theorem receiveOne_view (message : Json) (state : Client η × ε) :
    view (receiveOne host message state).2 =
      (Message.notice? state.1.pending message).toList.foldl (respond act state.1.handlers)
        (view state.2) := by
  unfold receiveOne
  split
  next number hwaits =>
    obtain ⟨hmem, hnames⟩ := names_of_waiting hwaits
    have hanswers : ∃ number ∈ state.1.pending, Message.names message number :=
      ⟨number, hmem, (hnames number).mpr rfl⟩
    simp only [Message.notice?, if_pos hanswers, Option.toList_none, List.foldl_nil]
    split
    · exact hsettle _ _ _
    · exact hsettle _ _ _
    · rfl
  next hwaits =>
    have hanswers : ¬ ∃ number ∈ state.1.pending, Message.names message number := by
      rintro ⟨number, hmem, hnames⟩
      exact not_names_of_not_waiting hwaits number hmem hnames
    simp only [Message.notice?, if_neg hanswers]
    split
    next method hmethod =>
      simp only [hmethod, Option.map_some, Option.toList_some, List.foldl_cons, List.foldl_nil]
      exact dispatch_view view act hact _ _ state
    next hmethod => simp [hmethod]

include hclient in
theorem after_foldl_receiveOne (messages : List Json) (state : Client η × ε) :
    (messages.foldl (fun state message => receiveOne host message state) state).1 =
      state.1.withPending (state.1.pending.filter fun number =>
        messages.findSome? (Message.answer? number) = none) := by
  induction messages generalizing state with
  | nil => exact (withPending_filter (by simp)).symm
  | cons message rest ih =>
    rw [List.foldl_cons, ih, after_receiveOne hclient]
    simp only [withPending, List.filter_filter]
    congr 2
    funext number
    rw [List.findSome?_cons]
    cases Message.answer? number message <;> simp

include hclient hact hsettle in
theorem foldl_receiveOne_view (messages : List Json) (state : Client η × ε) :
    view (messages.foldl (fun state message => receiveOne host message state) state).2 =
      (Message.notices state.1.pending messages).foldl (respond act state.1.handlers)
        (view state.2) := by
  induction messages generalizing state with
  | nil => rfl
  | cons message rest ih =>
    rw [List.foldl_cons, ih, Message.notices, List.foldl_append, after_receiveOne hclient,
      receiveOne_view view act hact hsettle]
    rfl

include hclient in
/-- What becomes of a client that hears of something: requests with a verdict wait no longer. -/
theorem after_hear (event : TransportEvent) (state : Client η × ε) :
    (hear host event state).1 = state.1.withPending (event.leaves state.1.pending) := by
  have hsame : ∀ event : TransportEvent, (∀ number, event.verdict? number = none) →
      state.1 = state.1.withPending (event.leaves state.1.pending) := by
    intro event hnone
    exact (withPending_filter (by simp [hnone])).symm
  have hlost : (failAll host state).1 = state.1.withPending [] := by
    have hfold : ∀ (numbers : List Nat) (state : Client η × ε),
        (numbers.foldl (fun state number =>
          conclude host number (.error .connectionClosed) state) state).1 =
          state.1.withPending (state.1.pending.filter fun number => number ∉ numbers) := by
      intro numbers
      induction numbers with
      | nil =>
        intro state
        exact (withPending_filter (by simp)).symm
      | cons number rest ih =>
        intro state
        rw [List.foldl_cons, ih]
        simp only [conclude, forget, withPending, List.filter_filter]
        congr 2
        funext other
        by_cases h : other = number <;> simp [h]
    have hnone : (state.1.pending.filter fun number => number ∉ state.1.pending) = [] := by
      rw [List.filter_eq_nil_iff]
      intro number hmem
      simpa using hmem
    rw [failAll, hfold, hnone]
  have hall : ∀ event : TransportEvent, (∀ number, event.verdict? number ≠ none) →
      event.leaves state.1.pending = [] := by
    intro event hsome
    exact List.filter_eq_nil_iff.mpr fun number _ => by simpa using hsome number
  cases event with
  | received message =>
    rw [hear, receive_eq_foldl]
    exact after_foldl_receiveOne hclient _ state
  | closed code reason => rw [hear, hlost, hall _ fun _ => by simp [TransportEvent.verdict?]]
  | reset => rw [hear, hlost, hall _ fun _ => by simp [TransportEvent.verdict?]]
  | opened => exact hsame .opened fun _ => rfl
  | failed reason => exact hsame (.failed reason) fun _ => rfl
  | sendFailed id reason =>
    cases id with
    | none => exact hsame (.sendFailed none reason) fun _ => rfl
    | some id =>
      simp only [hear, failOne]
      split
      next number hwaits =>
        obtain ⟨_, rfl⟩ := waiting?_eq_some.mp hwaits
        simp only [conclude, forget, withPending, TransportEvent.leaves, TransportEvent.verdict?]
        congr 2
        funext other
        by_cases h : number = other
        · simp [h]
        · simp [h, Ne.symm h]
      next hwaits =>
        have hkept : (TransportEvent.sendFailed (some id) reason).leaves state.1.pending =
            state.1.pending := by
          apply List.filter_eq_self.mpr
          intro number hmem
          simp [TransportEvent.verdict?, Ne.symm (waiting?_eq_none.mp hwaits number hmem)]
        rw [hkept]
        rfl

include hclient hact hsettle in
/-- What handlers see of an event: its notifications one after the other, each given to the handlers
of its method. -/
theorem hear_view (event : TransportEvent) (state : Client η × ε) :
    view (hear host event state).2 =
      (event.notices state.1.pending).foldl (respond act state.1.handlers) (view state.2) := by
  have hkeeps : ∀ number answer (state : Client η × ε),
      view (conclude host number answer state).2 = view state.2 :=
    fun number answer state => hsettle number answer state.2
  cases event with
  | received message =>
    rw [hear, receive_eq_foldl]
    exact foldl_receiveOne_view hclient view act hact hsettle _ state
  | closed code reason => exact failAll_keeps (fun state => view state.2) hkeeps state
  | reset => exact failAll_keeps (fun state => view state.2) hkeeps state
  | opened => rfl
  | failed reason => rfl
  | sendFailed id reason =>
    cases id with
    | none => rfl
    | some id => exact failOne_keeps (fun state => view state.2) hkeeps id reason state

end

/-! ### Invariants -/

/-- What handlers and settlements preserve, a client that hears of something preserves. -/
theorem hear_preserves {host : ClientHost η ε} {P : Client η × ε → Prop}
    (hinvoke : ∀ handler params state, P state → P (host.invoke handler params state))
    (hconclude : ∀ number answer state, P state → P (conclude host number answer state))
    (event : TransportEvent) {state : Client η × ε} (h : P state) : P (hear host event state) := by
  have hdispatch : ∀ (handlers : List η) (params : Json) (state : Client η × ε), P state →
      P (handlers.foldl (fun state handler => host.invoke handler params state) state) := by
    intro handlers params
    induction handlers with
    | nil => exact fun _ h => h
    | cons handler rest ih => exact fun _ h => ih _ (hinvoke _ _ _ h)
  have hlost : ∀ (numbers : List Nat) (state : Client η × ε), P state →
      P (numbers.foldl (fun state number =>
        conclude host number (.error .connectionClosed) state) state) := by
    intro numbers
    induction numbers with
    | nil => exact fun _ h => h
    | cons number rest ih => exact fun _ h => ih _ (hconclude _ _ _ h)
  have hone : ∀ message (state : Client η × ε), P state → P (receiveOne host message state) := by
    intro message state h
    unfold receiveOne
    split
    · split
      · exact hconclude _ _ _ h
      · exact hconclude _ _ _ h
      · exact h
    · split
      · exact hdispatch _ _ _ h
      · exact h
  cases event with
  | received message =>
    rw [hear, receive_eq_foldl]
    generalize Message.leaves message = messages
    induction messages generalizing state with
    | nil => exact h
    | cons message rest ih => exact ih (hone message state h)
  | closed code reason => exact hlost _ state h
  | reset => exact hlost _ state h
  | opened => exact h
  | failed reason => exact h
  | sendFailed id reason =>
    cases id with
    | none => exact h
    | some id =>
      simp only [hear, failOne]
      split
      · exact hconclude _ _ _ h
      · exact h

end Client

end WorkspaceLink
