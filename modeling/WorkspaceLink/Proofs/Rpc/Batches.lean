import WorkspaceLink.Proofs.Rpc.Notices

/-!
# Frames that hold several messages

A frame may be a batch, and batches may nest. Whatever handlers do to the client while they run, a
frame has the effect of its messages received one by one from left to right, and each message is
judged by the requests that wait and the handlers that are registered when its turn comes.

`Treats` lists what a client can do about a message that is no batch.
-/
namespace WorkspaceLink

/-! ### The messages of a frame -/

def Json.isBatch : Json → Bool
  | .arr _ => true
  | _ => false

mutual

theorem Message.isBatch_of_mem_leaves : (frame : Json) →
    ∀ leaf ∈ Message.leaves frame, leaf.isBatch = false
  | .arr items => by
    rw [Message.leaves]
    exact Message.isBatch_of_mem_leavesOf items
  | .null | .bool _ | .num _ | .str _ | .obj _ => by simp [Message.leaves, Json.isBatch]

theorem Message.isBatch_of_mem_leavesOf : (frames : List Json) →
    ∀ leaf ∈ Message.leavesOf frames, leaf.isBatch = false
  | [] => by simp [Message.leavesOf]
  | frame :: rest => by
    intro leaf hmem
    rw [Message.leavesOf, List.mem_append] at hmem
    rcases hmem with hmem | hmem
    · exact Message.isBatch_of_mem_leaves frame leaf hmem
    · exact Message.isBatch_of_mem_leavesOf rest leaf hmem

end

theorem Message.leaves_of_isBatch {message : Json} (h : message.isBatch = false) :
    Message.leaves message = [message] := by
  cases message with
  | arr items => simp [Json.isBatch] at h
  | _ => rfl

namespace Client

variable {η ε : Type} {host : ClientHost η ε} {message : Json} {state : Client η × ε}

/-! ### One message -/

/-- What a client does about a message that is no batch, in a state. -/
inductive Treats (host : ClientHost η ε) (message : Json) (state : Client η × ε) :
    Client η × ε → Prop where
  /-- It is the answer of a request that waits: that one is settled, and nothing else happens. -/
  | settles (number : Nat) (answer : Answer) (hwaits : number ∈ state.1.pending)
      (hanswer : Message.answer? number message = some answer) :
      Treats host message state (state.1.forget number, host.settle number answer state.2)
  /-- It names no request that waits: the handlers of its method run, if it has one, those that are
  registered now, each once and in order of registration. -/
  | notifies (hnames : ∀ number ∈ state.1.pending, ¬ Message.names message number) :
      Treats host message state
        (((Message.method? message).elim [] state.1.handlers.handlers).foldl
          (fun state handler => host.invoke handler (Message.params message) state) state)
  /-- It names a request that waits and answers nothing. -/
  | ignores (number : Nat) (hwaits : number ∈ state.1.pending)
      (hnames : Message.names message number) (hresult : message.get? "result" = none)
      (herror : message.get? "error" = none) : Treats host message state state

theorem receive_of_not_isBatch (h : message.isBatch = false) :
    receive host message state = receiveOne host message state := by
  rw [receive_eq_foldl, Message.leaves_of_isBatch h]
  rfl

theorem treats_receiveOne (host : ClientHost η ε) (message : Json) (state : Client η × ε) :
    Treats host message state (receiveOne host message state) := by
  unfold receiveOne
  split
  next number hwaiting =>
    obtain ⟨hwaits, hnames⟩ := names_of_waiting hwaiting
    have hnamed : Message.names message number := (hnames number).mpr rfl
    have hanswer := body_answer? hnamed
    split <;> rename_i hbody <;> rw [hbody] at hanswer
    · exact .settles number _ hwaits hanswer
    · exact .settles number _ hwaits hanswer
    · simp only [Message.answer?, if_pos hnamed] at hanswer
      cases hresult : message.get? "result" with
      | some value => simp [hresult] at hanswer
      | none => exact .ignores number hwaits hnamed hresult (by simpa [hresult] using hanswer)
  next hwaiting =>
    have htreats : Treats host message state _ :=
      .notifies (not_names_of_not_waiting hwaiting)
    split
    next method hmethod =>
      rw [hmethod] at htreats
      exact htreats
    next hmethod =>
      rw [hmethod] at htreats
      exact htreats

theorem treats_receive (host : ClientHost η ε) (state : Client η × ε)
    (h : message.isBatch = false) : Treats host message state (receive host message state) := by
  rw [receive_of_not_isBatch h]
  exact treats_receiveOne host message state

/-- A message that names a waiting request, with neither result nor error, does nothing. -/
theorem Treats.eq_of_empty {after : Client η × ε} (h : Treats host message state after)
    {number : Nat} (hwaits : number ∈ state.1.pending) (hnames : Message.names message number)
    (hresult : message.get? "result" = none) (herror : message.get? "error" = none) :
    after = state := by
  cases h with
  | settles other answer _ hanswer => simp [Message.answer?, hresult, herror] at hanswer
  | notifies hnot => exact absurd hnames (hnot number hwaits)
  | ignores => rfl

/-! ### All messages -/

/-- A frame as the messages in it, received one by one. -/
theorem receive_eq_foldl_receive (host : ClientHost η ε) (frame : Json) (state : Client η × ε) :
    receive host frame state =
      (Message.leaves frame).foldl (fun state leaf => receive host leaf state) state := by
  rw [receive_eq_foldl]
  have hleaves := Message.isBatch_of_mem_leaves frame
  generalize Message.leaves frame = leaves at hleaves
  induction leaves generalizing state with
  | nil => rfl
  | cons leaf rest ih =>
    rw [List.foldl_cons, List.foldl_cons, receive_of_not_isBatch (hleaves leaf List.mem_cons_self)]
    exact ih _ fun other hmem => hleaves other (List.mem_cons_of_mem _ hmem)

/-- A frame has the effect of the messages in it, received as frames of their own from left to
right, none of which is a batch. Each of them, in the state that those before it left, settles one
waiting request and runs no handler, or settles none and runs each handler of its method that is
registered then, once and in order of registration, or does nothing. The last happens whenever it
names a waiting request and holds neither a result nor an error. -/
theorem frames_received_by_leaves (host : ClientHost η ε) (frame : Json) (state : Client η × ε) :
    receive host frame state =
        (Message.leaves frame).foldl (fun state leaf => receive host leaf state) state ∧
      ∀ before leaf after, Message.leaves frame = before ++ leaf :: after →
        let reached := before.foldl (fun state leaf => receive host leaf state) state
        leaf.isBatch = false ∧ Treats host leaf reached (receive host leaf reached) ∧
          ((∃ number ∈ reached.1.pending, Message.names leaf number) →
            leaf.get? "result" = none → leaf.get? "error" = none →
              receive host leaf reached = reached) := by
  refine ⟨receive_eq_foldl_receive host frame state, ?_⟩
  intro before leaf after hsplit reached
  have hleaf : leaf.isBatch = false :=
    Message.isBatch_of_mem_leaves frame leaf (by simp [hsplit])
  have htreats := treats_receive host reached hleaf
  refine ⟨hleaf, htreats, ?_⟩
  rintro ⟨number, hwaits, hnames⟩ hresult herror
  exact htreats.eq_of_empty hwaits hnames hresult herror

end Client

end WorkspaceLink
