import WorkspaceLink.Link.Basic
import WorkspaceLink.Proofs.Rpc.Reception

/-!
# What the client of a link leaves alone

A client that hears of something may settle requests and call subscribers. Apart from itself this
changes the answers, the notes, the status waiter and who is woken, and nothing else of the link.
-/
namespace WorkspaceLink.Link

/-- A link without what its client and its subscribers work on. -/
def backdrop (link : Link) : Link :=
  { link with client := {}, waiter := {}, woken := [], answers := [], statuses := [], notes := [] }

/-! ### Subscribers -/

theorem settleStatuses_frame (settled : StatusWaiter.Settled) (link : Link) :
    (settleStatuses settled link).answers = link.answers ∧
      (settleStatuses settled link).backdrop = link.backdrop := by
  unfold settleStatuses
  induction settled generalizing link with
  | nil => exact ⟨rfl, rfl⟩
  | cons entry rest ih => exact ih _

theorem hear_frame (subscriber : Subscriber) (params : Json) (link : Link) :
    (link.hear subscriber params).answers = link.answers ∧
      (link.hear subscriber params).backdrop = link.backdrop := by
  unfold hear
  split
  next event =>
    unfold deliver
    split
    · exact ⟨rfl, rfl⟩
    · exact ⟨rfl, rfl⟩
    · split
      · exact settleStatuses_frame _ _
      · exact ⟨rfl, rfl⟩
  next => exact ⟨rfl, rfl⟩

/-- Subscribers never touch the requests of their client, and a link keeps the answers. -/
theorem host_records : host.Records Link.answers where
  nextId_invoke _ _ _ := rfl
  pending_invoke _ _ _ := rfl
  record_invoke subscriber params state := (hear_frame subscriber params state.2).1
  record_settle _ _ _ := rfl

/-! ### Events -/

variable {link : Link}

theorem clientHears_backdrop (event : TransportEvent) (link : Link) :
    (link.clientHears event).backdrop = link.backdrop := by
  have hinvoke : ∀ subscriber params state,
      backdrop (host.invoke subscriber params state).2 = backdrop state.2 :=
    fun subscriber params state => (hear_frame subscriber params state.2).2
  exact Client.hear_keeps (fun state => backdrop state.2) hinvoke (fun _ _ _ => rfl) event
    (link.client, link)

theorem clientHears_handlers (event : TransportEvent) (link : Link) :
    (link.clientHears event).client.handlers = link.client.handlers :=
  Client.hear_keeps (fun state => state.1.handlers) (fun _ _ _ => rfl) (fun _ _ _ => rfl) event
    (link.client, link)

theorem clientHears_settles (event : TransportEvent) (hnodup : link.client.pending.Nodup) :
    Client.Settles Link.answers (fun number => event.verdict? number) (link.client, link)
      ((link.clientHears event).client, link.clientHears event) := by
  have h := Client.hear_settles host_records event (link.client, link) hnodup
  exact ⟨h.nextId, h.pending, h.answers⟩

/-- Nobody but the client listens to the transport. -/
def ClientListens (link : Link) : Prop :=
  ∀ kind, link.listeners.handlers kind = if kind = .opened then [] else [.client]

theorem clientListens_plain (carrier : Carrier) : (plain carrier).ClientListens := by
  intro kind
  cases kind <;> rfl

theorem ClientListens.emit (h : link.ClientListens) (event : TransportEvent) :
    link.emit event = link.clientHears event := by
  unfold Link.emit Registry.dispatch
  rw [h]
  cases event <;> rfl

theorem ClientListens.clientHears (h : link.ClientListens) (event : TransportEvent) :
    (link.clientHears event).ClientListens := by
  have heq := congrArg Link.listeners (clientHears_backdrop event link)
  intro kind
  exact (congrArg (·.handlers kind) heq).trans (h kind)

/-- Of the events that a transport emits, the first with a verdict settles a request; the rest of
the link stays as it is. -/
theorem ClientListens.emitAll (h : link.ClientListens) (hnodup : link.client.pending.Nodup)
    (events : List TransportEvent) :
    (link.emitAll events).backdrop = link.backdrop ∧
      Client.Settles Link.answers
        (fun number => events.findSome? fun event => event.verdict? number) (link.client, link)
        ((link.emitAll events).client, link.emitAll events) := by
  induction events generalizing link with
  | nil => exact ⟨rfl, Client.Settles.refl _⟩
  | cons event rest ih =>
    have hfirst := clientHears_settles event hnodup
    have hnodup' : (link.clientHears event).client.pending.Nodup := by
      have := hfirst.pending
      simp only at this
      rw [this]
      exact hnodup.filter _
    obtain ⟨hback, hrest⟩ := ih (h.clientHears event) hnodup'
    have hstep : link.emitAll (event :: rest) = (link.clientHears event).emitAll rest := by
      simp only [Link.emitAll, List.foldl_cons, h.emit]
    rw [hstep]
    refine ⟨hback.trans (clientHears_backdrop event link), ?_⟩
    refine (hfirst.trans hrest).congr fun number _ => ?_
    rw [List.findSome?_cons]
    cases event.verdict? number <;> rfl

end WorkspaceLink.Link
