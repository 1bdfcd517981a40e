import WorkspaceLink.Proofs.Link.Beats
import WorkspaceLink.Proofs.Url.Parameters

/-!
# What a connect call returns

The transport numbers its connect calls and keeps the handshake of each until it ends or is given
up, whatever else happens meanwhile. So what the call returns depends on how the handshake ends and
on whether there was a connect or a disconnect since. An error names the URL without its query, and
that is where the identifier and the token of a connection stand.
-/
namespace WorkspaceLink

def Socket.handshake? (t : Socket) (call : Nat) : Option Handshake :=
  t.handshakes.find? fun h => h.generation = call

namespace Link

/-- The turn begins to connect or disconnects, which the transport counts. -/
def Turn.isCounted : Turn → Bool
  | .connect _ | .disconnect => true
  | _ => false

/-- The turn ends the handshake of a connect call or gives it up. -/
def Turn.ends (call : Nat) : Turn → Bool
  | .handshake generation _ | .abandon generation => generation == call
  | _ => false

/-- What a connect call returns if its handshake ends now, with the reason if it failed; nothing if
the handshake has ended or was given up. -/
def connectResult? (link : Link) (call : Nat) (failure : Option String) :
    Option (Except TransportError Unit) :=
  match link.carrier with
  | .scripted _ => none
  | .socket t =>
    (t.handshake? call).map fun handshake => (link.concludeHandshake handshake failure t).1

/-! ### One turn -/

/-- What a turn does to the count and to the handshakes of the calls that were made before. -/
structure Advances (turn : Turn) (t after : Socket) : Prop where
  count : after.generation = t.generation + if turn.isCounted then 1 else 0
  handshake? : ∀ call ≤ t.generation,
    after.handshake? call = if turn.ends call then none else t.handshake? call

variable {link : Link} {t after : Socket} {turn : Turn}

/-- A turn that neither connects nor ends a handshake. -/
theorem advances_of_same (hcounted : turn.isCounted = false)
    (hends : ∀ call, turn.ends call = false)
    (hsame : after.generation = t.generation ∧ after.handshakes = t.handshakes) :
    Advances turn t after where
  count := by simp [hsame.1, hcounted]
  handshake? call _ := by simp [Socket.handshake?, hsame.2, hends]

theorem handshake?_endHandshake (t : Socket) (generation call : Nat) :
    (t.endHandshake generation).handshake? call =
      if generation = call then none else t.handshake? call := by
  unfold Socket.handshake? Socket.endHandshake
  rw [List.find?_filter]
  split
  next h =>
    subst h
    simp
  next h =>
    congr 1
    funext handshake
    by_cases hcall : handshake.generation = call
    · simp [hcall, Ne.symm h]
    · simp [hcall]

theorem handshake?_connect (t : Socket) (url : String) (call : Nat) :
    (t.connect url).2.1.handshake? call =
      (t.handshake? call).or
        (if t.generation + 1 = call then some ⟨t.generation + 1, url⟩ else none) := by
  simp only [Socket.handshake?, Socket.connect, Socket.tearDown_handshakes, List.find?_append,
    List.find?_singleton, decide_eq_true_eq]

/-- The next call has no handshake yet. -/
theorem handshake?_next (ho : t.Orderly) : t.handshake? (t.generation + 1) = none := by
  apply List.find?_eq_none.mpr
  intro handshake hmem
  have hle := ho.handshake_le handshake hmem
  simp only [decide_eq_true_eq]
  omega

theorem send_handshakes (t : Socket) (message : Json) :
    (t.send message).1.generation = t.generation ∧
      (t.send message).1.handshakes = t.handshakes := by
  cases hsent : (t.send message).2 with
  | none =>
    obtain ⟨_, _, _, _, _, heq⟩ := Socket.send_queued hsent
    rw [heq]
    exact ⟨rfl, rfl⟩
  | some delivery =>
    rw [(Socket.send_failed hsent).1]
    exact ⟨rfl, rfl⟩

theorem finish_handshakes (t : Socket) (g : Nat) (code : Option Nat) (reason : String) :
    (t.finish g code reason).1.generation = t.generation ∧
      (t.finish g code reason).1.handshakes = t.handshakes := by
  unfold Socket.finish
  dsimp only
  split <;> exact ⟨rfl, rfl⟩

theorem takeIn_handshakes (t : Socket) (g : Nat) (inbound : Inbound) :
    (t.takeIn g inbound).1.generation = t.generation ∧
      (t.takeIn g inbound).1.handshakes = t.handshakes := by
  rcases t.takeIn_cases g inbound with heq | ⟨_, _, _, _, heq⟩ | ⟨code, reason, heq⟩ | ⟨reason, heq⟩
  · rw [heq]; exact ⟨rfl, rfl⟩
  · rw [heq]; exact ⟨rfl, rfl⟩
  · rw [heq]; exact finish_handshakes t g code reason
  · rw [heq]; exact finish_handshakes t g none reason

theorem write_handshakes (t : Socket) (g : Nat) :
    (t.write g).1.generation = t.generation ∧ (t.write g).1.handshakes = t.handshakes := by
  unfold Socket.write
  split <;> exact ⟨rfl, rfl⟩

theorem accept_handshakes (t : Socket) (g : Nat) (url : String) :
    (t.accept g url).1.generation = t.generation ∧
      (t.accept g url).1.handshakes = (t.endHandshake g).handshakes := by
  unfold Socket.accept
  dsimp only
  split <;> exact ⟨rfl, rfl⟩

/-- The handshake of one call is over. -/
theorem advances_of_ended {generation : Nat} (hcounted : turn.isCounted = false)
    (hends : ∀ call, turn.ends call = (generation == call))
    (hended : after.generation = t.generation ∧
      after.handshakes = (t.endHandshake generation).handshakes) : Advances turn t after where
  count := by simp [hended.1, hcounted]
  handshake? call _ := by
    rw [Socket.handshake?, hended.2, ← Socket.handshake?, handshake?_endHandshake, hends]
    simp

theorem not_counted_of_isService (h : isService turn) :
    turn.isCounted = false ∧ ∀ call, turn.ends call = false := by
  cases turn with
  | announce generation => exact ⟨rfl, fun _ => rfl⟩
  | write generation => exact ⟨rfl, fun _ => rfl⟩
  | writeFails generation reason => exact ⟨rfl, fun _ => rfl⟩
  | takeIn generation inbound => exact ⟨rfl, fun _ => rfl⟩
  | stop generation => exact ⟨rfl, fun _ => rfl⟩
  | _ => simp [isService] at h

/-- A turn counts what is to be counted, and ends no other handshake than it says. -/
theorem Moves.advances {events : List TransportEvent} (h : Moves link t turn after events) :
    Advances turn t after := by
  cases h with
  | connect url =>
    refine ⟨by simp [Socket.connect, Turn.isCounted], fun call hcall => ?_⟩
    have hnew : ¬ t.generation + 1 = call := by omega
    simp [handshake?_connect, Turn.ends, hnew]
  | @accept g handshake hfound =>
    obtain rfl : handshake.generation = g := by simpa using List.find?_some hfound
    exact advances_of_ended rfl (fun _ => rfl) (accept_handshakes t _ _)
  | @refuse g handshake reason hfound =>
    obtain rfl : handshake.generation = g := by simpa using List.find?_some hfound
    exact advances_of_ended rfl (fun _ => rfl) ⟨rfl, rfl⟩
  | @ended g failure hgone =>
    refine ⟨by simp [Turn.isCounted], fun call _ => ?_⟩
    by_cases hcall : g = call
    · have hended : t.handshake? g = none := hgone
      simp [Turn.ends, ← hcall, hended]
    · simp [Turn.ends, hcall]
  | abandon g => exact advances_of_ended rfl (fun _ => rfl) ⟨rfl, rfl⟩
  | disconnect =>
    refine ⟨by simp [Socket.disconnect, Turn.isCounted], fun call _ => ?_⟩
    simp [Socket.handshake?, Socket.disconnect, Turn.ends]
  | request method params => exact advances_of_same rfl (fun _ => rfl) (send_handshakes t _)
  | notify method params => exact advances_of_same rfl (fun _ => rfl) (send_handshakes t _)
  | write g => exact advances_of_same rfl (fun _ => rfl) (write_handshakes t g)
  | writeFails reason hfound =>
    exact advances_of_same rfl (fun _ => rfl) (finish_handshakes t _ none reason)
  | takeIn inbound hserved =>
    exact advances_of_same rfl (fun _ => rfl) (takeIn_handshakes t _ inbound)
  | unserved hservice =>
    obtain ⟨hcounted, hends⟩ := not_counted_of_isService hservice
    exact advances_of_same hcounted hends ⟨rfl, rfl⟩
  | _ => exact advances_of_same rfl (fun _ => rfl) ⟨rfl, rfl⟩

theorem take_advances (hc : link.carrier = .socket t) (turn : Turn) :
    ∃ after, (link.take turn).carrier = .socket after ∧ Advances turn t after := by
  obtain ⟨after, events, mid, hmoves, hleads, htake⟩ := take_moves hc turn
  refine ⟨after, ?_, hmoves.advances⟩
  rw [htake, emitAll_carrier]
  exact hleads.carrier

/-! ### Runs -/

def takeAll (turns : List Turn) (link : Link) : Link :=
  turns.foldl (fun link turn => link.take turn) link

theorem link_after (settings : TransportSettings) (handlers : Registry String Subscriber)
    (turns : List Turn) : (Course.after settings handlers turns).link =
      takeAll turns { plain (.socket { settings }) with client := { handlers } } := by
  have hrun (course : Course) :
      (turns.foldl Course.next course).link = takeAll turns course.link := by
    induction turns generalizing course with
    | nil => rfl
    | cons turn rest ih => exact ih (course.next turn)
  exact hrun _

/-- What turns do to the count and to the handshakes of the calls that were made before. -/
theorem takeAll_advances (hc : link.carrier = .socket t) (turns : List Turn) :
    ∃ after, (takeAll turns link).carrier = .socket after ∧
      after.generation = t.generation + turns.countP Turn.isCounted ∧
      ∀ call ≤ t.generation, after.handshake? call =
        if turns.any (Turn.ends call) then none else t.handshake? call := by
  induction turns generalizing link t with
  | nil => exact ⟨t, hc, rfl, fun _ _ => rfl⟩
  | cons turn rest ih =>
    obtain ⟨mid, hmid, hcount, hhandshake⟩ := take_advances hc turn
    obtain ⟨after, hafter, hcount', hhandshake'⟩ := ih hmid
    refine ⟨after, hafter, ?_, fun call hcall => ?_⟩
    · rw [hcount', hcount, List.countP_cons]
      omega
    · rw [hhandshake' call (by omega), hhandshake call hcall, List.any_cons]
      cases turn.ends call <;> simp

/-- The result of a connect call, by the URL that an error names, by whether there was a later call,
and by the reason if its handshake failed. -/
def outcome (named : String) (overtaken : Bool) : Option String → Except TransportError Unit
  | some reason => .error (.connect named reason)
  | none => if overtaken then .error (.connect named Socket.superseded) else .ok ()

theorem concludeHandshake_result (link : Link) (handshake : Handshake) (failure : Option String)
    (t : Socket) : (link.concludeHandshake handshake failure t).1 =
      outcome (Url.redact handshake.url) (t.generation != handshake.generation) failure := by
  cases failure with
  | some reason => rfl
  | none =>
    unfold concludeHandshake Socket.accept outcome
    by_cases hlatest : t.generation = handshake.generation <;> simp [Socket.endHandshake, hlatest]

/-- What the next connect call returns in the end, whatever turns come between. -/
theorem connectResult?_takeAll (hc : link.carrier = .socket t) (ho : t.Orderly) (url : String)
    (between : List Turn) (failure : Option String) :
    (takeAll (.connect url :: between) link).connectResult? (t.generation + 1) failure =
      if between.any (Turn.ends (t.generation + 1)) then none
      else some (outcome (Url.redact url) (between.any Turn.isCounted) failure) := by
  have hopened : (link.take (.connect url)).carrier = .socket (t.connect url).2.1 := by
    rw [take_eq hc]
    exact updateSocket_carrier _ _ _
  have hcount : (t.connect url).2.1.generation = t.generation + 1 := by simp [Socket.connect]
  have hhandshake : (t.connect url).2.1.handshake? (t.generation + 1) =
      some ⟨t.generation + 1, url⟩ := by
    simp [handshake?_connect, handshake?_next ho]
  obtain ⟨after, hafter, hcount', hkept⟩ := takeAll_advances hopened between
  have hovertaken : (after.generation != t.generation + 1) = between.any Turn.isCounted := by
    rw [hcount', hcount, Bool.eq_iff_iff]
    simp [List.countP_eq_zero]
  have htaken : (takeAll (.connect url :: between) link).carrier = .socket after := hafter
  rw [connectResult?, htaken]
  dsimp only
  rw [hkept _ (Nat.le_of_eq hcount.symm), hhandshake]
  cases between.any (Turn.ends (t.generation + 1)) with
  | true => rfl
  | false =>
    simp only [Bool.false_eq_true, if_false, Option.map_some, concludeHandshake_result, hovertaken]

/-- The call that connects to a URL after the turns before it, and what it returns when its
handshake ends after the turns between. -/
def dialResult? (settings : TransportSettings) (handlers : Registry String Subscriber)
    (before : List Turn) (url : String) (between : List Turn) (failure : Option String) :
    Option (Except TransportError Unit) :=
  (Course.after settings handlers (before ++ .connect url :: between)).link.connectResult?
    (before.countP Turn.isCounted + 1) failure

theorem dialResult?_eq (settings : TransportSettings) (handlers : Registry String Subscriber)
    (before between : List Turn) (failure : Option String) (url : String) :
    dialResult? settings handlers before url between failure =
      if between.any (Turn.ends (before.countP Turn.isCounted + 1)) then none
      else some (outcome (Url.redact url) (between.any Turn.isCounted) failure) := by
  obtain ⟨t, hc, ho⟩ := (accounted_after settings handlers before).orderly
  have hcount : t.generation = before.countP Turn.isCounted := by
    have hfresh : ({ plain (.socket { settings }) with client := { handlers } } : Link).carrier =
        .socket { settings } := rfl
    obtain ⟨reached, hreached, hcount, -⟩ := takeAll_advances hfresh before
    rw [← link_after, hc] at hreached
    cases hreached
    simpa using hcount
  have hrun : (Course.after settings handlers (before ++ .connect url :: between)).link =
      takeAll (.connect url :: between) (Course.after settings handlers before).link := by
    rw [link_after, link_after, takeAll, List.foldl_append]
    rfl
  rw [dialResult?, hrun, ← hcount]
  exact connectResult?_takeAll hc ho url between failure

/-- In every run of a transport, a call that connects to the URL of a connection returns one thing
when its handshake ends, unless that handshake has ended or was given up before: an error with the
reason if the handshake failed, an error if there was a connect or a disconnect since, and success
otherwise. Both errors name the entrypoint up to its first question mark. So the same turns give
the same result whatever identifier and token the URL presents, and whatever query the entrypoint
has. -/
theorem connect_errors_name_base (settings : TransportSettings)
    (handlers : Registry String Subscriber) (before between : List Turn)
    (failure : Option String) (entrypoint : String) (clientId : Option ClientId)
    (token : Option String) :
    let base := (Url.splitQuery entrypoint).1
    let result? := dialResult? settings handlers before
      (Url.connection entrypoint clientId token) between failure
    (result? =
      if between.any (Turn.ends (before.countP Turn.isCounted + 1)) then none
      else some (match failure with
        | some reason => .error (.connect base reason)
        | none =>
          if between.any Turn.isCounted then .error (.connect base Socket.superseded)
          else .ok ())) ∧
    ∀ (query? : Option String) (clientId' : Option ClientId) (token' : Option String),
      dialResult? settings handlers before
        (Url.connection (Url.join base query?) clientId' token') between failure = result? := by
  intro base result?
  have hbase : Url.redact (Url.connection entrypoint clientId token) = base :=
    (Url.splitQuery_connection entrypoint clientId token).1
  have hresult : result? = _ := dialResult?_eq settings handlers before between failure _
  rw [hbase] at hresult
  refine ⟨hresult, fun query? clientId' token' => ?_⟩
  have hbase' : Url.redact (Url.connection (Url.join base query?) clientId' token') = base := by
    have hjoin : (Url.splitQuery (Url.join base query?)).1 = base := by
      rw [Url.splitQuery_join (Url.not_mem_base entrypoint)]
    exact (Url.splitQuery_connection _ clientId' token').1.trans hjoin
  rw [dialResult?_eq, hbase', hresult]

end Link

end WorkspaceLink
