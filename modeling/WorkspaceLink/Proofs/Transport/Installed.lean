import WorkspaceLink.Transport.Socket

/-!
# The installed socket

Only the latest connect call can have its socket installed, only the installed socket is served,
and a handshake that is the latest finds none installed. `Orderly` says so, and every operation of
the transport keeps it. Beside that, each operation that takes the installed socket away announces
it: a reset by the call that tears it down, a close by the task of the socket itself.

`Inherits` says of an operation that it brings neither a handshake nor a socket.
-/
namespace WorkspaceLink

/-- The event tells that a connection is gone. -/
def TransportEvent.isLoss : TransportEvent → Bool
  | .closed _ _ | .reset => true
  | _ => false

namespace Socket

/-- How the installed socket, the handshakes and the tasks of sockets belong together. -/
structure Orderly (t : Socket) : Prop where
  installed_latest : ∀ g, t.installed = some g → g = t.generation
  handshake_le : ∀ h ∈ t.handshakes, h.generation ≤ t.generation
  handshake_idle : ∀ h ∈ t.handshakes, h.generation = t.generation → t.installed = none
  served_installed : ∀ s ∈ t.streams, s.cancelled = false → t.installed = some s.generation

variable {t : Socket}

theorem orderly_initial (settings : TransportSettings) : ({ settings } : Socket).Orderly := by
  constructor <;> simp

/-! ### Sockets are changed one at a time -/

@[simp] theorem modifyStream_installed (t : Socket) (g : Nat) (change : Stream → Stream) :
    (t.modifyStream g change).installed = t.installed := rfl

theorem Orderly.modifyStream (h : t.Orderly) (g : Nat) {change : Stream → Stream}
    (hgen : ∀ s, (change s).generation = s.generation)
    (hserved : ∀ s, (change s).cancelled = false → s.cancelled = false) :
    (t.modifyStream g change).Orderly where
  installed_latest := h.installed_latest
  handshake_le := h.handshake_le
  handshake_idle := h.handshake_idle
  served_installed := by
    intro s hs hlive
    obtain ⟨old, hold, rfl⟩ := List.mem_map.mp hs
    by_cases hg : old.generation = g
    · simp only [hg, ↓reduceIte] at hlive ⊢
      rw [hgen]
      exact h.served_installed old hold (hserved old hlive)
    · simp only [hg, ↓reduceIte] at hlive ⊢
      exact h.served_installed old hold hlive

theorem Orderly.dropStream (h : t.Orderly) (g : Nat) : (t.dropStream g).Orderly where
  installed_latest := h.installed_latest
  handshake_le := h.handshake_le
  handshake_idle := h.handshake_idle
  served_installed s hs := h.served_installed s (List.mem_filter.mp hs).1

theorem Orderly.endHandshake (h : t.Orderly) (g : Nat) : (t.endHandshake g).Orderly where
  installed_latest := h.installed_latest
  handshake_le other hmem := h.handshake_le other (List.mem_filter.mp hmem).1
  handshake_idle other hmem := h.handshake_idle other (List.mem_filter.mp hmem).1
  served_installed := h.served_installed

theorem Orderly.announce (h : t.Orderly) (g : Nat) : (t.announce g).1.Orderly :=
  h.modifyStream g (fun _ => rfl) fun _ hs => hs

theorem Orderly.write (h : t.Orderly) (g : Nat) : (t.write g).1.Orderly := by
  unfold Socket.write
  split
  · exact h.modifyStream g (fun _ => rfl) fun _ hs => hs
  · exact h

@[simp] theorem write_installed (t : Socket) (g : Nat) : (t.write g).1.installed = t.installed := by
  unfold Socket.write
  split <;> rfl

/-- A socket that is served is the installed one. -/
theorem Orderly.installed_of_served (h : t.Orderly) {g : Nat}
    (hserved : (t.stream? g).any fun s => !s.cancelled) : t.installed = some g := by
  obtain ⟨s, hs, hlive⟩ := (Option.any_eq_true _ _).mp hserved
  have hg : s.generation = g := by simpa using List.find?_some hs
  rw [← hg]
  exact h.served_installed s (List.mem_of_find?_eq_some hs) (by simpa using hlive)

/-! ### Sends -/

/-- A send that reports no failure put the message at the end of the installed socket's queue. -/
theorem send_queued {message : Json} (h : (t.send message).2 = none) :
    ∃ g s, t.installed = some g ∧ t.stream? g = some s ∧ s.generation = g ∧
      (t.send message).1 =
        t.modifyStream g fun s => { s with outbound := s.outbound ++ [message] } := by
  unfold send at h ⊢
  cases hs : t.installed.bind t.stream? with
  | none => simp [hs] at h
  | some s =>
    obtain ⟨g, hg, hstream⟩ := Option.bind_eq_some_iff.mp hs
    have hgen : s.generation = g := by simpa using List.find?_some hstream
    simp only [hs] at h ⊢
    split at h
    next hroom => exact ⟨g, s, hg, hstream, hgen, by rw [if_pos hroom, hgen]⟩
    next => simp at h

/-- A send that does not queue its message changes nothing and reports that message later,
whatever socket is installed then. -/
theorem send_failed {message : Json} {delivery : Delivery}
    (h : (t.send message).2 = some delivery) :
    (t.send message).1 = t ∧ delivery.onlyIf = none ∧
      ∃ reason, delivery.events = [.sendFailed (Message.id? message) reason] := by
  unfold send at h ⊢
  cases hs : t.installed.bind t.stream? with
  | none =>
    simp only [hs, Option.some.injEq] at h ⊢
    exact ⟨trivial, by rw [← h]; rfl, _, by rw [← h]; rfl⟩
  | some s =>
    simp only [hs] at h ⊢
    split at h
    next => simp at h
    next hfull =>
      simp only [hfull, ↓reduceIte, Option.some.injEq] at h ⊢
      exact ⟨trivial, by rw [← h]; rfl, _, by rw [← h]; rfl⟩

theorem Orderly.send (h : t.Orderly) (message : Json) : (t.send message).1.Orderly := by
  cases hsent : (t.send message).2 with
  | none =>
    obtain ⟨g, s, _, _, _, heq⟩ := send_queued hsent
    rw [heq]
    exact h.modifyStream g (fun _ => rfl) fun _ hs => hs
  | some delivery => rw [(send_failed hsent).1]; exact h

@[simp] theorem send_installed (t : Socket) (message : Json) :
    (t.send message).1.installed = t.installed := by
  cases hsent : (t.send message).2 with
  | none =>
    obtain ⟨g, s, _, _, _, heq⟩ := send_queued hsent
    rw [heq, modifyStream_installed]
  | some delivery => rw [(send_failed hsent).1]

/-! ### Connecting and disconnecting -/

/-- Tearing down leaves no socket installed and announces a reset if there was one. -/
theorem tearDown_installed (t : Socket) : t.tearDown.1.installed = none := by
  unfold tearDown
  split
  next h => exact h
  next => rfl

theorem tearDown_emissions (t : Socket) :
    t.tearDown.2 = (t.installed.map fun g => ⟨some g, .reset⟩).toList := by
  unfold tearDown
  split <;> simp_all

@[simp] theorem tearDown_generation (t : Socket) : t.tearDown.1.generation = t.generation := by
  unfold tearDown
  split <;> rfl

@[simp] theorem tearDown_handshakes (t : Socket) : t.tearDown.1.handshakes = t.handshakes := by
  unfold tearDown
  split <;> rfl

/-- Tearing down tells the task of every socket that is served to stop. -/
theorem cancelled_of_mem_tearDown
    (h : ∀ s ∈ t.streams, s.cancelled = false → t.installed = some s.generation) :
    ∀ s ∈ t.tearDown.1.streams, s.cancelled = true := by
  unfold tearDown
  split
  next hnone =>
    intro s hs
    cases hc : s.cancelled with
    | true => rfl
    | false =>
      have := h s hs hc
      simp [hnone] at this
  next g hg =>
    intro s hs
    obtain ⟨old, hold, rfl⟩ := List.mem_map.mp hs
    by_cases hgen : old.generation = g
    · simp [hgen]
    · simp only [hgen, ↓reduceIte]
      cases hc : old.cancelled with
      | true => rfl
      | false =>
        have := h old hold hc
        rw [hg, Option.some.injEq] at this
        exact absurd this.symm hgen

theorem Orderly.disconnect (h : t.Orderly) : t.disconnect.1.Orderly where
  installed_latest := by simp [Socket.disconnect, tearDown_installed]
  handshake_le := by
    intro other hmem
    simp only [Socket.disconnect, tearDown_handshakes, tearDown_generation] at hmem ⊢
    exact Nat.le_succ_of_le (h.handshake_le other hmem)
  handshake_idle _ _ _ := tearDown_installed _
  served_installed := by
    intro s hs hlive
    have := cancelled_of_mem_tearDown (t := { t with generation := t.generation + 1 })
      h.served_installed s hs
    simp [this] at hlive

theorem disconnect_installed (t : Socket) : t.disconnect.1.installed = none :=
  tearDown_installed _

theorem disconnect_emissions (t : Socket) :
    t.disconnect.2 = (t.installed.map fun g => ⟨some g, .reset⟩).toList :=
  tearDown_emissions { t with generation := t.generation + 1 }

/-- Connecting is disconnecting, and a handshake of its own. -/
theorem Orderly.connect (h : t.Orderly) (url : String) : (t.connect url).2.1.Orderly := by
  have hd := h.disconnect
  have hgen : t.disconnect.1.generation = t.generation + 1 := by simp [Socket.disconnect]
  constructor
  · exact hd.installed_latest
  · intro other hmem
    rcases List.mem_append.mp hmem with hmem | hmem
    · exact hd.handshake_le other hmem
    · rw [List.mem_singleton.mp hmem]
      exact Nat.le_of_eq hgen.symm
  · intro _ _ _
    exact disconnect_installed t
  · exact hd.served_installed

/-! ### Handshakes -/

/-- A handshake that is still the latest has its socket installed; another one changes nothing. -/
theorem accept_installed (t : Socket) (g : Nat) (url : String) :
    (t.accept g url).1.installed = if t.generation = g then some g else t.installed := by
  unfold accept
  by_cases h : t.generation = g <;> simp [h, Socket.endHandshake]

theorem Orderly.accept (h : t.Orderly) {handshake : Handshake} (hmem : handshake ∈ t.handshakes)
    (url : String) : (t.accept handshake.generation url).1.Orderly := by
  have he := h.endHandshake handshake.generation
  unfold Socket.accept
  by_cases hlatest : t.generation = handshake.generation
  · have hidle := h.handshake_idle handshake hmem hlatest.symm
    simp only [Socket.endHandshake, hlatest, ↓reduceIte]
    constructor
    · intro g hg
      exact (Option.some.inj hg).symm
    · intro other hother
      exact hlatest ▸ he.handshake_le other hother
    · intro other hother heq
      have := (List.mem_filter.mp hother).2
      simp [heq] at this
    · intro s hs hlive
      rcases List.mem_append.mp hs with hs | hs
      · have := h.served_installed s hs hlive
        simp [hidle] at this
      · rw [List.mem_singleton.mp hs]
  · simp only [Socket.endHandshake, hlatest, ↓reduceIte]
    exact he

/-! ### The end of a socket -/

theorem finish_installed (t : Socket) (g : Nat) (code : Option Nat) (reason : String) :
    (t.finish g code reason).1.installed =
      if t.installed = some g then none else t.installed := by
  unfold finish
  by_cases h : t.installed = some g <;> simp [h, Socket.dropStream]

theorem finish_emissions (t : Socket) (g : Nat) (code : Option Nat) (reason : String) :
    (t.finish g code reason).2 =
      if t.generation = g then [⟨some g, .closed code reason⟩] else [] := by
  unfold finish
  by_cases h : t.installed = some g <;> simp [h, Socket.dropStream]

theorem Orderly.finish (h : t.Orderly) (g : Nat) (code : Option Nat) (reason : String) :
    (t.finish g code reason).1.Orderly := by
  have hd := h.dropStream g
  unfold Socket.finish
  by_cases hg : t.installed = some g
  · simp only [Socket.dropStream, hg, ↓reduceIte]
    refine ⟨by simp, h.handshake_le, fun _ _ _ => rfl, ?_⟩
    intro s hs hlive
    have := hd.served_installed s hs hlive
    have hne := (List.mem_filter.mp hs).2
    simp only [Socket.dropStream, hg, Option.some.injEq] at this
    simp [this] at hne
  · simp only [Socket.dropStream, hg, ↓reduceIte]
    exact hd

theorem Orderly.fail (h : t.Orderly) (g : Nat) (reason : String) :
    (t.fail g reason).1.Orderly :=
  h.finish g none reason

/-- What arrives is dropped, is a message, ends the socket or breaks it. -/
theorem takeIn_cases (t : Socket) (g : Nat) (inbound : Inbound) :
    t.takeIn g inbound = (t, []) ∨
      (∃ content message, inbound = .text content ∧ Json.parse content = .ok message ∧
        t.takeIn g inbound = (t, [⟨some g, .received message⟩])) ∨
      (∃ code reason, t.takeIn g inbound = t.finish g code reason) ∨
      ∃ reason, t.takeIn g inbound = t.fail g reason := by
  cases inbound with
  | text content =>
    simp only [takeIn]
    split
    · exact .inr (.inr (.inr ⟨_, rfl⟩))
    · split
      next message hparsed => exact .inr (.inl ⟨content, message, rfl, hparsed, rfl⟩)
      next => exact .inl rfl
  | control => exact .inl rfl
  | close code reason => exact .inr (.inr (.inl ⟨code, reason, rfl⟩))
  | fault reason => exact .inr (.inr (.inr ⟨reason, rfl⟩))
  | ended => exact .inr (.inr (.inl ⟨none, _, rfl⟩))

theorem Orderly.takeIn (h : t.Orderly) (g : Nat) (inbound : Inbound) :
    (t.takeIn g inbound).1.Orderly := by
  rcases t.takeIn_cases g inbound with heq | ⟨_, _, _, _, heq⟩ | ⟨code, reason, heq⟩ | ⟨reason, heq⟩
  · rw [heq]; exact h
  · rw [heq]; exact h
  · rw [heq]; exact h.finish g code reason
  · rw [heq]; exact h.fail g reason

/-! ### Losses are announced -/

/-- If a step takes the installed socket away, its events tell so. -/
def Announces (before after : Socket) (emissions : List Emission) : Prop :=
  ∀ g, before.installed = some g →
    after.installed = some g ∨ ∃ emission ∈ emissions, emission.event.isLoss

theorem announces_of_same {after : Socket} (h : after.installed = t.installed)
    (emissions : List Emission) : t.Announces after emissions := by
  intro g hg
  exact .inl (h.trans hg)

theorem Orderly.accept_announces (h : t.Orderly) {handshake : Handshake}
    (hmem : handshake ∈ t.handshakes) (url : String) :
    t.Announces (t.accept handshake.generation url).1 [] := by
  intro g hg
  left
  rw [accept_installed]
  split
  next hlatest =>
    rw [h.handshake_idle handshake hmem hlatest.symm] at hg
    simp at hg
  next => exact hg

theorem disconnect_announces (t : Socket) : t.Announces t.disconnect.1 t.disconnect.2 := by
  intro g hg
  right
  rw [disconnect_emissions, hg]
  exact ⟨_, List.mem_singleton.mpr rfl, rfl⟩

theorem Orderly.finish_announces (h : t.Orderly) (g : Nat) (code : Option Nat) (reason : String) :
    t.Announces (t.finish g code reason).1 (t.finish g code reason).2 := by
  intro current hcurrent
  by_cases hg : current = g
  · subst hg
    right
    rw [finish_emissions, if_pos (h.installed_latest current hcurrent).symm]
    exact ⟨_, List.mem_singleton.mpr rfl, rfl⟩
  · left
    rw [finish_installed, hcurrent, if_neg (by simpa using hg)]

theorem Orderly.fail_announces (h : t.Orderly) (g : Nat) (reason : String) :
    t.Announces (t.fail g reason).1 (t.fail g reason).2 := by
  intro current hcurrent
  rcases h.finish_announces g none reason current hcurrent with hkept | ⟨emission, hmem, hloss⟩
  · exact .inl hkept
  · exact .inr ⟨emission, List.mem_cons_of_mem _ hmem, hloss⟩

theorem Orderly.takeIn_announces (h : t.Orderly) (g : Nat) (inbound : Inbound) :
    t.Announces (t.takeIn g inbound).1 (t.takeIn g inbound).2 := by
  rcases t.takeIn_cases g inbound with heq | ⟨_, _, _, _, heq⟩ | ⟨code, reason, heq⟩ | ⟨reason, heq⟩
  · rw [heq]; exact announces_of_same rfl _
  · rw [heq]; exact announces_of_same rfl _
  · rw [heq]; exact h.finish_announces g code reason
  · rw [heq]; exact h.fail_announces g reason

/-! ### Messages come from texts -/

theorem received_not_mem_disconnect (t : Socket) (message : Json) :
    .received message ∉ t.disconnect.2.map (·.event) := by
  rw [disconnect_emissions]
  cases t.installed <;> simp

theorem received_not_mem_finish (t : Socket) (g : Nat) (code : Option Nat) (reason : String)
    (message : Json) : .received message ∉ (t.finish g code reason).2.map (·.event) := by
  rw [finish_emissions]
  split <;> simp

theorem received_not_mem_fail (t : Socket) (g : Nat) (reason : String) (message : Json) :
    .received message ∉ (t.fail g reason).2.map (·.event) := by
  intro hmem
  rcases List.mem_cons.mp hmem with heq | hmem
  · simp at heq
  · exact received_not_mem_finish t g none reason message hmem

/-- A message is announced only for a text that holds it. -/
theorem text_of_received {g : Nat} {inbound : Inbound} {message : Json}
    (h : .received message ∈ (t.takeIn g inbound).2.map (·.event)) :
    ∃ content, inbound = .text content ∧ Json.parse content = .ok message := by
  rcases t.takeIn_cases g inbound with heq | ⟨content, parsed, htext, hparsed, heq⟩ |
      ⟨code, reason, heq⟩ | ⟨reason, heq⟩ <;> rw [heq] at h
  · simp at h
  · have hsame : message = parsed := by simpa using h
    exact ⟨content, htext, hsame ▸ hparsed⟩
  · exact absurd h (received_not_mem_finish t g code reason message)
  · exact absurd h (received_not_mem_fail t g reason message)

theorem mem_of_mem_due {delivery : Delivery} {event : TransportEvent}
    (h : event ∈ (t.due delivery).map (·.event)) : event ∈ delivery.events := by
  unfold due at h
  split at h
  · split at h
    · simpa using h
    · simp at h
  · simpa using h

/-! ### Sockets that are left -/

/-- The second state has no handshake and no socket that the first has not, and no fewer calls were
made. -/
structure Inherits (t after : Socket) : Prop where
  calls : t.generation ≤ after.generation
  handshakes : ∀ h ∈ after.handshakes, h ∈ t.handshakes
  streams : ∀ s ∈ after.streams, ∃ old ∈ t.streams, old.generation = s.generation

variable {after last : Socket}

theorem Inherits.refl (t : Socket) : Inherits t t :=
  ⟨Nat.le_refl _, fun _ hmem => hmem, fun s hmem => ⟨s, hmem, rfl⟩⟩

theorem Inherits.trans (h : Inherits t after) (h' : Inherits after last) : Inherits t last where
  calls := Nat.le_trans h.calls h'.calls
  handshakes handshake hmem := h.handshakes handshake (h'.handshakes handshake hmem)
  streams s hmem := by
    obtain ⟨mid, hmid, heq⟩ := h'.streams s hmem
    obtain ⟨old, hold, heq'⟩ := h.streams mid hmid
    exact ⟨old, hold, heq'.trans heq⟩

theorem Inherits.of_streams (hgeneration : t.generation ≤ after.generation)
    (hhandshakes : after.handshakes = t.handshakes)
    (hstreams : ∀ s ∈ after.streams, ∃ old ∈ t.streams, old.generation = s.generation) :
    Inherits t after :=
  ⟨hgeneration, fun _ hmem => hhandshakes ▸ hmem, hstreams⟩

theorem inherits_modifyStream (t : Socket) (g : Nat) {change : Stream → Stream}
    (hgen : ∀ s, (change s).generation = s.generation) : Inherits t (t.modifyStream g change) := by
  refine .of_streams (Nat.le_refl _) rfl fun s hmem => ?_
  obtain ⟨old, hold, rfl⟩ := List.mem_map.mp hmem
  refine ⟨old, hold, ?_⟩
  split
  · exact (hgen old).symm
  · rfl

theorem inherits_dropStream (t : Socket) (g : Nat) : Inherits t (t.dropStream g) :=
  .of_streams (Nat.le_refl _) rfl fun s hmem => ⟨s, (List.mem_filter.mp hmem).1, rfl⟩

theorem inherits_endHandshake (t : Socket) (g : Nat) : Inherits t (t.endHandshake g) :=
  ⟨Nat.le_refl _, fun _ hmem => (List.mem_filter.mp hmem).1, fun s hmem => ⟨s, hmem, rfl⟩⟩

theorem inherits_disconnect (t : Socket) : Inherits t t.disconnect.1 := by
  unfold disconnect tearDown
  split
  · exact .of_streams (Nat.le_succ _) rfl fun s hmem => ⟨s, hmem, rfl⟩
  next g _ =>
    have h := inherits_modifyStream t g (fun s => rfl : ∀ s : Stream,
      ({ s with cancelled := true } : Stream).generation = s.generation)
    exact .of_streams (Nat.le_succ _) rfl h.streams

theorem inherits_write (t : Socket) (g : Nat) : Inherits t (t.write g).1 := by
  unfold write
  split
  · exact inherits_modifyStream t g fun _ => rfl
  · exact .refl t

theorem inherits_send (t : Socket) (message : Json) : Inherits t (t.send message).1 := by
  cases hsent : (t.send message).2 with
  | none =>
    obtain ⟨g, s, _, _, _, heq⟩ := send_queued hsent
    rw [heq]
    exact inherits_modifyStream t g fun _ => rfl
  | some delivery =>
    rw [(send_failed hsent).1]
    exact .refl t

theorem inherits_finish (t : Socket) (g : Nat) (code : Option Nat) (reason : String) :
    Inherits t (t.finish g code reason).1 := by
  have h := inherits_dropStream t g
  unfold finish
  dsimp only
  split
  · exact ⟨h.calls, h.handshakes, h.streams⟩
  · exact h

theorem inherits_takeIn (t : Socket) (g : Nat) (inbound : Inbound) :
    Inherits t (t.takeIn g inbound).1 := by
  rcases t.takeIn_cases g inbound with heq | ⟨_, _, _, _, heq⟩ | ⟨code, reason, heq⟩ | ⟨reason, heq⟩
  · rw [heq]; exact .refl t
  · rw [heq]; exact .refl t
  · rw [heq]; exact inherits_finish t g code reason
  · rw [heq]; exact inherits_finish t g none reason

/-- A close is announced only by the socket of the latest call. -/
theorem closed_of_finish {g : Nat} {code : Option Nat} {reason : String} {event : TransportEvent}
    (h : event ∈ (t.finish g code reason).2.map (·.event)) :
    t.generation = g ∧ event = .closed code reason := by
  rw [finish_emissions] at h
  split at h
  next heq => exact ⟨heq, by simpa using h⟩
  next => simp at h

end Socket

end WorkspaceLink
