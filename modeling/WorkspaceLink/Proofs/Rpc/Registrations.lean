import Mathlib.Data.List.Dedup
import WorkspaceLink.Proofs.Grouped

/-!
# Registries as logs

What a registry holds can be told from the flat log of what was done with it: a registration stands
from its addition to its removal, or to the next clearing. `live` reads this off the log and knows
nothing of lists by key. All registries take their identifiers from one count, so others may take
some in between.

Main statement: after any operations, the handlers of each key, what a removal finds and takes out,
whom a dispatch calls, and every number that the registry tells are those of the log.
-/
namespace WorkspaceLink

namespace Registry

variable {κ η π σ : Type}

/-! ### Logs -/

/-- What can be done with a registry. -/
inductive Operation (κ η π : Type) where
  | add (key : κ) (handler : η)
  | remove (key : κ) (id : HandlerId)
  | clear
  | dispatch (key : κ) (payload : π)
  /-- Another registry takes an identifier. -/
  | elsewhere

inductive Reply where
  | added (id : HandlerId)
  | removed (found : Bool)
  | dispatched (called : Nat)
  | done

structure Record (κ η π : Type) where
  operation : Operation κ η π
  reply : Reply

/-- A handler that was added under a key. -/
structure Registration (κ η : Type) where
  key : κ
  id : HandlerId
  handler : η

def Record.made? : Record κ η π → Option (Registration κ η)
  | ⟨.add key handler, .added id⟩ => some ⟨key, id, handler⟩
  | _ => none

/-- The identifiers that were given out, in order. -/
def issued (log : List (Record κ η π)) : List HandlerId :=
  log.filterMap fun record => record.made?.map Registration.id

theorem issued_append (log later : List (Record κ η π)) :
    issued (log ++ later) = issued log ++ issued later := List.filterMap_append

theorem issued_snoc (log : List (Record κ η π)) (record : Record κ η π) :
    issued (log ++ [record]) = issued log ++ (record.made?.map Registration.id).toList := by
  rw [issued_append]
  cases h : record.made? <;> simp [h, issued]

variable [DecidableEq κ]

def Operation.ends (registration : Registration κ η) : Operation κ η π → Bool
  | .remove key id => key = registration.key ∧ id = registration.id
  | .clear => true
  | _ => false

/-- The registrations that nothing later in the log ends, the oldest first. -/
def live : List (Record κ η π) → List (Registration κ η)
  | [] => []
  | record :: later =>
    match record.made? with
    | some registration =>
      if later.any fun other => other.operation.ends registration then live later
      else registration :: live later
    | none => live later

def liveUnder (key : κ) (log : List (Record κ η π)) : List (HandlerId × η) :=
  ((live log).filter fun registration => registration.key = key).map fun registration =>
    (registration.id, registration.handler)

variable {log : List (Record κ η π)} {registry : Registry κ η}

/-- One more record ends some registrations and makes at most one. -/
theorem live_snoc (log : List (Record κ η π)) (record : Record κ η π) :
    live (log ++ [record]) =
      (live log).filter (fun registration => !record.operation.ends registration) ++
        record.made?.toList := by
  induction log with
  | nil => cases h : record.made? <;> simp [live, h]
  | cons head later ih =>
    rw [List.cons_append, live, live, ih]
    cases head.made? with
    | none => rfl
    | some registration =>
      simp only [List.any_append, List.any_cons, List.any_nil, Bool.or_false]
      cases later.any fun other => other.operation.ends registration with
      | true => rfl
      | false => cases hends : record.operation.ends registration <;> simp [hends]

/-- Live registrations have identifiers that were given out, in the order of their issue. -/
theorem ids_live_sublist (log : List (Record κ η π)) :
    ((live log).map Registration.id).Sublist (issued log) := by
  induction log with
  | nil => exact List.Sublist.refl _
  | cons record later ih =>
    rw [live, issued, List.filterMap_cons]
    cases record.made? with
    | none => exact ih
    | some registration =>
      simp only [Option.map_some]
      split
      · exact ih.cons _
      · exact ih.cons_cons _

theorem ids_liveUnder_sublist (key : κ) (log : List (Record κ η π)) :
    ((liveUnder key log).map Prod.fst).Sublist (issued log) := by
  refine List.Sublist.trans ?_ (ids_live_sublist log)
  rw [liveUnder, List.map_map]
  exact List.filter_sublist.map _

/-! ### Using a registry -/

/-- A registry in use: what was done with it so far, and a state that its handlers act on. -/
structure Usage (κ η π σ : Type) where
  log : List (Record κ η π) := []
  registry : Registry κ η := {}
  state : σ

/-- Do an operation; handlers act on the state only. -/
def Usage.perform (invoke : η → π → σ → σ) (usage : Usage κ η π σ) (operation : Operation κ η π) :
    Usage κ η π σ :=
  let { log, registry, state } := usage
  match operation with
  | .add key handler =>
    let (id, registry) := registry.add key handler
    { log := log ++ [⟨operation, .added id⟩], registry, state }
  | .remove key id =>
    let (found, registry) := registry.remove key id
    { log := log ++ [⟨operation, .removed found⟩], registry, state }
  | .clear => { log := log ++ [⟨operation, .done⟩], registry := registry.clear, state }
  | .dispatch key payload =>
    let (called, state) :=
      registry.dispatchCounted key (fun handler state => invoke handler payload state) state
    { log := log ++ [⟨operation, .dispatched called⟩], registry, state }
  | .elsewhere =>
    { log := log ++ [⟨operation, .done⟩]
      registry := { registry with next := registry.next + 1 }
      state }

def Usage.run (invoke : η → π → σ → σ) (operations : List (Operation κ η π))
    (usage : Usage κ η π σ) : Usage κ η π σ :=
  operations.foldl (Usage.perform invoke) usage

/-- A registry holds what its log says, and goes on with an identifier that is new. -/
structure Follows (log : List (Record κ η π)) (registry : Registry κ η) : Prop where
  sound : Grouped.Sound registry.lists
  entries : ∀ key, registry.entries key = liveUnder key log
  pairs : (Grouped.pairs registry.lists).Perm
    ((live log).map fun registration => (registration.key, registration.id, registration.handler))
  rising : (issued log).Pairwise fun first second => first.number < second.number
  below : ∀ id ∈ issued log, id.number < registry.next

theorem follows_nil (next : Nat) :
    Follows ([] : List (Record κ η π)) ({ next } : Registry κ η) where
  sound := Grouped.sound_nil
  entries _ := rfl
  pairs := List.Perm.refl _
  rising := List.Pairwise.nil
  below _ h := absurd h List.not_mem_nil

variable {record : Record κ η π}

/-- A record that neither makes nor ends a registration. -/
theorem Follows.idle (h : Follows log registry) (hmade : record.made? = none)
    (hends : ∀ registration, record.operation.ends registration = false) {next : Nat}
    (hnext : registry.next ≤ next) : Follows (log ++ [record]) { registry with next } := by
  have hlive : live (log ++ [record]) = live log := by
    rw [live_snoc, hmade, List.filter_eq_self.mpr fun registration _ => by simp [hends]]
    exact List.append_nil _
  have hissued : issued (log ++ [record]) = issued log := by
    rw [issued_snoc, hmade]
    exact List.append_nil _
  refine ⟨h.sound, fun key => ?_, ?_, ?_, fun id hid => ?_⟩
  · rw [liveUnder, hlive]
    exact h.entries key
  · rw [hlive]
    exact h.pairs
  · rw [hissued]
    exact h.rising
  · rw [hissued] at hid
    exact Nat.lt_of_lt_of_le (h.below id hid) hnext

theorem Follows.add (h : Follows log registry) (key : κ) (handler : η) :
    Follows (log ++ [(⟨.add key handler, .added ⟨registry.next⟩⟩ : Record κ η π)])
      (registry.add key handler).2 := by
  have hlive : live (log ++ [(⟨.add key handler, .added ⟨registry.next⟩⟩ : Record κ η π)]) =
      live log ++ [⟨key, ⟨registry.next⟩, handler⟩] := by
    rw [live_snoc]
    congr 1
    exact List.filter_eq_self.mpr fun registration _ => rfl
  refine ⟨?_, fun other => ?_, ?_, ?_, fun id hid => ?_⟩
  · simp only [Registry.add, append_eq]
    exact h.sound.insert key _
  · rw [entries_add, h.entries, liveUnder, liveUnder, hlive, List.filter_append]
    split
    next heq => simp [heq]
    next hne => simp [Ne.symm hne]
  · simp only [Registry.add, append_eq, hlive, List.map_append]
    refine (Grouped.pairs_insert key _ _).trans ((h.pairs.cons _).trans ?_)
    exact (List.perm_append_singleton _ _).symm
  · rw [issued_snoc, List.pairwise_append]
    refine ⟨h.rising, List.pairwise_singleton _ _, fun id hid other hother => ?_⟩
    rw [List.mem_singleton.mp hother]
    exact h.below id hid
  · rw [issued_snoc, List.mem_append] at hid
    rcases hid with hid | hid
    · exact Nat.lt_succ_of_lt (h.below id hid)
    · rw [List.mem_singleton.mp hid]
      exact Nat.lt_succ_self _

theorem Follows.remove (h : Follows log registry) (key : κ) (id : HandlerId) (found : Bool) :
    Follows (log ++ [(⟨.remove key id, .removed found⟩ : Record κ η π)])
      (registry.remove key id).2 := by
  have hlive : live (log ++ [(⟨.remove key id, .removed found⟩ : Record κ η π)]) =
      (live log).filter fun registration =>
        !decide (key = registration.key ∧ id = registration.id) := by
    rw [live_snoc]
    exact List.append_nil _
  have hissued : issued (log ++ [(⟨.remove key id, .removed found⟩ : Record κ η π)]) =
      issued log := by
    rw [issued_snoc]
    exact List.append_nil _
  refine ⟨?_, fun other => ?_, ?_, ?_, fun id hid => ?_⟩
  · simp only [Registry.remove, discard_eq]
    exact h.sound.prune key _
  · rw [entries_remove h.sound, h.entries, liveUnder, liveUnder, hlive, List.filter_filter]
    split
    next heq =>
      rw [List.filter_map, List.filter_filter]
      congr 1
      refine List.filter_congr fun registration _ => ?_
      by_cases hkey : registration.key = key <;> simp [heq, hkey, eq_comm]
    next hne =>
      congr 1
      refine List.filter_congr fun registration _ => ?_
      by_cases hkey : registration.key = other
      · simp [hkey, Ne.symm hne]
      · simp [hkey]
  · simp only [Registry.remove, discard_eq, hlive]
    rw [Grouped.pairs_prune h.sound]
    refine (h.pairs.filter _).trans (List.Perm.of_eq ?_)
    rw [List.filter_map]
    congr 1
    refine List.filter_congr fun registration _ => ?_
    by_cases hkey : registration.key = key <;> simp [hkey, eq_comm]
  · rw [hissued]
    exact h.rising
  · rw [hissued] at hid
    exact h.below id hid

theorem Follows.clear (h : Follows log registry) :
    Follows (log ++ [(⟨.clear, .done⟩ : Record κ η π)]) registry.clear := by
  have hlive : live (log ++ [(⟨.clear, .done⟩ : Record κ η π)]) = [] := by
    rw [live_snoc, List.filter_eq_nil_iff.mpr fun registration _ => by simp [Operation.ends]]
    rfl
  have hissued : issued (log ++ [(⟨.clear, .done⟩ : Record κ η π)]) = issued log := by
    rw [issued_snoc]
    exact List.append_nil _
  refine ⟨Grouped.sound_nil, fun key => ?_, ?_, ?_, fun id hid => ?_⟩
  · rw [liveUnder, hlive]
    rfl
  · rw [hlive]
    exact List.Perm.refl _
  · rw [hissued]
    exact h.rising
  · rw [hissued] at hid
    exact h.below id hid

theorem Follows.perform (invoke : η → π → σ → σ) {usage : Usage κ η π σ}
    (h : Follows usage.log usage.registry) (operation : Operation κ η π) :
    Follows (usage.perform invoke operation).log (usage.perform invoke operation).registry := by
  cases operation with
  | add key handler => exact h.add key handler
  | remove key id => exact h.remove key id _
  | clear => exact h.clear
  | dispatch key payload => exact h.idle rfl (fun _ => rfl) (Nat.le_refl _)
  | elsewhere => exact h.idle rfl (fun _ => rfl) (Nat.le_succ _)

theorem Follows.run (invoke : η → π → σ → σ) (operations : List (Operation κ η π))
    (usage : Usage κ η π σ) (h : Follows usage.log usage.registry) :
    Follows (usage.run invoke operations).log (usage.run invoke operations).registry := by
  induction operations generalizing usage with
  | nil => exact h
  | cons operation rest ih => exact ih _ (h.perform invoke operation)

/-! ### What the registry tells -/

omit [DecidableEq κ] in
theorem size_eq (registry : Registry κ η) :
    registry.size = (Grouped.pairs registry.lists).length := by
  have hsum : ∀ (lists : List (κ × List (HandlerId × η))) (size : Nat),
      lists.foldl (fun size list => size + list.2.length) size =
        size + (Grouped.pairs lists).length := by
    intro lists
    induction lists with
    | nil => intro size; rfl
    | cons list rest ih =>
      intro size
      rw [List.foldl_cons, ih, Grouped.pairs_cons, List.length_append, List.length_map,
        Nat.add_assoc]
  rw [size, hsum, Nat.zero_add]

theorem Follows.size (h : Follows log registry) : registry.size = (live log).length := by
  rw [size_eq, h.pairs.length_eq, List.length_map]

theorem Follows.isEmpty (h : Follows log registry) : registry.isEmpty ↔ live log = [] := by
  rw [Registry.isEmpty, h.size, beq_iff_eq, List.length_eq_zero_iff]

/-- The keys of a registry are those of live registrations. -/
theorem Follows.keyCount (h : Follows log registry) :
    registry.keyCount = ((live log).map Registration.key).dedup.length := by
  have hkeys : (registry.lists.map Prod.fst).Perm ((live log).map Registration.key).dedup := by
    refine (List.perm_ext_iff_of_nodup h.sound.keys (List.nodup_dedup _)).mpr fun key => ?_
    rw [h.sound.mem_keys, List.mem_dedup, List.mem_map]
    simp [h.pairs.mem_iff]
  rw [Registry.keyCount, ← hkeys.length_eq, List.length_map]

theorem Follows.contains (h : Follows log registry) (key : κ) (id : HandlerId) :
    registry.contains key id ↔ ∃ handler, (id, handler) ∈ liveUnder key log := by
  rw [contains_iff, h.entries]
  constructor
  · rintro ⟨⟨_, handler⟩, hmem, rfl⟩
    exact ⟨handler, hmem⟩
  · rintro ⟨handler, hmem⟩
    exact ⟨(id, handler), hmem, rfl⟩

theorem Follows.ids_rising (h : Follows log registry) (key : κ) :
    (liveUnder key log).Pairwise fun first second => first.1.number < second.1.number := by
  have hids : ((liveUnder key log).map Prod.fst).Pairwise fun first second =>
      first.number < second.number := h.rising.sublist (ids_liveUnder_sublist key log)
  rwa [List.pairwise_map] at hids

/-- A registry is its log. After any operations, with identifiers taken elsewhere in between:
* the handlers of a key are those that were added under it and neither removed under it nor cleared
  away, in order of addition;
* a removal says whether the registration is live under that key, and takes out that one alone;
* a dispatch calls the handlers of its key, each once and in that order, and gives their number;
* the counts of handlers and of keys are those of the live registrations;
* identifiers rise from one addition to the next and so within each list, none is given out twice,
  and every key has a list of its own with something in it. -/
theorem registry_refines_log (invoke : η → π → σ → σ) (operations : List (Operation κ η π))
    (next : Nat) (start : σ) :
    let usage := Usage.run invoke operations { registry := { next }, state := start }
    let registry := usage.registry
    let listed := fun key => liveUnder key usage.log
    (∀ key, registry.entries key = listed key) ∧
      (∀ key id,
        ((registry.remove key id).1 ↔ ∃ handler, (id, handler) ∈ listed key) ∧
          ∀ other, (registry.remove key id).2.entries other =
            if other = key then (listed other).filter fun entry => entry.1 ≠ id
            else listed other) ∧
      (∀ key payload (state : σ),
        registry.dispatchCounted key (fun handler state => invoke handler payload state) state =
          ((listed key).length,
            (listed key).foldl (fun state entry => invoke entry.2 payload state) state)) ∧
      (∀ key, registry.count key = (listed key).length) ∧
      registry.size = (live usage.log).length ∧
      (registry.isEmpty ↔ live usage.log = []) ∧
      registry.keyCount = ((live usage.log).map Registration.key).dedup.length ∧
      (issued usage.log).Pairwise (fun first second => first.number < second.number) ∧
      (∀ key, (listed key).Pairwise fun first second => first.1.number < second.1.number) ∧
      (registry.lists.map Prod.fst).Nodup ∧ ∀ list ∈ registry.lists, list.2 ≠ [] := by
  intro usage registry listed
  have h : Follows usage.log registry := Follows.run invoke operations _ (follows_nil next)
  refine ⟨h.entries, fun key id => ⟨h.contains key id, fun other => ?_⟩, ?_, ?_, h.size, h.isEmpty,
    h.keyCount, h.rising, h.ids_rising, h.sound.keys, h.sound.filled⟩
  · rw [entries_remove h.sound, h.entries]
  · intro key payload state
    rw [dispatchCounted, dispatch, handlers, h.entries, List.length_map, List.foldl_map]
  · intro key
    rw [count, h.entries]

end Registry

end WorkspaceLink
