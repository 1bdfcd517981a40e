import WorkspaceLink.Session.Table

/-!
# Items by key

Both the handlers of a registry and the table of subscriptions are lists of items, one list for each
key, in which no list is empty. What is added to such a list of lists and what is taken out of it is
described here once, by the items that each key has.
-/
namespace WorkspaceLink

namespace Grouped

variable {κ β : Type} [DecidableEq κ]

def items (key : κ) (groups : List (κ × List β)) : List β := (groups.lookup key).getD []

def all (groups : List (κ × List β)) : List β := groups.flatMap Prod.snd

/-- Every item with its key. -/
def pairs (groups : List (κ × List β)) : List (κ × β) :=
  groups.flatMap fun group => group.2.map fun item => (group.1, item)

def insert (key : κ) (item : β) : List (κ × List β) → List (κ × List β)
  | [] => [(key, [item])]
  | (other, items) :: rest =>
    if other = key then (other, items ++ [item]) :: rest
    else (other, items) :: insert key item rest

/-- Keep some of the items of a key; a key left without items goes. -/
def prune (key : κ) (keep : β → Bool) : List (κ × List β) → List (κ × List β)
  | [] => []
  | (other, items) :: rest =>
    if other = key then
      if (items.filter keep).isEmpty then rest else (other, items.filter keep) :: rest
    else (other, items) :: prune key keep rest

/-- Each key stands once, and has an item. -/
structure Sound (groups : List (κ × List β)) : Prop where
  keys : (groups.map Prod.fst).Nodup
  filled : ∀ group ∈ groups, group.2 ≠ []

variable {groups : List (κ × List β)} {key other : κ} {item : β}

omit [DecidableEq κ] in
theorem sound_nil : Sound ([] : List (κ × List β)) := ⟨List.nodup_nil, by simp⟩

omit [DecidableEq κ] in
theorem Sound.tail {group : κ × List β} (h : Sound (group :: groups)) : Sound groups :=
  ⟨(List.nodup_cons.mp h.keys).2, fun group hmem => h.filled group (List.mem_cons_of_mem _ hmem)⟩

/-! ### Looking up -/

omit [DecidableEq κ] in
@[simp] theorem all_cons (group : κ × List β) (groups : List (κ × List β)) :
    all (group :: groups) = group.2 ++ all groups :=
  List.flatMap_cons

@[simp] theorem items_nil (key : κ) : items key ([] : List (κ × List β)) = [] := rfl

theorem items_cons (group : κ × List β) (groups : List (κ × List β)) (key : κ) :
    items key (group :: groups) = if key = group.1 then group.2 else items key groups := by
  obtain ⟨other, own⟩ := group
  by_cases h : key = other
  · simp [items, h]
  · have hne : (key == other) = false := by simpa using h
    simp [items, List.lookup_cons, hne, h]

theorem items_eq_nil (h : key ∉ groups.map Prod.fst) : items key groups = [] := by
  induction groups with
  | nil => rfl
  | cons group rest ih =>
    simp only [List.map_cons, List.mem_cons, not_or] at h
    rw [items_cons, if_neg h.1, ih h.2]

/-- A key stands in the list exactly if it has items. -/
theorem Sound.lookup_isSome (h : Sound groups) (key : κ) :
    (groups.lookup key).isSome = !(items key groups).isEmpty := by
  induction groups with
  | nil => rfl
  | cons group rest ih =>
    obtain ⟨other, own⟩ := group
    have hfilled : own ≠ [] := h.filled (other, own) List.mem_cons_self
    rw [items_cons, List.lookup_cons]
    by_cases hkey : key = other
    · simp [hkey, hfilled]
    · have hne : (key == other) = false := by simpa using hkey
      simpa [hkey, hne] using ih h.tail

theorem mem_all_of_mem_items (h : item ∈ items key groups) : item ∈ all groups := by
  induction groups with
  | nil => simp at h
  | cons group rest ih =>
    rw [all_cons, List.mem_append]
    rw [items_cons] at h
    split at h
    · exact .inl h
    · exact .inr (ih h)

theorem Sound.mem_all (h : Sound groups) : item ∈ all groups ↔ ∃ key, item ∈ items key groups := by
  refine ⟨fun hmem => ?_, fun ⟨key, hmem⟩ => mem_all_of_mem_items hmem⟩
  induction groups with
  | nil => simp [all] at hmem
  | cons group rest ih =>
    rw [all_cons, List.mem_append] at hmem
    rcases hmem with hmem | hmem
    · exact ⟨group.1, by rwa [items_cons, if_pos rfl]⟩
    · obtain ⟨key, hkey⟩ := ih h.tail hmem
      refine ⟨key, ?_⟩
      have hne : key ≠ group.1 := by
        rintro rfl
        rw [items_eq_nil (List.nodup_cons.mp h.keys).1] at hkey
        simp at hkey
      rwa [items_cons, if_neg hne]

/-- An item that stands once stands under one key. -/
theorem Sound.key_unique (h : Sound groups) (hnodup : (all groups).Nodup)
    (hkey : item ∈ items key groups) (hother : item ∈ items other groups) : key = other := by
  induction groups with
  | nil => simp at hkey
  | cons group rest ih =>
    rw [all_cons, List.nodup_append] at hnodup
    rw [items_cons] at hkey hother
    split at hkey <;> split at hother
    next hleft hright => exact hleft.trans hright.symm
    next => exact absurd rfl (hnodup.2.2 item hkey item (mem_all_of_mem_items hother))
    next => exact absurd rfl (hnodup.2.2 item hother item (mem_all_of_mem_items hkey))
    next => exact ih h.tail hnodup.2.1 hkey hother

omit [DecidableEq κ] in
@[simp] theorem pairs_cons (group : κ × List β) (groups : List (κ × List β)) :
    pairs (group :: groups) = (group.2.map fun item => (group.1, item)) ++ pairs groups :=
  List.flatMap_cons

omit [DecidableEq κ] in
theorem mem_keys_of_mem_pairs {pair : κ × β} (h : pair ∈ pairs groups) :
    pair.1 ∈ groups.map Prod.fst := by
  obtain ⟨group, hgroup, hpair⟩ := List.mem_flatMap.mp h
  obtain ⟨item, _, rfl⟩ := List.mem_map.mp hpair
  exact List.mem_map_of_mem hgroup

omit [DecidableEq κ] in
/-- The keys are those that have an item. -/
theorem Sound.mem_keys (h : Sound groups) (key : κ) :
    key ∈ groups.map Prod.fst ↔ ∃ pair ∈ pairs groups, pair.1 = key := by
  constructor
  · rintro hkey
    obtain ⟨⟨_, own⟩, hgroup, rfl⟩ := List.mem_map.mp hkey
    obtain ⟨item, hitem⟩ := List.exists_mem_of_ne_nil own (h.filled _ hgroup)
    exact ⟨(_, item), List.mem_flatMap.mpr ⟨_, hgroup, List.mem_map_of_mem hitem⟩, rfl⟩
  · rintro ⟨pair, hpair, rfl⟩
    exact mem_keys_of_mem_pairs hpair

/-! ### Adding -/

theorem items_insert (key other : κ) (item : β) (groups : List (κ × List β)) :
    items other (insert key item groups) =
      if other = key then items other groups ++ [item] else items other groups := by
  induction groups with
  | nil => simp [insert, items_cons]
  | cons group rest ih =>
    simp only [insert]
    by_cases hgroup : group.1 = key
    · by_cases hother : other = key <;> simp [items_cons, hgroup, hother]
    · rw [if_neg hgroup, items_cons, items_cons, ih]
      by_cases hother : other = group.1
      · have hne : other ≠ key := fun heq => hgroup (hother.symm.trans heq)
        simp only [if_pos hother, if_neg hne]
      · simp only [if_neg hother]

theorem all_insert (key : κ) (item : β) (groups : List (κ × List β)) :
    (all (insert key item groups)).Perm (item :: all groups) := by
  induction groups with
  | nil => exact List.Perm.refl _
  | cons group rest ih =>
    simp only [insert]
    split
    · simp only [all_cons, List.append_assoc, List.singleton_append]
      exact List.perm_middle
    · rw [all_cons, all_cons]
      exact (ih.append_left group.2).trans List.perm_middle

theorem keys_insert (key : κ) (item : β) (groups : List (κ × List β)) :
    other ∈ (insert key item groups).map Prod.fst ↔
      other = key ∨ other ∈ groups.map Prod.fst := by
  induction groups with
  | nil => simp [insert]
  | cons group rest ih =>
    simp only [insert]
    split
    next h => simp only [List.map_cons, List.mem_cons, h]; grind
    next h => simp only [List.map_cons, List.mem_cons, ih]; grind

theorem Sound.insert (h : Sound groups) (key : κ) (item : β) :
    Sound (insert key item groups) := by
  induction groups with
  | nil => exact ⟨by simp [Grouped.insert], by simp [Grouped.insert]⟩
  | cons group rest ih =>
    have hkeys := List.nodup_cons.mp h.keys
    simp only [Grouped.insert]
    split
    · refine ⟨h.keys, fun other hmem => ?_⟩
      rcases List.mem_cons.mp hmem with rfl | hmem
      · simp
      · exact h.filled other (List.mem_cons_of_mem _ hmem)
    next hne =>
      have hrest := ih h.tail
      refine ⟨List.nodup_cons.mpr ⟨?_, hrest.keys⟩, fun other hmem => ?_⟩
      · rw [keys_insert]
        exact not_or.mpr ⟨hne, hkeys.1⟩
      · rcases List.mem_cons.mp hmem with rfl | hmem
        · exact h.filled _ List.mem_cons_self
        · exact hrest.filled other hmem

theorem pairs_insert (key : κ) (item : β) (groups : List (κ × List β)) :
    (pairs (insert key item groups)).Perm ((key, item) :: pairs groups) := by
  induction groups with
  | nil => exact List.Perm.refl _
  | cons group rest ih =>
    simp only [insert]
    split
    next hkey =>
      rw [pairs_cons, pairs_cons, List.map_append, List.append_assoc, hkey]
      exact List.perm_middle
    next =>
      rw [pairs_cons, pairs_cons]
      exact (ih.append_left _).trans List.perm_middle

/-! ### Taking out -/

theorem keys_prune {keep : β → Bool} (h : other ∈ (prune key keep groups).map Prod.fst) :
    other ∈ groups.map Prod.fst := by
  induction groups with
  | nil => simp [prune] at h
  | cons group rest ih =>
    simp only [prune] at h
    split at h
    · split at h
      · exact List.mem_cons_of_mem _ h
      · simpa using h
    · rcases List.mem_cons.mp h with rfl | h
      · exact List.mem_cons_self
      · exact List.mem_cons_of_mem _ (ih h)

theorem items_prune (h : Sound groups) (key other : κ) (keep : β → Bool) :
    items other (prune key keep groups) =
      if other = key then (items other groups).filter keep else items other groups := by
  induction groups with
  | nil => simp [prune]
  | cons group rest ih =>
    have hkeys := List.nodup_cons.mp h.keys
    simp only [prune]
    by_cases hgroup : group.1 = key
    · rw [if_pos hgroup]
      have hgone : items key rest = [] := items_eq_nil (hgroup ▸ hkeys.1)
      split
      next hempty =>
        by_cases hother : other = key
        · have hnone : group.2.filter keep = [] := List.isEmpty_iff.mp hempty
          simp [items_cons, hother, hgroup, hgone, hnone]
        · simp [items_cons, hother, hgroup]
      next => by_cases hother : other = key <;> simp [items_cons, hother, hgroup]
    · rw [if_neg hgroup, items_cons, items_cons, ih h.tail]
      by_cases hother : other = group.1
      · have hne : other ≠ key := fun heq => hgroup (hother.symm.trans heq)
        simp only [if_pos hother, if_neg hne]
      · simp only [if_neg hother]

theorem all_prune (key : κ) (keep : β → Bool) (groups : List (κ × List β)) :
    (all (prune key keep groups)).Sublist (all groups) := by
  induction groups with
  | nil => exact List.Sublist.refl _
  | cons group rest ih =>
    simp only [prune]
    split
    · split
      · simp
      · rw [all_cons, all_cons]
        exact (List.filter_sublist).append (List.Sublist.refl _)
    · rw [all_cons, all_cons]
      exact (List.Sublist.refl _).append ih

theorem pairs_prune (h : Sound groups) (key : κ) (keep : β → Bool) :
    pairs (prune key keep groups) =
      (pairs groups).filter fun pair => pair.1 ≠ key || keep pair.2 := by
  induction groups with
  | nil => rfl
  | cons group rest ih =>
    have hkeys := List.nodup_cons.mp h.keys
    rw [pairs_cons, List.filter_append, List.filter_map]
    simp only [prune]
    split
    next hkey =>
      have hrest : (pairs rest).filter (fun pair => pair.1 ≠ key || keep pair.2) = pairs rest := by
        refine List.filter_eq_self.mpr fun pair hpair => ?_
        have hne : pair.1 ≠ key := by
          rintro heq
          exact hkeys.1 (hkey ▸ heq ▸ mem_keys_of_mem_pairs hpair)
        simp [hne]
      have hown : ((fun pair : κ × β => pair.1 ≠ key || keep pair.2) ∘
          fun item => (group.1, item)) = keep := by
        funext item
        simp [hkey]
      rw [hrest, hown]
      split
      next hempty => rw [List.isEmpty_iff.mp hempty]; rfl
      next => rw [pairs_cons]
    next hkey =>
      have hown : group.2.filter ((fun pair : κ × β => pair.1 ≠ key || keep pair.2) ∘
          fun item => (group.1, item)) = group.2 :=
        List.filter_eq_self.mpr fun item _ => by simp [hkey]
      rw [pairs_cons, ih h.tail, hown]

theorem Sound.prune (h : Sound groups) (key : κ) (keep : β → Bool) :
    Sound (prune key keep groups) := by
  induction groups with
  | nil => exact sound_nil
  | cons group rest ih =>
    have hkeys := List.nodup_cons.mp h.keys
    simp only [Grouped.prune]
    split
    · split
      · exact h.tail
      next hkept =>
        refine ⟨h.keys, fun other hmem => ?_⟩
        rcases List.mem_cons.mp hmem with rfl | hmem
        · simpa using hkept
        · exact h.filled other (List.mem_cons_of_mem _ hmem)
    · have hrest := ih h.tail
      refine ⟨List.nodup_cons.mpr ⟨fun hmem => hkeys.1 (keys_prune hmem), hrest.keys⟩, ?_⟩
      intro other hmem
      rcases List.mem_cons.mp hmem with rfl | hmem
      · exact h.filled _ List.mem_cons_self
      · exact hrest.filled other hmem

end Grouped

/-! ### Registries -/

namespace Registry

variable {κ η : Type} [DecidableEq κ] {registry : Registry κ η} {key other : κ} {id : HandlerId}

theorem append_eq (key : κ) (entry : HandlerId × η) (lists : List (κ × List (HandlerId × η))) :
    append key entry lists = Grouped.insert key entry lists := by
  induction lists with
  | nil => rfl
  | cons list rest ih => simp only [append, Grouped.insert, ih]

theorem discard_eq (key : κ) (id : HandlerId) (lists : List (κ × List (HandlerId × η))) :
    discard key id lists = Grouped.prune key (fun entry => entry.1 ≠ id) lists := by
  induction lists with
  | nil => rfl
  | cons list rest ih => simp only [discard, Grouped.prune, ih]

theorem contains_iff : registry.contains key id ↔ ∃ entry ∈ registry.entries key, entry.1 = id := by
  simp [contains]

theorem entries_add (registry : Registry κ η) (key other : κ) (handler : η) :
    (registry.add key handler).2.entries other =
      if other = key then registry.entries other ++ [(⟨registry.next⟩, handler)]
      else registry.entries other := by
  simp only [add, entries, append_eq]
  exact Grouped.items_insert _ _ _ _

theorem entries_remove (h : Grouped.Sound registry.lists) (key other : κ) (gone : HandlerId) :
    (registry.remove key gone).2.entries other =
      if other = key then (registry.entries other).filter (fun entry => entry.1 ≠ gone)
      else registry.entries other := by
  simp only [remove, entries, discard_eq]
  exact Grouped.items_prune h _ _ _

/-- Who is registered after a registration. -/
theorem contains_add (registry : Registry κ η) (key : κ) (handler : η) :
    (registry.add key handler).2.contains other id ↔
      registry.contains other id ∨ other = key ∧ id = ⟨registry.next⟩ := by
  simp only [contains_iff, entries_add]
  split
  next h => simp [h, or_and_right, exists_or, eq_comm]
  next h => simp [h]

/-- Who is registered after a removal. -/
theorem contains_remove (h : Grouped.Sound registry.lists) (key : κ) (gone : HandlerId) :
    (registry.remove key gone).2.contains other id ↔
      registry.contains other id ∧ ¬ (other = key ∧ id = gone) := by
  simp only [contains_iff, entries_remove h]
  split
  next hkey =>
    simp only [List.mem_filter, decide_eq_true_eq, hkey, true_and]
    constructor
    · rintro ⟨entry, ⟨hmem, hne⟩, rfl⟩
      exact ⟨⟨entry, hmem, rfl⟩, hne⟩
    · rintro ⟨⟨entry, hmem, rfl⟩, hne⟩
      exact ⟨entry, ⟨hmem, hne⟩, rfl⟩
  next hkey => simp [hkey]

theorem contains_clear (registry : Registry κ η) (key : κ) (id : HandlerId) :
    registry.clear.contains key id = false := rfl

end Registry

/-! ### Subscriptions -/

namespace SubscriptionTable

variable {table : SubscriptionTable} {topic other : Topic} {handler id : HandlerId}

theorem add_eq (topic : Topic) (handler : HandlerId) (table : SubscriptionTable) :
    add topic handler table = Grouped.insert topic handler table := by
  induction table with
  | nil => rfl
  | cons entry rest ih => simp only [add, Grouped.insert, ih]

theorem remove_eq (topic : Topic) (handler : HandlerId) (table : SubscriptionTable) :
    remove topic handler table = Grouped.prune topic (· ≠ handler) table := by
  induction table with
  | nil => rfl
  | cons entry rest ih => simp only [remove, Grouped.prune, ih]

theorem mem_subscribers_add :
    id ∈ subscribers (add topic handler table) other ↔
      id ∈ subscribers table other ∨ other = topic ∧ id = handler := by
  have h := Grouped.items_insert topic other handler table
  rw [← add_eq] at h
  change id ∈ Grouped.items other _ ↔ id ∈ Grouped.items other table ∨ _
  rw [h]
  split
  next heq => simp [heq]
  next hne => simp [hne]

theorem mem_subscribers_remove (hsound : Grouped.Sound table) :
    id ∈ subscribers (remove topic handler table) other ↔
      id ∈ subscribers table other ∧ ¬ (other = topic ∧ id = handler) := by
  have h := Grouped.items_prune hsound topic other (· ≠ handler)
  rw [← remove_eq] at h
  change id ∈ Grouped.items other _ ↔ id ∈ Grouped.items other table ∧ _
  rw [h]
  split
  next heq => simp [heq]
  next hne => simp [hne]

theorem follows_eq (hsound : Grouped.Sound table) (topic : Topic) :
    follows table topic = !(subscribers table topic).isEmpty :=
  hsound.lookup_isSome topic

theorem sound_add (hsound : Grouped.Sound table) (topic : Topic) (handler : HandlerId) :
    Grouped.Sound (add topic handler table) := by
  rw [add_eq]
  exact hsound.insert topic handler

theorem sound_remove (hsound : Grouped.Sound table) (topic : Topic) (handler : HandlerId) :
    Grouped.Sound (remove topic handler table) := by
  rw [remove_eq]
  exact hsound.prune topic _

theorem follows_add (hsound : Grouped.Sound table) (topic other : Topic) (handler : HandlerId) :
    follows (add topic handler table) other = (follows table other || decide (other = topic)) := by
  have hitems := Grouped.items_insert topic other handler table
  rw [follows_eq (sound_add hsound topic handler), follows_eq hsound]
  change (!(Grouped.items other (add topic handler table)).isEmpty) =
    (!(Grouped.items other table).isEmpty || _)
  rw [add_eq, hitems]
  by_cases h : other = topic <;> simp [h]

theorem follows_remove_of_ne (hsound : Grouped.Sound table) (topic : Topic) {other : Topic}
    (handler : HandlerId) (h : other ≠ topic) :
    follows (remove topic handler table) other = follows table other := by
  have hitems := Grouped.items_prune hsound topic other (· ≠ handler)
  rw [follows_eq (sound_remove hsound topic handler), follows_eq hsound]
  change (!(Grouped.items other (remove topic handler table)).isEmpty) = _
  rw [remove_eq, hitems, if_neg h]
  rfl

/-- A topic whose subscriber is replaced by another one keeps being followed. -/
theorem follows_replace (hsound : Grouped.Sound table) (topic : Topic) {gone : HandlerId}
    (hne : handler ≠ gone) : follows (remove topic gone (add topic handler table)) topic := by
  have hadded := sound_add hsound topic handler
  have hmem : handler ∈ subscribers (remove topic gone (add topic handler table)) topic := by
    refine (mem_subscribers_remove hadded).mpr ⟨?_, fun hsame => hne hsame.2⟩
    exact mem_subscribers_add.mpr (.inr ⟨rfl, rfl⟩)
  rw [follows_eq (sound_remove hadded topic gone)]
  simp [List.ne_nil_of_mem hmem]

end SubscriptionTable

end WorkspaceLink
