import WorkspaceLink.Proofs.Json.Canonical

/-!
# Members by name

The members of an object are determined by what stands under each name, as the names increase. Here
is what stands under a name after members are put into an object, and after some are left out.
-/
namespace WorkspaceLink.Members

variable {α : Type} {name : String} {members : List (String × α)}

theorem nodup_entries (h : (members.map Prod.fst).Pairwise (· < ·)) : members.Nodup := by
  refine List.Pairwise.imp ?_ (List.pairwise_map.mp (nodup_of_increasing h))
  intro entry other hne heq
  exact hne (congrArg Prod.fst heq)

theorem lookup_eq_none (h : name ∉ members.map Prod.fst) : members.lookup name = none := by
  rw [List.lookup_eq_none_iff]
  intro entry hentry
  have hne : name ≠ entry.1 := fun heq => h (heq ▸ List.mem_map_of_mem hentry)
  simpa using hne

theorem mem_names_iff : name ∈ members.map Prod.fst ↔ (members.lookup name).isSome := by
  simp only [List.lookup_isSome_iff, List.mem_map, beq_iff_eq, @eq_comm _ name]

/-- With each name once, what stands under a name is what stands next to it. -/
theorem lookup_eq_some_iff (h : (members.map Prod.fst).Nodup) {value : α} :
    members.lookup name = some value ↔ (name, value) ∈ members := by
  induction members with
  | nil => simp
  | cons entry rest ih =>
    obtain ⟨other, held⟩ := entry
    obtain ⟨hother, hrest⟩ := List.nodup_cons.mp h
    by_cases heq : name = other
    · subst heq
      have habsent : (name, value) ∉ rest := fun hmem =>
        hother (List.mem_map.mpr ⟨(name, value), hmem, rfl⟩)
      simp [habsent, eq_comm]
    · have hne : (name == other) = false := by simpa using heq
      simp [List.lookup_cons, hne, ih hrest, heq]

theorem lookup_filter (h : (members.map Prod.fst).Nodup) (keeps : String × α → Bool) :
    (members.filter keeps).lookup name =
      (members.lookup name).filter fun value => keeps (name, value) := by
  have hkept : ((members.filter keeps).map Prod.fst).Nodup :=
    h.sublist (List.filter_sublist.map _)
  ext value
  rw [lookup_eq_some_iff hkept, List.mem_filter, Option.filter_eq_some_iff, lookup_eq_some_iff h]

/-! ### Objects -/

theorem increasing_filter (h : (members.map Prod.fst).Pairwise (· < ·))
    (keeps : String × α → Bool) : ((members.filter keeps).map Prod.fst).Pairwise (· < ·) :=
  h.sublist (List.filter_sublist.map _)

theorem increasing_foldl_insert (h : (members.map Prod.fst).Pairwise (· < ·))
    (pairs : List (String × α)) :
    ((pairs.foldl (fun members pair => insert pair.1 pair.2 members) members).map
      Prod.fst).Pairwise (· < ·) := by
  induction pairs generalizing members with
  | nil => exact h
  | cons pair rest ih => exact ih (pairwise_insert h)

/-- An object that is built from pairs lists its members by increasing name. -/
theorem increasing_ofList (pairs : List (String × α)) :
    ((ofList pairs).map Prod.fst).Pairwise (· < ·) :=
  increasing_foldl_insert List.Pairwise.nil pairs

theorem lookup_foldl_insert {pairs : List (String × α)} (h : (pairs.map Prod.fst).Nodup)
    (members : List (String × α)) :
    (pairs.foldl (fun members pair => insert pair.1 pair.2 members) members).lookup name =
      (pairs.lookup name).or (members.lookup name) := by
  induction pairs generalizing members with
  | nil => simp
  | cons pair rest ih =>
    obtain ⟨other, held⟩ := pair
    obtain ⟨hother, hrest⟩ := List.nodup_cons.mp h
    rw [List.foldl_cons, ih hrest]
    by_cases heq : name = other
    · subst heq
      simp [lookup_eq_none hother]
    · have hne : (name == other) = false := by simpa using heq
      simp [lookup_insert_of_ne heq, List.lookup_cons, hne]

/-- What stands under a name in an object that is built from pairs with different names. -/
theorem lookup_ofList {pairs : List (String × α)} (h : (pairs.map Prod.fst).Nodup) :
    (ofList pairs).lookup name = pairs.lookup name := by
  simp [ofList, lookup_foldl_insert h]

/-- Two lists of members with increasing names are the same if the same stands under every name. -/
theorem ext_lookup {xs ys : List (String × α)} (hxs : (xs.map Prod.fst).Pairwise (· < ·))
    (hys : (ys.map Prod.fst).Pairwise (· < ·)) (h : ∀ name, xs.lookup name = ys.lookup name) :
    xs = ys := by
  have hmem (entry : String × α) : entry ∈ xs ↔ entry ∈ ys := by
    rw [← lookup_eq_some_iff (nodup_of_increasing hxs), h,
      lookup_eq_some_iff (nodup_of_increasing hys)]
  have hperm : xs.Perm ys :=
    (List.perm_ext_iff_of_nodup (nodup_entries hxs) (nodup_entries hys)).mpr hmem
  refine hperm.eq_of_pairwise ?_ (List.pairwise_map.mp hxs) (List.pairwise_map.mp hys)
  intro x y _ _ hxy hyx
  exact absurd (String.lt_trans hxy hyx) (String.lt_irrefl _)

end WorkspaceLink.Members
