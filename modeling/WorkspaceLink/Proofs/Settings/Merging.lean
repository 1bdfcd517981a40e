import WorkspaceLink.Proofs.Json.Members
import WorkspaceLink.Settings.Merge

/-!
# Merging along paths

What one value laid over another leaves at each path of names: where the upper value gives nothing,
or `null`, the lower one stays; where both have an object these merge in turn; everything else of
the upper value is taken as it is. It follows that a value laid over itself is itself, and that to
lay it over once more changes nothing.
-/
namespace WorkspaceLink

namespace Json

/-! ### Objects -/

def IsObject (value : Json) : Prop := ∃ members, value = .obj members

/-- What holds of an object when it holds of the values of its members, and of everything that is
no object, holds of every value. -/
theorem object_induction {motive : Json → Prop}
    (obj : ∀ members, (∀ entry ∈ members, motive entry.2) → motive (.obj members))
    (other : ∀ value, ¬ value.IsObject → motive value) : (value : Json) → motive value
  | .obj members => obj members fun entry _ => object_induction obj other entry.2
  | .null => other _ (by simp [IsObject])
  | .bool _ => other _ (by simp [IsObject])
  | .num _ => other _ (by simp [IsObject])
  | .str _ => other _ (by simp [IsObject])
  | .arr _ => other _ (by simp [IsObject])
termination_by value => sizeOf value
decreasing_by
  obtain ⟨name, value⟩ := entry
  have hmember := List.sizeOf_lt_of_mem ‹(name, value) ∈ members›
  simp only [Prod.mk.sizeOf_spec, Json.obj.sizeOf_spec] at hmember ⊢
  omega

theorem nodup_of_canonical {members : List (String × Json)} (h : Canonical (.obj members)) :
    (members.map Prod.fst).Nodup :=
  Members.nodup_of_increasing h.1

theorem canonical_of_lookup {members : List (String × Json)} {name : String} {value : Json}
    (h : Canonical (.obj members)) (hlookup : members.lookup name = some value) :
    Canonical value :=
  canonicalMembers_iff.mp h.2 (name, value)
    ((Members.lookup_eq_some_iff (nodup_of_canonical h)).mp hlookup)

/-! ### Members of merged objects -/

/-- What stands in one place when values are laid over each other: nothing and `null` leave what
stands below. -/
def overlay (below? : Option Json) : Option Json → Option Json
  | none | some .null => below?
  | some value => some ((below?.map (merge · value)).getD value)

@[simp] theorem overlay_none (below? : Option Json) : overlay below? none = below? := rfl

@[simp] theorem overlay_null (below? : Option Json) : overlay below? (some .null) = below? := rfl

theorem overlay_some {value : Json} (h : value ≠ .null) (below? : Option Json) :
    overlay below? (some value) = some ((below?.map (merge · value)).getD value) := by
  cases value with
  | null => exact absurd rfl h
  | _ => rfl

theorem overlay_isSome_iff {below? above? : Option Json} :
    (overlay below? above?).isSome ↔
      below?.isSome ∨ ∃ value, above? = some value ∧ value ≠ .null := by
  cases above? with
  | none => simp
  | some value =>
    by_cases hnull : value = .null
    · simp [hnull]
    · simp [overlay_some hnull, hnull]

theorem overlay_self {value? : Option Json}
    (h : ∀ value, value? = some value → merge value value = value) :
    overlay value? value? = value? := by
  cases value? with
  | none => rfl
  | some value =>
    by_cases hnull : value = .null
    · rw [hnull, overlay_null]
    · rw [overlay_some hnull, Option.map_some, Option.getD_some, h value rfl]

/-- What was laid over something changes nothing once more, if this holds of the values. -/
theorem overlay_overlay {below? above? : Option Json}
    (hself : ∀ value, above? = some value → merge value value = value)
    (honce : ∀ held value, below? = some held → above? = some value →
      merge (merge held value) value = merge held value) :
    overlay (overlay below? above?) above? = overlay below? above? := by
  cases above? with
  | none => rfl
  | some value =>
    by_cases hnull : value = .null
    · rw [hnull, overlay_null, overlay_null]
    · rw [overlay_some hnull, overlay_some hnull, Option.map_some, Option.getD_some]
      cases below? with
      | none => simp [hself value rfl]
      | some held => simp [honce held value rfl rfl]

theorem mergeMembers_cons_null (target rest : List (String × Json)) (name : String) :
    mergeMembers target ((name, .null) :: rest) = mergeMembers target rest := rfl

theorem mergeMembers_cons (target rest : List (String × Json)) (name : String) {value : Json}
    (h : value ≠ .null) :
    mergeMembers target ((name, value) :: rest) =
      mergeMembers (Members.insert name
        (((target.lookup name).map (merge · value)).getD value) target) rest := by
  rw [mergeMembers]
  · cases target.lookup name <;> rfl
  · exact h

/-- A member of merged objects: what the upper one has, laid over what stands below it. -/
theorem lookup_mergeMembers {source : List (String × Json)}
    (hnames : (source.map Prod.fst).Nodup) (target : List (String × Json)) (name : String) :
    (mergeMembers target source).lookup name =
      overlay (target.lookup name) (source.lookup name) := by
  induction source generalizing target with
  | nil => rfl
  | cons entry rest ih =>
    obtain ⟨other, value⟩ := entry
    obtain ⟨hother, hlater⟩ := List.nodup_cons.mp hnames
    by_cases hname : name = other
    · -- Each name stands once, so what is set here stays to the end.
      subst hname
      have habsent : rest.lookup name = none := Members.lookup_eq_none hother
      by_cases hnull : value = .null
      · subst hnull
        rw [mergeMembers_cons_null, ih hlater, habsent, List.lookup_cons_self, overlay_none,
          overlay_null]
      · rw [mergeMembers_cons target rest name hnull, ih hlater, habsent, List.lookup_cons_self,
          Members.lookup_insert_self, overlay_none, overlay_some hnull]
    · have hne : (name == other) = false := by simpa using hname
      simp only [List.lookup_cons, hne]
      by_cases hnull : value = .null
      · subst hnull
        rw [mergeMembers_cons_null, ih hlater]
      · rw [mergeMembers_cons target rest other hnull, ih hlater,
          Members.lookup_insert_of_ne hname]

/-- Merged objects have the names of the lower one, and those that the upper one gives a value. -/
theorem mem_names_mergeMembers {below above : List (String × Json)} (h : Canonical (.obj above))
    {name : String} :
    name ∈ (mergeMembers below above).map Prod.fst ↔
      name ∈ below.map Prod.fst ∨ ∃ value, (name, value) ∈ above ∧ value ≠ .null := by
  simp only [Members.mem_names_iff, lookup_mergeMembers (nodup_of_canonical h), overlay_isSome_iff,
    Members.lookup_eq_some_iff (nodup_of_canonical h)]

/-! ### Merged values -/

/-- Unless both values are objects, the upper one is taken as it is. -/
theorem merge_of_not_isObject {target source : Json}
    (h : ¬ (target.IsObject ∧ source.IsObject)) : merge target source = source := by
  cases source with
  | obj above =>
    cases target with
    | obj below => exact absurd ⟨⟨below, rfl⟩, above, rfl⟩ h
    | _ => simp [merge]
  | _ => simp [merge]

theorem canonical_mergeMembers {above : List (String × Json)}
    (hmerge : ∀ entry ∈ above, ∀ below, Canonical below → Canonical (merge below entry.2))
    (habove : CanonicalMembers above) {below : List (String × Json)}
    (hbelow : Canonical (.obj below)) : Canonical (.obj (mergeMembers below above)) := by
  induction above generalizing below with
  | nil => exact hbelow
  | cons entry rest ih =>
    obtain ⟨name, value⟩ := entry
    obtain ⟨hvalue, hrest⟩ := habove
    obtain ⟨hmerged, hdeeper⟩ := List.forall_mem_cons.mp hmerge
    by_cases hnull : value = .null
    · subst hnull
      exact ih hdeeper hrest hbelow
    · rw [mergeMembers_cons below rest name hnull]
      refine ih hdeeper hrest (canonical_insert ?_ hbelow)
      cases hlookup : below.lookup name with
      | none => exact hvalue
      | some held => exact hmerged held (canonical_of_lookup hbelow hlookup)

theorem canonical_merge {target source : Json} (htarget : Canonical target)
    (hsource : Canonical source) : Canonical (merge target source) := by
  induction source using object_induction generalizing target with
  | other source hother =>
    rw [merge_of_not_isObject fun hboth => hother hboth.2]
    exact hsource
  | obj above ih =>
    by_cases hobject : target.IsObject
    · obtain ⟨below, rfl⟩ := hobject
      refine canonical_mergeMembers (fun entry hentry held hheld => ?_) hsource.2 htarget
      exact ih entry hentry hheld (canonicalMembers_iff.mp hsource.2 entry hentry)
    · rw [merge_of_not_isObject fun hboth => hobject hboth.1]
      exact hsource

/-- Objects merge to an object that has this under each name. -/
theorem merge_obj_eq {below above members : List (String × Json)} (hbelow : Canonical (.obj below))
    (habove : Canonical (.obj above)) (hmembers : Canonical (.obj members))
    (h : ∀ name, overlay (below.lookup name) (above.lookup name) = members.lookup name) :
    merge (.obj below) (.obj above) = .obj members := by
  have hmerged : Canonical (.obj (mergeMembers below above)) := canonical_merge hbelow habove
  refine congrArg Json.obj (Members.ext_lookup hmerged.1 hmembers.1 fun name => ?_)
  rw [lookup_mergeMembers (nodup_of_canonical habove), h]

/-- A value laid over itself is itself. -/
theorem merge_self {value : Json} (h : Canonical value) : merge value value = value := by
  induction value using object_induction with
  | other value hother => exact merge_of_not_isObject fun hboth => hother hboth.1
  | obj members ih =>
    refine merge_obj_eq h h h fun name => overlay_self fun value hlookup => ?_
    have hentry := (Members.lookup_eq_some_iff (nodup_of_canonical h)).mp hlookup
    exact ih (name, value) hentry (canonical_of_lookup h hlookup)

/-- A value that was laid over another changes nothing when it is laid over once more. -/
theorem merge_merge_self {target source : Json} (htarget : Canonical target)
    (hsource : Canonical source) : merge (merge target source) source = merge target source := by
  -- The induction is on the upper value; under each of its names it meets another lower one.
  induction source using object_induction generalizing target with
  | other source hother =>
    have hsame (below : Json) : merge below source = source :=
      merge_of_not_isObject fun hboth => hother hboth.2
    rw [hsame, hsame]
  | obj above ih =>
    by_cases hobject : target.IsObject
    · obtain ⟨below, rfl⟩ := hobject
      have hmerged : Canonical (.obj (mergeMembers below above)) := canonical_merge htarget hsource
      refine merge_obj_eq hmerged hsource hmerged fun name => ?_
      rw [lookup_mergeMembers (nodup_of_canonical hsource)]
      refine overlay_overlay (fun value hvalue => ?_) fun held value hheld hvalue => ?_
      · exact merge_self (canonical_of_lookup hsource hvalue)
      · have hentry := (Members.lookup_eq_some_iff (nodup_of_canonical hsource)).mp hvalue
        exact ih (name, value) hentry (canonical_of_lookup htarget hheld)
          (canonical_of_lookup hsource hvalue)
    · -- A value that meets no object was taken whole, so now it meets itself.
      rw [merge_of_not_isObject fun hboth => hobject hboth.1, merge_self hsource]

/-! ### Paths -/

/-- What a path of names leads to, from object to object. -/
def at? : Json → List String → Option Json
  | value, [] => some value
  | value, name :: path => (value.get? name).bind (at? · path)

/-- Every proper beginning of the path leads to an object in both values. -/
def Shared (target source : Json) (path : List String) : Prop :=
  ∀ front, front <+: path → front ≠ path →
    (∃ members, target.at? front = some (.obj members)) ∧
      ∃ members, source.at? front = some (.obj members)

theorem Shared.objects {target source : Json} {name : String} {path : List String}
    (h : Shared target source (name :: path)) :
    ∃ below above, target = .obj below ∧ source = .obj above := by
  obtain ⟨⟨below, hbelow⟩, above, habove⟩ := h [] List.nil_prefix (by simp)
  exact ⟨below, above, Option.some.inj hbelow, Option.some.inj habove⟩

theorem shared_singleton (below above : List (String × Json)) (name : String) :
    Shared (.obj below) (.obj above) [name] := by
  intro front hfront hne
  rcases List.prefix_cons_iff.mp hfront with rfl | ⟨rest, rfl, hrest⟩
  · exact ⟨⟨below, rfl⟩, above, rfl⟩
  · exact absurd (by simpa using hrest) hne

/-- A path of more than one name goes on in the objects that its first name leads to. -/
theorem shared_cons_iff {below above : List (String × Json)} {name next : String}
    {path : List String} :
    Shared (.obj below) (.obj above) (name :: next :: path) ↔
      ∃ inner outer, below.lookup name = some (.obj inner) ∧
        above.lookup name = some (.obj outer) ∧
          Shared (.obj inner) (.obj outer) (next :: path) := by
  constructor
  · intro h
    obtain ⟨⟨inner, hinner⟩, outer, houter⟩ := h [name] (by simp) (by simp)
    replace hinner : below.lookup name = some (.obj inner) := by simpa [at?, get?] using hinner
    replace houter : above.lookup name = some (.obj outer) := by simpa [at?, get?] using houter
    refine ⟨inner, outer, hinner, houter, fun front hfront hne => ?_⟩
    have hdeeper := h (name :: front) (by simpa using hfront) (by simpa using hne)
    simpa [at?, get?, hinner, houter] using hdeeper
  · rintro ⟨inner, outer, hinner, houter, h⟩ front hfront hne
    rcases List.prefix_cons_iff.mp hfront with rfl | ⟨rest, rfl, hrest⟩
    · exact ⟨⟨below, rfl⟩, above, rfl⟩
    · have hdeeper := h rest hrest (by simpa using hne)
      simpa [at?, get?, hinner, houter] using hdeeper

/-- At a shared path stands what the upper value gives there, laid over what stands below it. -/
theorem at?_merge {target source : Json} (hsource : Canonical source) {path : List String}
    (hpath : path ≠ []) (h : Shared target source path) :
    (merge target source).at? path = overlay (target.at? path) (source.at? path) := by
  induction path generalizing target source with
  | nil => exact absurd rfl hpath
  | cons name path ih =>
    obtain ⟨below, above, rfl, rfl⟩ := h.objects
    have hmember := lookup_mergeMembers (nodup_of_canonical hsource) below name
    cases path with
    | nil => simpa [at?, get?, merge] using hmember
    | cons next path =>
      obtain ⟨inner, outer, hinner, houter, hshared⟩ := shared_cons_iff.mp h
      rw [hinner, houter, overlay_some (by simp), Option.map_some, Option.getD_some] at hmember
      have hdeeper := ih (canonical_of_lookup hsource houter) (by simp) hshared
      simpa [at?, get?, merge, hmember, hinner, houter] using hdeeper

/-- At a shared path a value other than `null` is taken as it is, unless it is an object that
meets an object. -/
theorem at?_merge_of_taken {target source value : Json} (hsource : Canonical source)
    {path : List String} (h : Shared target source path) (hvalue : source.at? path = some value)
    (hnull : value ≠ .null)
    (halone : ∀ held, target.at? path = some held → ¬ (held.IsObject ∧ value.IsObject)) :
    (merge target source).at? path = some value := by
  cases path with
  | nil =>
    obtain rfl : source = value := Option.some.inj hvalue
    exact congrArg some (merge_of_not_isObject (halone target rfl))
  | cons name path =>
    rw [at?_merge hsource (by simp) h, hvalue, overlay_some hnull]
    cases hheld : target.at? (name :: path) with
    | none => rfl
    | some held => simp [merge_of_not_isObject (halone held hheld)]

/-- One value laid over another, of any depth. The result is a value again. A value over itself is
itself, and to lay it over once more changes nothing. Two objects give an object with the names of
the lower one and with those that the upper one gives a value other than `null`. Along a path whose
proper beginnings lead to objects in both, what the upper value leaves out or sets to `null` stays
what it is below, and what it sets to anything but an object is taken from it. What meets no object
below is taken whole, with every `null` in it. Arrays are never merged: one below gives way to what
the upper value has instead, and one in the upper value is taken whole. -/
theorem merge_overrides_along_paths {target source : Json} (htarget : Canonical target)
    (hsource : Canonical source) :
    Canonical (merge target source) ∧
      merge source source = source ∧
      merge (merge target source) source = merge target source ∧
      (∀ below above, target = .obj below → source = .obj above →
        ∃ members, merge target source = .obj members ∧ ∀ name,
          name ∈ members.map Prod.fst ↔
            name ∈ below.map Prod.fst ∨ ∃ value, (name, value) ∈ above ∧ value ≠ .null) ∧
      (∀ path, path ≠ [] → Shared target source path →
        (source.at? path = none ∨ source.at? path = some .null →
          (merge target source).at? path = target.at? path) ∧
        ∀ value, source.at? path = some value → value ≠ .null → ¬ value.IsObject →
          (merge target source).at? path = some value) ∧
      (∀ path value, Shared target source path → source.at? path = some value → value ≠ .null →
        (∀ held, target.at? path = some held → ¬ held.IsObject) →
          (merge target source).at? path = some value) ∧
      ∀ path items, Shared target source path →
        (source.at? path = some (.arr items) →
          (merge target source).at? path = some (.arr items)) ∧
        (target.at? path = some (.arr items) → ∀ value, source.at? path = some value →
          value ≠ .null → (merge target source).at? path = some value) := by
  have harray : ∀ items, ¬ IsObject (.arr items) := by simp [IsObject]
  refine ⟨canonical_merge htarget hsource, merge_self hsource, merge_merge_self htarget hsource,
    ?names, fun path hpath hshared => ⟨?kept, ?taken⟩, ?whole,
    fun path items hshared => ⟨?above, ?below⟩⟩
  case names =>
    rintro below above rfl rfl
    exact ⟨mergeMembers below above, rfl, fun name => mem_names_mergeMembers hsource⟩
  case kept =>
    intro hgiven
    rw [at?_merge hsource hpath hshared]
    rcases hgiven with hnone | hnull
    · rw [hnone, overlay_none]
    · rw [hnull, overlay_null]
  case taken =>
    intro value hvalue hnull hobject
    exact at?_merge_of_taken hsource hshared hvalue hnull fun _ _ hboth => hobject hboth.2
  case whole =>
    intro path value hshared hvalue hnull hbelow
    exact at?_merge_of_taken hsource hshared hvalue hnull fun held hheld hboth =>
      hbelow held hheld hboth.1
  case above =>
    intro hitems
    exact at?_merge_of_taken hsource hshared hitems (by simp) fun _ _ hboth =>
      harray items hboth.2
  case below =>
    intro hitems value hvalue hnull
    refine at?_merge_of_taken hsource hshared hvalue hnull fun held hheld hboth => ?_
    obtain rfl : .arr items = held := Option.some.inj (hitems.symm.trans hheld)
    exact harray items hboth.1

/-- A layer that resets one entry to `null`, replaces a list, and brings an object with a `null` of
its own. -/
theorem merge_overrides_partial_layer :
    let target : Json := .obj [("logging", .obj [("level", .str "warn"),
      ("targets", .arr [.str "console"])]), ("session", .obj [("reconnectDelayMs", .nat 30000)])]
    let source : Json := .obj [("logging", .obj [("level", .null),
      ("targets", .arr [.str "file", .null])]), ("proxy", .obj [("port", .null)])]
    Canonical target ∧ Canonical source ∧ merge source source = source ∧
      merge (merge target source) source = merge target source ∧
      (merge target source).at? ["logging", "level"] = some (.str "warn") ∧
      (merge target source).at? ["logging", "targets"] = some (.arr [.str "file", .null]) ∧
      (merge target source).at? ["proxy"] = some (.obj [("port", .null)]) := by
  intro target source
  have htarget : Canonical target := by
    simp only [target, nat, Canonical, CanonicalMembers, CanonicalItems]
    decide
  have hsource : Canonical source := by
    simp only [source, Canonical, CanonicalMembers, CanonicalItems]
    decide
  have hlogging (name : String) : Shared target source ["logging", name] :=
    shared_cons_iff.mpr ⟨_, _, rfl, rfl, shared_singleton _ _ name⟩
  have hproxy : Shared target source ["proxy"] := shared_singleton _ _ _
  obtain ⟨-, hself, honce, -, hpaths, hwhole, harrays⟩ :=
    merge_overrides_along_paths htarget hsource
  refine ⟨htarget, hsource, hself, honce, ?_, (harrays _ _ (hlogging "targets")).1 rfl, ?_⟩
  · exact (hpaths _ (by simp) (hlogging "level")).1 (.inr rfl)
  · refine hwhole _ _ hproxy rfl (by simp) fun held hheld => ?_
    cases hheld

end Json

end WorkspaceLink
