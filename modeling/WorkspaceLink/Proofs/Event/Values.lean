import WorkspaceLink.Proofs.Json.Decoders
import WorkspaceLink.Proofs.Json.Members
import WorkspaceLink.Event.Basic

/-!
# What becomes of the members of an event

An event that is written says what was sent, in one form: texts and truth values as they were sent,
a status by its spelling, a record as the object of those of its fields that are there. Each of
these is a rule for one member, and reading what the rule leaves gives what was read before.
-/
namespace WorkspaceLink

namespace Event

/-! ### Rules -/

/-- A member that is left out when nothing or `null` was sent, and else has this form. -/
def optional (form : Json → Json) (sent : Option Json) : Option Json :=
  (Json.unlessNull sent).map form

@[simp] theorem optional_id (sent : Option Json) : optional id sent = Json.unlessNull sent := by
  simp [optional]

/-- A text that is empty when nothing was sent. -/
def orEmpty (sent : Option Json) : Option Json := some (sent.getD (.str ""))

/-- The spelling of the status that a name stands for. -/
def settledName (name : String) : String :=
  if name ∈ ["RUNNING", "STOPPED", "PAUSED", "STARTING", "STOPPING", "ERROR"] then name
  else "UNKNOWN"

/-- A status as a text, also if it was sent as the one key of an object. -/
def settledStatus : Json → Json
  | .str name => .str (settledName name)
  | .obj [(name, _)] => .str (settledName name)
  | value => value

/-- The members of these names that are there. -/
def listed (names : List String) (member : String → Option Json) : List (String × Json) :=
  names.flatMap fun name => Encode.optional name id (member name)

/-- What a record has for a field: under its name in an object, at its place in an array. -/
def fieldOf (fields : List String) (value : Json) (name : String) : Option Json :=
  match value with
  | .obj members => members.lookup name
  | .arr items => items[fields.idxOf name]?
  | _ => none

/-- A record as an object with those of its fields that are there and not `null`. -/
def settledRecord (fields : List String) (value : Json) : Json :=
  .object (listed fields fun name => Json.unlessNull (fieldOf fields value name))

/-! ### Listed members -/

section Listed

variable {names : List String} {member : String → Option Json}

theorem mem_listed {entry : String × Json} :
    entry ∈ listed names member ↔ entry.1 ∈ names ∧ member entry.1 = some entry.2 := by
  obtain ⟨name, value⟩ := entry
  simp only [listed, List.mem_flatMap]
  constructor
  · rintro ⟨other, hother, hmem⟩
    cases hmember : member other with
    | none => simp [Encode.optional, hmember] at hmem
    | some held =>
      obtain ⟨rfl, rfl⟩ : name = other ∧ value = held := by
        simpa [Encode.optional, hmember] using hmem
      exact ⟨hother, hmember⟩
  · rintro ⟨hname, hmember⟩
    exact ⟨name, hname, by simp [Encode.optional, hmember]⟩

theorem nodup_listed (h : names.Nodup) : ((listed names member).map Prod.fst).Nodup := by
  induction names with
  | nil => simp [listed]
  | cons name rest ih =>
    obtain ⟨hname, hrest⟩ := List.nodup_cons.mp h
    have hcons : listed (name :: rest) member =
        Encode.optional name id (member name) ++ listed rest member := rfl
    cases hmember : member name with
    | none => simpa [hcons, hmember, Encode.optional] using ih hrest
    | some value =>
      rw [hcons, hmember]
      refine List.nodup_cons.mpr ⟨?_, ih hrest⟩
      intro hmem
      obtain ⟨entry, hentry, rfl⟩ := List.mem_map.mp hmem
      exact hname (mem_listed.mp hentry).1

theorem lookup_listed (h : names.Nodup) (name : String) :
    (listed names member).lookup name = if name ∈ names then member name else none := by
  ext value
  rw [Members.lookup_eq_some_iff (nodup_listed h), mem_listed]
  split
  next hname => simp [hname]
  next hname => simp [hname]

/-- The order in which members are listed is of no account in an object. -/
theorem object_listed (others : List String) (h : names.Nodup) (hperm : names.Perm others) :
    Json.object (listed names member) = Json.object (listed others member) := by
  have hothers : others.Nodup := hperm.nodup_iff.mp h
  refine congrArg Json.obj (Members.ext_lookup (Members.increasing_ofList _)
    (Members.increasing_ofList _) ?_)
  intro name
  rw [Members.lookup_ofList (nodup_listed h), Members.lookup_ofList (nodup_listed hothers),
    lookup_listed h, lookup_listed hothers]
  simp [hperm.mem_iff]

end Listed

/-! ### Canonical values -/

/-- What the rule makes of a canonical value is canonical. -/
def KeepsCanonical (rule : Option Json → Option Json) : Prop :=
  ∀ sent : Option Json, (∀ value ∈ sent, value.Canonical) →
    ∀ value ∈ rule sent, value.Canonical

theorem keepsCanonical_optional {form : Json → Json}
    (h : ∀ value, value.Canonical → (form value).Canonical) : KeepsCanonical (optional form) := by
  intro sent hsent value hvalue
  obtain ⟨given, hgiven, rfl⟩ := Option.map_eq_some_iff.mp hvalue
  exact h given (hsent given (Option.filter_eq_some_iff.mp hgiven).1)

theorem keepsCanonical_orEmpty : KeepsCanonical orEmpty := by
  intro sent hsent value hvalue
  cases sent with
  | none =>
    cases hvalue
    trivial
  | some given =>
    cases hvalue
    exact hsent _ rfl

theorem canonical_settledStatus (value : Json) (h : value.Canonical) :
    (settledStatus value).Canonical := by
  unfold settledStatus
  split
  · trivial
  · trivial
  · exact h

theorem canonical_fieldOf {fields : List String} {value field : Json} {name : String}
    (h : value.Canonical) (hfield : fieldOf fields value name = some field) : field.Canonical := by
  cases value with
  | obj members =>
    have hmem := (Members.lookup_eq_some_iff (Members.nodup_of_increasing h.1)).mp hfield
    exact Json.canonicalMembers_iff.mp h.2 _ hmem
  | arr items => exact Json.canonicalItems_iff.mp h field (List.mem_of_getElem? hfield)
  | _ => cases hfield

theorem canonical_settledRecord (fields : List String) (value : Json) (h : value.Canonical) :
    (settledRecord fields value).Canonical := by
  refine Json.canonical_object ?_
  intro field hfield
  exact canonical_fieldOf h (Option.filter_eq_some_iff.mp (mem_listed.mp hfield).2).1

/-! ### Reading again -/

/-- What is written for a value that was read is what the rule makes of what was sent, and reading
it again gives the same value. -/
structure Restores {α : Type} (read : Option Json → Except DecodeError α)
    (write : α → Option Json) (rule : Option Json → Option Json) : Prop where
  written : ∀ {sent a}, read sent = .ok a → write a = rule sent
  again : ∀ {sent a}, read sent = .ok a → read (write a) = .ok a

theorem Restores.reread {α : Type} {read : Option Json → Except DecodeError α}
    {write : α → Option Json} {rule : Option Json → Option Json} (h : Restores read write rule)
    {sent : Option Json} {a : α} (hread : read sent = .ok a) : read (rule sent) = .ok a := by
  rw [← h.written hread]
  exact h.again hread

/-- An optional member restores what its values do. -/
theorem restores_optional {α : Type} {decode : Json → Except DecodeError α} {encode : α → Json}
    {form : Json → Json}
    (hwritten : ∀ {value a}, decode value = .ok a → encode a = form value)
    (hagain : ∀ {value a}, decode value = .ok a → decode (encode a) = .ok a)
    (hnull : ∀ a, encode a ≠ .null) :
    Restores (Decode.optionalField decode) (Option.map encode) (optional form) where
  written := by
    intro sent result? hread
    rcases Decode.optionalField_eq_ok.mp hread with ⟨hnone, rfl⟩ | ⟨value, a, hsome, rfl, hdecode⟩
    · simp [optional, hnone]
    · simp [optional, hsome, hwritten hdecode]
  again := by
    intro sent result? hread
    rcases Decode.optionalField_eq_ok.mp hread with ⟨hnone, rfl⟩ | ⟨value, a, hsome, rfl, hdecode⟩
    · rfl
    · exact Decode.optionalField_eq_ok.mpr
        (.inr ⟨encode a, a, Json.unlessNull_some (hnull a), rfl, hagain hdecode⟩)

theorem restores_text : Restores (Decode.optionalField Decode.text) (Option.map Json.str)
    (optional id) := by
  refine restores_optional ?_ (fun _ => rfl) (by simp)
  intro value s h
  exact (Decode.text_eq_ok.mp h).symm

theorem restores_flag : Restores (Decode.optionalField Decode.flag) (Option.map Json.bool)
    (optional id) := by
  refine restores_optional ?_ (fun _ => rfl) (by simp)
  intro value b h
  exact (Decode.flag_eq_ok.mp h).symm

theorem decode_id_eq_ok {kind : IdKind} {value : Json} {id : Id kind} :
    Id.decode value = .ok id ↔ value = id.toJson := by
  simp only [Id.decode, map_eq_ok, Decode.text_eq_ok]
  constructor
  · rintro ⟨text, rfl, rfl⟩
    rfl
  · intro h
    exact ⟨id.text, h, rfl⟩

theorem restores_id {kind : IdKind} :
    Restores (Decode.optionalField (Id.decode : Json → Except DecodeError (Id kind)))
      (Option.map Id.toJson) (optional id) := by
  refine restores_optional ?_ (fun _ => Id.decode_toJson _) (by simp [Id.toJson])
  intro value id h
  exact (decode_id_eq_ok.mp h).symm

theorem name_ofName (name : String) : (Status.ofName name).name = settledName name := by
  unfold settledName
  split
  next hknown =>
    simp only [List.mem_cons, List.not_mem_nil, or_false] at hknown
    rcases hknown with rfl | rfl | rfl | rfl | rfl | rfl <;> rfl
  next hunknown =>
    have hnone : Status.known.find? (fun status => status.name = name) = none := by
      rw [List.find?_eq_none]
      intro status hstatus hname
      refine hunknown ?_
      rw [← of_decide_eq_true hname]
      revert hstatus
      cases status <;> decide
    rw [Status.ofName, hnone]
    rfl

theorem restores_status : Restores (Decode.optionalField Status.decode)
    (Option.map Status.toJson) (optional settledStatus) := by
  refine restores_optional ?_ (fun _ => Status.decode_toJson _) (by simp [Status.toJson])
  intro value status h
  unfold Status.decode at h
  split at h
  · cases h
    simp [settledStatus, Status.toJson, name_ofName]
  · split at h
    · cases h
      simp [settledStatus, Status.toJson, name_ofName]
    · cases h
  · cases h
  · cases h

theorem restores_orEmpty :
    Restores (Decode.field Decode.text "") (fun s => some (.str s)) orEmpty where
  written := by
    intro sent s h
    cases sent with
    | none =>
      cases h
      rfl
    | some value =>
      rw [Decode.text_eq_ok.mp h]
      rfl
  again := by
    intro sent s _
    rfl

theorem requiredId_eq_ok {kind : IdKind} {value? : Option Json} {id : Id kind} :
    Decode.field (fun value => (Id.decode value).map some) none value? = .ok (some id) ↔
      value? = some id.toJson := by
  simp [Decode.field_map_some_eq_ok, decode_id_eq_ok]

/-! ### Records -/

theorem lookup_settledRecord {fields : List String} (hfields : fields.Nodup) (value : Json)
    {field : String} (hfield : field ∈ fields) :
    (Members.ofList (listed fields fun name =>
      Json.unlessNull (fieldOf fields value name))).lookup field =
        Json.unlessNull (fieldOf fields value field) := by
  rw [Members.lookup_ofList (nodup_listed hfields), lookup_listed hfields, if_pos hfield]

/-- The fields of an owner, as they stand in an array. -/
def ownershipFields : List String := ["workspaceId", "envName", "ownerId"]

/-- The fields of an organization, as they stand in an array. -/
def organizationFields : List String := ["id", "name", "qualifiedName"]

theorem ownership_ofMembers_eq_ok {members : List (String × Json)} {owner : Ownership} :
    Ownership.ofMembers members = .ok owner ↔
      Decode.optionalField Decode.text (members.lookup "envName") = .ok owner.envName ∧
      Decode.optionalField Id.decode (members.lookup "ownerId") = .ok owner.ownerId ∧
      Decode.optionalField Id.decode (members.lookup "workspaceId") = .ok owner.workspaceId := by
  simp only [Ownership.ofMembers, bind_eq_ok, pure, Except.pure, Except.ok.injEq]
  constructor
  · rintro ⟨envName, henvName, ownerId, hownerId, workspaceId, hworkspaceId, rfl⟩
    exact ⟨henvName, hownerId, hworkspaceId⟩
  · rintro ⟨henvName, hownerId, hworkspaceId⟩
    exact ⟨_, henvName, _, hownerId, _, hworkspaceId, rfl⟩

theorem ownership_ofItems_eq_ok {items : List Json} {owner : Ownership} :
    Ownership.ofItems items = .ok owner ↔
      Decode.optionalField Id.decode items[0]? = .ok owner.workspaceId ∧
      Decode.optionalField Decode.text items[1]? = .ok owner.envName ∧
      Decode.optionalField Id.decode items[2]? = .ok owner.ownerId := by
  simp only [Ownership.ofItems, bind_eq_ok, pure, Except.pure, Except.ok.injEq]
  constructor
  · rintro ⟨workspaceId, hworkspaceId, envName, henvName, ownerId, hownerId, rfl⟩
    exact ⟨hworkspaceId, henvName, hownerId⟩
  · rintro ⟨hworkspaceId, henvName, hownerId⟩
    exact ⟨_, hworkspaceId, _, henvName, _, hownerId, rfl⟩

/-- What an owner is read from, whatever form the record has. -/
theorem ownership_fields {name : String} {value : Json} {owner : Ownership}
    (h : Ownership.decode name value = .ok owner) :
    Decode.optionalField Id.decode (fieldOf ownershipFields value "workspaceId") =
        .ok owner.workspaceId ∧
      Decode.optionalField Decode.text (fieldOf ownershipFields value "envName") =
        .ok owner.envName ∧
      Decode.optionalField Id.decode (fieldOf ownershipFields value "ownerId") =
        .ok owner.ownerId := by
  rcases Decode.record_eq_ok.mp h with ⟨members, rfl, h⟩ | ⟨items, rfl, -, h⟩
  · obtain ⟨henvName, hownerId, hworkspaceId⟩ := ownership_ofMembers_eq_ok.mp h
    exact ⟨hworkspaceId, henvName, hownerId⟩
  · exact ownership_ofItems_eq_ok.mp h

theorem toJson_ownership {name : String} {value : Json} {owner : Ownership}
    (h : Ownership.decode name value = .ok owner) :
    owner.toJson = settledRecord ownershipFields value := by
  obtain ⟨hworkspaceId, henvName, hownerId⟩ := ownership_fields h
  rw [settledRecord, object_listed ["envName", "ownerId", "workspaceId"] (by decide) (by decide)]
  rw [Ownership.toJson, Encode.optional_of_map (restores_text.written henvName),
    Encode.optional_of_map (restores_id.written hownerId),
    Encode.optional_of_map (restores_id.written hworkspaceId)]
  simp [listed]

theorem decode_settled_ownership {name : String} {value : Json} {owner : Ownership}
    (h : Ownership.decode name value = .ok owner) :
    Ownership.decode name (settledRecord ownershipFields value) = .ok owner := by
  obtain ⟨hworkspaceId, henvName, hownerId⟩ := ownership_fields h
  have hlookup {field : String} (hfield : field ∈ ownershipFields) :=
    lookup_settledRecord (by decide : ownershipFields.Nodup) value hfield
  refine Decode.record_eq_ok.mpr (.inl ⟨_, rfl, ownership_ofMembers_eq_ok.mpr ?_⟩)
  rw [hlookup (by decide), hlookup (by decide), hlookup (by decide)]
  simp only [Decode.optionalField_unlessNull]
  exact ⟨henvName, hownerId, hworkspaceId⟩

theorem restores_ownership (name : String) :
    Restores (Decode.optionalField (Ownership.decode name)) (Option.map Ownership.toJson)
      (optional (settledRecord ownershipFields)) := by
  refine restores_optional toJson_ownership ?_ (by simp [Ownership.toJson, Json.object])
  intro value owner h
  rw [toJson_ownership h]
  exact decode_settled_ownership h

theorem organization_ofMembers_eq_ok {members : List (String × Json)}
    {organization : Organization} :
    Organization.ofMembers members = .ok organization ↔
      members.lookup "id" = some organization.id.toJson ∧
      Decode.optionalField Decode.text (members.lookup "name") = .ok organization.name ∧
      Decode.optionalField Decode.text (members.lookup "qualifiedName") =
        .ok organization.qualifiedName := by
  simp only [Organization.ofMembers, bind_eq_ok, pure, Except.pure, Except.ok.injEq,
    Decode.required_eq_ok]
  constructor
  · rintro ⟨id?, hid, name, hname, qualifiedName, hqualifiedName, id, rfl, rfl⟩
    exact ⟨requiredId_eq_ok.mp hid, hname, hqualifiedName⟩
  · rintro ⟨hid, hname, hqualifiedName⟩
    exact ⟨_, requiredId_eq_ok.mpr hid, _, hname, _, hqualifiedName, _, rfl, rfl⟩

theorem organization_ofItems_eq_ok {items : List Json} {organization : Organization} :
    Organization.ofItems items = .ok organization ↔
      items[0]? = some organization.id.toJson ∧
      Decode.optionalField Decode.text items[1]? = .ok organization.name ∧
      Decode.optionalField Decode.text items[2]? = .ok organization.qualifiedName := by
  unfold Organization.ofItems
  cases items[0]? with
  | none => simp [throw, throwThe, MonadExceptOf.throw, bind, Except.bind]
  | some value =>
    simp only [bind_eq_ok, pure, Except.pure, Except.ok.injEq, decode_id_eq_ok, Option.some.injEq]
    constructor
    · rintro ⟨id, hid, name, hname, qualifiedName, hqualifiedName, rfl⟩
      exact ⟨hid, hname, hqualifiedName⟩
    · rintro ⟨hid, hname, hqualifiedName⟩
      exact ⟨_, hid, _, hname, _, hqualifiedName, rfl⟩

/-- What an organization is read from, whatever form the record has. -/
theorem organization_fields {value : Json} {organization : Organization}
    (h : Organization.decode value = .ok organization) :
    fieldOf organizationFields value "id" = some organization.id.toJson ∧
      Decode.optionalField Decode.text (fieldOf organizationFields value "name") =
        .ok organization.name ∧
      Decode.optionalField Decode.text (fieldOf organizationFields value "qualifiedName") =
        .ok organization.qualifiedName := by
  rcases Decode.record_eq_ok.mp h with ⟨members, rfl, h⟩ | ⟨items, rfl, -, h⟩
  · exact organization_ofMembers_eq_ok.mp h
  · exact organization_ofItems_eq_ok.mp h

theorem toJson_organization {value : Json} {organization : Organization}
    (h : Organization.decode value = .ok organization) :
    organization.toJson = settledRecord organizationFields value := by
  obtain ⟨hid, hname, hqualifiedName⟩ := organization_fields h
  have hidMember : [("id", organization.id.toJson)] = Encode.optional "id" id
      (Json.unlessNull (fieldOf organizationFields value "id")) := by
    rw [hid, Json.unlessNull_some (by simp [Id.toJson])]
    rfl
  rw [Organization.toJson, hidMember, Encode.optional_of_map (restores_text.written hname),
    Encode.optional_of_map (restores_text.written hqualifiedName), settledRecord]
  simp [listed, organizationFields]

theorem decode_settled_organization {value : Json} {organization : Organization}
    (h : Organization.decode value = .ok organization) :
    Organization.decode (settledRecord organizationFields value) = .ok organization := by
  obtain ⟨hid, hname, hqualifiedName⟩ := organization_fields h
  have hlookup {field : String} (hfield : field ∈ organizationFields) :=
    lookup_settledRecord (by decide : organizationFields.Nodup) value hfield
  have hidJson : organization.id.toJson ≠ .null := by simp [Id.toJson]
  refine Decode.record_eq_ok.mpr (.inl ⟨_, rfl, organization_ofMembers_eq_ok.mpr ?_⟩)
  rw [hlookup (by decide), hlookup (by decide), hlookup (by decide), hid,
    Json.unlessNull_some hidJson]
  simp only [Decode.optionalField_unlessNull]
  exact ⟨trivial, hname, hqualifiedName⟩

theorem restores_organization :
    Restores (Decode.optionalField Organization.decode) (Option.map Organization.toJson)
      (optional (settledRecord organizationFields)) := by
  refine restores_optional toJson_organization ?_ (by simp [Organization.toJson, Json.object])
  intro value organization h
  rw [toJson_organization h]
  exact decode_settled_organization h

end Event

end WorkspaceLink
