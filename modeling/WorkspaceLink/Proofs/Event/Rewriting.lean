import WorkspaceLink.Proofs.Event.Values

/-!
# Events that are read and written

An event keeps the members that it does not model, so writing it gives back what was sent: under
every name stands what its rule makes of what stood there, and under all other names what stood
there before. What is written reads as the same event.
-/
namespace WorkspaceLink.Event

/-! ### Kinds of events -/

/-- The five kinds of payloads. -/
inductive Kind where
  | workspaceStatus
  | machineStatus
  | log
  | organization
  | membership
  deriving DecidableEq, Repr

namespace Kind

def Payload : Kind → Type
  | workspaceStatus => WorkspaceStatusEvent
  | machineStatus => MachineStatusEvent
  | log => LogEvent
  | organization => OrganizationEvent
  | membership => MembershipEvent

def decode : (kind : Kind) → Json → Except DecodeError kind.Payload
  | workspaceStatus => WorkspaceStatusEvent.decode
  | machineStatus => MachineStatusEvent.decode
  | log => LogEvent.decode
  | organization => OrganizationEvent.decode
  | membership => MembershipEvent.decode

def toJson : (kind : Kind) → kind.Payload → Json
  | workspaceStatus => WorkspaceStatusEvent.toJson
  | machineStatus => MachineStatusEvent.toJson
  | log => LogEvent.toJson
  | organization => OrganizationEvent.toJson
  | membership => MembershipEvent.toJson

/-- The modelled members with their rules. -/
def rules : Kind → List (String × (Option Json → Option Json))
  | workspaceStatus =>
    [("workspaceId", id), ("status", optional settledStatus),
      ("prevStatus", optional settledStatus), ("transitional", optional id),
      ("error", optional id)]
  | machineStatus =>
    [("eventType", optional id), ("machineName", optional id),
      ("identity", optional (settledRecord ownershipFields)), ("workspaceId", optional id),
      ("error", optional id)]
  | log =>
    [("runtimeId", optional (settledRecord ownershipFields)), ("machineName", optional id),
      ("text", orEmpty), ("time", optional id), ("stream", optional id),
      ("installer", optional id)]
  | organization =>
    [("type", optional id), ("organization", optional (settledRecord organizationFields)),
      ("initiator", optional id)]
  | membership =>
    [("type", optional id), ("organization", optional (settledRecord organizationFields)),
      ("member", optional id), ("initiator", optional id)]

def names (kind : Kind) : List String := kind.rules.map Prod.fst

/-- The rule for a name; a member that is not modelled stays as it was sent. -/
def rule (kind : Kind) (name : String) : Option Json → Option Json :=
  (kind.rules.lookup name).getD id

theorem nodup_names (kind : Kind) : kind.names.Nodup := by
  cases kind <;> decide

theorem rule_of_not_mem {kind : Kind} {name : String} (h : name ∉ kind.names) :
    kind.rule name = id := by
  rw [rule, Members.lookup_eq_none h]
  rfl

theorem keepsCanonical_rule (kind : Kind) (name : String) : KeepsCanonical (kind.rule name) := by
  have hsame : KeepsCanonical id := fun _ hsent => hsent
  have htext : KeepsCanonical (optional id) := keepsCanonical_optional fun _ h => h
  have hstatus := keepsCanonical_optional canonical_settledStatus
  have hrecord (fields : List String) := keepsCanonical_optional (canonical_settledRecord fields)
  have hrules : ∀ entry ∈ kind.rules, KeepsCanonical entry.2 := by
    cases kind <;> simp [rules, hsame, htext, hstatus, hrecord, keepsCanonical_orEmpty]
  cases hlookup : kind.rules.lookup name with
  | none => simpa [rule, hlookup] using hsame
  | some given =>
    have hmem := (Members.lookup_eq_some_iff kind.nodup_names).mp hlookup
    simpa [rule, hlookup] using hrules _ hmem

end Kind

/-! ### Members of a written event -/

section Written

variable {kind : Kind} {members : List (String × Json)}

/-- The members that are written for an event that was read from these members. -/
def writtenMembers (kind : Kind) (members : List (String × Json)) : List (String × Json) :=
  Members.ofList ((listed kind.names fun name => kind.rule name (members.lookup name)) ++
    extraMembers kind.names members)

theorem lookup_extraMembers (h : (members.map Prod.fst).Nodup) (names : List String)
    (name : String) : (extraMembers names members).lookup name =
      if name ∈ names then none else members.lookup name := by
  rw [extraMembers, Members.lookup_filter h]
  cases members.lookup name <;> by_cases hname : name ∈ names <;> simp [hname]

/-- Under every name stands what its rule makes of what was sent there. -/
theorem lookup_writtenMembers (h : (members.map Prod.fst).Pairwise (· < ·)) (name : String) :
    (writtenMembers kind members).lookup name = kind.rule name (members.lookup name) := by
  have hnodup := Members.nodup_of_increasing h
  -- The modelled members and the kept ones have no name in common.
  have hpairs : (((listed kind.names fun name => kind.rule name (members.lookup name)) ++
      extraMembers kind.names members).map Prod.fst).Nodup := by
    rw [List.map_append, List.nodup_append]
    refine ⟨nodup_listed kind.nodup_names, hnodup.sublist (List.filter_sublist.map _), ?_⟩
    rintro _ hmodelled extra hextra rfl
    obtain ⟨entry, hentry, rfl⟩ := List.mem_map.mp hextra
    obtain ⟨other, hother, hname⟩ := List.mem_map.mp hmodelled
    have hnames := (mem_listed.mp hother).1
    simp [extraMembers, ← hname, hnames] at hentry
  rw [writtenMembers, Members.lookup_ofList hpairs, List.lookup_append,
    lookup_extraMembers hnodup, lookup_listed kind.nodup_names]
  split
  next hname => simp
  next hname => simp [Kind.rule_of_not_mem hname]

theorem extraMembers_writtenMembers (h : (members.map Prod.fst).Pairwise (· < ·)) :
    extraMembers kind.names (writtenMembers kind members) = extraMembers kind.names members := by
  have hwritten : ((writtenMembers kind members).map Prod.fst).Pairwise (· < ·) :=
    Members.increasing_ofList _
  refine Members.ext_lookup (Members.increasing_filter hwritten _)
    (Members.increasing_filter h _) ?_
  intro name
  rw [lookup_extraMembers (Members.nodup_of_increasing hwritten),
    lookup_extraMembers (Members.nodup_of_increasing h)]
  split
  next => rfl
  next hname => rw [lookup_writtenMembers h, Kind.rule_of_not_mem hname, id_eq]

theorem canonical_writtenMembers (h : Json.Canonical (.obj members)) :
    Json.Canonical (.obj (writtenMembers kind members)) := by
  have hwritten : ((writtenMembers kind members).map Prod.fst).Pairwise (· < ·) :=
    Members.increasing_ofList _
  refine ⟨hwritten, Json.canonicalMembers_iff.mpr ?_⟩
  rintro ⟨name, value⟩ hentry
  have hlookup := (Members.lookup_eq_some_iff (Members.nodup_of_increasing hwritten)).mpr hentry
  rw [lookup_writtenMembers h.1] at hlookup
  refine kind.keepsCanonical_rule name _ ?_ value hlookup
  intro sent hsent
  have hmem := (Members.lookup_eq_some_iff (Members.nodup_of_increasing h.1)).mp hsent
  exact Json.canonicalMembers_iff.mp h.2 _ hmem

/-- Which members are not modelled does not depend on the order of the modelled names. -/
theorem extraMembers_congr {names : List String} (others : List String) (h : names.Perm others)
    (members : List (String × Json)) :
    extraMembers names members = extraMembers others members := by
  refine List.filter_congr ?_
  intro member _
  simp [h.mem_iff]

end Written

/-! ### Reading each kind -/

variable {members : List (String × Json)}

theorem workspaceStatus_eq_ok {event : WorkspaceStatusEvent} :
    WorkspaceStatusEvent.ofMembers members = .ok event ↔
      Decode.optionalField Decode.text (members.lookup "error") = .ok event.error ∧
      Decode.optionalField Status.decode (members.lookup "prevStatus") = .ok event.prevStatus ∧
      Decode.optionalField Status.decode (members.lookup "status") = .ok event.status ∧
      Decode.optionalField Decode.flag (members.lookup "transitional") = .ok event.transitional ∧
      members.lookup "workspaceId" = some event.workspaceId.toJson ∧
      event.extra = extraMembers WorkspaceStatusEvent.modelled members := by
  simp only [WorkspaceStatusEvent.ofMembers, bind_eq_ok, pure, Except.pure, Except.ok.injEq,
    Decode.required_eq_ok]
  constructor
  · rintro ⟨error, herror, prevStatus, hprevStatus, status, hstatus, transitional, htransitional,
      workspaceId?, hworkspaceId, workspaceId, rfl, rfl⟩
    exact ⟨herror, hprevStatus, hstatus, htransitional, requiredId_eq_ok.mp hworkspaceId, rfl⟩
  · rintro ⟨herror, hprevStatus, hstatus, htransitional, hworkspaceId, hextra⟩
    refine ⟨_, herror, _, hprevStatus, _, hstatus, _, htransitional, _,
      requiredId_eq_ok.mpr hworkspaceId, _, rfl, ?_⟩
    rw [← hextra]

theorem machineStatus_eq_ok {event : MachineStatusEvent} :
    MachineStatusEvent.ofMembers members = .ok event ↔
      Decode.optionalField Decode.text (members.lookup "error") = .ok event.error ∧
      Decode.optionalField Decode.text (members.lookup "eventType") = .ok event.eventType ∧
      Decode.optionalField (Ownership.decode "MachineIdentity") (members.lookup "identity") =
        .ok event.identity ∧
      Decode.optionalField Decode.text (members.lookup "machineName") = .ok event.machineName ∧
      Decode.optionalField Id.decode (members.lookup "workspaceId") = .ok event.workspaceId ∧
      event.extra = extraMembers MachineStatusEvent.modelled members := by
  simp only [MachineStatusEvent.ofMembers, bind_eq_ok, pure, Except.pure, Except.ok.injEq]
  constructor
  · rintro ⟨error, herror, eventType, heventType, identity, hidentity, machineName, hmachineName,
      workspaceId, hworkspaceId, rfl⟩
    exact ⟨herror, heventType, hidentity, hmachineName, hworkspaceId, rfl⟩
  · rintro ⟨herror, heventType, hidentity, hmachineName, hworkspaceId, hextra⟩
    refine ⟨_, herror, _, heventType, _, hidentity, _, hmachineName, _, hworkspaceId, ?_⟩
    rw [← hextra]

theorem log_eq_ok {event : LogEvent} :
    LogEvent.ofMembers members = .ok event ↔
      Decode.optionalField Decode.text (members.lookup "installer") = .ok event.installer ∧
      Decode.optionalField Decode.text (members.lookup "machineName") = .ok event.machineName ∧
      Decode.optionalField (Ownership.decode "RuntimeIdentity") (members.lookup "runtimeId") =
        .ok event.runtimeId ∧
      Decode.optionalField Decode.text (members.lookup "stream") = .ok event.stream ∧
      Decode.field Decode.text "" (members.lookup "text") = .ok event.text ∧
      Decode.optionalField Decode.text (members.lookup "time") = .ok event.time ∧
      event.extra = extraMembers LogEvent.modelled members := by
  simp only [LogEvent.ofMembers, bind_eq_ok, pure, Except.pure, Except.ok.injEq]
  constructor
  · rintro ⟨installer, hinstaller, machineName, hmachineName, runtimeId, hruntimeId, stream,
      hstream, text, htext, time, htime, rfl⟩
    exact ⟨hinstaller, hmachineName, hruntimeId, hstream, htext, htime, rfl⟩
  · rintro ⟨hinstaller, hmachineName, hruntimeId, hstream, htext, htime, hextra⟩
    refine ⟨_, hinstaller, _, hmachineName, _, hruntimeId, _, hstream, _, htext, _, htime, ?_⟩
    rw [← hextra]

theorem organization_eq_ok {event : OrganizationEvent} :
    OrganizationEvent.ofMembers members = .ok event ↔
      Decode.optionalField Decode.text (members.lookup "initiator") = .ok event.initiator ∧
      Decode.optionalField Organization.decode (members.lookup "organization") =
        .ok event.organization ∧
      Decode.optionalField Decode.text (members.lookup "type") = .ok event.eventType ∧
      event.extra = extraMembers OrganizationEvent.modelled members := by
  simp only [OrganizationEvent.ofMembers, bind_eq_ok, pure, Except.pure, Except.ok.injEq]
  constructor
  · rintro ⟨initiator, hinitiator, organization, horganization, eventType, heventType, rfl⟩
    exact ⟨hinitiator, horganization, heventType, rfl⟩
  · rintro ⟨hinitiator, horganization, heventType, hextra⟩
    refine ⟨_, hinitiator, _, horganization, _, heventType, ?_⟩
    rw [← hextra]

theorem membership_eq_ok {event : MembershipEvent} :
    MembershipEvent.ofMembers members = .ok event ↔
      Decode.optionalField Decode.text (members.lookup "initiator") = .ok event.initiator ∧
      Decode.optionalField Id.decode (members.lookup "member") = .ok event.member ∧
      Decode.optionalField Organization.decode (members.lookup "organization") =
        .ok event.organization ∧
      Decode.optionalField Decode.text (members.lookup "type") = .ok event.eventType ∧
      event.extra = extraMembers MembershipEvent.modelled members := by
  simp only [MembershipEvent.ofMembers, bind_eq_ok, pure, Except.pure, Except.ok.injEq]
  constructor
  · rintro ⟨initiator, hinitiator, member, hmember, organization, horganization, eventType,
      heventType, rfl⟩
    exact ⟨hinitiator, hmember, horganization, heventType, rfl⟩
  · rintro ⟨hinitiator, hmember, horganization, heventType, hextra⟩
    refine ⟨_, hinitiator, _, hmember, _, horganization, _, heventType, ?_⟩
    rw [← hextra]

/-! ### Writing and reading again -/

theorem workspaceStatus_toJson {event : WorkspaceStatusEvent}
    (h : WorkspaceStatusEvent.ofMembers members = .ok event) :
    event.toJson = .obj (writtenMembers .workspaceStatus members) := by
  obtain ⟨herror, hprevStatus, hstatus, htransitional, hworkspaceId, hextra⟩ :=
    workspaceStatus_eq_ok.mp h
  -- The identifier has to be there, so it is written as a member that was sent.
  have hid : [("workspaceId", event.workspaceId.toJson)] =
      Encode.optional "workspaceId" id (members.lookup "workspaceId") := by
    rw [hworkspaceId]
    rfl
  rw [WorkspaceStatusEvent.toJson, hid, hextra,
    extraMembers_congr Kind.workspaceStatus.names (by decide),
    Encode.optional_of_map (restores_status.written hstatus),
    Encode.optional_of_map (restores_status.written hprevStatus),
    Encode.optional_of_map (restores_flag.written htransitional),
    Encode.optional_of_map (restores_text.written herror)]
  simp [writtenMembers, listed, Kind.names, Kind.rules, Kind.rule, Json.object, List.lookup_cons]

theorem machineStatus_toJson {event : MachineStatusEvent}
    (h : MachineStatusEvent.ofMembers members = .ok event) :
    event.toJson = .obj (writtenMembers .machineStatus members) := by
  obtain ⟨herror, heventType, hidentity, hmachineName, hworkspaceId, hextra⟩ :=
    machineStatus_eq_ok.mp h
  rw [MachineStatusEvent.toJson, hextra,
    extraMembers_congr Kind.machineStatus.names (by decide),
    Encode.optional_of_map (restores_text.written heventType),
    Encode.optional_of_map (restores_text.written hmachineName),
    Encode.optional_of_map ((restores_ownership _).written hidentity),
    Encode.optional_of_map (restores_id.written hworkspaceId),
    Encode.optional_of_map (restores_text.written herror)]
  simp [writtenMembers, listed, Kind.names, Kind.rules, Kind.rule, Json.object, List.lookup_cons]

theorem log_toJson {event : LogEvent} (h : LogEvent.ofMembers members = .ok event) :
    event.toJson = .obj (writtenMembers .log members) := by
  obtain ⟨hinstaller, hmachineName, hruntimeId, hstream, htext, htime, hextra⟩ := log_eq_ok.mp h
  have htextMember : [("text", .str event.text)] =
      Encode.optional "text" id (orEmpty (members.lookup "text")) := by
    rw [← restores_orEmpty.written htext]
    rfl
  rw [LogEvent.toJson, htextMember, hextra,
    extraMembers_congr Kind.log.names (by decide),
    Encode.optional_of_map ((restores_ownership _).written hruntimeId),
    Encode.optional_of_map (restores_text.written hmachineName),
    Encode.optional_of_map (restores_text.written htime),
    Encode.optional_of_map (restores_text.written hstream),
    Encode.optional_of_map (restores_text.written hinstaller)]
  simp [writtenMembers, listed, Kind.names, Kind.rules, Kind.rule, Json.object, List.lookup_cons]

theorem organization_toJson {event : OrganizationEvent}
    (h : OrganizationEvent.ofMembers members = .ok event) :
    event.toJson = .obj (writtenMembers .organization members) := by
  obtain ⟨hinitiator, horganization, heventType, hextra⟩ := organization_eq_ok.mp h
  rw [OrganizationEvent.toJson, hextra,
    extraMembers_congr Kind.organization.names (by decide),
    Encode.optional_of_map (restores_text.written heventType),
    Encode.optional_of_map (restores_organization.written horganization),
    Encode.optional_of_map (restores_text.written hinitiator)]
  simp [writtenMembers, listed, Kind.names, Kind.rules, Kind.rule, Json.object, List.lookup_cons]

theorem membership_toJson {event : MembershipEvent}
    (h : MembershipEvent.ofMembers members = .ok event) :
    event.toJson = .obj (writtenMembers .membership members) := by
  obtain ⟨hinitiator, hmember, horganization, heventType, hextra⟩ := membership_eq_ok.mp h
  rw [MembershipEvent.toJson, hextra,
    extraMembers_congr Kind.membership.names (by decide),
    Encode.optional_of_map (restores_text.written heventType),
    Encode.optional_of_map (restores_organization.written horganization),
    Encode.optional_of_map (restores_id.written hmember),
    Encode.optional_of_map (restores_text.written hinitiator)]
  simp [writtenMembers, listed, Kind.names, Kind.rules, Kind.rule, Json.object, List.lookup_cons]

/-- What is written for an event that was read. -/
theorem Kind.toJson_eq {kind : Kind} {event : kind.Payload}
    (h : kind.decode (.obj members) = .ok event) :
    kind.toJson event = .obj (writtenMembers kind members) := by
  cases kind with
  | workspaceStatus => exact workspaceStatus_toJson h
  | machineStatus => exact machineStatus_toJson h
  | log => exact log_toJson h
  | organization => exact organization_toJson h
  | membership => exact membership_toJson h

/-- What is written for an event reads as the same event. -/
theorem Kind.decode_writtenMembers {kind : Kind} {event : kind.Payload}
    (h : kind.decode (.obj members) = .ok event)
    (hmembers : (members.map Prod.fst).Pairwise (· < ·)) :
    kind.decode (.obj (writtenMembers kind members)) = .ok event := by
  have hwritten (name : String) {rule : Option Json → Option Json} (hrule : kind.rule name = rule) :
      (writtenMembers kind members).lookup name = rule (members.lookup name) :=
    hrule ▸ lookup_writtenMembers hmembers name
  have hextra (modelled : List String) (hnames : modelled.Perm kind.names) :
      extraMembers modelled (writtenMembers kind members) = extraMembers modelled members := by
    rw [extraMembers_congr _ hnames, extraMembers_congr _ hnames,
      extraMembers_writtenMembers hmembers]
  cases kind with
  | workspaceStatus =>
    obtain ⟨herror, hprevStatus, hstatus, htransitional, hworkspaceId, hkept⟩ :=
      workspaceStatus_eq_ok.mp h
    refine workspaceStatus_eq_ok.mpr ⟨?_, ?_, ?_, ?_, ?_, ?_⟩
    · exact hwritten "error" rfl ▸ restores_text.reread herror
    · exact hwritten "prevStatus" rfl ▸ restores_status.reread hprevStatus
    · exact hwritten "status" rfl ▸ restores_status.reread hstatus
    · exact hwritten "transitional" rfl ▸ restores_flag.reread htransitional
    · exact hwritten "workspaceId" rfl ▸ hworkspaceId
    · exact hkept.trans (hextra _ (by decide)).symm
  | machineStatus =>
    obtain ⟨herror, heventType, hidentity, hmachineName, hworkspaceId, hkept⟩ :=
      machineStatus_eq_ok.mp h
    refine machineStatus_eq_ok.mpr ⟨?_, ?_, ?_, ?_, ?_, ?_⟩
    · exact hwritten "error" rfl ▸ restores_text.reread herror
    · exact hwritten "eventType" rfl ▸ restores_text.reread heventType
    · exact hwritten "identity" rfl ▸ (restores_ownership _).reread hidentity
    · exact hwritten "machineName" rfl ▸ restores_text.reread hmachineName
    · exact hwritten "workspaceId" rfl ▸ restores_id.reread hworkspaceId
    · exact hkept.trans (hextra _ (by decide)).symm
  | log =>
    obtain ⟨hinstaller, hmachineName, hruntimeId, hstream, htext, htime, hkept⟩ := log_eq_ok.mp h
    refine log_eq_ok.mpr ⟨?_, ?_, ?_, ?_, ?_, ?_, ?_⟩
    · exact hwritten "installer" rfl ▸ restores_text.reread hinstaller
    · exact hwritten "machineName" rfl ▸ restores_text.reread hmachineName
    · exact hwritten "runtimeId" rfl ▸ (restores_ownership _).reread hruntimeId
    · exact hwritten "stream" rfl ▸ restores_text.reread hstream
    · exact hwritten "text" rfl ▸ restores_orEmpty.reread htext
    · exact hwritten "time" rfl ▸ restores_text.reread htime
    · exact hkept.trans (hextra _ (by decide)).symm
  | organization =>
    obtain ⟨hinitiator, horganization, heventType, hkept⟩ := organization_eq_ok.mp h
    refine organization_eq_ok.mpr ⟨?_, ?_, ?_, ?_⟩
    · exact hwritten "initiator" rfl ▸ restores_text.reread hinitiator
    · exact hwritten "organization" rfl ▸ restores_organization.reread horganization
    · exact hwritten "type" rfl ▸ restores_text.reread heventType
    · exact hkept.trans (hextra _ (by decide)).symm
  | membership =>
    obtain ⟨hinitiator, hmember, horganization, heventType, hkept⟩ := membership_eq_ok.mp h
    refine membership_eq_ok.mpr ⟨?_, ?_, ?_, ?_, ?_⟩
    · exact hwritten "initiator" rfl ▸ restores_text.reread hinitiator
    · exact hwritten "member" rfl ▸ restores_id.reread hmember
    · exact hwritten "organization" rfl ▸ restores_organization.reread horganization
    · exact hwritten "type" rfl ▸ restores_text.reread heventType
    · exact hkept.trans (hextra _ (by decide)).symm

/-- Only objects are events. -/
theorem Kind.obj_of_decode {kind : Kind} {sent : Json} {event : kind.Payload}
    (h : kind.decode sent = .ok event) : ∃ members, sent = .obj members := by
  cases kind <;> (obtain ⟨members, rfl, -⟩ := Decode.openRecord_eq_ok.mp h; exact ⟨members, rfl⟩)

/-- An event that is written says what was sent: it reads as the same event, under each modelled
name stands what the rule makes of what was sent there, and everything else stands as it was
sent. -/
theorem events_survive_rewriting (kind : Kind) {sent : Json} {event : kind.Payload}
    (hsent : sent.Canonical) (h : kind.decode sent = .ok event) :
    kind.decode (kind.toJson event) = .ok event ∧
      (∃ written, kind.toJson event = .obj written) ∧ (kind.toJson event).Canonical ∧
      ∀ name, (kind.toJson event).get? name = kind.rule name (sent.get? name) := by
  obtain ⟨members, rfl⟩ := Kind.obj_of_decode h
  rw [Kind.toJson_eq h]
  exact ⟨Kind.decode_writtenMembers h hsent.1, ⟨_, rfl⟩, canonical_writtenMembers hsent,
    lookup_writtenMembers hsent.1⟩

/-- The status of a machine whose identity is sent as an array, with a member that is not modelled
and one that is `null`. -/
def positionalIdentity : Json :=
  .obj [("error", .null), ("identity", .arr [.str "w1", .null, .str "u1"]), ("serverTime", .nat 17)]

theorem events_survive_rewriting_positional_identity :
    positionalIdentity.Canonical ∧
      ∃ event, Kind.machineStatus.decode positionalIdentity = .ok event ∧
        Kind.machineStatus.decode (Kind.machineStatus.toJson event) = .ok event ∧
        (Kind.machineStatus.toJson event).get? "error" = none ∧
        (Kind.machineStatus.toJson event).get? "identity" =
          some (.object [("workspaceId", .str "w1"), ("ownerId", .str "u1")]) ∧
        (Kind.machineStatus.toJson event).get? "serverTime" = some (.nat 17) := by
  have hsent : positionalIdentity.Canonical :=
    ⟨by decide, by simp [Json.Canonical, Json.CanonicalMembers, Json.CanonicalItems, Json.nat]⟩
  have hdecode : Kind.machineStatus.decode positionalIdentity =
      .ok ({ identity := some { workspaceId := some ⟨"w1"⟩, ownerId := some ⟨"u1"⟩ }
             extra := [("serverTime", .nat 17)] } : MachineStatusEvent) := rfl
  obtain ⟨hagain, -, -, hmembers⟩ := events_survive_rewriting .machineStatus hsent hdecode
  refine ⟨hsent, _, hdecode, hagain, ?_, ?_, ?_⟩
  · rw [hmembers]
    rfl
  · rw [hmembers]
    rfl
  · rw [hmembers]
    rfl

end WorkspaceLink.Event
