import WorkspaceLink.Id

/-!
# Records inside events

Who a machine or a runtime belongs to, and which organization an event is about. Members that are
not listed here are not kept.
-/
namespace WorkspaceLink

/-- The owner of a machine or of a workspace runtime. -/
structure Ownership where
  workspaceId : Option WorkspaceId := none
  envName : Option String := none
  ownerId : Option UserId := none
  deriving DecidableEq, Repr, Inhabited

namespace Ownership

def ofMembers (members : List (String × Json)) : Except DecodeError Ownership := do
  let envName ← Decode.optionalField Decode.text (members.lookup "envName")
  let ownerId ← Decode.optionalField Id.decode (members.lookup "ownerId")
  let workspaceId ← Decode.optionalField Id.decode (members.lookup "workspaceId")
  return { workspaceId, envName, ownerId }

def ofItems (items : List Json) : Except DecodeError Ownership := do
  let workspaceId ← Decode.optionalField Id.decode items[0]?
  let envName ← Decode.optionalField Decode.text items[1]?
  let ownerId ← Decode.optionalField Id.decode items[2]?
  return { workspaceId, envName, ownerId }

def decode (name : String) : Json → Except DecodeError Ownership :=
  Decode.record name 3 ofMembers ofItems

def toJson (owner : Ownership) : Json :=
  .object (Encode.optional "envName" Json.str owner.envName ++
    Encode.optional "ownerId" Id.toJson owner.ownerId ++
    Encode.optional "workspaceId" Id.toJson owner.workspaceId)

end Ownership

structure Organization where
  id : OrganizationId
  name : Option String := none
  qualifiedName : Option String := none
  deriving DecidableEq, Repr, Inhabited

namespace Organization

def ofMembers (members : List (String × Json)) : Except DecodeError Organization := do
  let id ← Decode.field (fun v => (Id.decode v).map some) none (members.lookup "id")
  let name ← Decode.optionalField Decode.text (members.lookup "name")
  let qualifiedName ← Decode.optionalField Decode.text (members.lookup "qualifiedName")
  return { id := ← Decode.required "id" id, name, qualifiedName }

def ofItems (items : List Json) : Except DecodeError Organization := do
  let id ←
    match items[0]? with
    | some value => Id.decode value
    | none => throw (.length 0 (.recordOf "OrganizationRef" 3))
  let name ← Decode.optionalField Decode.text items[1]?
  let qualifiedName ← Decode.optionalField Decode.text items[2]?
  return { id, name, qualifiedName }

def decode : Json → Except DecodeError Organization :=
  Decode.record "OrganizationRef" 3 ofMembers ofItems

def toJson (organization : Organization) : Json :=
  .object ([("id", organization.id.toJson)] ++
    Encode.optional "name" Json.str organization.name ++
    Encode.optional "qualifiedName" Json.str organization.qualifiedName)

end Organization

end WorkspaceLink
