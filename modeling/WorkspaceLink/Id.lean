import WorkspaceLink.Decode

/-!
# Identifiers

Workspaces, organizations, users and client connections are named by texts that the server chooses.
The kind is part of the type, so that one kind of identifier is never taken for another.
-/
namespace WorkspaceLink

inductive IdKind where
  | workspace
  | organization
  | user
  | client
  deriving DecidableEq, Repr

structure Id (kind : IdKind) where
  text : String
  deriving DecidableEq, Repr, Inhabited

abbrev WorkspaceId := Id .workspace
abbrev OrganizationId := Id .organization
abbrev UserId := Id .user
abbrev ClientId := Id .client

namespace Id

/-- Read an identifier: any text. -/
def decode {kind : IdKind} (value : Json) : Except DecodeError (Id kind) :=
  (Decode.text value).map Id.mk

def toJson {kind : IdKind} (id : Id kind) : Json := .str id.text

@[simp] theorem decode_toJson {kind : IdKind} (id : Id kind) : decode id.toJson = .ok id := rfl

/-- Identifiers in the order of their UTF-8 bytes, which is the order of their characters. -/
def sort {kind : IdKind} (ids : List (Id kind)) : List (Id kind) :=
  ids.mergeSort fun a b => decide (a.text ≤ b.text)

end Id

end WorkspaceLink
