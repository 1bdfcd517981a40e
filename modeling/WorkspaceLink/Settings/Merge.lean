import WorkspaceLink.Json.Basic

/-!
# Merging values

One JSON value laid over another: objects merge member by member, a `null` member of the upper
object leaves the lower one's value in place, and everything else is replaced.
-/
namespace WorkspaceLink.Json

mutual

/-- Lay `source` over `target`. -/
def merge (target : Json) : Json → Json
  | .obj source =>
    match target with
    | .obj members => .obj (mergeMembers members source)
    | _ => .obj source
  | source => source

/-- Lay the members of an object over those of another, one after the other. -/
def mergeMembers (target : List (String × Json)) : List (String × Json) → List (String × Json)
  | [] => target
  | (name, value) :: rest =>
    match value with
    | .null => mergeMembers target rest
    | _ =>
      let merged :=
        match target.lookup name with
        | some below => merge below value
        | none => value
      mergeMembers (Members.insert name merged target) rest

end

end WorkspaceLink.Json
