import WorkspaceLink.Proofs.Json.Canonical
import WorkspaceLink.Decode

/-!
# What decoders accept

Each decoder in terms of the values that it accepts and of what it makes of them, and optional
members in terms of what is found under their names.
-/
namespace WorkspaceLink

/-- The value that is there, unless it is `null`. -/
def Json.unlessNull (value? : Option Json) : Option Json :=
  value?.filter fun value => value ≠ .null

namespace Json

@[simp] theorem unlessNull_none : unlessNull none = none := rfl

@[simp] theorem unlessNull_null : unlessNull (some .null) = none := rfl

@[simp] theorem unlessNull_some {value : Json} (h : value ≠ .null) :
    unlessNull (some value) = some value := by
  simp [unlessNull, h]

end Json

namespace Decode

variable {α : Type} {decode : Json → Except DecodeError α}

theorem text_eq_ok {value : Json} {s : String} : text value = .ok s ↔ value = .str s := by
  cases value <;> simp [text]

theorem flag_eq_ok {value : Json} {b : Bool} : flag value = .ok b ↔ value = .bool b := by
  cases value <;> simp [flag]

theorem integer_eq_ok {kind : Word} {value : Json} {n : Int} :
    integer kind value = .ok n ↔
      value = .num (.int n) ∧ kind.least ≤ n ∧ n ≤ kind.greatest := by
  unfold integer
  split
  next m =>
    split
    next hrange =>
      simp only [Except.ok.injEq, Json.num.injEq, Number.int.injEq]
      grind
    next hrange =>
      simp only [reduceCtorEq, Json.num.injEq, Number.int.injEq]
      grind
  next hother => simpa using fun h => absurd h (hother n)

/-- An optional field has a value exactly if something other than `null` is there. -/
theorem optionalField_eq_ok {value? : Option Json} {result? : Option α} :
    optionalField decode value? = .ok result? ↔
      (Json.unlessNull value? = none ∧ result? = none) ∨
        ∃ value result, Json.unlessNull value? = some value ∧ result? = some result ∧
          decode value = .ok result := by
  cases value? with
  | none => simp [optionalField, field, eq_comm]
  | some value =>
    by_cases hnull : value = .null
    · subst hnull
      simp [optionalField, field, optional, eq_comm]
    · have hoptional : optional decode value = (decode value).map some := by
        cases value with
        | null => exact absurd rfl hnull
        | _ => rfl
      rw [Json.unlessNull_some hnull, optionalField, field, hoptional]
      cases hdecode : decode value with
      | ok result => simp [Except.map, hdecode, eq_comm]
      | error e => simp [Except.map, hdecode]

theorem optionalField_unlessNull (value? : Option Json) :
    optionalField decode (Json.unlessNull value?) = optionalField decode value? := by
  cases value? with
  | none => rfl
  | some value =>
    by_cases hnull : value = .null
    · subst hnull
      rfl
    · rw [Json.unlessNull_some hnull]

theorem required_eq_ok {name : String} {value? : Option α} {value : α} :
    required name value? = .ok value ↔ value? = some value := by
  cases value? <;> simp [required]

/-- A field that has no default, decoded if it is there. -/
theorem field_map_some_eq_ok {value? : Option Json} {result? : Option α} :
    field (fun value => (decode value).map some) none value? = .ok result? ↔
      (value? = none ∧ result? = none) ∨
        ∃ value result, value? = some value ∧ result? = some result ∧
          decode value = .ok result := by
  cases value? with
  | none => simp [field, eq_comm]
  | some value =>
    cases hdecode : decode value with
    | ok result => simp [field, Except.map, hdecode, eq_comm]
    | error e => simp [field, Except.map, hdecode]

theorem record_eq_ok {name : String} {fields : Nat}
    {ofMembers : List (String × Json) → Except DecodeError α}
    {ofItems : List Json → Except DecodeError α} {value : Json} {result : α} :
    record name fields ofMembers ofItems value = .ok result ↔
      (∃ members, value = .obj members ∧ ofMembers members = .ok result) ∨
        ∃ items, value = .arr items ∧ items.length ≤ fields ∧ ofItems items = .ok result := by
  cases value with
  | obj members => simp [record]
  | arr items =>
    have hread : record name fields ofMembers ofItems (.arr items) = .ok result ↔
        items.length ≤ fields ∧ ofItems items = .ok result := by
      simp only [record, bind_eq_ok]
      by_cases hlength : items.length ≤ fields
      · simp [hlength, pure, Except.pure]
      · simp [hlength, throw, throwThe, MonadExceptOf.throw]
    simp [hread]
  | _ => simp [record]

theorem openRecord_eq_ok {name : String} {ofMembers : List (String × Json) → Except DecodeError α}
    {value : Json} {result : α} :
    openRecord name ofMembers value = .ok result ↔
      ∃ members, value = .obj members ∧ ofMembers members = .ok result := by
  cases value <;> simp [openRecord]

end Decode

theorem Encode.optional_of_map {α : Type} {name : String} {encode : α → Json} {value? : Option α}
    {member? : Option Json} (h : value?.map encode = member?) :
    optional name encode value? = optional name id member? := by
  rw [← h]
  cases value? <;> rfl

theorem Encode.lookup_optional {α : Type} (name other : String) (encode : α → Json)
    (value? : Option α) :
    (optional other encode value?).lookup name =
      if name = other then value?.map encode else none := by
  by_cases h : name = other
  · cases value? <;> simp [optional, h]
  · have hne : (name == other) = false := by simpa using h
    cases value? <;> simp [optional, List.lookup_cons, h, hne]

end WorkspaceLink
