import WorkspaceLink.Json.Printer
import WorkspaceLink.Text.Quoted

/-!
# Decoding values

How typed data is read out of a JSON value, and what is said when a value does not fit. The first
member that does not fit is reported, members of an object being taken in the order of their names
and items of an array by position; a member that is missing is reported after all that are there.
-/
namespace WorkspaceLink

/-- What was found where something else was expected. -/
inductive Found where
  | null
  | boolean (value : Bool)
  | integer (value : Int)
  | float (bits : UInt64)
  | text (value : String)
  | sequence
  | map
  deriving DecidableEq, Repr

/-- The kind of a value, with its content where a message shows it. -/
def Found.of : Json → Found
  | .null => .null
  | .bool b => .boolean b
  | .num (.int n) => .integer n
  | .num (.float bits) => .float bits
  | .str s => .text s
  | .arr _ => .sequence
  | .obj _ => .map

/-- Integer types of the wire. -/
inductive Word where
  | word32
  | word64
  | size
  | signed64
  deriving DecidableEq, Repr

namespace Word

def name : Word → String
  | .word32 => "u32"
  | .word64 => "u64"
  | .size => "usize"
  | .signed64 => "i64"

def least : Word → Int
  | .signed64 => -(Nat.pow 2 63 : Nat)
  | _ => 0

def greatest : Word → Int
  | .word32 => (Nat.pow 2 32 - 1 : Nat)
  | .signed64 => (Nat.pow 2 63 - 1 : Nat)
  | _ => (Nat.pow 2 64 - 1 : Nat)

end Word

/-- What a decoder expects. -/
inductive Expected where
  | text
  | flag
  | word (kind : Word)
  /-- A record, as an object or an array. -/
  | record (name : String)
  /-- A record with so many fields, given as an array. -/
  | recordOf (name : String) (fields : Nat)
  /-- No more items than the record has fields. -/
  | fewerItems
  | unit
  | textOrMap
  | oneKeyMap
  deriving DecidableEq, Repr

inductive DecodeError where
  | missing (field : String)
  | duplicate (field : String)
  | type (found : Found) (expected : Expected)
  | value (found : Found) (expected : Expected)
  | length (items : Nat) (expected : Expected)
  deriving DecidableEq, Repr

/-! ### Wording -/

def Found.message : Found → String
  | .null => "null"
  | .boolean true => "boolean `true`"
  | .boolean false => "boolean `false`"
  | .integer n => "integer `" ++ Json.intText n ++ "`"
  | .float bits => "floating point `" ++ Json.floatText bits ++ "`"
  | .text s => "string " ++ Text.quoted s
  | .sequence => "sequence"
  | .map => "map"

def Expected.message : Expected → String
  | .text => "a string"
  | .flag => "a boolean"
  | .word kind => kind.name
  | .record name => "struct " ++ name
  | .recordOf name fields =>
    "struct " ++ name ++ " with " ++ Nat.repr fields ++
      (if fields = 1 then " element" else " elements")
  | .fewerItems => "fewer elements in array"
  | .unit => "unit"
  | .textOrMap => "string or map"
  | .oneKeyMap => "map with a single key"

def DecodeError.message : DecodeError → String
  | .missing field => "missing field `" ++ field ++ "`"
  | .duplicate field => "duplicate field `" ++ field ++ "`"
  | .type found expected =>
    "invalid type: " ++ found.message ++ ", expected " ++ expected.message
  | .value found expected =>
    "invalid value: " ++ found.message ++ ", expected " ++ expected.message
  | .length items expected =>
    "invalid length " ++ Nat.repr items ++ ", expected " ++ expected.message

/-! ### Decoders -/

namespace Decode

def text : Json → Except DecodeError String
  | .str s => .ok s
  | other => .error (.type (.of other) .text)

def flag : Json → Except DecodeError Bool
  | .bool b => .ok b
  | other => .error (.type (.of other) .flag)

/-- An integer of a given type. A number with a fraction is never one. -/
def integer (kind : Word) : Json → Except DecodeError Int
  | .num (.int n) =>
    if kind.least ≤ n ∧ n ≤ kind.greatest then .ok n
    else .error (.value (.integer n) (.word kind))
  | other => .error (.type (.of other) (.word kind))

/-- An unsigned integer of a given type. -/
def word (kind : Word) (value : Json) : Except DecodeError Nat :=
  (integer kind value).map Int.toNat

/-- A value that may be `null`. -/
def optional (decode : Json → Except DecodeError α) : Json → Except DecodeError (Option α)
  | .null => .ok none
  | value => (decode value).map some

/-- A field that is decoded if present and has a default otherwise. -/
def field (decode : Json → Except DecodeError α) (default : α) :
    Option Json → Except DecodeError α
  | none => .ok default
  | some value => decode value

/-- A field that may be absent or `null`. -/
def optionalField (decode : Json → Except DecodeError α) :
    Option Json → Except DecodeError (Option α) :=
  field (optional decode) none

def required (name : String) : Option α → Except DecodeError α
  | some value => .ok value
  | none => .error (.missing name)

/-- A record without open members: by the names of an object, or by the positions of an array of at
most so many items. -/
def record (name : String) (fields : Nat)
    (ofMembers : List (String × Json) → Except DecodeError α)
    (ofItems : List Json → Except DecodeError α) : Json → Except DecodeError α
  | .obj members => ofMembers members
  | .arr items => do
    let value ← ofItems items
    if items.length ≤ fields then return value
    else throw (.length items.length .fewerItems)
  | other => .error (.type (.of other) (.record name))

/-- A record with open members: only an object. -/
def openRecord (name : String) (ofMembers : List (String × Json) → Except DecodeError α) :
    Json → Except DecodeError α
  | .obj members => ofMembers members
  | other => .error (.type (.of other) (.record name))

end Decode

/-! ### Encoding -/

namespace Encode

/-- A member that is left out when there is no value. -/
def optional (name : String) (encode : α → Json) : Option α → List (String × Json)
  | none => []
  | some value => [(name, encode value)]

end Encode

end WorkspaceLink
