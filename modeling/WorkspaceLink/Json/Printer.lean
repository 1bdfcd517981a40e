import WorkspaceLink.Json.Basic
import WorkspaceLink.Decimal.Shortest

/-!
# Compact JSON text

The text of a value: members in their order, no blanks, every character kept except the quote, the
backslash and the controls. Binary64 numbers have the fewest digits that identify them, written
positionally from `1e-5` up to `1e16` and with a signed exponent elsewhere.
-/
namespace WorkspaceLink.Json

/-! ### Numbers -/

/-- How the digits of a binary64 number are laid out. -/
structure NumberLayout where
  /-- The least exponent of the leading digit that is written positionally. -/
  plainFrom : Int
  /-- The first exponent of the leading digit above the positional range. -/
  plainBelow : Int
  /-- What ends a whole number written positionally. -/
  wholeMark : String
  /-- What introduces an exponent that is not negative. -/
  exponentUp : String
  /-- What introduces a negative exponent. -/
  exponentDown : String

/-- Numbers keep a point (`1.0`), are positional from `1e-5` up to `1e16`, and carry a signed
exponent otherwise (`1e+21`). -/
def numberLayout : NumberLayout where
  plainFrom := -5
  plainBelow := 16
  wholeMark := ".0"
  exponentUp := "e+"
  exponentDown := "e-"

def zeros (n : Nat) : String := String.ofList (List.replicate n '0')

/-- Lay out `digits · 10 ^ exponent`. -/
def NumberLayout.write (layout : NumberLayout) (d : Decimal.Digits) : String :=
  let ds := (Nat.repr d.digits).toList
  let lead : Int := (ds.length : Int) + d.exponent - 1
  if layout.plainFrom ≤ lead ∧ lead < layout.plainBelow then
    if 0 ≤ d.exponent then
      String.ofList ds ++ zeros d.exponent.toNat ++ layout.wholeMark
    else if 0 ≤ lead then
      let whole := (lead + 1).toNat
      String.ofList (ds.take whole) ++ "." ++ String.ofList (ds.drop whole)
    else
      "0." ++ zeros (-lead - 1).toNat ++ String.ofList ds
  else
    let body :=
      match ds with
      | first :: second :: rest => String.ofList (first :: '.' :: second :: rest)
      | short => String.ofList short
    let mark := if 0 ≤ lead then layout.exponentUp else layout.exponentDown
    body ++ mark ++ Nat.repr lead.natAbs

/-- The text of a binary64 value given by its bits. -/
def floatText (bits : UInt64) : String :=
  let sign := if bits.toNat < Nat.pow 2 63 then "" else "-"
  if bits.toNat % Nat.pow 2 63 = 0 then sign ++ "0" ++ numberLayout.wholeMark
  else sign ++ numberLayout.write (Decimal.Binary.ofBits bits).shortest


def intText : Int → String
  | .ofNat n => Nat.repr n
  | .negSucc n => "-" ++ Nat.repr (n + 1)

def numberText : Number → String
  | .int n => intText n
  | .float bits => floatText bits

/-! ### Strings -/

def hexDigit (n : Nat) : Char := (Nat.digitChar n).toLower

/-- How one character stands inside a quoted string. -/
def escapeChar (c : Char) : List Char :=
  if c = '"' then ['\\', '"']
  else if c = '\\' then ['\\', '\\']
  else if c = '\n' then ['\\', 'n']
  else if c = '\r' then ['\\', 'r']
  else if c = '\t' then ['\\', 't']
  else if c = Char.ofNat 8 then ['\\', 'b']
  else if c = Char.ofNat 12 then ['\\', 'f']
  else if c.toNat < 32 then
    ['\\', 'u', '0', '0', hexDigit (c.toNat / 16), hexDigit (c.toNat % 16)]
  else [c]

def quote (s : String) : String :=
  "\"" ++ String.ofList (s.toList.flatMap escapeChar) ++ "\""

/-! ### Values -/

mutual

/-- Compact text of a value. -/
def render : Json → String
  | .null => "null"
  | .bool true => "true"
  | .bool false => "false"
  | .num n => numberText n
  | .str s => quote s
  | .arr items => "[" ++ renderItems items ++ "]"
  | .obj members => "\x7b" ++ renderMembers members ++ "\x7d"

/-- The items of an array, separated by commas. -/
def renderItems : List Json → String
  | [] => ""
  | [item] => render item
  | item :: rest => render item ++ "," ++ renderItems rest

/-- The members of an object, separated by commas. -/
def renderMembers : List (String × Json) → String
  | [] => ""
  | [(name, value)] => quote name ++ ":" ++ render value
  | (name, value) :: rest => quote name ++ ":" ++ render value ++ "," ++ renderMembers rest

end

end WorkspaceLink.Json
