import WorkspaceLink.Json.Basic

/-!
# Reading JSON text

A text is read to its end or refused, and a refusal says only whether the text stopped too early
or holds something that no continuation could mend. Arrays and objects nest at most 127 deep; in an
object the last of several members of one name counts.

A number with a point, an exponent or too many digits for a word of 64 bits is computed the way the
wire format's peers compute it: the leading digits as an integer, scaled once by a power of ten.
-/
namespace WorkspaceLink.Json

/-- Why a text is not JSON. -/
inductive Fault where
  /-- The text stops before the value is complete. -/
  | ended
  /-- Some character cannot stand where it stands. -/
  | malformed
  deriving DecidableEq, Repr

/-- The deepest nesting of arrays and objects. -/
def depthLimit : Nat := 127

def isBlank (c : Char) : Bool := c = ' ' || c = '\n' || c = '\t' || c = '\r'

def skipBlanks (cs : List Char) : List Char := cs.dropWhile isBlank

/-- The rest of a literal name, and the value that it stands for. -/
def readLiteral (value : Json) : List Char → List Char → Except Fault (Json × List Char)
  | [], cs => .ok (value, cs)
  | _ :: _, [] => .error .ended
  | want :: more, c :: cs => if c = want then readLiteral value more cs else .error .malformed

/-! ### Numbers -/

def digitValue (c : Char) : Nat := c.toNat - '0'.toNat

/-- The greatest unsigned word of 64 bits. -/
def wordMax : Nat := Nat.pow 2 64 - 1

/-- Ten to the power `k`, as a binary64 number, for `k` up to 308. -/
def powerOfTen (k : Nat) : Float := Float.ofScientific 1 false k

/-- Scale the leading digits by a power of ten; none when the result is too large. -/
def scale : Nat → Float → Int → Option Float
  | 0, f, _ => some f
  | fuel + 1, f, exponent =>
    if exponent.natAbs ≤ 308 then
      if 0 ≤ exponent then
        let scaled := f * powerOfTen exponent.natAbs
        if scaled.isInf then none else some scaled
      else some (f / powerOfTen exponent.natAbs)
    else if f == 0.0 then some f
    else if 0 ≤ exponent then none
    else scale fuel (f / powerOfTen 308) (exponent + 308)

/-- A binary64 number from its sign, leading digits and exponent of ten. -/
def floatOfParts (negative : Bool) (digits : Nat) (exponent : Int) : Except Fault Number :=
  match scale 4 digits.toUInt64.toFloat exponent with
  | none => .error .malformed
  | some f => .ok (.float (if negative then -f else f).toBits)

/-- Digits taken while they fit a word: their value, how many, and the text after them. -/
def takeDigits : Nat → Nat → List Char → Nat × Nat × List Char
  | value, count, [] => (value, count, [])
  | value, count, c :: cs =>
    if c.isDigit ∧ value * 10 + digitValue c ≤ wordMax then
      takeDigits (value * 10 + digitValue c) (count + 1) cs
    else (value, count, c :: cs)

/-- The value of all leading digits. -/
def takeNat (cs : List Char) : Nat × List Char :=
  ((cs.takeWhile Char.isDigit).foldl (fun n c => n * 10 + digitValue c) 0,
    cs.dropWhile Char.isDigit)

/-- An exponent, after its mark. -/
def readExponent (negative : Bool) (digits : Nat) (exponent : Int) (cs : List Char) :
    Except Fault (Number × List Char) := do
  let (down, cs) : Bool × List Char :=
    match cs with
    | '+' :: rest => (false, rest)
    | '-' :: rest => (true, rest)
    | _ => (false, cs)
  match cs with
  | [] => throw .ended
  | c :: _ =>
    if c.isDigit then
      let (power, rest) := takeNat cs
      let shift : Int := if down then -(power : Int) else power
      return (← floatOfParts negative digits (exponent + shift), rest)
    else throw .malformed

/-- What follows the digits of a number that is not an integer. -/
def readScaled (negative : Bool) (digits : Nat) (exponent : Int) :
    List Char → Except Fault (Number × List Char)
  | c :: cs =>
    if c = 'e' ∨ c = 'E' then readExponent negative digits exponent cs
    else do return (← floatOfParts negative digits exponent, c :: cs)
  | [] => do return (← floatOfParts negative digits exponent, [])

/-- A fraction, after its point. -/
def readFraction (negative : Bool) (digits : Nat) (exponent : Int) (cs : List Char) :
    Except Fault (Number × List Char) :=
  let (digits, count, rest) := takeDigits digits 0 cs
  match rest with
  | [] => if count = 0 then .error .ended else readScaled negative digits (exponent - count) []
  | c :: _ =>
    if c.isDigit then
      readScaled negative digits (exponent - count) (rest.dropWhile Char.isDigit)
    else if count = 0 then .error .malformed
    else readScaled negative digits (exponent - count) rest

/-- An integer with its sign; one that fits no word of 64 bits, and `-0`, are binary64. -/
def integer (negative : Bool) (digits : Nat) : Number :=
  if negative then
    if digits = 0 ∨ Nat.pow 2 63 < digits then .float (-digits.toUInt64.toFloat).toBits
    else .int (-digits)
  else .int digits

/-- What may follow the leading digits of a number. -/
def readTail (negative : Bool) (digits dropped : Nat) (cs : List Char) :
    Except Fault (Number × List Char) :=
  match cs with
  | '.' :: rest => readFraction negative digits dropped rest
  | c :: rest =>
    if c = 'e' ∨ c = 'E' then readExponent negative digits dropped rest
    else if dropped = 0 then .ok (integer negative digits, cs)
    else readScaled negative digits dropped cs
  | [] =>
    if dropped = 0 then .ok (integer negative digits, [])
    else readScaled negative digits dropped []

/-- A number, after its sign. -/
def readNumber (negative : Bool) : List Char → Except Fault (Number × List Char)
  | [] => .error .ended
  | '0' :: cs =>
    match cs with
    | c :: _ => if c.isDigit then .error .malformed else readTail negative 0 0 cs
    | [] => readTail negative 0 0 []
  | c :: cs =>
    if c.isDigit then
      let (digits, _, rest) := takeDigits 0 0 (c :: cs)
      let extra := rest.takeWhile Char.isDigit
      readTail negative digits extra.length (rest.dropWhile Char.isDigit)
    else .error .malformed

/-! ### Strings -/

def hexValue? (c : Char) : Option Nat :=
  if c.isDigit then some (digitValue c)
  else if 'a' ≤ c ∧ c ≤ 'f' then some (c.toNat - 'a'.toNat + 10)
  else if 'A' ≤ c ∧ c ≤ 'F' then some (c.toNat - 'A'.toNat + 10)
  else none

/-- Four hexadecimal digits. -/
def readHex (cs : List Char) : Except Fault (Nat × List Char) :=
  match cs with
  | a :: b :: c :: d :: rest =>
    match hexValue? a, hexValue? b, hexValue? c, hexValue? d with
    | some a, some b, some c, some d => .ok (((a * 16 + b) * 16 + c) * 16 + d, rest)
    | _, _, _, _ => .error .malformed
  | short =>
    if short.foldl (fun size c => size + c.utf8Size) 0 < 4 then .error .ended else .error .malformed

/-- A character given by its code unit, after the mark; units of a pair stand side by side. -/
def readUnit (cs : List Char) : Except Fault (Char × List Char) := do
  let (unit, rest) ← readHex cs
  if 0xDC00 ≤ unit ∧ unit ≤ 0xDFFF then throw .malformed
  else if 0xD800 ≤ unit ∧ unit ≤ 0xDBFF then
    match rest with
    | [] => throw .ended
    | '\\' :: [] => throw .ended
    | '\\' :: 'u' :: rest =>
      let (second, rest) ← readHex rest
      if 0xDC00 ≤ second ∧ second ≤ 0xDFFF then
        return (Char.ofNat (0x10000 + (unit - 0xD800) * 0x400 + (second - 0xDC00)), rest)
      else throw .malformed
    | _ => throw .malformed
  else return (Char.ofNat unit, rest)

/-- The character of a one-letter escape. -/
def escaped? : Char → Option Char
  | '"' => some '"'
  | '\\' => some '\\'
  | '/' => some '/'
  | 'b' => some (Char.ofNat 8)
  | 'f' => some (Char.ofNat 12)
  | 'n' => some '\n'
  | 'r' => some '\r'
  | 't' => some '\t'
  | _ => none

/-- The rest of a string, after its opening quote. Every round takes at least one character, so the
length of the text bounds the rounds. -/
def readString : Nat → List Char → List Char → Except Fault (String × List Char)
  | 0, _, _ => .error .ended
  | _ + 1, _, [] => .error .ended
  | fuel + 1, seen, c :: cs =>
    if c = '"' then .ok (String.ofList seen.reverse, cs)
    else if c = '\\' then
      match cs with
      | [] => .error .ended
      | 'u' :: rest =>
        match readUnit rest with
        | .ok (unit, rest) => readString fuel (unit :: seen) rest
        | .error fault => .error fault
      | mark :: rest =>
        match escaped? mark with
        | some plain => readString fuel (plain :: seen) rest
        | none => .error .malformed
    else if c.toNat < 32 then .error .malformed
    else readString fuel (c :: seen) cs

/-! ### Values -/

/-- The items of an array, after its bracket; `first` until one item was read. -/
def readItems (item : List Char → Except Fault (Json × List Char)) :
    Nat → Bool → List Json → List Char → Except Fault (List Json × List Char)
  | 0, _, _, _ => .error .ended
  | fuel + 1, first, seen, cs => do
    match skipBlanks cs with
    | [] => throw .ended
    | ']' :: rest => return (seen.reverse, rest)
    | ',' :: rest =>
      if first then throw .malformed
      else
        match skipBlanks rest with
        | [] => throw .ended
        | ']' :: _ => throw .malformed
        | next =>
          let (value, rest) ← item next
          readItems item fuel false (value :: seen) rest
    | next =>
      if first then
        let (value, rest) ← item next
        readItems item fuel false (value :: seen) rest
      else throw .malformed

/-- One member, after the quote that opens its name. -/
def readMember (item : List Char → Except Fault (Json × List Char)) (cs : List Char) :
    Except Fault ((String × Json) × List Char) := do
  let (name, rest) ← readString (cs.length + 1) [] cs
  match skipBlanks rest with
  | [] => throw .ended
  | ':' :: rest =>
    let (value, rest) ← item rest
    return ((name, value), rest)
  | _ => throw .malformed

/-- The members of an object, after its brace; `first` until one member was read. -/
def readMembers (item : List Char → Except Fault (Json × List Char)) :
    Nat → Bool → List (String × Json) → List Char →
      Except Fault (List (String × Json) × List Char)
  | 0, _, _, _ => .error .ended
  | fuel + 1, first, seen, cs => do
    match skipBlanks cs with
    | [] => throw .ended
    | '}' :: rest => return (seen, rest)
    | ',' :: rest =>
      if first then throw .malformed
      else
        match skipBlanks rest with
        | [] => throw .ended
        | '"' :: rest =>
          let ((name, value), rest) ← readMember item rest
          readMembers item fuel false (Members.insert name value seen) rest
        | _ => throw .malformed
    | '"' :: rest =>
      if first then
        let ((name, value), rest) ← readMember item rest
        readMembers item fuel false (Members.insert name value seen) rest
      else throw .malformed
    | _ => throw .malformed

/-- A value, with so many levels of nesting to spare. -/
def readValue : Nat → List Char → Except Fault (Json × List Char)
  | depth, cs =>
    match skipBlanks cs with
    | [] => .error .ended
    | 'n' :: rest => readLiteral .null ['u', 'l', 'l'] rest
    | 't' :: rest => readLiteral (.bool true) ['r', 'u', 'e'] rest
    | 'f' :: rest => readLiteral (.bool false) ['a', 'l', 's', 'e'] rest
    | '"' :: rest => do
      let (s, rest) ← readString (rest.length + 1) [] rest
      return (.str s, rest)
    | '-' :: rest => do
      let (n, rest) ← readNumber true rest
      return (.num n, rest)
    | '[' :: rest =>
      match depth with
      | 0 => .error .malformed
      | depth + 1 => do
        let (items, rest) ← readItems (readValue depth) (rest.length + 1) true [] rest
        return (.arr items, rest)
    | '{' :: rest =>
      match depth with
      | 0 => .error .malformed
      | depth + 1 => do
        let (members, rest) ← readMembers (readValue depth) (rest.length + 1) true [] rest
        return (.obj members, rest)
    | c :: rest =>
      if c.isDigit then do
        let (n, rest) ← readNumber false (c :: rest)
        return (.num n, rest)
      else .error .malformed

def parse (text : String) : Except Fault Json := do
  let (value, rest) ← readValue depthLimit text.toList
  match skipBlanks rest with
  | [] => return value
  | _ => throw .malformed

end WorkspaceLink.Json
