/-!
# Percent encoding

Letters, digits and `-`, `_`, `.`, `~` stand for themselves; every other character is written as
the bytes of its UTF-8 form, each as a percent sign and two hexadecimal digits in upper case.
-/
namespace WorkspaceLink.Text

/-- The characters that need no escape. -/
def isUnreserved (c : Char) : Bool :=
  c.isAlphanum || c = '-' || c = '_' || c = '.' || c = '~'

/-- A hexadecimal digit in upper case. -/
def upperHex (n : Nat) : Char := (Nat.digitChar n).toUpper

/-- A byte as a percent sign and two digits. -/
def percentByte (b : UInt8) : List Char :=
  ['%', upperHex (b.toNat / 16), upperHex (b.toNat % 16)]

/-- One character, escaped if it must be. -/
def percentChar (c : Char) : List Char :=
  if isUnreserved c then [c]
  else (String.singleton c).toUTF8.toList.flatMap percentByte

def percentEncode (s : String) : String :=
  String.ofList (s.toList.flatMap percentChar)

end WorkspaceLink.Text
