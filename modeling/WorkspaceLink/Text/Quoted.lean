import WorkspaceLink.Text.Invisible

/-!
# Quoted text in messages

Messages show a text between double quotes. The quote, the backslash and the usual controls have
two-character forms; a character that is not shown is written by its number in braces.
-/
namespace WorkspaceLink.Text

/-- How one character stands between the quotes. -/
def quotedChar (c : Char) : List Char :=
  if c = Char.ofNat 0 then ['\\', '0']
  else if c = '\t' then ['\\', 't']
  else if c = '\r' then ['\\', 'r']
  else if c = '\n' then ['\\', 'n']
  else if c = '"' then ['\\', '"']
  else if c = '\\' then ['\\', '\\']
  else if isInvisible c then
    ['\\', 'u', '{'] ++ (Nat.toDigits 16 c.toNat) ++ ['}']
  else [c]

def quoted (s : String) : String :=
  "\"" ++ String.ofList (s.toList.flatMap quotedChar) ++ "\""

end WorkspaceLink.Text
