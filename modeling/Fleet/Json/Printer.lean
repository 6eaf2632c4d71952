import Fleet.Json.Basic
import Fleet.Decimal.Shortest

/-!
# Writing JSON

One writer serves both forms of text: the compact one has no blanks, the pretty one puts each item
and member on a line of its own, two spaces deeper than its container. Characters beyond ASCII
stand for themselves; control characters are escaped, with a short escape where JSON has one.
-/
namespace Fleet.Json

def hexDigit (n : Nat) : Char := Nat.digitChar n

def escapeChar (c : Char) : List Char :=
  if c = '"' then ['\\', '"']
  else if c = '\\' then ['\\', '\\']
  else if c = '\n' then ['\\', 'n']
  else if c = '\r' then ['\\', 'r']
  else if c = '\t' then ['\\', 't']
  else if c.toNat = 8 then ['\\', 'b']
  else if c.toNat = 12 then ['\\', 'f']
  else if c.toNat < 32 then
    ['\\', 'u', '0', '0', hexDigit (c.toNat / 16), hexDigit (c.toNat % 16)]
  else [c]

def writeString (s : String) : List Char := '"' :: s.toList.flatMap escapeChar ++ ['"']

def writeInt (value : Int) : List Char :=
  (if value < 0 then ['-'] else []) ++ Nat.toDigits 10 value.natAbs

def writeNumber : Number → List Char
  | .whole value => writeInt value
  | .real value => Decimal.Layout.scientific.write value

/-- What stands between the parts of a value: `gap d` before an item or member at depth `d`. -/
structure Spacing where
  gap : Nat → List Char
  colon : List Char

def Spacing.compact : Spacing := ⟨fun _ => [], [':']⟩

def Spacing.pretty : Spacing := ⟨fun depth => '\n' :: List.replicate (2 * depth) ' ', [':', ' ']⟩

mutual
def write (spacing : Spacing) (depth : Nat) : Json → List Char
  | .null => ['n', 'u', 'l', 'l']
  | .bool true => ['t', 'r', 'u', 'e']
  | .bool false => ['f', 'a', 'l', 's', 'e']
  | .number n => writeNumber n
  | .string s => writeString s
  | .array [] => ['[', ']']
  | .array (item :: rest) =>
    '[' :: spacing.gap (depth + 1) ++ write spacing (depth + 1) item ++
      writeItems spacing (depth + 1) rest ++ spacing.gap depth ++ [']']
  | .object [] => ['\x7b', '\x7d']
  | .object ((key, value) :: rest) =>
    '\x7b' :: spacing.gap (depth + 1) ++ writeString key ++ spacing.colon ++
      write spacing (depth + 1) value ++ writeMembers spacing (depth + 1) rest ++
      spacing.gap depth ++ ['\x7d']

def writeItems (spacing : Spacing) (depth : Nat) : List Json → List Char
  | [] => []
  | item :: rest =>
    ',' :: spacing.gap depth ++ write spacing depth item ++ writeItems spacing depth rest

def writeMembers (spacing : Spacing) (depth : Nat) : List (String × Json) → List Char
  | [] => []
  | (key, value) :: rest =>
    ',' :: spacing.gap depth ++ writeString key ++ spacing.colon ++ write spacing depth value ++
      writeMembers spacing depth rest
end

def compact (value : Json) : String := String.ofList (write .compact 0 value)

def pretty (value : Json) : String := String.ofList (write .pretty 0 value)

end Fleet.Json
