import Fleet.Text.QuotedTable
import Fleet.Text.Range

/-!
# Quoted text in messages

A text is shown between double quotes. Quotes, backslashes and the usual controls are written with
a backslash, and every other character that would not show by itself as `\u` with its code point
in braces, in small hexadecimal digits.
-/
namespace Fleet.Text

def quoteChar (c : Char) : List Char :=
  if c = '"' then ['\\', '"']
  else if c = '\\' then ['\\', '\\']
  else if c = '\n' then ['\\', 'n']
  else if c = '\r' then ['\\', 'r']
  else if c = '\t' then ['\\', 't']
  else if c.toNat = 0 then ['\\', '0']
  else if c.toNat < 0x20 || (0x7F ≤ c.toNat && within escapedRanges c.toNat) then
    ['\\', 'u', '\x7b'] ++ Nat.toDigits 16 c.toNat ++ ['\x7d']
  else [c]

def quoted (s : String) : String := String.ofList ('"' :: s.toList.flatMap quoteChar ++ ['"'])

end Fleet.Text
