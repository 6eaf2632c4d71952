import Fleet.Text.Bytes
import Fleet.Tree.Fault

/-!
# The lexemes of JSON

Words, strings and numbers are read from the front of a text, and the rest of the text is handed
back. Places in the text are marked by what is still to be read; `ahead` counts further bytes, for
a fault that is reported after the character that shows it. Every scan is total: where it loops,
the length of the text bounds it.
-/
namespace Fleet.Json

structure Mark where
  rest : List Char
  ahead : Nat

abbrev TextFault := Fault Mark

def at? (rest : List Char) : Option Mark := some ⟨rest, 0⟩

/-- Reported in front of `rest`. -/
def flawAt (flaw : Flaw) (rest : List Char) : TextFault := ⟨.malformed flaw, some ⟨rest, 0⟩⟩

/-- Reported after the next byte, if there is one. -/
def flawOn (flaw : Flaw) (rest : List Char) : TextFault := ⟨.malformed flaw, some ⟨rest, 1⟩⟩

def isSpace (c : Char) : Bool := c == ' ' || c == '\n' || c == '\t' || c == '\r'

def skipSpace (text : List Char) : List Char := text.dropWhile isSpace

/-- Reads the letters of a word one by one. -/
def readWord : List Char → List Char → Except TextFault (List Char)
  | [], rest => .ok rest
  | _ :: _, [] => .error (flawAt .endInValue [])
  | w :: word, c :: rest =>
    if c = w then readWord word rest else .error (flawOn .expectedWord (c :: rest))

def hexValue (c : Char) : Option Nat :=
  if c.isDigit then some (c.toNat - '0'.toNat)
  else if 'a' ≤ c ∧ c ≤ 'f' then some (c.toNat - 'a'.toNat + 10)
  else if 'A' ≤ c ∧ c ≤ 'F' then some (c.toNat - 'A'.toNat + 10)
  else none

/-- Four hexadecimal digits. -/
def readHex (text : List Char) : Except TextFault (Nat × List Char) :=
  if Text.byteLength (text.take 4) < 4 then .error (flawAt .endInString [])
  else
    match text with
    | a :: b :: c :: d :: rest =>
      match hexValue a, hexValue b, hexValue c, hexValue d with
      | some a, some b, some c, some d => .ok (((a * 16 + b) * 16 + c) * 16 + d, rest)
      | _, _, _, _ => .error ⟨.malformed .malformedEscape, some ⟨text, 4⟩⟩
    | _ => .error ⟨.malformed .malformedEscape, some ⟨text, 4⟩⟩

/-- The character `expected` inside a pair of surrogates. -/
def readPairMark (expected : Char) : List Char → Except TextFault (List Char)
  | [] => .error (flawAt .endInString [])
  | c :: rest =>
    if c = expected then .ok rest else .error (flawOn .unfinishedSurrogate (c :: rest))

/-- The character of a `\u` escape, given the text after the `u`. A character beyond the first
plane is written as two escapes. -/
def readUnicode (text : List Char) : Except TextFault (Char × List Char) := do
  let (high, rest) ← readHex text
  if 0xDC00 ≤ high && high ≤ 0xDFFF then .error (flawAt .loneSurrogate rest)
  else if 0xD800 ≤ high && high ≤ 0xDBFF then
    let rest ← readPairMark '\\' rest
    let rest ← readPairMark 'u' rest
    let (low, rest) ← readHex rest
    if 0xDC00 ≤ low && low ≤ 0xDFFF then
      .ok (Char.ofNat (0x10000 + (high - 0xD800) * 0x400 + (low - 0xDC00)), rest)
    else .error (flawAt .loneSurrogate rest)
  else .ok (Char.ofNat high, rest)

def simpleEscape (c : Char) : Option Char :=
  if c = '"' then some '"'
  else if c = '\\' then some '\\'
  else if c = '/' then some '/'
  else if c = 'b' then some (Char.ofNat 8)
  else if c = 'f' then some (Char.ofNat 12)
  else if c = 'n' then some '\n'
  else if c = 'r' then some '\r'
  else if c = 't' then some '\t'
  else none

/-- The character of an escape, given the text after the backslash. -/
def readEscape : List Char → Except TextFault (Char × List Char)
  | [] => .error (flawAt .endInString [])
  | c :: rest =>
    if c = 'u' then readUnicode rest
    else
      match simpleEscape c with
      | some plain => .ok (plain, rest)
      | none => .error (flawOn .malformedEscape (c :: rest))

/-- The next character of a string, or `none` at its closing quote. -/
def readCharacter : List Char → Except TextFault (Option Char × List Char)
  | [] => .error (flawAt .endInString [])
  | c :: rest =>
    if c = '"' then .ok (none, rest)
    else if c = '\\' then (readEscape rest).map fun (plain, rest) => (some plain, rest)
    else if c.toNat < 0x20 then .error (flawOn .controlCharacter (c :: rest))
    else .ok (some c, rest)

def readCharacters : Nat → List Char → Except TextFault (List Char × List Char)
  | 0, _ => .error (flawAt .endInString [])
  | fuel + 1, text =>
    match readCharacter text with
    | .error fault => .error fault
    | .ok (none, rest) => .ok ([], rest)
    | .ok (some c, rest) => (readCharacters fuel rest).map fun (more, rest) => (c :: more, rest)

/-- The rest of a string, given the text after its opening quote. -/
def readString (text : List Char) : Except TextFault (String × List Char) :=
  (readCharacters (text.length + 1) text).map fun (chars, rest) => (String.ofList chars, rest)

def digitsValue (digits : List Char) : Nat :=
  digits.foldl (fun value c => value * 10 + (c.toNat - '0'.toNat)) 0

/-- The largest exponent that is read as a number. -/
def maxExponent : Nat := 2147483647

/-- Exponent digits up to the one that leaves the range, which is the first part of the answer. -/
def exponentOverflow? (value : Nat) : List Char → Option (List Char)
  | [] => none
  | c :: rest =>
    if c.isDigit then
      let value := value * 10 + (c.toNat - '0'.toNat)
      if maxExponent < value then some rest else exponentOverflow? value rest
    else none

/-- Digits are added to a number as long as it fits 64 bits without sign. The others are left. -/
def addDigits (value : Nat) : List Char → Nat × List Char
  | [] => (value, [])
  | c :: rest =>
    let next := value * 10 + (c.toNat - '0'.toNat)
    if next < Number.unsignedEnd.toNat then addDigits next rest else (value, c :: rest)

def roundNumber (negative : Bool) (digits : Nat) (power : Int) (rest : List Char) :
    Except TextFault (Number × List Char) :=
  match Double.ofParts? negative digits power with
  | some x => .ok (.real x, rest)
  | none => .error (flawAt .numberOutOfRange rest)

/-- The text after the `e` of a number with the given digits. -/
def readExponent (negative : Bool) (digits : Nat) (power : Int) (text : List Char) :
    Except TextFault (Number × List Char) :=
  let down := text.head? == some '-'
  let text := if down || text.head? == some '+' then text.drop 1 else text
  match text with
  | [] => .error (flawAt .endInValue [])
  | c :: _ =>
    if !c.isDigit then .error (flawOn .malformedNumber text)
    else
      let rest := text.dropWhile Char.isDigit
      match exponentOverflow? 0 text with
      | some far =>
        if digits ≠ 0 && !down then .error (flawAt .numberOutOfRange far)
        else .ok (.real (.zero negative), rest)
      | none =>
        let exponent := digitsValue (text.takeWhile Char.isDigit)
        roundNumber negative digits (if down then power - exponent else power + exponent) rest

def readPower (negative : Bool) (digits : Nat) (power : Int) (text : List Char) :
    Except TextFault (Number × List Char) :=
  match text with
  | c :: rest =>
    if c = 'e' ∨ c = 'E' then readExponent negative digits power rest
    else roundNumber negative digits power text
  | [] => roundNumber negative digits power text

/-- The text after the decimal point. Digits that 64 bits do not take are passed over. -/
def readFraction (negative : Bool) (digits : Nat) (power : Int) (text : List Char) :
    Except TextFault (Number × List Char) :=
  let fraction := text.takeWhile Char.isDigit
  if fraction.isEmpty then
    match text with
    | [] => .error (flawAt .endInValue [])
    | _ => .error (flawOn .malformedNumber text)
  else
    let (digits, left) := addDigits digits fraction
    readPower negative digits (power - (fraction.length - left.length : Nat))
      (text.dropWhile Char.isDigit)

/-- A whole literal is kept as an integer if it fits; `-0` is the negative zero. -/
def wholeNumber (negative : Bool) (digits : Nat) (rest : List Char) :
    Except TextFault (Number × List Char) :=
  let value : Int := if negative then -digits else digits
  if Number.fits value && !(negative && digits == 0) then .ok (.whole value, rest)
  else roundNumber negative digits 0 rest

/-- A number without its sign. Of a literal that is too long for 64 bits the last digits count as
powers of ten alone. -/
def readMagnitude (negative : Bool) (text : List Char) : Except TextFault (Number × List Char) :=
  match text with
  | [] => .error (flawAt .endInValue [])
  | c :: rest =>
    if !c.isDigit then .error (flawOn .malformedNumber text)
    else if c = '0' && (rest.head?.any Char.isDigit) then .error (flawOn .malformedNumber rest)
    else
      let (digits, left) := addDigits 0 (text.takeWhile Char.isDigit)
      let whole (rest : List Char) :=
        if left.isEmpty then wholeNumber negative digits rest
        else roundNumber negative digits left.length rest
      match text.dropWhile Char.isDigit with
      | [] => whole []
      | d :: rest =>
        if d = '.' then readFraction negative digits left.length rest
        else if d = 'e' ∨ d = 'E' then readExponent negative digits left.length rest
        else whole (d :: rest)

end Fleet.Json
