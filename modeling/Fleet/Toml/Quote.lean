/-!
# TOML strings and keys

Strings stand between double quotes, with escapes, or between single quotes, without; three quotes
on either side let a string run over several lines. Line breaks inside a string read as one line
feed. Every reader takes the text after the opening quotes and hands back the rest.
-/
namespace Fleet.Toml

def isBlank (c : Char) : Bool := c == ' ' || c == '\t'

def skipBlank (text : List Char) : List Char := text.dropWhile isBlank

/-- Characters that may stand for themselves in strings and comments. -/
def isPlain (c : Char) : Bool := c == '\t' || (0x20 ≤ c.toNat && c.toNat != 0x7F)

def lineBreak? : List Char → Option (List Char)
  | '\n' :: rest => some rest
  | '\r' :: '\n' :: rest => some rest
  | _ => none

def hexDigit? (c : Char) : Option Nat :=
  if c.isDigit then some (c.toNat - 48)
  else if 'a' ≤ c ∧ c ≤ 'f' then some (c.toNat - 87)
  else if 'A' ≤ c ∧ c ≤ 'F' then some (c.toNat - 55)
  else none

def hexValue? (digits : List Char) : Option Nat :=
  digits.foldlM (fun value c => (hexDigit? c).map (value * 16 + ·)) 0

def codePoint? (count : Nat) (text : List Char) : Option (Char × List Char) := do
  let digits := text.take count
  guard (digits.length = count)
  let value ← hexValue? digits
  guard (value < 0xD800 ∨ (0xE000 ≤ value ∧ value < 0x110000))
  return (Char.ofNat value, text.drop count)

/-- The character of an escape, given the text after the backslash. -/
def escape? : List Char → Option (Char × List Char)
  | [] => none
  | c :: rest =>
    if c = 'b' then some (Char.ofNat 8, rest)
    else if c = 't' then some ('\t', rest)
    else if c = 'n' then some ('\n', rest)
    else if c = 'f' then some (Char.ofNat 12, rest)
    else if c = 'r' then some ('\r', rest)
    else if c = '"' then some ('"', rest)
    else if c = '\\' then some ('\\', rest)
    else if c = 'u' then codePoint? 4 rest
    else if c = 'U' then codePoint? 8 rest
    else none

def basicString? : Nat → List Char → Option (List Char × List Char)
  | 0, _ => none
  | _ + 1, [] => none
  | fuel + 1, c :: rest =>
    if c = '"' then some ([], rest)
    else if c = '\\' then do
      let (plain, rest) ← escape? rest
      let (more, rest) ← basicString? fuel rest
      return (plain :: more, rest)
    else if isPlain c then do
      let (more, rest) ← basicString? fuel rest
      return (c :: more, rest)
    else none

def literalString? : List Char → Option (List Char × List Char)
  | [] => none
  | c :: rest =>
    if c = '\'' then some ([], rest)
    else if isPlain c then do
      let (more, rest) ← literalString? rest
      return (c :: more, rest)
    else none

def skipLineBreaks : Nat → List Char → List Char
  | 0, text => text
  | fuel + 1, text =>
    match lineBreak? (skipBlank text) with
    | some rest => skipLineBreaks fuel rest
    | none => skipBlank text

/-- The body of a string of several lines. Up to two quotes in a row belong to the body, also in
front of the closing ones. -/
def longString? (quote : Char) (escapes : Bool) : Nat → List Char → Option (List Char × List Char)
  | 0, _ => none
  | _ + 1, [] => none
  | fuel + 1, c :: rest =>
    let text := c :: rest
    let quotes := (text.takeWhile (· == quote)).length
    if 6 ≤ quotes then none
    else if 3 ≤ quotes then some (List.replicate (quotes - 3) quote, text.drop quotes)
    else
      match lineBreak? text with
      | some rest => do
        let (more, rest) ← longString? quote escapes fuel rest
        return ('\n' :: more, rest)
      | none =>
        if escapes && c = '\\' then
          match lineBreak? (skipBlank rest) with
          | some after => longString? quote escapes fuel (skipLineBreaks fuel after)
          | none => do
            let (plain, rest) ← escape? rest
            let (more, rest) ← longString? quote escapes fuel rest
            return (plain :: more, rest)
        else if isPlain c then do
          let (more, rest) ← longString? quote escapes fuel rest
          return (c :: more, rest)
        else none

/-- A line break right after the opening quotes is not part of the string. -/
def afterOpening (text : List Char) : List Char := (lineBreak? text).getD text

def string? (text : List Char) : Option (String × List Char) :=
  let read : Option (List Char × List Char) :=
    match text with
    | '"' :: '"' :: '"' :: rest => longString? '"' true (rest.length + 1) (afterOpening rest)
    | '\'' :: '\'' :: '\'' :: rest => longString? '\'' false (rest.length + 1) (afterOpening rest)
    | '"' :: rest => basicString? (rest.length + 1) rest
    | '\'' :: rest => literalString? rest
    | _ => none
  read.map fun (chars, rest) => (String.ofList chars, rest)

def isBareKey (c : Char) : Bool := c.isAlphanum || c == '_' || c == '-'

def simpleKey? (text : List Char) : Option (String × List Char) :=
  match text with
  | '"' :: rest =>
    (basicString? (rest.length + 1) rest).map fun (chars, rest) => (String.ofList chars, rest)
  | '\'' :: rest => (literalString? rest).map fun (chars, rest) => (String.ofList chars, rest)
  | _ =>
    let bare := text.takeWhile isBareKey
    if bare.isEmpty then none else some (String.ofList bare, text.dropWhile isBareKey)

end Fleet.Toml
