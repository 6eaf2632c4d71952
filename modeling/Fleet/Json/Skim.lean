import Fleet.Json.Scan

/-!
# Passing over JSON values

A value that nobody asks for is passed over. Its text must still be a JSON value, but less is asked
of it: nesting has no limit, numbers need no range, surrogates need no partner. The faults differ
accordingly from those of a value that is read.
-/
namespace Fleet.Json

def skimNumber.afterExponent (text : List Char) : Except TextFault (List Char) :=
  let text := if text.head? == some '-' || text.head? == some '+' then text.drop 1 else text
  match text with
  | [] => .error (flawAt .malformedNumber [])
  | c :: rest =>
    if c.isDigit then .ok (rest.dropWhile Char.isDigit)
    else .error (flawOn .malformedNumber (c :: rest))

def skimNumber.power (text : List Char) : Except TextFault (List Char) :=
  match text with
  | c :: rest => if c = 'e' ∨ c = 'E' then afterExponent rest else .ok text
  | [] => .ok []

/-- A number without its sign. -/
def skimNumber (text : List Char) : Except TextFault (List Char) :=
  match text with
  | [] => .error (flawAt .malformedNumber [])
  | c :: rest =>
    if !c.isDigit then .error (flawOn .malformedNumber text)
    else if c = '0' && (rest.head?.any Char.isDigit) then .error (flawOn .malformedNumber rest)
    else
      match text.dropWhile Char.isDigit with
      | [] => .ok []
      | d :: rest =>
        if d = '.' then
          if rest.head?.any Char.isDigit then skimNumber.power (rest.dropWhile Char.isDigit)
          else .error (flawOn .malformedNumber rest)
        else skimNumber.power (d :: rest)

def skimEscape : List Char → Except TextFault (List Char)
  | [] => .error (flawAt .endInString [])
  | c :: rest =>
    if c = 'u' then (readHex rest).map Prod.snd
    else if (simpleEscape c).isSome then .ok rest
    else .error (flawOn .malformedEscape (c :: rest))

/-- The rest of a string after its opening quote. -/
def skimString : Nat → List Char → Except TextFault (List Char)
  | 0, _ => .error (flawAt .endInString [])
  | _ + 1, [] => .error (flawAt .endInString [])
  | fuel + 1, c :: rest =>
    if c = '"' then .ok rest
    else if c = '\\' then
      match skimEscape rest with
      | .ok rest => skimString fuel rest
      | .error fault => .error fault
    else if c.toNat < 0x20 then .error (flawAt .controlCharacter (c :: rest))
    else skimString fuel rest

def skimKey (text : List Char) : Except TextFault (List Char) :=
  match skipSpace text with
  | [] => .error (flawOn .endInObject [])
  | c :: rest =>
    if c = '"' then
      match skimString (rest.length + 1) rest with
      | .error fault => .error fault
      | .ok rest =>
        match skipSpace rest with
        | [] => .error (flawOn .endInObject [])
        | d :: rest =>
          if d = ':' then .ok rest else .error (flawOn .expectedColon (d :: rest))
    else .error (flawOn .keyNotString (c :: rest))

mutual
def skimValue : Nat → List Char → Except TextFault (List Char)
  | 0, _ => .error (flawOn .endInValue [])
  | fuel + 1, text =>
    match skipSpace text with
    | [] => .error (flawOn .endInValue [])
    | c :: rest =>
      if c = 'n' then readWord ['u', 'l', 'l'] rest
      else if c = 't' then readWord ['r', 'u', 'e'] rest
      else if c = 'f' then readWord ['a', 'l', 's', 'e'] rest
      else if c = '-' then skimNumber rest
      else if c.isDigit then skimNumber (c :: rest)
      else if c = '"' then skimString (rest.length + 1) rest
      else if c = '[' then
        match skipSpace rest with
        | [] => .error (flawOn .endInList [])
        | d :: after => if d = ']' then .ok after else skimItems fuel rest
      else if c = '\x7b' then
        match skipSpace rest with
        | [] => .error (flawOn .endInObject [])
        | d :: after => if d = '\x7d' then .ok after else skimMembers fuel rest
      else .error (flawOn .expectedValue (c :: rest))

def skimItems : Nat → List Char → Except TextFault (List Char)
  | 0, _ => .error (flawOn .endInList [])
  | fuel + 1, text =>
    match skimValue fuel text with
    | .error fault => .error fault
    | .ok rest =>
      match skipSpace rest with
      | [] => .error (flawOn .endInList [])
      | c :: rest =>
        if c = ',' then skimItems fuel rest
        else if c = ']' then .ok rest
        else .error (flawOn .expectedListSeparator (c :: rest))

def skimMembers : Nat → List Char → Except TextFault (List Char)
  | 0, _ => .error (flawOn .endInObject [])
  | fuel + 1, text =>
    match skimKey text with
    | .error fault => .error fault
    | .ok rest =>
      match skimValue fuel rest with
      | .error fault => .error fault
      | .ok rest =>
        match skipSpace rest with
        | [] => .error (flawOn .endInObject [])
        | c :: rest =>
          if c = ',' then skimMembers fuel rest
          else if c = '\x7d' then .ok rest
          else .error (flawOn .expectedMemberSeparator (c :: rest))
end

/-- The text after the value at the front of `text`. -/
def skim (text : List Char) : Except TextFault (List Char) := skimValue (2 * text.length + 2) text

end Fleet.Json
