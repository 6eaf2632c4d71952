import Fleet.Json.Position
import Fleet.Json.Skim
import Fleet.KeyMap
import Fleet.Tree.Decode

/-!
# Reading JSON texts

`readTree` takes the value at the front of a text to a tree with marks. What a fault in the text
hides from one reader need not hide it from another, which may pass over the member that holds it:
so a tree goes on after a broken part wherever that part can be passed over. `read` asks for the
plain value, keeps the last of several members with one key and sorts them; `decode` asks for a
typed value. Both refuse text after the value. Lists and objects nest up to 127 deep.
-/
namespace Fleet.Json

/-- Lists and objects that may be open at once. -/
def maxDepth : Nat := 127

abbrev TextTree := Tree Mark

/-- A tree, and the rest of the text unless a part of the tree is broken. -/
structure Reading where
  tree : TextTree
  rest? : Option (List Char)

def Reading.broken (fault : TextFault) : Reading := ⟨.broken fault, none⟩

/-- The text after a value: after a broken one, the text after it has been passed over. -/
def Reading.follow (reading : Reading) (text : List Char) : Except TextFault (List Char) :=
  match reading.rest? with
  | some rest => .ok rest
  | none => skim text

def Reading.ofScalar (result : Except TextFault (Scalar × List Char)) : Reading :=
  match result with
  | .ok (value, rest) => ⟨.scalar value (at? rest), some rest⟩
  | .error fault => .broken fault

/-- Where a list is left that is given up in front of `rest`. -/
def leaveList (rest : List Char) : List Char :=
  match skipSpace rest with
  | c :: after =>
    if c = ']' then after else if c = ',' then skipSpace after else c :: after
  | [] => []

/-- Where an object is left that is given up in front of `rest`. -/
def leaveObject (rest : List Char) : List Char :=
  match skipSpace rest with
  | c :: after => if c = '\x7d' then after else c :: after
  | [] => []

/-- Why a list cannot end in front of `rest`. -/
def listCloseFault (rest : List Char) : Option TextFault :=
  match skipSpace rest with
  | [] => some (flawOn .endInList [])
  | c :: after =>
    if c = ']' then none
    else if c = ',' then
      match skipSpace after with
      | d :: more =>
        some (flawOn (if d = ']' then .trailingComma else .trailingText) (d :: more))
      | [] => some (flawOn .trailingText [])
    else some (flawOn .trailingText (c :: after))

/-- What follows an item: the next item, or the end of the list. -/
def nextItem (rest : List Char) : Except TextFault (Option (List Char) × List Char) :=
  match skipSpace rest with
  | [] => .error (flawOn .endInList [])
  | c :: after =>
    if c = ']' then .ok (none, after)
    else if c = ',' then
      match skipSpace after with
      | [] => .error (flawOn .endInValue [])
      | d :: more =>
        if d = ']' then .error (flawOn .trailingComma (d :: more)) else .ok (some (d :: more), [])
    else .error (flawOn .expectedListSeparator (c :: after))

/-- A key up to its closing quote, given the text after the opening one, and the text after it. -/
def nextKey (first : Bool) (rest : List Char) :
    Except TextFault (Option (List Char) × List Char) :=
  match skipSpace rest with
  | [] => .error (flawOn .endInObject [])
  | c :: after =>
    if c = '\x7d' then .ok (none, after)
    else if first then
      if c = '"' then .ok (some after, []) else .error (flawOn .keyNotString (c :: after))
    else if c = ',' then
      match skipSpace after with
      | [] => .error (flawOn .endInValue [])
      | d :: more =>
        if d = '"' then .ok (some more, [])
        else if d = '\x7d' then .error (flawOn .trailingComma (d :: more))
        else .error (flawOn .keyNotString (d :: more))
    else .error (flawOn .expectedMemberSeparator (c :: after))

/-- The text after the colon of a member. -/
def readColon (rest : List Char) : Except TextFault (List Char) :=
  match skipSpace rest with
  | [] => .error (flawOn .endInObject [])
  | c :: after => if c = ':' then .ok after else .error (flawOn .expectedColon (c :: after))

/-- The parts of a list or object that were read, how it ends, and the rest if all is well. -/
structure Parts (α : Type) where
  parts : List α
  ending : Ending Mark
  rest? : Option (List Char)

def Parts.cut {α : Type} (fault : TextFault) : Parts α := ⟨[], .cut fault, none⟩

mutual
/-- Reads a value with `depth` levels left. -/
def readValue : Nat → Nat → List Char → Reading
  | 0, _, _ => .broken (flawOn .endInValue [])
  | fuel + 1, depth, text =>
    match skipSpace text with
    | [] => .broken (flawOn .endInValue [])
    | c :: rest =>
      if c = 'n' then
        .ofScalar ((readWord ['u', 'l', 'l'] rest).map fun rest => (.null, rest))
      else if c = 't' then
        .ofScalar ((readWord ['r', 'u', 'e'] rest).map fun rest => (.bool true, rest))
      else if c = 'f' then
        .ofScalar ((readWord ['a', 'l', 's', 'e'] rest).map fun rest => (.bool false, rest))
      else if c = '-' then
        .ofScalar ((readMagnitude true rest).map fun (n, rest) => (.number n, rest))
      else if c.isDigit then
        .ofScalar ((readMagnitude false (c :: rest)).map fun (n, rest) => (.number n, rest))
      else if c = '"' then
        .ofScalar ((readString rest).map fun (s, rest) => (.string s, rest))
      else if c = '[' then
        match depth with
        | 0 => ⟨.list (at? (c :: rest)) [] (.cut (flawOn .tooDeep (c :: rest))), none⟩
        | depth + 1 =>
          let parts :=
            match skipSpace rest with
            | [] => Parts.cut (flawOn .endInList [])
            | d :: after =>
              if d = ']' then ⟨[], .closed (at? after), some after⟩ else readItems fuel depth rest
          ⟨.list (at? (c :: rest)) parts.parts parts.ending, parts.rest?⟩
      else if c = '\x7b' then
        match depth with
        | 0 => ⟨.record (at? (c :: rest)) [] (.cut (flawOn .tooDeep (c :: rest))), none⟩
        | depth + 1 =>
          let parts := readMembers fuel depth true rest
          ⟨.record (at? (c :: rest)) parts.parts parts.ending, parts.rest?⟩
      else .broken (flawOn .expectedValue (c :: rest))

def readItems : Nat → Nat → List Char → Parts (Slot Mark × TextTree)
  | 0, _, _ => .cut (flawOn .endInList [])
  | fuel + 1, depth, text =>
    let reading := readValue fuel depth text
    match reading.follow text with
    | .error fault => ⟨[(⟨none, none⟩, reading.tree)], .cut fault, none⟩
    | .ok rest =>
      let slot : Slot Mark := ⟨at? (leaveList rest), listCloseFault rest⟩
      match nextItem rest with
      | .error fault => ⟨[(slot, reading.tree)], .cut fault, none⟩
      | .ok (none, after) =>
        ⟨[(slot, reading.tree)], .closed (at? after), reading.rest?.map fun _ => after⟩
      | .ok (some next, _) =>
        let more := readItems fuel depth next
        ⟨(slot, reading.tree) :: more.parts, more.ending,
          reading.rest?.bind fun _ => more.rest?⟩

def readMembers : Nat → Nat → Bool → List Char → Parts (Label Mark × TextTree)
  | 0, _, _, _ => .cut (flawOn .endInObject [])
  | fuel + 1, depth, first, text =>
    match nextKey first text with
    | .error fault => .cut fault
    | .ok (none, after) => ⟨[], .closed (at? after), some after⟩
    | .ok (some key, _) =>
      match readString key with
      | .error fault => .cut fault
      | .ok (key, rest) =>
        let keyPlace := at? (leaveObject rest)
        match readColon rest with
        | .error fault => ⟨[(⟨key, keyPlace, none, some fault⟩, .broken fault)], .cut fault, none⟩
        | .ok rest =>
          let reading := readValue fuel depth rest
          match reading.follow rest with
          | .error fault =>
            ⟨[(⟨key, keyPlace, none, some fault⟩, reading.tree)], .cut fault, none⟩
          | .ok rest =>
            let more := readMembers fuel depth false rest
            ⟨(⟨key, keyPlace, at? (leaveObject rest), none⟩, reading.tree) :: more.parts,
              more.ending, reading.rest?.bind fun _ => more.rest?⟩
end

def readTree (text : List Char) : Reading := readValue (2 * text.length + 2) maxDepth text

/-- Refuses anything but blanks after a value. -/
def readEnd (text : List Char) : Except TextFault Unit :=
  match skipSpace text with
  | [] => .ok ()
  | rest => .error (flawOn .trailingText rest)

def decodeChars {α : Type} (read : TextTree → Except TextFault α) (text : List Char) :
    Except TextFault α := do
  let reading := readTree text
  let value ← read reading.tree
  let rest ← reading.follow text
  readEnd rest
  return value

def decode {α : Type} (read : TextTree → Except TextFault α) (text : String) :
    Except Refusal α :=
  (decodeChars read text.toList).mapError (Refusal.ofFault text.toList)

mutual
/-- Members in ascending order of their keys, the last of several with one key kept, throughout. -/
def sorted : Json → Json
  | .array items => .array (sortedItems items)
  | .object members => .object (sortedMembers [] members)
  | value => value

def sortedItems : List Json → List Json
  | [] => []
  | item :: rest => sorted item :: sortedItems rest

def sortedMembers (before : List (String × Json)) : List (String × Json) → List (String × Json)
  | [] => before
  | (key, value) :: rest => sortedMembers (Entries.put key (sorted value) before) rest
end

def read (text : String) : Except Refusal Json := (decode Tree.value text).map sorted

end Fleet.Json
