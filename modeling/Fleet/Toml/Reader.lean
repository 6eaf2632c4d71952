import Fleet.Toml.Literal
import Fleet.Toml.Quote
import Fleet.Toml.Build

/-!
# Reading TOML texts

A document is a sequence of lines, each of which is blank or a comment or makes one statement; a
value may run over several lines. Reading says only whether a text is TOML and what it means, not
where it goes wrong. Arrays and inline tables nest up to 79 deep, and so do dotted keys.
-/
namespace Fleet.Toml

/-- Nesting at this depth is refused. -/
def depthLimit : Nat := 80

/-- Skips a comment up to the end of its line. -/
def skipComment : List Char → Option (List Char)
  | '#' :: rest =>
    let after := rest.dropWhile isPlain
    if after.isEmpty || (lineBreak? after).isSome then some after else none
  | text => some text

/-- Skips what may end a line: blanks, a comment and the line break. -/
def endLine? (text : List Char) : Option (List Char) := do
  let rest ← skipComment (skipBlank text)
  if rest.isEmpty then some [] else lineBreak? rest

/-- Skips blanks, comments and line breaks inside an array. -/
def skipFiller : Nat → List Char → Option (List Char)
  | 0, text => some text
  | fuel + 1, text =>
    let text := skipBlank text
    match text with
    | '#' :: _ => do skipFiller fuel (← skipComment text)
    | _ =>
      match lineBreak? text with
      | some rest => skipFiller fuel rest
      | none => some text

/-- A dotted key, up to what follows the blanks after it. -/
def dottedKey? : Nat → List Char → Option (List Key × List Char)
  | 0, _ => none
  | fuel + 1, text => do
    let start := skipBlank text
    let (name, stop) ← simpleKey? start
    let key : Key := ⟨name, ⟨start, stop⟩⟩
    match skipBlank stop with
    | '.' :: rest => do
      let (more, rest) ← dottedKey? fuel rest
      return (key :: more, rest)
    | rest => return ([key], rest)

def keyPath? (text : List Char) : Option (List Key × Key × List Char) := do
  let (keys, rest) ← dottedKey? (text.length + 1) text
  guard (keys.length < depthLimit)
  let last ← keys.getLast?
  return (keys.dropLast, last, rest)

mutual
/-- A value at the front of a text, `depth` levels deep. -/
def value? : Nat → Nat → List Char → Option (Item × List Char)
  | 0, _, _ => none
  | fuel + 1, depth, text =>
    match text with
    | '[' :: rest => do
      guard (depth + 1 < depthLimit)
      let (items, rest) ← items? fuel (depth + 1) rest
      return (.array items, rest)
    | '\x7b' :: rest => do
      guard (depth + 1 < depthLimit)
      let (pairs, rest) ←
        match skipBlank rest with
        | '\x7d' :: rest => some ([], rest)
        | _ => pairs? fuel (depth + 1) rest
      return (.table .inline (← Members.ofPairs? pairs), rest)
    | '"' :: _ | '\'' :: _ => do
      let (s, rest) ← string? text
      return (.scalar (.string s), rest)
    | _ => do
      let (word, rest) := splitLiteral text
      return (← literal? word, rest)

/-- The items of an array up to its closing bracket. -/
def items? : Nat → Nat → List Char → Option (List (Span × Item) × List Char)
  | 0, _, _ => none
  | fuel + 1, depth, text => do
    let start ← skipFiller text.length text
    match start with
    | ']' :: rest => return ([], rest)
    | _ =>
      let (item, stop) ← value? fuel depth start
      match ← skipFiller stop.length stop with
      | ',' :: rest => do
        let (more, rest) ← items? fuel depth rest
        return ((⟨start, stop⟩, item) :: more, rest)
      | ']' :: rest => return ([(⟨start, stop⟩, item)], rest)
      | _ => none

/-- The pairs of an inline table up to its closing brace. -/
def pairs? : Nat → Nat → List Char → Option (List (List Key × Key × Span × Item) × List Char)
  | 0, _, _ => none
  | fuel + 1, depth, text => do
    let (path, key, rest) ← keyPath? text
    match rest with
    | '=' :: rest => do
      let start := skipBlank rest
      let (item, stop) ← value? fuel depth start
      match skipBlank stop with
      | ',' :: rest => do
        let (more, rest) ← pairs? fuel depth rest
        return ((path, key, ⟨start, stop⟩, item) :: more, rest)
      | '\x7d' :: rest => return ([(path, key, ⟨start, stop⟩, item)], rest)
      | _ => none
    | _ => none
end

/-- The statement of a line that is not blank, and the text after the line. -/
def statement? (text : List Char) : Option (Statement × List Char) := do
  match text with
  | '[' :: '[' :: rest => do
    let (path, key, rest) ← keyPath? rest
    match rest with
    | ']' :: ']' :: stop => return (.element path key ⟨text, stop⟩, ← endLine? stop)
    | _ => none
  | '[' :: rest => do
    let (path, key, rest) ← keyPath? rest
    match rest with
    | ']' :: stop => return (.table path key ⟨text, stop⟩, ← endLine? stop)
    | _ => none
  | _ => do
    let (path, key, rest) ← keyPath? text
    match rest with
    | '=' :: rest => do
      let start := skipBlank rest
      let (item, stop) ← value? (2 * start.length + 2) 0 start
      return (.assign path key ⟨start, stop⟩ item, ← endLine? stop)
    | _ => none

def statements? : Nat → List Char → Option (List Statement)
  | 0, _ => some []
  | fuel + 1, text =>
    let text := skipBlank text
    match text with
    | [] => some []
    | '#' :: _ => do statements? fuel (← endLine? text)
    | _ =>
      match lineBreak? text with
      | some rest => statements? fuel rest
      | none => do
        let (statement, rest) ← statement? text
        return statement :: (← statements? fuel rest)

/-- The text without a byte order mark at its front. -/
def withoutMark (text : List Char) : List Char :=
  match text with
  | c :: rest => if c.toNat = 0xFEFF then rest else text
  | [] => []

/-- The root table of a document, or nothing if the text is not TOML. -/
def read? (text : String) : Option Members := do
  let chars := withoutMark text.toList
  Members.ofStatements? (← statements? (chars.length + 1) chars)

end Fleet.Toml
