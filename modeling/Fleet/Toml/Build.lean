import Fleet.Toml.Basic

/-!
# Tables from statements

Statements are carried out in order on the root table. A header leads through tables and through
the last element of an array of tables; what is missing on the way comes into being as an implied
table. A dotted key leads through tables that such keys or longer headers have implied, and adds
to the former only. No key is set twice, no header is given twice, and nothing adds to a value.
-/
namespace Fleet.Toml.Members

def find? (name : String) (members : Members) : Option (Key × Span × Item) :=
  List.find? (fun member => member.1.name == name) members

def set (name : String) (member : Key × Span × Item) (members : Members) : Members :=
  members.map fun old => if old.1.name == name then member else old

def remove (name : String) (members : Members) : Members :=
  members.filter fun member => member.1.name != name

/-- Changes the members of the last element of an array of tables. -/
def changeLast? (change : Members → Option Members) :
    List (Span × Item) → Option (List (Span × Item))
  | [] => none
  | [(span, .table form members)] => do return [(span, .table form (← change members))]
  | [_] => none
  | first :: rest => do return first :: (← changeLast? change rest)

/-- Changes the table that a header path leads to. -/
def changeAt? (change : Members → Option Members) (path : List Key) (members : Members) :
    Option Members :=
  match path with
  | [] => change members
  | key :: path =>
    match members.find? key.name with
    | none => do
      return members ++ [(key, key.span, .table .implied (← changeAt? change path []))]
    | some (old, span, .table form inner) =>
      if form = .inline then none
      else do
        return members.set key.name (old, span, .table form (← changeAt? change path inner))
    | some (old, span, .tables elements) => do
      return members.set key.name (old, span, .tables (← changeLast? (changeAt? change path) elements))
    | some _ => none

/-- Adds a member to the table that the keys in front of its own lead to. `mayAdd` says whether the
table at hand may be added to; others may only be passed through. -/
def assign? (mayAdd : Bool) (path : List Key) (key : Key) (span : Span) (value : Item)
    (members : Members) : Option Members :=
  match path with
  | [] =>
    if !mayAdd || (members.find? key.name).isSome then none
    else some (members ++ [(key, span, value)])
  | part :: path =>
    match members.find? part.name with
    | none => do
      return members ++ [(part, part.span, .table .dotted (← assign? true path key span value []))]
    | some (old, place, .table form inner) =>
      if form = .implied ∨ form = .dotted then do
        return members.set part.name
          (old, place, .table form (← assign? (form = .dotted) path key span value inner))
      else none
    | some (old, place, .tables elements) => do
      return members.set part.name
        (old, place, .tables (← changeLast? (assign? false path key span value) elements))
    | some _ => none

/-- Gives a table its header. -/
def openTable? (key : Key) (span : Span) (members : Members) : Option Members :=
  match members.find? key.name with
  | none => some (members ++ [(key, span, .table .headed [])])
  | some (_, _, .table .implied inner) =>
    some (members.remove key.name ++ [(key, span, .table .headed inner)])
  | some _ => none

/-- Adds an element to an array of tables. -/
def openElement? (key : Key) (span : Span) (members : Members) : Option Members :=
  match members.find? key.name with
  | none => some (members ++ [(key, span, .tables [(span, .table .headed [])])])
  | some (old, place, .tables elements) =>
    some (members.set key.name
      (old, ⟨place.start, span.stop⟩, .tables (elements ++ [(span, .table .headed [])])))
  | some _ => none

/-- Carries out statements; `here` is the path of the last header. -/
def carryOut? (here : List Key) (members : Members) : List Statement → Option Members
  | [] => some members
  | .assign path key span value :: rest => do
    carryOut? here (← changeAt? (assign? true path key span value) here members) rest
  | .table path key span :: rest => do
    carryOut? (path ++ [key]) (← changeAt? (openTable? key span) path members) rest
  | .element path key span :: rest => do
    carryOut? (path ++ [key]) (← changeAt? (openElement? key span) path members) rest

def ofStatements? (statements : List Statement) : Option Members := carryOut? [] [] statements

/-- The members of an inline table. -/
def ofPairs? (pairs : List (List Key × Key × Span × Item)) : Option Members :=
  pairs.foldlM (fun members (path, key, span, value) => assign? true path key span value members) []

end Fleet.Toml.Members
