import Fleet.Tree.Fault

/-!
# TOML values with their places

A span is a stretch of a text, held as what is still to be read where it starts and where it ends.
Tables remember how they came about, because that decides whether a later line may add to them: a
table with a header of its own, one that a longer header or a dotted key implies, or a closed
inline table. Members keep the order of the text.
-/
namespace Fleet.Toml

structure Span where
  start : List Char
  stop : List Char

structure Key where
  name : String
  span : Span

inductive Form where
  | headed
  | implied
  | dotted
  | inline
  deriving DecidableEq, Repr

inductive Item where
  | scalar (value : Scalar)
  | moment (text : String)
  | array (items : List (Span × Item))
  | table (form : Form) (members : List (Key × Span × Item))
  | tables (elements : List (Span × Item))

abbrev Members := List (Key × Span × Item)

/-- What one line of a document says. -/
inductive Statement where
  | assign (path : List Key) (key : Key) (span : Span) (value : Item)
  | table (path : List Key) (key : Key) (span : Span)
  | element (path : List Key) (key : Key) (span : Span)

end Fleet.Toml
