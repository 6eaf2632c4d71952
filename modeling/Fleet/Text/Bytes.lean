/-!
# Texts by bytes

Some rules measure a text, or cut it, by the bytes of its characters in UTF-8. A cut inside a
character takes or drops the whole of it.
-/
namespace Fleet.Text

def byteLength : List Char → Nat
  | [] => 0
  | c :: rest => c.utf8Size + byteLength rest

def dropBytes : Nat → List Char → List Char
  | 0, text => text
  | _ + 1, [] => []
  | n + 1, c :: rest => dropBytes (n + 1 - c.utf8Size) rest

def takeBytes : Nat → List Char → List Char
  | 0, _ => []
  | _ + 1, [] => []
  | n + 1, c :: rest => c :: takeBytes (n + 1 - c.utf8Size) rest

/-- The text between two byte positions. -/
def sliceBytes (text : List Char) (since upTo : Nat) : List Char :=
  dropBytes since (takeBytes upTo text)

end Fleet.Text
