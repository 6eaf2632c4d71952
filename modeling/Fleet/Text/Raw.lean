import Fleet.Text.Lossy

/-!
# Raw texts

The names of files are bytes, and need not be UTF-8. Every text is such a name. A name that is no
text is shown with a mark for each piece that is none, and where a text has to be had there is none.
-/
namespace Fleet

structure RawText where
  bytes : List UInt8
  deriving DecidableEq, Repr

namespace RawText

def ofText (text : String) : RawText := ⟨text.toUTF8.data.toList⟩

instance : Coe String RawText := ⟨ofText⟩

/-- The text that the bytes are, if they are one. -/
def text? (raw : RawText) : Option String := String.fromUTF8? ⟨raw.bytes.toArray⟩

def display (raw : RawText) : String := Text.lossy raw.bytes

instance : ToString RawText := ⟨display⟩

instance : Append RawText := ⟨fun front back => ⟨front.bytes ++ back.bytes⟩⟩

def isEmpty (raw : RawText) : Bool := raw.bytes.isEmpty

def size (raw : RawText) : Nat := raw.bytes.length

end RawText

end Fleet
