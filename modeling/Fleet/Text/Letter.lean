import Fleet.Text.LetterTable
import Fleet.Text.CaseTable
import Fleet.Text.Range

/-!
# Letters and lower case

Alphanumeric characters are those with the property Alphabetic or a numeric category. Lower case
replaces each capital letter by its small form; a capital dotted I becomes two characters, and a
capital sigma that ends a word becomes the final sigma.
-/
namespace Fleet.Text

def isAlphanumeric (c : Char) : Bool :=
  c.isAlphanum || (0x80 ≤ c.toNat && within alphanumericRanges c.toNat)

def smallForm (c : Char) : Char :=
  if c.toNat < 0x80 then c.toLower
  else
    match caseRuns.find? fun run =>
      run.first ≤ c.toNat && c.toNat ≤ run.last && (c.toNat - run.first) % run.step == 0 with
    | some run => Char.ofNat ((c.toNat : Int) + run.distance).toNat
    | none => c

/-- Whether the first character that case does not pass over is a cased one. -/
def meetsCased (text : List Char) : Bool :=
  (text.dropWhile fun c => within caseIgnorableRanges c.toNat).head?.any
    fun c => within casedRanges c.toNat

def lowerAfter (before : List Char) : List Char → List Char
  | [] => []
  | c :: rest =>
    let small :=
      if c.toNat = 0x130 then ['i', Char.ofNat 0x307]
      else if c.toNat = 0x3A3 then
        [Char.ofNat (if meetsCased before && !meetsCased rest then 0x3C2 else 0x3C3)]
      else [smallForm c]
    small ++ lowerAfter (c :: before) rest

def lower (s : String) : String := String.ofList (lowerAfter [] s.toList)

end Fleet.Text
