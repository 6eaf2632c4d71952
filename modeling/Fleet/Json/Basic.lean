import Fleet.Decimal.Double

/-!
# JSON values

A number is kept as an integer as long as it fits 64 bits, with or without sign, and as a double
otherwise. The members of an object are pairs in some order; reading a text sorts them by key,
writing keeps the order it is given.
-/
namespace Fleet

inductive Number where
  | whole (value : Int)
  | real (value : Double)
  deriving DecidableEq, Repr

namespace Number

/-- `2^64`, the first number beyond 64 bits without sign. -/
def unsignedEnd : Int := 18446744073709551616

/-- `2^63`, the first number beyond 64 bits with sign. -/
def signedEnd : Int := 9223372036854775808

/-- Natural numbers below `2^64` and negative integers from `-2^63` on. -/
def fits (value : Int) : Bool := -signedEnd ≤ value && value < unsignedEnd

end Number

inductive Json where
  | null
  | bool (value : Bool)
  | number (value : Number)
  | string (value : String)
  | array (items : List Json)
  | object (members : List (String × Json))
  deriving Repr

namespace Json

instance : Inhabited Json := ⟨null⟩

def natural (n : Nat) : Json := number (.whole n)

def ofOption (text : Option String) : Json :=
  match text with
  | none => null
  | some s => string s

def isNull : Json → Bool
  | null => true
  | _ => false

def string? : Json → Option String
  | string s => some s
  | _ => none

end Json

end Fleet
