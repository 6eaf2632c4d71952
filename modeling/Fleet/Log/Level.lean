import Fleet.Text.Blank

/-!
# Levels

A record has one of five levels, a threshold lets through the records up to a level or none at
all. A threshold is read from its name in any mix of ASCII letter case or from a number.
-/
namespace Fleet.Log

inductive Level where
  | error
  | warn
  | info
  | debug
  | trace
  deriving DecidableEq, Repr

namespace Level

def rank : Level → Nat
  | error => 1
  | warn => 2
  | info => 3
  | debug => 4
  | trace => 5

def name : Level → String
  | error => "ERROR"
  | warn => "WARN"
  | info => "INFO"
  | debug => "DEBUG"
  | trace => "TRACE"

end Level

/-- The records of a rank up to `rank` pass. -/
structure Threshold where
  rank : Nat
  deriving DecidableEq, Repr

namespace Threshold

def off : Threshold := ⟨0⟩

def upTo (level : Level) : Threshold := ⟨level.rank⟩

def passes (threshold : Threshold) (level : Level) : Bool := level.rank ≤ threshold.rank

def names : List (List Char × Threshold) := [
  (['e', 'r', 'r', 'o', 'r'], upTo .error),
  (['w', 'a', 'r', 'n'], upTo .warn),
  (['i', 'n', 'f', 'o'], upTo .info),
  (['d', 'e', 'b', 'u', 'g'], upTo .debug),
  (['t', 'r', 'a', 'c', 'e'], upTo .trace),
  (['o', 'f', 'f'], off)]

/-- The value of decimal digits after an optional plus sign. -/
def number? (text : List Char) : Option Nat :=
  let digits := if text.head? == some '+' then text.drop 1 else text
  if digits ≠ [] ∧ digits.all Char.isDigit then
    some (digits.foldl (fun value c => value * 10 + (c.toNat - 48)) 0)
  else none

def read? (text : List Char) : Option Threshold :=
  match (number? text).filter (· ≤ 5) with
  | some n => some ⟨n⟩
  | none =>
    let folded := text.map Char.toLower
    (names.find? fun entry => entry.1 == folded).map Prod.snd

end Threshold

end Fleet.Log
