import Fleet.Decimal.Double

/-!
# The shortest decimal text of a double

Every double is the nearest double to an interval of numbers. Its shortest digits are taken from
the coarsest decimal grid with a point in that interval; of two such points the nearer one is
taken, and of two equally near ones the even one. How the digits are laid out (where positional
writing ends, whether a whole number keeps `.0`) is a separate record.
-/
namespace Fleet.Decimal

/-- The value `digits · 10^power`. -/
structure Digits where
  digits : Nat
  power : Int
  deriving DecidableEq, Repr

/-- The point of the grid `10^power` that reads back as `mantissa · 2^exponent`. -/
def gridPoint? (mantissa : Nat) (exponent power : Int) : Option Nat :=
  let num := Nat.pow 2 (exponent - 2).toNat * Nat.pow 10 (-power).toNat
  let den := Nat.pow 2 (2 - exponent).toNat * Nat.pow 10 power.toNat
  let low := (4 * mantissa - if mantissa = Nat.pow 2 52 ∧ -1074 < exponent then 1 else 2) * num
  let high := (4 * mantissa + 2) * num
  let value := 4 * mantissa * num
  let inside (d : Nat) : Bool :=
    if mantissa % 2 = 0 then low ≤ d * den && d * den ≤ high
    else low < d * den && d * den < high
  let below := value / den
  let above := below + 1
  if inside below then
    if inside above then
      let down := value - below * den
      let up := above * den - value
      if down < up || (down == up && below % 2 == 0) then some below else some above
    else some below
  else if inside above then some above
  else none

def searchGrids (mantissa : Nat) (exponent power : Int) : Nat → Digits
  | 0 => ⟨0, 0⟩
  | steps + 1 =>
    match gridPoint? mantissa exponent power with
    | some digits => ⟨digits, power⟩
    | none => searchGrids mantissa exponent (power - 1) steps

/-- The shortest digits of a double that is not zero. The first grid is above the value, and
seventeen digits always suffice. -/
def shortest (x : Double) : Digits :=
  let start := ((x.exponent + x.mantissa.log2 + 1) * 30103).fdiv 100000 + 1
  searchGrids x.mantissa x.exponent start 24

/-- How digits are laid out. `position` is the number of digits before the point. -/
structure Layout where
  positional : Int → Bool
  keepsPoint : Bool
  exponentMark : List Char
  positiveSign : List Char

/-- Positional from `1e-5` up to below `1e16`, with a point; `e+16` and `e-7` outside. -/
def Layout.scientific : Layout where
  positional position := -4 ≤ position && position ≤ 16
  keepsPoint := true
  exponentMark := ['e']
  positiveSign := ['+']

/-- Positional throughout. -/
def Layout.positionalOnly (keepsPoint : Bool) : Layout where
  positional _ := true
  keepsPoint := keepsPoint
  exponentMark := []
  positiveSign := []

def Layout.place (layout : Layout) (digits : List Char) (power : Int) : List Char :=
  let position := digits.length + power
  if layout.positional position then
    if position ≤ 0 then '0' :: '.' :: List.replicate (-position).toNat '0' ++ digits
    else if 0 ≤ power then
      digits ++ List.replicate power.toNat '0' ++ if layout.keepsPoint then ['.', '0'] else []
    else digits.take position.toNat ++ '.' :: digits.drop position.toNat
  else
    let scaled := position - 1
    let exponent := Nat.toDigits 10 scaled.natAbs
    let sign := if scaled < 0 then ['-'] else layout.positiveSign
    let tail := match digits with
      | d :: [] => [d]
      | d :: more => d :: '.' :: more
      | [] => []
    tail ++ layout.exponentMark ++ sign ++ exponent

def Layout.write (layout : Layout) (x : Double) : List Char :=
  let sign := if x.negative then ['-'] else []
  if x.isZero then sign ++ '0' :: if layout.keepsPoint then ['.', '0'] else []
  else
    let short := shortest x
    sign ++ layout.place (Nat.toDigits 10 short.digits) short.power

end Fleet.Decimal
