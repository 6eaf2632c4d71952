import Fleet.Toml.Basic

/-!
# TOML numbers and moments

A literal that is no string is a word, an integer of 64 bits with sign, a double, or a moment: a
date, a time of day, or both with or without an offset. Digits may be grouped by single
underscores. Moments are checked against the calendar and kept as text.
-/
namespace Fleet.Toml

/-- The digits of a number that may be grouped by single underscores. -/
def grouped? (isDigit : Char → Bool) : List Char → Option (List Char)
  | [] => none
  | [c] => if isDigit c then some [c] else none
  | c :: d :: rest =>
    if !isDigit c then none
    else if d = '_' then (grouped? isDigit rest).map (c :: ·)
    else (grouped? isDigit (d :: rest)).map (c :: ·)

def digitsValue (base : Nat) (digits : List Char) : Nat :=
  digits.foldl (fun value c =>
    value * base + (if c.isDigit then c.toNat - 48 else c.toLower.toNat - 87)) 0

def splitSign : List Char → Bool × List Char
  | '-' :: rest => (true, rest)
  | '+' :: rest => (false, rest)
  | text => (false, text)

/-- Decimal digits without a needless leading zero. -/
def decimal? (text : List Char) : Option (List Char) :=
  match grouped? Char.isDigit text with
  | some digits => if digits.head? == some '0' && text.length ≠ 1 then none else some digits
  | none => none

def inRange? (value : Int) : Option Scalar :=
  if -Number.signedEnd ≤ value ∧ value < Number.signedEnd then some (.number (.whole value)) else none

def integer? (text : List Char) : Option Scalar := do
  let based (base : Nat) (isDigit : Char → Bool) (text : List Char) : Option Scalar := do
    inRange? (digitsValue base (← grouped? isDigit text))
  match text with
  | '0' :: 'x' :: rest =>
    based 16 (fun c => c.isDigit || ('a' ≤ c.toLower && c.toLower ≤ 'f')) rest
  | '0' :: 'o' :: rest => based 8 (fun c => '0' ≤ c && c ≤ '7') rest
  | '0' :: 'b' :: rest => based 2 (fun c => c == '0' || c == '1') rest
  | _ =>
    let (negative, digits) := splitSign text
    let value : Int := digitsValue 10 (← decimal? digits)
    inRange? (if negative then -value else value)

/-- The exponent of a float; an empty text is none. -/
def exponent? (text : List Char) : Option Int :=
  match text with
  | [] => some 0
  | c :: rest =>
    if c = 'e' ∨ c = 'E' then
      let (negative, digits) := splitSign rest
      (grouped? Char.isDigit digits).map fun digits =>
        let value : Int := digitsValue 10 digits
        if negative then -value else value
    else none

def isExponentMark (c : Char) : Bool := c == 'e' || c == 'E'

/-- A double beyond the largest one is refused, below the least one it is minus infinity. -/
def float? (text : List Char) : Option Scalar := do
  let (negative, magnitude) := splitSign text
  if magnitude = ['i', 'n', 'f'] then
    return .special (if negative then "-inf" else "inf")
  if magnitude = ['n', 'a', 'n'] then return .special "NaN"
  let whole ← decimal? (magnitude.takeWhile fun c => c != '.' && !isExponentMark c)
  let rest := magnitude.dropWhile fun c => c != '.' && !isExponentMark c
  guard (rest ≠ [])
  let (fraction, rest) ←
    match rest with
    | '.' :: rest => do
      let fraction ← grouped? Char.isDigit (rest.takeWhile fun c => !isExponentMark c)
      pure (fraction, rest.dropWhile fun c => !isExponentMark c)
    | _ => pure ([], rest)
  let exponent ← exponent? rest
  match Double.nearest? negative (digitsValue 10 (whole ++ fraction))
      (exponent - fraction.length) with
  | some x => return .number (.real x)
  | none => if negative then return .special "-inf" else none

/-! ### Moments -/

/-- Reads exactly `count` digits. -/
def fixedDigits? (count : Nat) (text : List Char) : Option (Nat × List Char) := do
  let digits := text.take count
  guard (digits.length = count ∧ digits.all Char.isDigit)
  return (digitsValue 10 digits, text.drop count)

def expect? (c : Char) : List Char → Option (List Char)
  | d :: rest => if c = d then some rest else none
  | [] => none

def isLeapYear (year : Nat) : Bool := year % 4 == 0 && (year % 100 != 0 || year % 400 == 0)

def daysInMonth (year month : Nat) : Nat :=
  if month = 2 then (if isLeapYear year then 29 else 28)
  else if month = 4 ∨ month = 6 ∨ month = 9 ∨ month = 11 then 30
  else 31

/-- A date, as its text. -/
def date? (text : List Char) : Option (List Char × List Char) := do
  let (year, rest) ← fixedDigits? 4 text
  let (month, rest) ← fixedDigits? 2 (← expect? '-' rest)
  let (day, rest) ← fixedDigits? 2 (← expect? '-' rest)
  guard (1 ≤ month ∧ month ≤ 12 ∧ 1 ≤ day ∧ day ≤ daysInMonth year month)
  return (text.take 10, rest)

/-- A time of day, as its text with at most nine places after the second and no needless zeros. -/
def time? (text : List Char) : Option (List Char × List Char) := do
  let (hour, rest) ← fixedDigits? 2 text
  let (minute, rest) ← fixedDigits? 2 (← expect? ':' rest)
  let (second, rest) ← fixedDigits? 2 (← expect? ':' rest)
  guard (hour ≤ 23 ∧ minute ≤ 59 ∧ second ≤ 60)
  match rest with
  | '.' :: after =>
    let places := after.takeWhile Char.isDigit
    guard (places ≠ [])
    let kept := ((places.take 9).reverse.dropWhile (· == '0')).reverse
    let shown := if kept.isEmpty then [] else '.' :: kept
    return (text.take 8 ++ shown, after.dropWhile Char.isDigit)
  | _ => return (text.take 8, rest)

def offset? (text : List Char) : Option (List Char) :=
  match text with
  | [] => some []
  | [c] => if c = 'Z' ∨ c = 'z' then some ['Z'] else none
  | sign :: rest => do
    guard (sign = '+' ∨ sign = '-')
    let (hour, after) ← fixedDigits? 2 rest
    let (minute, after) ← fixedDigits? 2 (← expect? ':' after)
    guard (hour ≤ 23 ∧ minute ≤ 59 ∧ after = [])
    return (if hour = 0 ∧ minute = 0 then '+' else sign) :: rest

/-- A moment with nothing left over. -/
def moment? (text : List Char) : Option String :=
  match date? text with
  | some (date, []) => some (String.ofList date)
  | some (date, mark :: rest) => do
    guard (mark = 'T' ∨ mark = 't' ∨ mark = ' ')
    let (time, rest) ← time? rest
    let offset ← offset? rest
    return String.ofList (date ++ 'T' :: time ++ offset)
  | none => do
    let (time, rest) ← time? text
    guard (rest = [])
    return String.ofList time

def isLiteralChar (c : Char) : Bool :=
  c.isAlphanum || c == '+' || c == '-' || c == '_' || c == '.' || c == ':'

/-- The literal at the front of a text. A date may be followed by a blank and a time. -/
def splitLiteral (text : List Char) : List Char × List Char :=
  let word := text.takeWhile isLiteralChar
  let rest := text.dropWhile isLiteralChar
  match rest with
  | ' ' :: a :: b :: ':' :: after =>
    if word.length = 10 && (date? word).isSome && a.isDigit && b.isDigit then
      let time := (a :: b :: ':' :: after).takeWhile isLiteralChar
      (word ++ ' ' :: time, (a :: b :: ':' :: after).dropWhile isLiteralChar)
    else (word, rest)
  | _ => (word, rest)

def literal? (word : List Char) : Option Item :=
  if word = ['t', 'r', 'u', 'e'] then some (.scalar (.bool true))
  else if word = ['f', 'a', 'l', 's', 'e'] then some (.scalar (.bool false))
  else
    match integer? word with
    | some value => some (.scalar value)
    | none =>
      match float? word with
      | some value => some (.scalar value)
      | none => (moment? word).map .moment

end Fleet.Toml
