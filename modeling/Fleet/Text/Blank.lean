/-!
# Blank characters and runs

The blank characters are those with the Unicode property White_Space. `runs` cuts a text into its
maximal runs of characters that are not blank, in order.
-/
namespace Fleet.Text

def isBlank (c : Char) : Bool :=
  let n := c.toNat
  (9 ≤ n && n ≤ 13) || n == 0x20 || n == 0x85 || n == 0xA0 || n == 0x1680 ||
    (0x2000 ≤ n && n ≤ 0x200A) || n == 0x2028 || n == 0x2029 || n == 0x202F || n == 0x205F ||
    n == 0x3000

/-- The maximal runs of characters that are not blank. -/
def runs : List Char → List (List Char)
  | [] => []
  | c :: rest =>
    if isBlank c then runs rest
    else
      match rest, runs rest with
      | d :: _, run :: more => if isBlank d then [c] :: run :: more else (c :: run) :: more
      | _, more => [c] :: more

/-- A text without the blanks at its ends. -/
def trim (text : List Char) : List Char :=
  ((text.dropWhile isBlank).reverse.dropWhile isBlank).reverse

end Fleet.Text
