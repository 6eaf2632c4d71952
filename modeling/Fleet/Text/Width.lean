import Fleet.Text.Range
import Fleet.Text.WidthTable

/-!
# The width of a text

The width of a text is the number of terminal columns it takes. Each character adds its own width,
which is nought for marks that join the character before, two for wide characters and one for all
others, controls included. Some characters join into one sign: a line break of two characters, an
emoji sequence, and a few ligatures. What a character adds then depends on the characters next to
it, so `advance` sees both sides. Text of printable ASCII is as wide as it is long.
-/
namespace Fleet.Text

def charWidth (c : Char) : Nat :=
  let n := c.toNat
  if n < 0xA0 then 1
  else if n = 0x17D8 then 3
  else if n = 0x115F || n = 0x17A4 then 2
  else if within zeroWidthRanges n then 0
  else if within wideRanges n then 2
  else 1

def isEmoji (c : Char) : Bool := within emojiRanges c.toNat

def joiner : Char := Char.ofNat 0x200D

def emojiStyle : Char := Char.ofNat 0xFE0F

def textStyle : Char := Char.ofNat 0xFE0E

def isSkinTone (c : Char) : Bool := 0x1F3FB ≤ c.toNat && c.toNat ≤ 0x1F3FF

def isModifierBase (c : Char) : Bool := within modifierBaseRanges c.toNat

def isShownAsEmoji (c : Char) : Bool := within emojiShownRanges c.toNat

def isLam (c : Char) : Bool :=
  let n := c.toNat
  n == 0x644 || (0x6B5 ≤ n && n ≤ 0x6B8) || n == 0x76A || n == 0x8A6 || n == 0x8C7

def isAlef (c : Char) : Bool :=
  let n := c.toNat
  n == 0x622 || n == 0x623 || n == 0x625 || n == 0x627 || (0x671 ≤ n && n ≤ 0x673) ||
    n == 0x675 || n == 0x773 || n == 0x774

def isLisuTone (first last : Nat) (c : Char) : Bool := first ≤ c.toNat && c.toNat ≤ last

/-- The characters before end, read backwards, in a complete emoji. -/
def endsInEmoji : List Char → Bool
  | c :: d :: _ =>
    if c = emojiStyle then isEmoji d
    else if isSkinTone c then true
    else isShownAsEmoji c
  | [c] => isShownAsEmoji c
  | [] => false

/-- Whether `c` continues a sign that the characters before it, read backwards, have begun. -/
def joinsBefore (before : List Char) (c : Char) : Bool :=
  match before with
  | [] => false
  | b :: rest =>
    if c = '\n' then b = '\r'
    else if c.toNat < 0x80 then false
    else if isSkinTone c && isModifierBase b then true
    else if b = joiner then
      isEmoji c && endsInEmoji rest ||
        c.toNat == 0x5DC && rest.head? == some (Char.ofNat 0x5D0)
    else if isAlef c then
      (before.dropWhile fun d => charWidth d == 0).head?.any isLam
    else isLisuTone 0xA4FC 0xA4FD c && isLisuTone 0xA4F8 0xA4FB b

def advance (before : List Char) (c : Char) (after : List Char) : Nat :=
  if joinsBefore before c then 0
  else
    match after with
    | [] => charWidth c
    | d :: _ =>
      if d = emojiStyle && isEmoji c then 2
      else if d = textStyle && isShownAsEmoji c && !(0x1F200 ≤ c.toNat && c.toNat ≤ 0x1F2FF) then 1
      else if isSkinTone d && isModifierBase c then 2
      else charWidth c

def widthAfter (before : List Char) : List Char → Nat
  | [] => 0
  | c :: rest => advance before c rest + widthAfter (c :: before) rest

def width (text : List Char) : Nat := widthAfter [] text

end Fleet.Text
