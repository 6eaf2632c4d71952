import Fleet.Json.Scan

/-!
# Positions in a text

A fault in a text is reported with the line and column of its mark. Lines count from one; the
column is the number of bytes read since the line began.
-/
namespace Fleet.Json

structure Position where
  line : Nat
  column : Nat
  deriving DecidableEq, Repr

namespace Position

def start : Position := ⟨1, 0⟩

/-- Moves over a character, or over its first `limit` bytes. -/
def step (limit : Nat) (position : Position) (c : Char) : Position :=
  if c = '\n' then ⟨position.line + 1, 0⟩
  else ⟨position.line, position.column + min limit c.utf8Size⟩

def stepBytes (position : Position) : Nat → List Char → Position
  | 0, _ => position
  | _, [] => position
  | bytes + 1, c :: rest =>
    stepBytes (position.step (bytes + 1) c) (bytes + 1 - c.utf8Size) rest
termination_by _ text => text.length

def ofMark (text : List Char) (mark : Mark) : Position :=
  let before := text.take (text.length - mark.rest.length)
  (before.foldl (step 4) start).stepBytes mark.ahead mark.rest

end Position

/-- A fault whose place has become a position. -/
structure Refusal where
  cause : Cause
  position : Option Position
  deriving DecidableEq, Repr

def Refusal.message (refusal : Refusal) : String :=
  match refusal.position with
  | none => refusal.cause.message .json
  | some position =>
    s!"{refusal.cause.message .json} at line {position.line} column {position.column}"

def Refusal.ofFault (text : List Char) (fault : TextFault) : Refusal :=
  ⟨fault.cause, fault.place.map (Position.ofMark text)⟩

end Fleet.Json
