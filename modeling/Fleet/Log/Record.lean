import Fleet.Json.Printer
import Fleet.Log.Level
import Fleet.Text.Quoted

/-!
# Records and their lines

A record has a level, a target, a message and fields. It is written as one line, either as text or
as a JSON object; the time at which it is written is given. In text a field is shown quoted, plain
or as a number; in JSON the first two are strings alike. Control characters that a terminal would
act on are spelled out in the message of a text line. Colour marks the parts of a text line.
-/
namespace Fleet.Log

inductive FieldValue where
  | quoted (text : String)
  | plain (text : String)
  | number (value : Nat)
  deriving DecidableEq, Repr

structure Record where
  level : Level
  target : String
  message : String
  fields : List (String × FieldValue)
  deriving DecidableEq, Repr

namespace Record

/-- The fields a filter may ask for: those of the record and its message. -/
def fieldNames (record : Record) : List String := "message" :: record.fields.map Prod.fst

def fieldText : FieldValue → String
  | .quoted text => Text.quoted text
  | .plain text => text
  | .number value => toString value

def fieldJson : FieldValue → Json
  | .quoted text | .plain text => .string text
  | .number value => .natural value

/-- A control character in the message of a text line. -/
def safeChar (c : Char) : List Char :=
  let n := c.toNat
  if n = 0x1B || n = 7 || n = 8 || n = 12 || n = 0x7F then
    '\\' :: 'x' :: Nat.digitChar (n / 16) :: [Nat.digitChar (n % 16)]
  else if 0x80 ≤ n && n ≤ 0x9F then ['\\', 'u', '\x7b'] ++ Nat.toDigits 16 n ++ ['\x7d']
  else [c]

def safeMessage (message : String) : String := String.ofList (message.toList.flatMap safeChar)

/-- The level, to the right in five columns. -/
def paddedLevel (level : Level) : String :=
  String.ofList (List.replicate (5 - level.name.length) ' ') ++ level.name

/-- Puts a terminal style around a text. -/
def styled (style : String) (text : String) : String :=
  let escape := String.singleton (Char.ofNat 0x1B)
  escape ++ "[" ++ style ++ "m" ++ text ++ escape ++ "[0m"

def dim : String := "2"

def italic : String := "3"

def levelStyle : Level → String
  | .trace => "35"
  | .debug => "34"
  | .info => "32"
  | .warn => "33"
  | .error => "31"

def textLine (color : Bool) (time : String) (record : Record) : String :=
  let paint (style text : String) : String := if color then styled style text else text
  let field (entry : String × FieldValue) : String :=
    " " ++ paint italic entry.1 ++ paint dim "=" ++ fieldText entry.2
  paint dim time ++ " " ++ paint (levelStyle record.level) (paddedLevel record.level) ++ " " ++
    paint dim record.target ++ paint dim ":" ++ " " ++ safeMessage record.message ++
    String.join (record.fields.map field) ++ "\n"

def json (time : String) (record : Record) : Json := .object [
  ("timestamp", .string time),
  ("level", .string record.level.name),
  ("fields", .object (("message", .string record.message) ::
    record.fields.map fun entry => (entry.1, fieldJson entry.2))),
  ("target", .string record.target)]

def jsonLine (time : String) (record : Record) : String := (json time record).compact ++ "\n"

end Record

end Fleet.Log
