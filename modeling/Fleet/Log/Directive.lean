import Fleet.Log.Level
import Fleet.Text.Bytes
import Fleet.Text.Letter

/-!
# Filter directives

A directive is `target[span{field,field=value}]=level`, where every part may be missing. A lone
word is a level if it reads as one and a target otherwise, and a directive without a level lets
everything through. The directive is scanned without the blanks around it, but its parts are cut
out of the whole text by byte position, so a blank in front shifts them. What is read here is the
plain part of the grammar: a value of a field is taken as it stands.
-/
namespace Fleet.Log

structure Directive where
  target : Option (List Char) := none
  span : Option (List Char) := none
  fields : List (List Char) := []
  threshold : Threshold := .upTo .trace

inductive DirectiveFault where
  | malformed
  | badLevel
  | other (text : String)
  deriving DecidableEq, Repr

def DirectiveFault.message : DirectiveFault → String
  | malformed => "invalid filter directive"
  | badLevel => "error parsing level filter: expected one of \"off\", \"error\", \"warn\", " ++
      "\"info\", \"debug\", \"trace\", or a number 0-5"
  | other text => text

namespace Directive

/-- The name of a field that a directive asks for. -/
def fieldName (field : List Char) : List Char := field.takeWhile (· != '=')

def hasValue (field : List Char) : Bool := field.contains '='

/-- Whether the directive applies outside all spans. -/
def isStatic (directive : Directive) : Bool :=
  directive.span.isNone && !directive.fields.any hasValue

/-- Whether the directive may apply inside some span. -/
def isDynamic (directive : Directive) : Bool :=
  directive.span.isSome || !directive.fields.isEmpty

/-- Where the scan stands, and the byte position at which the part at hand began. -/
inductive Stage where
  | start
  | word (since : Nat)
  | span (since : Nat)
  | field (since : Nat)
  | afterField
  | afterSpan
  | level (since : Nat)
  | done

def readThreshold (text : List Char) : Except DirectiveFault Threshold :=
  if text.isEmpty then .ok (.upTo .trace)
  else
    match Threshold.read? text with
    | some threshold => .ok threshold
    | none => .error .badLevel

/-- A lone word. -/
def ofWord (directive : Directive) (word : List Char) : Directive :=
  if word.isEmpty then directive
  else
    match Threshold.read? word with
    | some threshold => { directive with threshold, target := none }
    | none => { directive with target := some word }

def mayStart (c : Char) : Bool :=
  c == '-' || c == ':' || c == '_' || Text.isAlphanumeric c

/-- Moves over the character at a byte position. -/
def step (text : List Char) (stage : Stage) (directive : Directive) (position : Nat) (c : Char) :
    Except DirectiveFault (Stage × Directive) :=
  match stage with
  | .start =>
    if c = '[' then .ok (.span (position + 1), directive)
    else if mayStart c then .ok (.word position, directive)
    else .error .malformed
  | .word since =>
    if c = '=' then
      .ok (.level (position + 1), { directive with target := some (Text.sliceBytes text since position) })
    else if c = '[' then
      .ok (.span (position + 1), { directive with target := some (Text.sliceBytes text since position) })
    else if c = ',' then .ok (.done, directive.ofWord (Text.dropBytes since text))
    else .ok (stage, directive)
  | .span since =>
    if c = ']' then
      .ok (.afterSpan, { directive with span := some (Text.sliceBytes text since position) })
    else if c = '\x7b' then
      let name := Text.sliceBytes text since position
      .ok (.field (position + 1), { directive with span := if name.isEmpty then none else some name })
    else .ok (stage, directive)
  | .field since =>
    if c = '\x7d' || c = ',' then
      let field := Text.sliceBytes text since position
      if field.isEmpty then .error .malformed
      else
        .ok (if c = ',' then .field (position + 1) else .afterField,
          { directive with fields := directive.fields ++ [field] })
    else .ok (stage, directive)
  | .afterField => if c = ']' then .ok (.afterSpan, directive) else .error .malformed
  | .afterSpan => if c = '=' then .ok (.level (position + 1), directive) else .error .malformed
  | .level since =>
    if c = ',' then
      (readThreshold (Text.sliceBytes text since position)).map fun threshold =>
        (.done, { directive with threshold })
    else .ok (stage, directive)
  | .done => .error .malformed

def finish (text : List Char) (stage : Stage) (directive : Directive) :
    Except DirectiveFault Directive :=
  match stage with
  | .word since => .ok (directive.ofWord (Text.dropBytes since text))
  | .level since =>
    (readThreshold (Text.dropBytes since text)).map fun threshold => { directive with threshold }
  | .afterSpan | .done => .ok directive
  | _ => .error .malformed

def scan (text : List Char) (stage : Stage) (directive : Directive) (position : Nat) :
    List Char → Except DirectiveFault Directive
  | [] => finish text stage directive
  | c :: rest =>
    match step text stage directive position c with
    | .error fault => .error fault
    | .ok (stage, directive) => scan text stage directive (position + c.utf8Size) rest

def read (text : List Char) : Except DirectiveFault Directive :=
  scan text .start {} 0 (Text.trim text)

end Directive

end Fleet.Log
