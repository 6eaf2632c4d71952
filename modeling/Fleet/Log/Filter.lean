import Fleet.Log.Config
import Fleet.Log.Directive

/-!
# Filters

A filter is a list of rules, the most specific first: a longer target before a shorter one, more
fields before fewer. The first rule that fits a record decides. Of two rules for the same target
and fields the later one holds. Directives for spans decide nothing here, because no record stands
in a span. A filter text without any directive lets errors through.

Which texts are filters and directives is for a grammar to say. Nothing is asked of it: what is said
of filters holds for every grammar. `Grammar.plain` reads directives as they are described here.
-/
namespace Fleet.Log

structure Rule where
  target : Option (List Char)
  fields : List (List Char)
  threshold : Threshold

namespace Rule

def sameScope (a b : Rule) : Bool := a.target == b.target && a.fields == b.fields

/-- A length one above that of the target, nought without a target. -/
def targetRank (rule : Rule) : Nat :=
  match rule.target with
  | none => 0
  | some target => Text.byteLength target + 1

/-- Whether `a` stands before `b`, if they are not of the same scope. -/
def before (a b : Rule) : Bool :=
  let scope (rule : Rule) : List (List Nat) :=
    (rule.target.getD []).map Char.toNat :: rule.fields.map fun field => field.map Char.toNat
  if a.targetRank ≠ b.targetRank then b.targetRank < a.targetRank
  else if a.fields.length ≠ b.fields.length then b.fields.length < a.fields.length
  else decide (scope b < scope a)

def fits (rule : Rule) (target : List Char) (fields : List (List Char)) : Bool :=
  (rule.target.all fun start => start.isPrefixOf target) &&
    rule.fields.all fun field => fields.contains field

def ofDirective (directive : Directive) : Rule :=
  ⟨directive.target, directive.fields.map Directive.fieldName, directive.threshold⟩

end Rule

/-- What reads a filter as its directives, and a single directive. A text that is refused, in
whatever way, is a fault. -/
structure Grammar where
  filter : String → Except DirectiveFault (List Directive)
  directive : String → Except DirectiveFault Directive

structure Filter where
  rules : List Rule
  hasDynamic : Bool

namespace Filter

def insertRule (rule : Rule) : List Rule → List Rule
  | [] => [rule]
  | first :: rest =>
    if rule.sameScope first then rule :: rest
    else if rule.before first then rule :: first :: rest
    else first :: insertRule rule rest

def empty : Filter := ⟨[], false⟩

def add (filter : Filter) (directive : Directive) : Filter where
  rules :=
    if directive.isStatic then insertRule (.ofDirective directive) filter.rules else filter.rules
  hasDynamic := filter.hasDynamic || directive.isDynamic

def enables (filter : Filter) (target : String) (fields : List String) (level : Level) : Bool :=
  match filter.rules.find? fun rule => rule.fits target.toList (fields.map String.toList) with
  | some rule => rule.threshold.passes level
  | none => false

/-- The parts of a text between commas. -/
def commaParts : List Char → List (List Char)
  | [] => [[]]
  | c :: rest =>
    if c = ',' then [] :: commaParts rest
    else
      match commaParts rest with
      | part :: more => (c :: part) :: more
      | [] => [[c]]

def ofDirectives (directives : List Directive) : Filter :=
  let filter := directives.foldl add empty
  if filter.rules.isEmpty && !filter.hasDynamic then
    filter.add { threshold := .upTo .error }
  else filter

def read (grammar : Grammar) (text : String) : Except DirectiveFault Filter :=
  (grammar.filter text).map ofDirectives

def off : Filter := empty.add { threshold := .off }

/-- Why a configuration has no filter. -/
inductive Fault where
  | level (text : String) (reason : DirectiveFault)
  | directive (reason : DirectiveFault)
  deriving DecidableEq

def Fault.message : Fault → String
  | level text reason => s!"Invalid log level '{text}': {reason.message}"
  | directive reason => s!"Invalid log directive: {reason.message}"

def addModules (grammar : Grammar) (filter : Filter) : List (String × String) → Except Fault Filter
  | [] => .ok filter
  | (target, level) :: rest =>
    match grammar.directive (target ++ "=" ++ level) with
    | .error reason => .error (.directive reason)
    | .ok directive => (filter.add directive).addModules grammar rest

/-- The filter of a configuration. The level `off`, spelled just so, leaves the modules out. -/
def ofConfig (grammar : Grammar) (config : Config) : Except Fault Filter :=
  if config.level = "off" then .ok off
  else
    match read grammar config.level with
    | .error reason => .error (.level config.level reason)
    | .ok filter => filter.addModules grammar config.modules.toList

end Filter

/-- Directives as they are written between commas. -/
def Grammar.plain : Grammar where
  filter text :=
    ((Filter.commaParts text.toList).filter fun part => !part.isEmpty).mapM Directive.read
  directive text := Directive.read text.toList

end Fleet.Log
