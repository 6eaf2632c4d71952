import Fleet.Text.Raw

/-!
# Levels of arguments

The arguments of a run are raw texts and come in levels, each with options of its own. An argument
is an option if it begins with two hyphens, a group of short options if it begins with one, and
otherwise a word. An option takes no value or exactly one, which stands behind an equals sign or is
the next argument, unless that is an option too. No option is given twice. After a lone pair of
hyphens there are only words. A request for help is refused like a flaw, at the place where it
stands. A value that has to be a text is checked as soon as the next option is known.
-/
namespace Fleet

inductive UsageFault where
  | noArguments
  | help
  | unknownArgument
  | unknownCommand
  | noCommand
  | noCategory
  | conflict
  | needlessValue
  | badValue
  | notText
  deriving DecidableEq, Repr

def UsageFault.message : UsageFault → String
  | noArguments => "nothing to do"
  | help => "help was asked for"
  | unknownArgument => "unexpected argument"
  | unknownCommand => "unknown command"
  | noCommand => "no command"
  | noCategory => "no folder category"
  | conflict => "arguments that exclude each other"
  | needlessValue => "a value for an option that takes none"
  | badValue => "a missing or invalid value"
  | notText => "invalid UTF-8"

namespace Command
variable {D : Type}

/-- What an argument looks like before the options have ended. -/
inductive Form where
  | ending
  | long (name : RawText) (value : Option RawText)
  | short (letters : List UInt8)
  | word
  deriving DecidableEq, Repr

def hyphen : UInt8 := 0x2D

def equals : UInt8 := 0x3D

def Form.ofLong (bytes : List UInt8) : Form :=
  match bytes.dropWhile (· != equals) with
  | [] => .long ⟨bytes⟩ none
  | _ :: value => .long ⟨bytes.takeWhile (· != equals)⟩ (some ⟨value⟩)

def Form.ofArgument (argument : RawText) : Form :=
  match argument.bytes with
  | [] => .word
  | first :: rest =>
    if first != hyphen then .word
    else
      match rest with
      | [] => .word
      | second :: text =>
        if second != hyphen then .short (second :: text)
        else if text.isEmpty then .ending
        else .ofLong text

/-- An option without a value. -/
structure Flag (D : Type) where
  name : String
  isSet : D → Bool
  set : D → D

/-- An option with a value, which it may refuse. -/
structure Choice (D : Type) where
  name : String
  isSet : D → Bool
  set : RawText → D → Except UsageFault D

def Choice.apply (choice : Choice D) (value : RawText) (draft : D) : Except UsageFault D :=
  if choice.isSet draft then .error .conflict else choice.set value draft

/-- The text that a value has to be. -/
def textValue (value : RawText) : Except UsageFault String :=
  match value.text? with
  | some text => .ok text
  | none => .error .notText

/-- `word` is the choice that a word is the value of, where words have a place. -/
structure Level (D : Type) where
  flags : List (Flag D)
  choices : List (Choice D)
  word : Option (Choice D)

/-- A draft, and a choice that waits for its value or has a value that is not yet checked. -/
structure Progress (D : Type) where
  draft : D
  waiting : Option (Choice D × Option RawText)

def Progress.settle (progress : Progress D) : Except UsageFault D :=
  match progress.waiting with
  | none => .ok progress.draft
  | some (_, none) => .error .badValue
  | some (choice, some value) => choice.apply value progress.draft

/-- Hands an argument to the choice that waits for its value, if there is one. -/
def Progress.hand? (progress : Progress D) (argument : RawText) : Option (Progress D) :=
  match progress.waiting with
  | some (choice, none) => some { progress with waiting := some (choice, some argument) }
  | _ => none

/-- The choice has a value, be it checked or not. -/
def Progress.has (progress : Progress D) (choice : Choice D) : Bool :=
  choice.isSet progress.draft || progress.waiting.any fun waiting => waiting.1.name == choice.name

namespace Level

def readHelp {α : Type} (progress : Progress D) : Except UsageFault α := do
  let _ ← progress.settle
  .error .help

def readFlag (progress : Progress D) (flag : Flag D) : Option RawText →
    Except UsageFault (Progress D)
  | some _ => .error .needlessValue
  | none => do
    let draft ← progress.settle
    if flag.isSet draft then .error .conflict else .ok ⟨flag.set draft, none⟩

def readChoice (progress : Progress D) (choice : Choice D) (value : Option RawText) :
    Except UsageFault (Progress D) := do
  let draft ← progress.settle
  match value with
  | none => .ok ⟨draft, some (choice, none)⟩
  | some value => (choice.apply value draft).map fun draft => ⟨draft, none⟩

def readLong (level : Level D) (progress : Progress D) (name : RawText)
    (value : Option RawText) : Except UsageFault (Progress D) :=
  if name = "help" then
    if value.isSome then .error .needlessValue else readHelp progress
  else
    match level.flags.find? fun flag => RawText.ofText flag.name == name with
    | some flag => readFlag progress flag value
    | none =>
      match level.choices.find? fun choice => RawText.ofText choice.name == name with
      | some choice => readChoice progress choice value
      | none => .error .unknownArgument

def readShort (progress : Progress D) (letters : List UInt8) : Except UsageFault (Progress D) :=
  if letters.head? = some 0x68 then readHelp progress else .error .unknownArgument

def readWord (level : Level D) (progress : Progress D) (word : RawText) :
    Except UsageFault (Progress D) :=
  match level.word with
  | none => .error .unknownArgument
  | some choice =>
    if progress.has choice then .error .unknownArgument
    else progress.settle.map fun draft => ⟨draft, some (choice, some word)⟩

/-- Reads the arguments after the options have ended. -/
def readWords (level : Level D) (progress : Progress D) (words : List RawText) :
    Except UsageFault D := do
  (← words.foldlM level.readWord progress).settle

def readFrom (level : Level D) (progress : Progress D) : List RawText → Except UsageFault D
  | [] => progress.settle
  | argument :: rest =>
    match Form.ofArgument argument with
    | .ending => level.readWords progress rest
    | .long name value => do level.readFrom (← level.readLong progress name value) rest
    | .short letters => do level.readFrom (← readShort progress letters) rest
    | .word =>
      match progress.hand? argument with
      | some progress => level.readFrom progress rest
      | none => do level.readFrom (← level.readWord progress argument) rest

def read (level : Level D) (draft : D) (arguments : List RawText) : Except UsageFault D :=
  level.readFrom ⟨draft, none⟩ arguments

end Level

end Command

end Fleet
