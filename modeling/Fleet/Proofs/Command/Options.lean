import Fleet.Command.Level
import Fleet.Proofs.Text.Utf8
import Mathlib.Data.List.TakeDrop
import Mathlib.Data.List.Nodup

/-!
# Options in any order

An option is written as `--name`, or as `--name=value` where it takes a value, whatever the value
looks like. Options of different names do not disturb each other, so the draft that they fill depends
only on which of them have come, and the induction over the arguments carries the names that are
done. A value that is refused ends the reading, wherever it stands.
-/
namespace Fleet.Command
variable {D α : Type}

structure Item where
  name : String
  value : Option RawText
  deriving DecidableEq

namespace Item

def argument (item : Item) : RawText :=
  match item.value with
  | none => RawText.ofText ("--" ++ item.name)
  | some value => RawText.ofText ("--" ++ item.name ++ "=") ++ value

/-- The name says where it ends. -/
def IsSpelled (item : Item) : Prop :=
  item.name ≠ "" ∧ equals ∉ (RawText.ofText item.name).bytes

instance (item : Item) : Decidable item.IsSpelled := inferInstanceAs (Decidable (_ ∧ _))

section Forms
variable {name : List UInt8}

theorem ofLong_bare (h : equals ∉ name) : Form.ofLong name = .long ⟨name⟩ none := by
  have hAll : ∀ byte ∈ name, (byte != equals) = true := by
    intro byte hByte
    exact bne_iff_ne.mpr fun hEq => h (hEq ▸ hByte)
  have hRest : (name ++ []).dropWhile (· != equals) = [] := List.dropWhile_append_of_pos hAll
  rw [List.append_nil] at hRest
  rw [Form.ofLong, hRest]

theorem ofLong_valued (h : equals ∉ name) (value : List UInt8) :
    Form.ofLong (name ++ equals :: value) = .long ⟨name⟩ (some ⟨value⟩) := by
  have hAll : ∀ byte ∈ name, (byte != equals) = true := by
    intro byte hByte
    exact bne_iff_ne.mpr fun hEq => h (hEq ▸ hByte)
  have hRest : (name ++ equals :: value).dropWhile (· != equals) = equals :: value := by
    rw [List.dropWhile_append_of_pos hAll, List.dropWhile_cons_of_neg (by simp)]
  have hName : (name ++ equals :: value).takeWhile (· != equals) = name := by
    rw [List.takeWhile_append_of_pos hAll, List.takeWhile_cons_of_neg (by simp), List.append_nil]
  rw [Form.ofLong, hRest]
  simp only [hName]

theorem ofArgument_long {argument : RawText} {byte : UInt8} {text : List UInt8}
    (h : argument.bytes = hyphen :: hyphen :: byte :: text) :
    Form.ofArgument argument = Form.ofLong (byte :: text) := by
  rw [Form.ofArgument, h]
  rfl

theorem bytes_ne_nil {text : String} (h : text ≠ "") : (RawText.ofText text).bytes ≠ [] := by
  intro hNil
  exact h (RawText.ofText_injective (congrArg RawText.mk hNil))

theorem ofArgument_argument {item : Item} (h : item.IsSpelled) :
    Form.ofArgument item.argument = .long item.name item.value := by
  obtain ⟨hSome, hPlain⟩ := h
  obtain ⟨byte, text, hName⟩ := List.exists_cons_of_ne_nil (bytes_ne_nil hSome)
  have hHyphens : (RawText.ofText "--").bytes = [hyphen, hyphen] := rfl
  have hEquals : (RawText.ofText "=").bytes = [equals] := rfl
  unfold argument
  cases item.value with
  | none =>
    have hText : (RawText.ofText ("--" ++ item.name)).bytes = hyphen :: hyphen :: byte :: text := by
      rw [RawText.bytes_ofText_append, hHyphens, hName]
      rfl
    rw [ofArgument_long hText, ← hName, ofLong_bare hPlain]
  | some value =>
    have hText : (RawText.ofText ("--" ++ item.name ++ "=") ++ value).bytes =
        hyphen :: hyphen :: byte :: (text ++ equals :: value.bytes) := by
      change (RawText.ofText ("--" ++ item.name ++ "=")).bytes ++ value.bytes = _
      rw [RawText.bytes_ofText_append, RawText.bytes_ofText_append, hHyphens, hName, hEquals]
      simp
    rw [ofArgument_long hText, ← List.cons_append, ← hName, ofLong_valued hPlain]

end Forms

end Item

/-- The item of an option that may be left open. -/
def valued (name : String) (value : Option RawText) : List Item :=
  (value.map fun text => ⟨name, some text⟩).toList

/-- The item of an option whose value is a text. -/
def texted (name : String) (value : Option String) : List Item := valued name (value.map .ofText)

/-- The item of a flag. -/
def flagged (name : String) (isSet : Bool) : List Item := if isSet then [⟨name, none⟩] else []

@[simp]
theorem valued_none (name : String) : valued name none = [] := rfl

@[simp]
theorem texted_none (name : String) : texted name none = [] := rfl

theorem mem_valued_iff {name : String} {value : Option RawText} {item : Item} :
    item ∈ valued name value ↔ ∃ text, value = some text ∧ item = ⟨name, some text⟩ := by
  cases value <;> simp [valued]

theorem mem_texted_iff {name : String} {value : Option String} {item : Item} :
    item ∈ texted name value ↔
      ∃ text : String, value = some text ∧ item = ⟨name, some (RawText.ofText text)⟩ := by
  cases value <;> simp [texted, valued]

theorem mem_flagged_iff {name : String} {isSet : Bool} {item : Item} :
    item ∈ flagged name isSet ↔ isSet = true ∧ item = ⟨name, none⟩ := by
  cases isSet <;> simp [flagged]

theorem names_valued_sublist (name : String) (value : Option RawText) :
    ((valued name value).map Item.name).Sublist [name] := by
  cases value <;> simp [valued]

theorem names_texted_sublist (name : String) (value : Option String) :
    ((texted name value).map Item.name).Sublist [name] := names_valued_sublist name _

theorem names_valued_append_sublist (first second : String) (value other : Option RawText) :
    ((valued first value ++ valued second other).map Item.name).Sublist [first, second] := by
  rw [List.map_append]
  exact (names_valued_sublist first value).append (names_valued_sublist second other)

theorem names_flagged_sublist (name : String) (isSet : Bool) :
    ((flagged name isSet).map Item.name).Sublist [name] := by
  cases isSet <;> simp [flagged]

namespace Level
variable {level : Level D} {accepts : Item → Bool} {given items : List Item}
  {draftOf : List String → D}

/-- What reads arguments in this way reads the options of the level one after another. -/
def LeadsIn (level : Level D) (reader : Progress D → List RawText → Except UsageFault α) : Prop :=
  ∀ progress argument name value rest, Form.ofArgument argument = .long name value →
    reader progress (argument :: rest) =
      level.readLong progress name value >>= fun progress => reader progress rest

theorem leadsIn_readFrom (level : Level D) : level.LeadsIn level.readFrom := by
  intro progress argument name value rest hForm
  rw [readFrom, hForm]

theorem readLong_flag {flag : Flag D} {name : String} (hName : name ≠ "help")
    (hFlag : (level.flags.find? fun flag => flag.name == name) = some flag) (draft : D) :
    level.readLong ⟨draft, none⟩ name none =
      if flag.isSet draft then .error .conflict else .ok ⟨flag.set draft, none⟩ := by
  simp only [readLong, RawText.ofText_inj, RawText.ofText_beq, if_neg hName, hFlag]
  rfl

theorem readLong_choice {choice : Choice D} {name : String} (hName : name ≠ "help")
    (hFlag : (level.flags.find? fun flag => flag.name == name) = none)
    (hChoice : (level.choices.find? fun choice => choice.name == name) = some choice)
    (draft : D) (value : RawText) :
    level.readLong ⟨draft, none⟩ name (some value) =
      (choice.apply value draft).map fun draft => ⟨draft, none⟩ := by
  simp only [readLong, RawText.ofText_inj, RawText.ofText_beq, if_neg hName, hFlag, hChoice]
  rfl

/-- The level fills a draft with the given items. `draftOf` is the draft that those with these names
fill. -/
structure Takes (level : Level D) (accepts : Item → Bool) (given : List Item)
    (draftOf : List String → D) : Prop where
  spelled : ∀ item ∈ given, item.IsSpelled
  take : ∀ item ∈ given, ∀ names, item.name ∉ names →
    level.readLong ⟨draftOf names, none⟩ item.name item.value =
      if accepts item then .ok ⟨draftOf (names ++ [item.name]), none⟩ else .error .badValue

theorem Takes.read_items (h : level.Takes accepts given draftOf)
    {reader : Progress D → List RawText → Except UsageFault α} (hReader : level.LeadsIn reader)
    (hGiven : ∀ item ∈ items, item ∈ given) {names : List String}
    (hNames : (names ++ items.map Item.name).Nodup) (rest : List RawText) :
    reader ⟨draftOf names, none⟩ (items.map Item.argument ++ rest) =
      if items.all accepts then reader ⟨draftOf (names ++ items.map Item.name), none⟩ rest
      else .error .badValue := by
  induction items generalizing names with
  | nil => simp
  | cons item items ih =>
    obtain ⟨hItem, hItems⟩ := List.forall_mem_cons.mp hGiven
    have hNew : item.name ∉ names := by
      intro hMem
      exact (List.nodup_append.mp hNames).2.2 _ hMem _ List.mem_cons_self rfl
    have hAppend : names ++ (item :: items).map Item.name =
        names ++ [item.name] ++ items.map Item.name := by simp
    rw [List.map_cons, List.cons_append,
      hReader _ _ _ _ _ (Item.ofArgument_argument (h.spelled item hItem)),
      h.take item hItem names hNew]
    cases hAccepts : accepts item with
    | false => simp [hAccepts, bind, Except.bind]
    | true =>
      -- The name of the item is done, so the draft is the one for all names but those that follow.
      rw [hAppend] at hNames ⊢
      simp only [List.all_cons, hAccepts, Bool.true_and]
      exact ih hItems hNames

/-- All items, in any order, fill the whole draft. -/
theorem Takes.read_perm (h : level.Takes accepts given draftOf)
    {reader : Progress D → List RawText → Except UsageFault α} (hReader : level.LeadsIn reader)
    (hDistinct : (given.map Item.name).Nodup) {whole : D}
    (hWhole : ∀ names, (∀ item ∈ given, item.name ∈ names) → draftOf names = whole)
    (hPerm : items.Perm given) (rest : List RawText) :
    reader ⟨draftOf [], none⟩ (items.map Item.argument ++ rest) =
      if given.all accepts then reader ⟨whole, none⟩ rest else .error .badValue := by
  have hNames : ([] ++ items.map Item.name).Nodup :=
    (hPerm.map Item.name).nodup_iff.mpr hDistinct
  have hRead := h.read_items hReader (fun _ => hPerm.mem_iff.mp) hNames rest
  have hAll : draftOf ([] ++ items.map Item.name) = whole :=
    hWhole _ fun item hItem => List.mem_map_of_mem (hPerm.mem_iff.mpr hItem)
  rwa [hPerm.all_eq, hAll] at hRead

end Level

end Fleet.Command
