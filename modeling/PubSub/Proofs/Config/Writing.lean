import PubSub.Proofs.Config.Reading
import PubSub.Proofs.Toml.Writing
/-!
# Writing configuration files

A configuration file as a sequence of items: the header of a part of the configuration, the line that sets a field, and
any other text that can be read on its own. A field stands below the header of its part, with no other header between
them.
-/

namespace PubSub

open Toml

namespace Config

namespace Field

/-- A field's content as the file has it: texts as basic strings, numbers in decimal digits. -/
def text : (field : Field) → field.Data → String
  | protocol, text | host, text | path, text | username, text | password, text => quoted text
  | port, number => toString (number.toNat : Int)
  | qos, quality => toString (quality.level.toNat : Int)
  | retain, flag | autoConnect, flag => if flag then "true" else "false"

/-- The value that the text of a field's content stands for. -/
def value : (field : Field) → field.Data → Value
  | protocol, text | host, text | path, text | username, text | password, text => .string text
  | port, number => .integer number.toNat
  | qos, quality => .integer quality.level.toNat
  | retain, flag | autoConnect, flag => .boolean flag

end Field

/-- A field and what it is set to. -/
structure Assignment where
  field : Field
  value : field.Data

/-- A piece of a configuration file. -/
inductive Item where
  /-- The header of a part. -/
  | opens (part : Part)
  /-- The line that sets a field. -/
  | sets (assignment : Assignment)
  /-- Any other text. -/
  | other (text : String)

namespace Item

/-- The item as the file has it. -/
def text : Item → String
  | opens part => heading part.key
  | sets assignment => Toml.assignment assignment.field.key (assignment.field.text assignment.value)
  | other text => text

/-- The field that the item sets. -/
def assignment? : Item → Option Assignment
  | sets assignment => some assignment
  | _ => none

/-- The part that the item opens. -/
def part? : Item → Option Part
  | opens part => some part
  | _ => none

/-- The part whose fields may follow the item, if `current` is the one whose fields may stand here. There is no answer
if the item sets a field of another part, or if it is a text that cannot be read on its own. -/
def after? (current : Option Part) : Item → Option (Option Part)
  | opens part => some (some part)
  | sets assignment => if current = some assignment.field.part then some current else none
  | other text => (read? (text.toList ++ ['\n'])).map fun said ↦
      if said.all (· matches .assign ..) then current else none

end Item

/-- The fields that items set, in order. -/
def assignments (items : List Item) : List Assignment :=
  items.filterMap Item.assignment?

/-- The items that set no field. -/
def remainder (items : List Item) : List Item :=
  items.filter fun item ↦ item.assignment?.isNone

/-- The part whose fields may follow some items, if each of them is where it may be. -/
def after? (items : List Item) : Option (Option Part) :=
  items.foldlM Item.after? none

/-- The file of some items, each ended by a line end. -/
def document : List Item → String
  | [] => ""
  | item :: items => item.text ++ "\n" ++ document items

/-! ## Fields -/

theorem Part.isBareWord_key (part : Part) : IsBareWord part.key := by
  cases part <;> exact .of_all (by decide +kernel) (by decide +kernel)

namespace Field

theorem isBareWord_key (field : Field) : IsBareWord field.key := by
  cases field <;> exact .of_all (by decide +kernel) (by decide +kernel)

theorem read_value (field : Field) (value : field.Data) : field.read (field.value value) = .ok value := by
  cases field with
  | port =>
    have within : 0 ≤ (value.toNat : Int) ∧ (value.toNat : Int) ≤ (65535 : Nat) := by
      have := value.toNat_lt
      omega
    have reads : Setting.natural 65535 (.integer value.toNat) = .ok value.toNat := if_pos within
    change UInt16.ofNat <$> Setting.natural 65535 (.integer value.toNat) = .ok value
    rw [reads]
    exact congrArg Except.ok UInt16.ofNat_toNat
  | qos => cases value <;> rfl
  | _ => rfl

/-- A field's content is written as a basic string, as an integer that fits 64 bits or as a truth value. -/
theorem text_cases (field : Field) (value : field.Data) :
    (∃ text, field.text value = quoted text ∧ field.value value = .string text) ∨
      (∃ n : Int, field.text value = toString n ∧ field.value value = .integer n ∧ 0 ≤ n ∧ n ≤ 65535) ∨
      ∃ flag : Bool, field.text value = (if flag then "true" else "false") ∧ field.value value = .boolean flag := by
  cases field with
  | port =>
    have := value.toNat_lt
    exact .inr (.inl ⟨_, rfl, rfl, by omega, by omega⟩)
  | qos =>
    refine .inr (.inl ⟨_, rfl, rfl, ?_⟩)
    cases value <;> decide
  | retain => exact .inr (.inr ⟨value, rfl, rfl⟩)
  | autoConnect => exact .inr (.inr ⟨value, rfl, rfl⟩)
  | _ => exact .inl ⟨value, rfl, rfl⟩

theorem value_text (field : Field) (value : field.Data) :
    Toml.value ((field.text value).toList ++ ['\n']) = some (field.value value, ['\n']) := by
  rcases field.text_cases value with ⟨text, same, means⟩ | ⟨n, same, means, low, high⟩ | ⟨flag, same, means⟩
  · rw [same, means]
    exact value_quoted text []
  · rw [same, means, value_toString, integer, if_pos]
    · rfl
    · have bounds : Int64.minValue.toInt ≤ 0 ∧ 65535 ≤ Int64.maxValue.toInt := by decide
      omega
  · rw [same, means]
    cases flag <;> rfl

theorem not_mem_text (field : Field) (value : field.Data) : '\r' ∉ (field.text value).toList := by
  rcases field.text_cases value with ⟨text, same, -⟩ | ⟨n, same, -⟩ | ⟨flag, same, -⟩ <;> rw [same]
  · exact not_mem_quoted text
  · exact not_mem_toString n
  · cases flag <;> decide +kernel

theorem isSpace_head?_text (field : Field) (value : field.Data) :
    ∀ c ∈ (field.text value).toList.head?, isSpace c = false := by
  rcases field.text_cases value with ⟨text, same, -⟩ | ⟨n, same, -⟩ | ⟨flag, same, -⟩ <;> rw [same]
  · simp [toList_quoted, isSpace]
  · exact fun c ↦ isSpace_of_decimalText
  · cases flag <;> simp [isSpace]

end Field

/-! ## Files -/

variable {current next : Option Part} {items : List Item}

theorem Item.eq_sets {item : Item} {assignment : Assignment} (h : item.assignment? = some assignment) :
    item = .sets assignment := by
  cases item with
  | sets => exact congrArg Item.sets (Option.some.inj h)
  | _ => cases h

theorem Item.after?_sets {assignment : Assignment} (h : (Item.sets assignment).after? current = some next) :
    current = some assignment.field.part ∧ current = next := by
  rw [after?] at h
  split at h
  · rename_i here
    exact ⟨here, Option.some.inj h⟩
  · cases h

theorem assignments_cons_of_kept {item : Item} (kept : item.assignment? = none) :
    assignments (item :: items) = assignments items := by
  simp [assignments, kept]

theorem remainder_cons_of_kept {item : Item} (kept : item.assignment? = none) :
    remainder (item :: items) = item :: remainder items := by
  simp [remainder, kept]

/-- What an item says. -/
def Item.said : Item → List Statement
  | opens part => [.header [] part.key]
  | sets assignment => [.assign [] assignment.field.key (assignment.field.value assignment.value)]
  | other text => (read? (text.toList ++ ['\n'])).getD []

theorem Item.read?_text {item : Item} (h : item.after? current = some next) :
    read? (item.text.toList ++ ['\n']) = some item.said := by
  cases item with
  | opens part => exact read?_heading part.isBareWord_key
  | sets assignment =>
    exact read?_assignment assignment.field.isBareWord_key (assignment.field.not_mem_text _)
      (assignment.field.isSpace_head?_text _) (assignment.field.value_text _)
  | other text =>
    obtain ⟨found, reads, -⟩ := Option.map_eq_some_iff.1 h
    change read? (text.toList ++ ['\n']) = some ((read? (text.toList ++ ['\n'])).getD [])
    rw [reads]
    rfl

theorem read?_text_of_mem (placed : items.foldlM Item.after? current = some next) {item : Item} (mem : item ∈ items) :
    read? (item.text.toList ++ ['\n']) = some item.said := by
  induction items generalizing current with
  | nil => cases mem
  | cons first items ih =>
    rw [List.foldlM_cons] at placed
    obtain ⟨middle, begins, placed⟩ := Option.bind_eq_some_iff.1 placed
    rcases List.mem_cons.1 mem with rfl | mem
    · exact item.read?_text begins
    · exact ih placed mem

theorem toList_document_cons (item : Item) (items : List Item) :
    (document (item :: items)).toList = item.text.toList ++ '\n' :: (document items).toList := by
  simp [document]

theorem read?_document (readable : ∀ item ∈ items, read? (item.text.toList ++ ['\n']) = some item.said) :
    read? (document items).toList = some (items.flatMap Item.said) := by
  induction items with
  | nil => rfl
  | cons item items ih =>
    rw [toList_document_cons, List.flatMap_cons]
    exact read?_append (readable item List.mem_cons_self)
      (ih fun other mem ↦ readable other (List.mem_cons_of_mem item mem))

/-- A file comes to what its items say, one after the other. -/
theorem parse?_document (readable : ∀ item ∈ items, read? (item.text.toList ++ ['\n']) = some item.said) :
    parse? (document items) = Table.build [] [] (items.flatMap Item.said) := by
  have reads := read?_document readable
  rw [parse?_eq, dropByteOrderMark_of_read? reads, reads]
  rfl

end Config

end PubSub
