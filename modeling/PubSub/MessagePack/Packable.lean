import PubSub.MessagePack.Item
import PubSub.Number.Binary64
/-!
# Values as MessagePack items

How the values of a type stand as items, and which items they are read from. Reading is wider than writing: an integer
comes from any marker whose number fits, a text also from a binary string, and a record from a map with field names or
field numbers, from an array of its fields in order, or from a binary string as the array of its bytes.
-/

namespace PubSub.MessagePack

/-- A type whose values stand as items. -/
class Packable (α : Type) where
  pack : α → Item
  unpack? : Item → Option α

export Packable (pack unpack?)

namespace Item

def integer? : Item → Option Int
  | unsigned value => some value.toNat
  | signed value => some value.toInt
  | _ => none

def integerIn? (low high : Int) (item : Item) : Option Int :=
  item.integer?.filter fun n ↦ low ≤ n && n ≤ high

def stringBytes? : Item → Option Bytes
  | text bytes => some bytes
  | binary bytes => some bytes
  | _ => none

/-- The text of a string item, if its bytes are UTF-8. -/
def text? (item : Item) : Option String :=
  item.stringBytes? >>= Bytes.toString?

/-- The elements of a sequence. A binary string counts as the sequence of its bytes. -/
def sequence? : Item → Option (List Item)
  | array items => some items
  | binary bytes => some (bytes.map fun byte ↦ unsigned byte.toUInt64)
  | _ => none

def ofString (value : String) : Item :=
  text (Bytes.ofString value)

end Item

instance : Packable String where
  pack := Item.ofString
  unpack? := Item.text?

instance : Packable Bool where
  pack := .boolean
  unpack?
    | .boolean value => some value
    | _ => none

instance : Packable UInt16 where
  pack value := .unsigned value.toUInt64
  unpack? item := (item.integerIn? 0 0xffff).map fun n ↦ UInt16.ofNat n.toNat

instance : Packable UInt32 where
  pack value := .unsigned value.toUInt64
  unpack? item := (item.integerIn? 0 0xffffffff).map fun n ↦ UInt32.ofNat n.toNat

instance : Packable Int32 where
  pack value := .signed value.toInt64
  unpack? item := (item.integerIn? Int32.minValue.toInt Int32.maxValue.toInt).map Int32.ofInt

instance : Packable Int64 where
  pack := .signed
  unpack? item := (item.integerIn? Int64.minValue.toInt Int64.maxValue.toInt).map Int64.ofInt

/-- A double comes from both widths of floating-point numbers, and from integers by rounding. -/
instance : Packable Binary64 where
  pack value := .float64 value.bits
  unpack?
    | .float64 bits => some ⟨bits⟩
    | .float32 bits => some (.ofBinary32 bits)
    | item => item.integer?.map .ofInt

instance {α : Type} [Packable α] : Packable (Option α) where
  pack
    | none => .nil
    | some value => pack value
  unpack?
    | .nil => some none
    | item => (unpack? item).map some

instance {α : Type} [Packable α] : Packable (List α) where
  pack values := .array (values.map pack)
  unpack? item := do (← item.sequence?).mapM unpack?

/-! ## Records -/

/-- What a key says about the fields of a record. -/
inductive FieldKey where
  | field (index : Nat)
  | unknown
  deriving DecidableEq

/-- The field that a key stands for, by its name or its number. Keys of other kinds are no keys. -/
def FieldKey.of? (names : List String) : Item → Option FieldKey
  | .unsigned value => some (if value.toNat < names.length then .field value.toNat else .unknown)
  | key => do
    let bytes ← key.stringBytes?
    match names.findIdx? fun name ↦ Bytes.ofString name == bytes with
    | some index => pure (.field index)
    | none => pure .unknown

/-- The values of a record's fields, for each field the one that a map gives or none. Unknown keys are passed over with
their values; a field that is given twice is refused. -/
def fieldsOfMap? (names : List String) : List (Item × Item) → Option (List (Option Item))
  | [] => some (names.map fun _ ↦ none)
  | (key, value) :: rest => do
    let fields ← fieldsOfMap? names rest
    match ← FieldKey.of? names key with
    | .unknown => pure fields
    | .field index => if (fields[index]?.join).isSome then none else pure (fields.set index (some value))

/-- The values of a record's fields. A sequence gives the first fields in order; an array may not be longer than the
record, the bytes of a binary string may. -/
def Item.fields? (names : List String) : Item → Option (List (Option Item))
  | .map entries => fieldsOfMap? names entries
  | .array items =>
    if items.length ≤ names.length then
      some (items.map some ++ List.replicate (names.length - items.length) none)
    else none
  | .binary bytes =>
    let items := (bytes.take names.length).map fun byte ↦ Item.unsigned byte.toUInt64
    some (items.map some ++ List.replicate (names.length - items.length) none)
  | _ => none

def required? {α : Type} [Packable α] (field : Option Item) : Option α :=
  field >>= unpack?

/-- The value of a field that has a default. -/
def defaulted? {α : Type} [Packable α] (default : α) : Option Item → Option α
  | none => some default
  | some item => unpack? item

/-- A record as a map from field names. -/
def record (fields : List (String × Item)) : Item :=
  .map (fields.map fun field ↦ (Item.ofString field.1, field.2))

end PubSub.MessagePack
