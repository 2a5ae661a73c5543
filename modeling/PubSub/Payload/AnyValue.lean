import PubSub.MessagePack.Packable
/-!
# Values of any shape

A payload whose shape is not fixed beforehand: any MessagePack value but an extension. Strings that are text are told
apart from strings that are not, and integers by the kind of marker they arrived with.
-/

namespace PubSub

open MessagePack

/-- A value of any shape. -/
inductive AnyValue where
  | nil
  | boolean (value : Bool)
  | unsigned (value : UInt64)
  | signed (value : Int64)
  | float32 (bits : UInt32)
  | float64 (value : Binary64)
  | text (value : String)
  | binary (bytes : Bytes)
  | array (values : List AnyValue)
  | map (entries : List (AnyValue × AnyValue))
  deriving Inhabited

namespace AnyValue

/-! ## Equality -/

mutual

def same : AnyValue → AnyValue → Bool
  | nil, nil => true
  | boolean a, boolean b => a == b
  | unsigned a, unsigned b => a == b
  | signed a, signed b => a == b
  | float32 a, float32 b => a == b
  | float64 a, float64 b => a == b
  | text a, text b => a == b
  | binary a, binary b => a == b
  | array a, array b => sameValues a b
  | map a, map b => sameEntries a b
  | _, _ => false

def sameValues : List AnyValue → List AnyValue → Bool
  | [], [] => true
  | a :: as, b :: bs => same a b && sameValues as bs
  | _, _ => false

def sameEntries : List (AnyValue × AnyValue) → List (AnyValue × AnyValue) → Bool
  | [], [] => true
  | (a, c) :: as, (b, d) :: bs => same a b && (same c d && sameEntries as bs)
  | _, _ => false

end

mutual

theorem same_iff : (a b : AnyValue) → (same a b = true ↔ a = b)
  | nil, b | boolean _, b | unsigned _, b | signed _, b | float32 _, b | float64 _, b | text _, b | binary _, b => by
    cases b <;> simp [same]
  | array a, b => by
    cases b <;> simp [same]
    exact sameValues_iff a _
  | map a, b => by
    cases b <;> simp [same]
    exact sameEntries_iff a _

theorem sameValues_iff : (as bs : List AnyValue) → (sameValues as bs = true ↔ as = bs)
  | [], bs => by cases bs <;> simp [sameValues]
  | a :: as, bs => by
    cases bs with
    | nil => simp [sameValues]
    | cons b bs => simp [sameValues, same_iff a b, sameValues_iff as bs]

theorem sameEntries_iff : (as bs : List (AnyValue × AnyValue)) → (sameEntries as bs = true ↔ as = bs)
  | [], bs => by cases bs <;> simp [sameEntries]
  | (a, c) :: as, bs => by
    cases bs with
    | nil => simp [sameEntries]
    | cons entry bs =>
      obtain ⟨b, d⟩ := entry
      simp [sameEntries, same_iff a b, same_iff c d, sameEntries_iff as bs, and_assoc]

end

instance : DecidableEq AnyValue := fun a b ↦
  decidable_of_iff _ (same_iff a b)

/-! ## Items -/

mutual

def toItem : AnyValue → Item
  | nil => .nil
  | boolean value => .boolean value
  | unsigned value => .unsigned value
  | signed value => .signed value
  | float32 bits => .float32 bits
  | float64 value => .float64 value.bits
  | text value => .ofString value
  | binary bytes => .binary bytes
  | array values => .array (toItems values)
  | map entries => .map (toEntries entries)

def toItems : List AnyValue → List Item
  | [] => []
  | value :: rest => toItem value :: toItems rest

def toEntries : List (AnyValue × AnyValue) → List (Item × Item)
  | [] => []
  | (key, value) :: rest => (toItem key, toItem value) :: toEntries rest

end

mutual

/-- The value that an item stands for. A text that is not UTF-8 becomes a binary string. -/
def ofItem? : Item → Option AnyValue
  | .nil => some nil
  | .boolean value => some (boolean value)
  | .unsigned value => some (unsigned value)
  | .signed value => some (signed value)
  | .float32 bits => some (float32 bits)
  | .float64 bits => some (float64 ⟨bits⟩)
  | .text bytes =>
    match Bytes.toString? bytes with
    | some value => some (text value)
    | none => some (binary bytes)
  | .binary bytes => some (binary bytes)
  | .extension _ _ => none
  | .array items => (ofItems? items).map array
  | .map entries => (ofEntries? entries).map map

def ofItems? : List Item → Option (List AnyValue)
  | [] => some []
  | item :: rest =>
    match ofItem? item, ofItems? rest with
    | some value, some values => some (value :: values)
    | _, _ => none

def ofEntries? : List (Item × Item) → Option (List (AnyValue × AnyValue))
  | [] => some []
  | (key, value) :: rest =>
    match ofItem? key, ofItem? value, ofEntries? rest with
    | some key, some value, some entries => some ((key, value) :: entries)
    | _, _, _ => none

end

/-- An empty array inside `depth` arrays of one element. -/
def nested : Nat → AnyValue
  | 0 => array []
  | depth + 1 => array [nested depth]

end AnyValue

instance : Packable AnyValue where
  pack := AnyValue.toItem
  unpack? := AnyValue.ofItem?

end PubSub
