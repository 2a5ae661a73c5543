import PubSub.MessagePack.Item
/-!
# Well-formed MessagePack

The forms that the format has for a header and for an item, the shortest among them and all others. A header is told by
its marker alone, by a number inside the marker, or by a field of fixed width behind the marker. An item is written
after its header, the elements of a container one after the other. Nothing of this refers to how items are read.
-/

namespace PubSub.MessagePack

namespace Header

/-- The markers that tell a header alone. -/
def soleMarkers : List (UInt8 × Header) := [
  (0xc0, nil), (0xc2, boolean false), (0xc3, boolean true),
  (0xd4, extension 1), (0xd5, extension 2), (0xd6, extension 4), (0xd7, extension 8), (0xd8, extension 16)]

/-- The markers with a number inside: the lowest of a row, how many there are, and what the number tells. -/
def rowMarkers : List (UInt8 × Nat × (Nat → Header)) := [
  (0x00, 128, fun n ↦ unsigned (UInt64.ofNat n)), (0x80, 16, map), (0x90, 16, array), (0xa0, 32, text),
  (0xe0, 32, fun n ↦ signed (Int64.ofInt (n - 32)))]

/-- The markers with a natural number behind them: its width in bytes, and what it tells. -/
def naturalMarkers : List (UInt8 × Nat × (Nat → Header)) := [
  (0xc4, 1, binary), (0xc5, 2, binary), (0xc6, 4, binary),
  (0xc7, 1, extension), (0xc8, 2, extension), (0xc9, 4, extension),
  (0xca, 4, fun n ↦ float32 (UInt32.ofNat n)), (0xcb, 8, fun n ↦ float64 (UInt64.ofNat n)),
  (0xcc, 1, fun n ↦ unsigned (UInt64.ofNat n)), (0xcd, 2, fun n ↦ unsigned (UInt64.ofNat n)),
  (0xce, 4, fun n ↦ unsigned (UInt64.ofNat n)), (0xcf, 8, fun n ↦ unsigned (UInt64.ofNat n)),
  (0xd9, 1, text), (0xda, 2, text), (0xdb, 4, text), (0xdc, 2, array), (0xdd, 4, array), (0xde, 2, map), (0xdf, 4, map)]

/-- The markers with an integer behind them, and its width in bytes. -/
def integerMarkers : List (UInt8 × Nat) :=
  [(0xd0, 1), (0xd1, 2), (0xd2, 4), (0xd3, 8)]

/-- The forms of a header. -/
inductive Form : Header → Bytes → Prop
  | sole {marker : UInt8} {header : Header} (known : (marker, header) ∈ soleMarkers) : Form header [marker]
  | row {lowest : UInt8} {room n : Nat} {tell : Nat → Header} (known : (lowest, room, tell) ∈ rowMarkers)
    (within : n < room) : Form (tell n) [lowest + UInt8.ofNat n]
  | natural {marker : UInt8} {field : Bytes} {tell : Nat → Header}
    (known : (marker, field.length, tell) ∈ naturalMarkers) : Form (tell field.toNat) (marker :: field)
  | integer {marker : UInt8} {field : Bytes} (known : (marker, field.length) ∈ integerMarkers) :
    Form (signed (Int64.ofInt field.toInt)) (marker :: field)

end Header

/-- The forms of several things, one after the other. -/
inductive Each {α : Type} (form : α → Bytes → Prop) : List α → Bytes → Prop
  | nil : Each form [] []
  | cons {first : α} {rest : List α} {bytes others : Bytes} (head : form first bytes) (tail : Each form rest others) :
    Each form (first :: rest) (bytes ++ others)

/-- The forms of an entry of a map, its key before its value. -/
inductive Entry (form : Item → Bytes → Prop) : Item × Item → Bytes → Prop
  | mk {key value : Item} {left right : Bytes} (first : form key left) (second : form value right) :
    Entry form (key, value) (left ++ right)

namespace Item

/-- Whether the header of an item tells all of it. -/
def isScalar : Item → Bool
  | nil | boolean _ | unsigned _ | signed _ | float32 _ | float64 _ => true
  | _ => false

/-- The forms of an item that holds no other items. -/
inductive Plain : Item → Bytes → Prop
  | scalar {item : Item} {bytes : Bytes} (scalar : item.isScalar) (header : item.header.Form bytes) : Plain item bytes
  | text {content bytes : Bytes} (header : (Header.text content.length).Form bytes) :
    Plain (text content) (bytes ++ content)
  | binary {content bytes : Bytes} (header : (Header.binary content.length).Form bytes) :
    Plain (binary content) (bytes ++ content)
  | extension {kind : UInt8} {content bytes : Bytes} (header : (Header.extension content.length).Form bytes) :
    Plain (extension kind content) (bytes ++ kind :: content)

/-- The forms of a container, given those of what it holds. -/
inductive Container (form : Item → Bytes → Prop) : Item → Bytes → Prop
  | array {items : List Item} {bytes content : Bytes} (header : (Header.array items.length).Form bytes)
    (each : Each form items content) : Container form (array items) (bytes ++ content)
  | map {entries : List (Item × Item)} {bytes content : Bytes} (header : (Header.map entries.length).Form bytes)
    (each : Each (Entry form) entries content) : Container form (map entries) (bytes ++ content)

/-- The forms of an item with at most `depth` containers open at once. -/
def Written : Nat → Item → Bytes → Prop
  | 0, item, bytes => Plain item bytes
  | depth + 1, item, bytes => Plain item bytes ∨ Container (Written depth) item bytes

end Item

end PubSub.MessagePack
