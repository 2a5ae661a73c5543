import PubSub.MessagePack.Item
/-!
# Reading MessagePack

A reader takes what it wants from the front of a byte string and leaves the rest. Reading an item accepts every marker
of the format but the reserved one, whatever width a length or a number was written with. At most 1023 containers may
be open at once; the nesting that a reader still allows is also what makes it end.
-/

namespace PubSub.MessagePack

/-- A function that takes a value from the front of a byte string, or fails. -/
abbrev Reader := StateT Bytes Option

namespace Reader

def byte : Reader UInt8
  | [] => none
  | first :: rest => some (first, rest)

def bytes (count : Nat) : Reader Bytes := fun input ↦
  let taken := input.take count
  if taken.length = count then some (taken, input.drop count) else none

def natural (width : Nat) : Reader Nat :=
  Bytes.toNat <$> bytes width

/-- The number in the next `width` bytes in two's complement. -/
def integer (width : Nat) : Reader Int :=
  Bytes.toInt <$> bytes width

def times {α : Type} (reader : Reader α) : Nat → Reader (List α)
  | 0 => pure []
  | count + 1 => do
    let first ← reader
    let rest ← times reader count
    pure (first :: rest)

end Reader

open Reader

/-- A header, whichever of its written forms stands there. -/
def Header.reader : Reader Header := do
  let marker := (← byte).toNat
  if marker < 0x80 then pure (.unsigned (UInt64.ofNat marker))
  else if marker < 0x90 then pure (.map (marker - 0x80))
  else if marker < 0xa0 then pure (.array (marker - 0x90))
  else if marker < 0xc0 then pure (.text (marker - 0xa0))
  else if 0xe0 ≤ marker then pure (.signed (Int64.ofInt (marker - 256)))
  else match marker with
    | 0xc0 => pure .nil
    | 0xc2 => pure (.boolean false)
    | 0xc3 => pure (.boolean true)
    | 0xc4 => .binary <$> natural 1
    | 0xc5 => .binary <$> natural 2
    | 0xc6 => .binary <$> natural 4
    | 0xc7 => .extension <$> natural 1
    | 0xc8 => .extension <$> natural 2
    | 0xc9 => .extension <$> natural 4
    | 0xca => (.float32 ∘ UInt32.ofNat) <$> natural 4
    | 0xcb => (.float64 ∘ UInt64.ofNat) <$> natural 8
    | 0xcc => (.unsigned ∘ UInt64.ofNat) <$> natural 1
    | 0xcd => (.unsigned ∘ UInt64.ofNat) <$> natural 2
    | 0xce => (.unsigned ∘ UInt64.ofNat) <$> natural 4
    | 0xcf => (.unsigned ∘ UInt64.ofNat) <$> natural 8
    | 0xd0 => (.signed ∘ Int64.ofInt) <$> integer 1
    | 0xd1 => (.signed ∘ Int64.ofInt) <$> integer 2
    | 0xd2 => (.signed ∘ Int64.ofInt) <$> integer 4
    | 0xd3 => (.signed ∘ Int64.ofInt) <$> integer 8
    | 0xd4 => pure (.extension 1)
    | 0xd5 => pure (.extension 2)
    | 0xd6 => pure (.extension 4)
    | 0xd7 => pure (.extension 8)
    | 0xd8 => pure (.extension 16)
    | 0xd9 => .text <$> natural 1
    | 0xda => .text <$> natural 2
    | 0xdb => .text <$> natural 4
    | 0xdc => .array <$> natural 2
    | 0xdd => .array <$> natural 4
    | 0xde => .map <$> natural 2
    | 0xdf => .map <$> natural 4
    | _ => failure

namespace Item

/-- An item whose elements, if it is a container, are read by `inner`. Without `inner` no container may open. -/
def readerWith (inner : Option (Reader Item)) : Reader Item := do
  match ← Header.reader with
  | .nil => pure .nil
  | .boolean value => pure (.boolean value)
  | .unsigned value => pure (.unsigned value)
  | .signed value => pure (.signed value)
  | .float32 bits => pure (.float32 bits)
  | .float64 bits => pure (.float64 bits)
  | .text length => .text <$> bytes length
  | .binary length => .binary <$> bytes length
  | .extension length => do
    let kind ← byte
    .extension kind <$> bytes length
  | .array count =>
    match inner with
    | none => failure
    | some element => .array <$> times element count
  | .map count =>
    match inner with
    | none => failure
    | some element => .map <$> times (Prod.mk <$> element <*> element) count

/-- An item with at most `depth` containers open at once. -/
def reader : Nat → Reader Item
  | 0 => readerWith none
  | depth + 1 => readerWith (some (reader depth))

def maxDepth : Nat := 1023

/-- The first item of a byte string. What follows it is ignored. -/
def decode? (input : Bytes) : Option Item :=
  (reader maxDepth input).map Prod.fst

end Item

end PubSub.MessagePack
