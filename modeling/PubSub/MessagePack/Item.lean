import PubSub.Bytes
/-!
# MessagePack items

An item is one value of the format as it stands in a byte string, before anybody asks what it means. Integers keep
whether their marker was an unsigned or a signed one, and strings are kept as bytes, because they need not be text.

Every item starts with a header. For scalars the header is all there is; for strings, extensions and containers it
holds the length, and the content follows. The written form of a header is the shortest of those the format has.
-/

namespace PubSub.MessagePack

inductive Item where
  | nil
  | boolean (value : Bool)
  | unsigned (value : UInt64)
  | signed (value : Int64)
  | float32 (bits : UInt32)
  | float64 (bits : UInt64)
  | text (bytes : Bytes)
  | binary (bytes : Bytes)
  | extension (kind : UInt8) (bytes : Bytes)
  | array (items : List Item)
  | map (entries : List (Item × Item))

/-- What stands before the content of an item. -/
inductive Header where
  | nil
  | boolean (value : Bool)
  | unsigned (value : UInt64)
  | signed (value : Int64)
  | float32 (bits : UInt32)
  | float64 (bits : UInt64)
  | text (length : Nat)
  | binary (length : Nat)
  | extension (length : Nat)
  | array (count : Nat)
  | map (count : Nat)
  deriving DecidableEq

namespace Header

/-- A natural number behind the shortest unsigned marker. -/
def encodeNat (n : Nat) : Bytes :=
  if n < 128 then [UInt8.ofNat n]
  else if n < UInt8.size then 0xcc :: Bytes.ofNat 1 n
  else if n < UInt16.size then 0xcd :: Bytes.ofNat 2 n
  else if n < UInt32.size then 0xce :: Bytes.ofNat 4 n
  else 0xcf :: Bytes.ofNat 8 n

/-- An integer behind the shortest marker. A number that is not negative has an unsigned one. -/
def encodeInt (n : Int) : Bytes :=
  if 0 ≤ n then encodeNat n.toNat
  else if -32 ≤ n then Bytes.ofInt 1 n
  else if Int8.minValue.toInt ≤ n then 0xd0 :: Bytes.ofInt 1 n
  else if Int16.minValue.toInt ≤ n then 0xd1 :: Bytes.ofInt 2 n
  else if Int32.minValue.toInt ≤ n then 0xd2 :: Bytes.ofInt 4 n
  else 0xd3 :: Bytes.ofInt 8 n

/-- A length behind the marker of the narrowest field that holds it. -/
def encodeLength (byte word double : UInt8) (n : Nat) : Bytes :=
  if n < UInt8.size then byte :: Bytes.ofNat 1 n
  else if n < UInt16.size then word :: Bytes.ofNat 2 n
  else double :: Bytes.ofNat 4 n

/-- The number of elements of a container, inside the marker if it is small. -/
def encodeCount (fixed word double : UInt8) (n : Nat) : Bytes :=
  if n < 16 then [fixed + UInt8.ofNat n]
  else if n < UInt16.size then word :: Bytes.ofNat 2 n
  else double :: Bytes.ofNat 4 n

/-- The shortest written form of a header. -/
def encode : Header → Bytes
  | nil => [0xc0]
  | boolean value => [if value then 0xc3 else 0xc2]
  | unsigned value => encodeNat value.toNat
  | signed value => encodeInt value.toInt
  | float32 bits => 0xca :: Bytes.ofNat 4 bits.toNat
  | float64 bits => 0xcb :: Bytes.ofNat 8 bits.toNat
  | text length => if length < 32 then [0xa0 + UInt8.ofNat length] else encodeLength 0xd9 0xda 0xdb length
  | binary length => encodeLength 0xc4 0xc5 0xc6 length
  | extension length =>
    match length with
    | 1 => [0xd4]
    | 2 => [0xd5]
    | 4 => [0xd6]
    | 8 => [0xd7]
    | 16 => [0xd8]
    | length => encodeLength 0xc7 0xc8 0xc9 length
  | array count => encodeCount 0x90 0xdc 0xdd count
  | map count => encodeCount 0x80 0xde 0xdf count

end Header

namespace Item

def header : Item → Header
  | nil => .nil
  | boolean value => .boolean value
  | unsigned value => .unsigned value
  | signed value => .signed value
  | float32 bits => .float32 bits
  | float64 bits => .float64 bits
  | text bytes => .text bytes.length
  | binary bytes => .binary bytes.length
  | extension _ bytes => .extension bytes.length
  | array items => .array items.length
  | map entries => .map entries.length

mutual

def encode : Item → Bytes
  | text bytes => (Header.text bytes.length).encode ++ bytes
  | binary bytes => (Header.binary bytes.length).encode ++ bytes
  | extension kind bytes => (Header.extension bytes.length).encode ++ kind :: bytes
  | array items => (Header.array items.length).encode ++ encodeItems items
  | map entries => (Header.map entries.length).encode ++ encodeEntries entries
  | item => item.header.encode

def encodeItems : List Item → Bytes
  | [] => []
  | item :: rest => encode item ++ encodeItems rest

/-- The written forms of entries, each key before its value. -/
def encodeEntries : List (Item × Item) → Bytes
  | [] => []
  | (key, value) :: rest => encode key ++ (encode value ++ encodeEntries rest)

end

end Item

end PubSub.MessagePack
