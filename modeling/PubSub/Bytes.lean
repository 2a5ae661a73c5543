/-!
# Byte strings

Payloads are lists of bytes. Numbers inside them stand with the most significant byte first, and text stands in UTF-8.
-/

namespace PubSub

abbrev Bytes := List UInt8

namespace Bytes

/-- The lowest `width` bytes of a number, the most significant first. -/
def ofNat : Nat → Nat → Bytes
  | 0, _ => []
  | width + 1, n => ofNat width (n / 256) ++ [UInt8.ofNat n]

/-- The lowest `width` bytes of a number in two's complement, the most significant first. -/
def ofInt : Nat → Int → Bytes
  | 0, _ => []
  | width + 1, n => ofInt width (n / 256) ++ [UInt8.ofInt n]

/-- The number that bytes stand for, the most significant first. -/
def toNat (bytes : Bytes) : Nat :=
  bytes.foldl (fun n byte ↦ 256 * n + byte.toNat) 0

/-- The number that bytes stand for in two's complement, the most significant first. -/
def toInt : Bytes → Int
  | [] => 0
  | first :: rest => rest.foldl (fun n byte ↦ 256 * n + byte.toNat) first.toInt8.toInt

/-- A text in UTF-8. -/
def ofString (text : String) : Bytes :=
  text.toUTF8.data.toList

/-- The text that bytes stand for, if they are UTF-8. -/
def toString? (bytes : Bytes) : Option String :=
  String.fromUTF8? ⟨bytes.toArray⟩

@[simp] theorem length_ofNat (width n : Nat) : (ofNat width n).length = width := by
  induction width generalizing n with
  | zero => rfl
  | succ width ih => simp [ofNat, ih]

@[simp] theorem length_ofInt (width : Nat) (n : Int) : (ofInt width n).length = width := by
  induction width generalizing n with
  | zero => rfl
  | succ width ih => simp [ofInt, ih]

theorem toString?_ofString (text : String) : toString? (ofString text) = some text := by
  have hbytes : ByteArray.mk (ofString text).toArray = text.toUTF8 := by
    simp [ofString]
  simp only [toString?, hbytes, String.fromUTF8?]
  split
  · rfl
  · rename_i h
    exact absurd text.isValidUTF8 h

end Bytes

end PubSub
