import PubSub.MessagePack.Grammar
import PubSub.MessagePack.Reader
import Mathlib.Data.Nat.Basic
/-!
# Forms of headers

A header is read from each of its forms, whatever follows. What is written of a header is one of its forms, if the
length that it tells is below `2 ^ 32`. A signed integer that is not negative has an unsigned marker, so what is written
of it is a form of the unsigned one.
-/

namespace PubSub

/-! ## Numbers in bytes -/

namespace Bytes

theorem toNat_concat (bytes : Bytes) (byte : UInt8) : toNat (bytes ++ [byte]) = 256 * toNat bytes + byte.toNat := by
  simp [toNat]

theorem toNat_ofNat {width n : Nat} (h : n < Nat.pow 256 width) : toNat (ofNat width n) = n := by
  induction width generalizing n with
  | zero =>
    obtain rfl : n = 0 := by simpa using h
    rfl
  | succ width ih =>
    have high : n / 256 < Nat.pow 256 width := Nat.div_lt_of_lt_mul (by rwa [Nat.mul_comm])
    rw [ofNat, toNat_concat, ih high, UInt8.toNat_ofNat']
    omega

theorem toInt_concat {bytes : Bytes} (h : bytes ≠ []) (byte : UInt8) :
    toInt (bytes ++ [byte]) = 256 * toInt bytes + byte.toNat := by
  obtain ⟨first, rest, rfl⟩ := List.exists_cons_of_ne_nil h
  simp [toInt]

theorem toNat_ofInt (n : Int) : ((UInt8.ofInt n).toNat : Int) = n % 256 := by
  have size : (UInt8.ofInt n).toNat = (n % 256).toNat % 256 := by
    rw [UInt8.ofInt, UInt8.toNat_ofNat']
    rfl
  omega

theorem toInt8_ofInt {n : Int} (low : -128 ≤ n) (high : n < 128) : (UInt8.ofInt n).toInt8.toInt = n := by
  have same : (UInt8.ofInt n).toInt8 = Int8.ofNat (n % 256).toNat := by simp [UInt8.ofInt]
  have wrapped : (n % 256).bmod Int8.size = n.bmod Int8.size := Int.emod_bmod n Int8.size
  rw [same, Int8.toInt_ofNat', Int.toNat_of_nonneg (by omega), wrapped]
  exact Int.bmod_eq_of_le low high

/-- A number that fits into one byte more than `width` is read back from them. -/
theorem toInt_ofInt {width : Nat} {n : Int} (low : -(128 * (Nat.pow 256 width : Int)) ≤ n)
    (high : n < 128 * (Nat.pow 256 width : Int)) : toInt (ofInt (width + 1) n) = n := by
  induction width generalizing n with
  | zero => exact toInt8_ofInt low high
  | succ width ih =>
    have step : (Nat.pow 256 (width + 1) : Int) = Nat.pow 256 width * 256 := rfl
    rw [step] at low high
    have nonempty : ofInt (width + 1) (n / 256) ≠ [] := by simp [ofInt]
    rw [ofInt, toInt_concat nonempty, ih (by omega) (by omega), toNat_ofInt]
    omega

end Bytes

namespace MessagePack

open Reader

/-! ## Reading -/

namespace Reader

variable {α β : Type} {first : Reader α} {value : α} {input rest : Bytes}

theorem bind_eq (h : first input = some (value, rest)) (next : α → Reader β) :
    (first >>= next) input = next value rest := by
  have opened : (first >>= next) input = (first input).bind fun taken ↦ next taken.1 taken.2 := rfl
  rw [opened, h, Option.bind_some]

theorem map_eq (h : first input = some (value, rest)) (change : α → β) :
    (change <$> first) input = some (change value, rest) := by
  have opened : (change <$> first) input = (first input).bind fun taken ↦ some (change taken.1, taken.2) := rfl
  rw [opened, h, Option.bind_some]

theorem bytes_append (taken rest : Bytes) : bytes taken.length (taken ++ rest) = some (taken, rest) := by
  simp [bytes]

theorem natural_append (field rest : Bytes) :
    natural field.length (field ++ rest) = some (field.toNat, rest) :=
  map_eq (bytes_append field rest) Bytes.toNat

theorem integer_append (field rest : Bytes) :
    integer field.length (field ++ rest) = some (field.toInt, rest) :=
  map_eq (bytes_append field rest) Bytes.toInt

end Reader

namespace Header

variable {n : Nat} {header : Header} {bytes rest : Bytes}

/-! ## Reading a form -/

/-- The header of a marker that tells everything itself. -/
def small? (marker : Nat) : Option Header :=
  if marker < 0x80 then some (.unsigned (UInt64.ofNat marker))
  else if marker < 0x90 then some (.map (marker - 0x80))
  else if marker < 0xa0 then some (.array (marker - 0x90))
  else if marker < 0xc0 then some (.text (marker - 0xa0))
  else if 0xe0 ≤ marker then some (.signed (Int64.ofInt (marker - 256)))
  else none

theorem reader_of_small? {marker : UInt8} (h : small? marker.toNat = some header) :
    Header.reader (marker :: rest) = some (header, rest) := by
  rw [Header.reader, bind_eq (show byte (marker :: rest) = some (marker, rest) from rfl)]
  unfold small? at h
  split_ifs at h ⊢ <;> (obtain rfl := Option.some.inj h; rfl)

theorem reader_sole : ∀ sole ∈ soleMarkers, ∀ rest, Header.reader (sole.1 :: rest) = some (sole.2, rest) := by
  simp only [soleMarkers, List.forall_mem_cons, List.not_mem_nil, false_implies, implies_true, and_true]
  and_intros <;> exact fun _ ↦ rfl

/-- The numbers of a row of markers are inside of them. -/
theorem small?_row : ∀ row ∈ rowMarkers, row.1.toNat + row.2.1 ≤ 256 ∧
    ∀ n < row.2.1, small? (row.1.toNat + n) = some (row.2.2 n) := by
  simp only [rowMarkers, List.forall_mem_cons, List.not_mem_nil, false_implies, implies_true, and_true]
  refine ⟨⟨by decide, fun n within ↦ ?_⟩, ⟨by decide, fun n within ↦ ?_⟩, ⟨by decide, fun n within ↦ ?_⟩,
    ⟨by decide, fun n within ↦ ?_⟩, ⟨by decide, fun n within ↦ ?_⟩⟩
  · change small? (0 + n) = _
    rw [small?, Nat.zero_add, if_pos within]
  · change small? (0x80 + n) = _
    rw [small?, if_neg (by omega), if_pos (by omega), Nat.add_sub_cancel_left]
  · change small? (0x90 + n) = _
    rw [small?, if_neg (by omega), if_neg (by omega), if_pos (by omega), Nat.add_sub_cancel_left]
  · change small? (0xa0 + n) = _
    rw [small?, if_neg (by omega), if_neg (by omega), if_neg (by omega), if_pos (by omega), Nat.add_sub_cancel_left]
  · change small? (0xe0 + n) = _
    have same : ((0xe0 + n : Nat) : Int) - 256 = n - 32 := by omega
    rw [small?, if_neg (by omega), if_neg (by omega), if_neg (by omega), if_neg (by omega), if_pos (by omega), same]

theorem reader_natural : ∀ wide ∈ naturalMarkers, ∀ input,
    Header.reader (wide.1 :: input) = (wide.2.2 <$> natural wide.2.1) input := by
  simp only [naturalMarkers, List.forall_mem_cons, List.not_mem_nil, false_implies, implies_true, and_true]
  and_intros <;> exact fun _ ↦ rfl

theorem reader_integer : ∀ wide ∈ integerMarkers, ∀ input, Header.reader (wide.1 :: input) =
    ((fun n ↦ signed (Int64.ofInt n)) <$> integer wide.2) input := by
  simp only [integerMarkers, List.forall_mem_cons, List.not_mem_nil, false_implies, implies_true, and_true]
  and_intros <;> exact fun _ ↦ rfl

/-- A header is read from each of its forms, whatever follows. -/
theorem reader_of_form (form : header.Form bytes) (rest : Bytes) :
    Header.reader (bytes ++ rest) = some (header, rest) := by
  cases form with
  | sole known => exact reader_sole _ known rest
  | @row lowest room n tell known within =>
    obtain ⟨fits, tells⟩ : lowest.toNat + room ≤ 256 ∧ ∀ n < room, small? (lowest.toNat + n) = some (tell n) :=
      small?_row _ known
    have marker : (lowest + UInt8.ofNat n).toNat = lowest.toNat + n := by
      rw [UInt8.toNat_add, UInt8.toNat_ofNat']
      omega
    exact reader_of_small? (marker ▸ tells n within)
  | natural known => exact (reader_natural _ known _).trans (map_eq (natural_append _ rest) _)
  | integer known => exact (reader_integer _ known _).trans (map_eq (integer_append _ rest) _)

/-! ## Writing a form -/

/-- The header that is read where a header was written. -/
def readBack : Header → Header
  | signed value => if 0 ≤ value.toInt then .unsigned (UInt64.ofNat value.toInt.toNat) else .signed value
  | header => header

/-- Whether the length that the header tells, if it tells one, can be written. -/
def Fits : Header → Prop
  | text length | binary length | extension length => length < UInt32.size
  | array count | map count => count < UInt32.size
  | _ => True

section Numbers

variable {marker word double : UInt8} {width : Nat} {tell : Nat → Header}

theorem Form.of_nat (known : (marker, width, tell) ∈ naturalMarkers) (fits : n < Nat.pow 256 width) :
    Form (tell n) (marker :: Bytes.ofNat width n) := by
  rw [← Bytes.length_ofNat width n] at known
  have form := Form.natural known
  rwa [Bytes.toNat_ofNat fits] at form

theorem Form.of_int (known : (marker, width + 1) ∈ integerMarkers) {n : Int}
    (low : -(128 * (Nat.pow 256 width : Int)) ≤ n) (high : n < 128 * (Nat.pow 256 width : Int)) :
    Form (signed (Int64.ofInt n)) (marker :: Bytes.ofInt (width + 1) n) := by
  rw [← Bytes.length_ofInt (width + 1) n] at known
  have form := Form.integer known
  rwa [Bytes.toInt_ofInt low high] at form

theorem form_encodeLength (inByte : (marker, 1, tell) ∈ naturalMarkers) (inWord : (word, 2, tell) ∈ naturalMarkers)
    (inDouble : (double, 4, tell) ∈ naturalMarkers) (h : n < UInt32.size) :
    Form (tell n) (encodeLength marker word double n) := by
  unfold encodeLength
  split
  · rename_i short
    exact .of_nat inByte short
  · split
    · rename_i middling
      exact .of_nat inWord middling
    · exact .of_nat inDouble h

theorem form_encodeCount (inMarker : (marker, 16, tell) ∈ rowMarkers) (inWord : (word, 2, tell) ∈ naturalMarkers)
    (inDouble : (double, 4, tell) ∈ naturalMarkers) (h : n < UInt32.size) :
    Form (tell n) (encodeCount marker word double n) := by
  unfold encodeCount
  split
  · rename_i few
    exact .row inMarker few
  · split
    · rename_i middling
      exact .of_nat inWord middling
    · exact .of_nat inDouble h

end Numbers

theorem form_encodeNat (h : n < UInt64.size) : Form (.unsigned (UInt64.ofNat n)) (encodeNat n) := by
  unfold encodeNat
  split
  · rename_i small
    have known : (0x00, 128, fun n ↦ unsigned (UInt64.ofNat n)) ∈ rowMarkers := by simp [rowMarkers]
    have form := Form.row known small
    rwa [UInt8.zero_add] at form
  · have wide (marker : UInt8) (width : Nat)
        (known : (marker, width, fun n ↦ unsigned (UInt64.ofNat n)) ∈ naturalMarkers) (fits : n < Nat.pow 256 width) :
        Form (.unsigned (UInt64.ofNat n)) (marker :: Bytes.ofNat width n) :=
      .of_nat known fits
    split
    · rename_i fits
      exact wide 0xcc 1 (by simp [naturalMarkers]) fits
    · split
      · rename_i fits
        exact wide 0xcd 2 (by simp [naturalMarkers]) fits
      · split
        · rename_i fits
          exact wide 0xce 4 (by simp [naturalMarkers]) fits
        · exact wide 0xcf 8 (by simp [naturalMarkers]) h

theorem form_encodeInt {value : Int64} (negative : value.toInt < 0) :
    Form (.signed value) (encodeInt value.toInt) := by
  have low := value.le_toInt
  have same : signed (Int64.ofInt value.toInt) = signed value := congrArg signed value.ofInt_toInt
  rw [← same]
  unfold encodeInt
  rw [if_neg (by omega)]
  split
  · rename_i small
    have known : (0xe0, 32, fun n : Nat ↦ signed (Int64.ofInt (n - 32))) ∈ rowMarkers := by simp [rowMarkers]
    have form := Form.row known (show (value.toInt + 32).toNat < 32 by omega)
    have marker : 0xe0 + UInt8.ofNat (value.toInt + 32).toNat = UInt8.ofInt value.toInt := by
      have told := Bytes.toNat_ofInt value.toInt
      rw [← UInt8.toNat_inj, UInt8.toNat_add, UInt8.toNat_ofNat']
      change (0xe0 + _) % _ = _
      omega
    have number : ((value.toInt + 32).toNat : Int) - 32 = value.toInt := by omega
    rwa [marker, number] at form
  · have wide (marker : UInt8) (width : Nat) (known : (marker, width + 1) ∈ integerMarkers)
        (low : -(128 * (Nat.pow 256 width : Int)) ≤ value.toInt) :
        Form (.signed (Int64.ofInt value.toInt)) (marker :: Bytes.ofInt (width + 1) value.toInt) := by
      have positive : (0 : Int) ≤ Nat.pow 256 width := Int.natCast_nonneg _
      exact .of_int known low (by omega)
    split
    · rename_i fits
      exact wide 0xd0 0 (by decide) fits
    · split
      · rename_i fits
        exact wide 0xd1 1 (by decide) fits
      · split
        · rename_i fits
          exact wide 0xd2 3 (by decide) fits
        · exact wide 0xd3 7 (by decide) low

theorem form_encode (fits : header.Fits) : header.readBack.Form header.encode := by
  cases header with
  | nil => exact .sole (by decide)
  | boolean value => cases value <;> exact .sole (by decide)
  | unsigned value =>
    have form := form_encodeNat value.toNat_lt
    rwa [UInt64.ofNat_toNat] at form
  | signed value =>
    simp only [readBack, encode]
    split
    · rename_i positive
      have high := value.toInt_lt
      rw [encodeInt, if_pos positive]
      exact form_encodeNat (by rw [UInt64.size]; omega)
    · exact form_encodeInt (by omega)
  | float32 bits =>
    have known : (0xca, 4, fun n ↦ float32 (UInt32.ofNat n)) ∈ naturalMarkers := by simp [naturalMarkers]
    have form := Form.of_nat known bits.toNat_lt
    rwa [UInt32.ofNat_toNat] at form
  | float64 bits =>
    have known : (0xcb, 8, fun n ↦ float64 (UInt64.ofNat n)) ∈ naturalMarkers := by simp [naturalMarkers]
    have form := Form.of_nat known bits.toNat_lt
    rwa [UInt64.ofNat_toNat] at form
  | text length =>
    simp only [readBack, encode]
    split
    · rename_i short
      exact .row (by simp [rowMarkers]) short
    · exact form_encodeLength (by simp [naturalMarkers]) (by simp [naturalMarkers]) (by simp [naturalMarkers]) fits
  | binary length =>
    exact form_encodeLength (by simp [naturalMarkers]) (by simp [naturalMarkers]) (by simp [naturalMarkers]) fits
  | extension length =>
    simp only [readBack, encode]
    split
    · exact .sole (by decide)
    · exact .sole (by decide)
    · exact .sole (by decide)
    · exact .sole (by decide)
    · exact .sole (by decide)
    · exact form_encodeLength (by simp [naturalMarkers]) (by simp [naturalMarkers]) (by simp [naturalMarkers]) fits
  | array count =>
    exact form_encodeCount (by simp [rowMarkers]) (by simp [naturalMarkers]) (by simp [naturalMarkers]) fits
  | map count =>
    exact form_encodeCount (by simp [rowMarkers]) (by simp [naturalMarkers]) (by simp [naturalMarkers]) fits

end Header

end MessagePack

end PubSub
