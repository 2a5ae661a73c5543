/-!
# Double-precision numbers

A double-precision number is known by its 64 bits: a sign, eleven exponent bits and 52 fraction bits. Whole numbers
and single-precision numbers are converted by exact arithmetic on natural numbers. A whole number that has more than
53 significant bits is rounded to the nearest double, a tie to the one whose last fraction bit is zero. A
single-precision number is a double-precision number too, so nothing is rounded there; a NaN stays a NaN with its
fraction and becomes quiet.
-/

namespace PubSub

/-- A double-precision number, by its bits. -/
structure Binary64 where
  bits : UInt64
  deriving DecidableEq

namespace Binary64

/-- `n / 2 ^ shift` rounded to the nearest whole number, a tie to the even one. -/
def roundShift (n shift : Nat) : Nat :=
  let unit := 1 <<< shift
  let quotient := n / unit
  let twiceRest := 2 * (n % unit)
  if unit < twiceRest ∨ (twiceRest = unit ∧ quotient % 2 = 1) then quotient + 1 else quotient

/-- The 53 leading bits of a positive whole number whose highest bit is `2 ^ top`, rounded. -/
def significand (n top : Nat) : Nat :=
  if top ≤ 52 then n <<< (52 - top) else roundShift n (top - 52)

/-- The bits of the double nearest to a natural number below `2 ^ 1023`. A significand that rounds up to the next
power of two carries into the exponent. -/
def bitsOfNat (n : Nat) : Nat :=
  if n = 0 then 0
  else ((1023 + n.log2) <<< 52) + (significand n n.log2 - (1 <<< 52))

/-- The double nearest to a whole number of at most 64 bits. -/
def ofInt (n : Int) : Binary64 :=
  if n < 0 then ⟨UInt64.ofNat ((1 <<< 63) + bitsOfNat n.natAbs)⟩ else ⟨UInt64.ofNat (bitsOfNat n.natAbs)⟩

/-- The exponent and fraction bits of the double that equals a single-precision number without its sign. -/
def widenMagnitude (exponent fraction : Nat) : Nat :=
  if exponent = 255 then
    if fraction = 0 then 2047 <<< 52
    else (2047 <<< 52) + (fraction <<< 29 ||| 1 <<< 51)
  else if exponent = 0 then
    if fraction = 0 then 0
    else ((fraction.log2 + 874) <<< 52) + ((fraction <<< (52 - fraction.log2)) - (1 <<< 52))
  else ((exponent + 896) <<< 52) + (fraction <<< 29)

/-- The double that equals a single-precision number, given by its bits. -/
def ofBinary32 (bits : UInt32) : Binary64 :=
  let n := bits.toNat
  ⟨UInt64.ofNat (((n >>> 31) <<< 63) + widenMagnitude ((n >>> 23) % 256) (n % (1 <<< 23)))⟩

end Binary64

end PubSub
