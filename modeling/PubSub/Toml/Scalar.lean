import PubSub.Toml.Text
import PubSub.Toml.Value
/-!
# TOML numbers and times

Integers, floating-point numbers, dates and times. Underscores may stand between digits. An integer must fit 64 bits
with a sign, a date must exist, and a positive floating-point number must not be so large that it rounds to infinity.
Of floating-point numbers and times no more than their presence is kept.
-/

namespace PubSub.Toml

/-- What a function reads from the front of a text, and what follows it. -/
abbrev Parser := StateT (List Char) Option

/-- The rest of the text behind a given beginning. -/
def expect (beginning : List Char) : Parser Unit := fun input ↦
  if beginning.isPrefixOf input then some ((), input.drop beginning.length) else none

/-- The next character, if there is one. Nothing is taken. -/
def peek : Parser (Option Char) := fun input ↦
  some (input.head?, input)

def satisfy (test : Char → Bool) : Parser Char
  | c :: rest => if test c then some (c, rest) else none
  | [] => none

def isDigitOf (base : Nat) (c : Char) : Bool :=
  (hexDigit? c).any (· < base)

/-- Digits behind a first one, single underscores between them left out. -/
def moreDigits (base : Nat) : Parser (List Char)
  | '_' :: c :: rest => if isDigitOf base c then Body.push c (moreDigits base rest) else none
  | ['_'] => none
  | c :: rest => if isDigitOf base c then Body.push c (moreDigits base rest) else some ([], c :: rest)
  | [] => some ([], [])

/-- Digits, of which there is at least one. -/
def digits (base : Nat) : Parser (List Char) := do
  let first ← satisfy (isDigitOf base)
  let rest ← moreDigits base
  pure (first :: rest)

/-- Decimal digits without a needless zero in front. -/
def plainDigits : Parser (List Char) := do
  let first ← satisfy (isDigitOf 10)
  if first = '0' then pure [first]
  else do
    let rest ← moreDigits 10
    pure (first :: rest)

def digitsValue (base : Nat) (digits : List Char) : Nat :=
  digits.foldl (fun n c ↦ base * n + (hexDigit? c).getD 0) 0

/-- A sign, if there is one; whether it is a minus. -/
def sign : Parser Bool
  | '+' :: rest => some (false, rest)
  | '-' :: rest => some (true, rest)
  | input => some (false, input)

/-! ## Dates and times -/

/-- A number of exactly two digits between bounds. -/
def twoDigits (low high : Nat) : Parser Nat := do
  let a ← satisfy (isDigitOf 10)
  let b ← satisfy (isDigitOf 10)
  let n := digitsValue 10 [a, b]
  if low ≤ n ∧ n ≤ high then pure n else failure

def daysInMonth (year month : Nat) : Nat :=
  if month = 2 then
    if year % 4 = 0 ∧ (year % 100 ≠ 0 ∨ year % 400 = 0) then 29 else 28
  else if month = 4 ∨ month = 6 ∨ month = 9 ∨ month = 11 then 30
  else 31

def date : Parser Unit := do
  let century ← twoDigits 0 99
  let year ← twoDigits 0 99
  expect ['-']
  let month ← twoDigits 1 12
  expect ['-']
  discard (twoDigits 1 (daysInMonth (100 * century + year) month))

/-- A time of day. The second 60 exists, for leap seconds. -/
def time : Parser Unit := do
  discard (twoDigits 0 23)
  expect [':']
  discard (twoDigits 0 59)
  expect [':']
  discard (twoDigits 0 60)
  if (← peek) = some '.' then
    expect ['.']
    discard (satisfy (isDigitOf 10))
    modify fun rest ↦ rest.dropWhile (isDigitOf 10)

/-- How far from universal time a time is, if it says so. -/
def offset : Parser Unit := do
  match ← peek with
  | some 'Z' => expect ['Z']
  | some 'z' => expect ['z']
  | some c =>
    if c = '+' ∨ c = '-' then
      expect [c]
      discard (twoDigits 0 23)
      expect [':']
      discard (twoDigits 0 59)
  | none => pure ()

/-- Whether a text starts with a time of day, as far as its first colon tells. -/
def startsTime : List Char → Bool
  | a :: b :: ':' :: _ => isDigitOf 10 a && isDigitOf 10 b
  | _ => false

/-- Whether a text starts with a date, as far as its first dash tells. -/
def startsDate : List Char → Bool
  | a :: b :: c :: d :: '-' :: _ => [a, b, c, d].all (isDigitOf 10)
  | _ => false

/-- The time behind a date, if there is one behind a `T` or a space. -/
def timeOfDate : Parser Unit := fun input ↦
  match input with
  | delimiter :: rest =>
    if (delimiter = 'T' ∨ delimiter = 't' ∨ delimiter = ' ') ∧ startsTime rest then
      (do time; offset : Parser Unit) rest
    else some ((), input)
  | [] => some ((), [])

/-! ## Numbers -/

/-- Whether a positive decimal number, `digits * 10 ^ exponent`, rounds to infinity in double precision. -/
def roundsToInfinity (digits : List Char) (exponent : Int) : Bool :=
  let significant := digits.dropWhile (· == '0')
  let magnitude := significant.length + exponent
  let bound := (1 <<< 1024) - (1 <<< 970)
  if significant.isEmpty || magnitude < 300 then false
  else if 400 < magnitude then true
  else if 0 ≤ exponent then bound ≤ digitsValue 10 significant * Nat.pow 10 exponent.toNat
  else bound * Nat.pow 10 (-exponent).toNat ≤ digitsValue 10 significant

/-- The digits behind the point of a number, if there is a point. -/
def fraction : Parser (Option (List Char)) := do
  if (← peek) = some '.' then
    expect ['.']
    some <$> digits 10
  else pure none

/-- The power of ten behind a number, if there is one. -/
def power : Parser (Option Int) := do
  match ← peek with
  | some c =>
    if c = 'e' ∨ c = 'E' then
      expect [c]
      let negative ← sign
      let n := digitsValue 10 (← digits 10)
      pure (some (if negative then -(n : Int) else n))
    else pure none
  | none => pure none

/-- An integer, if it fits 64 bits with a sign. -/
def integer (n : Int) : Parser Value :=
  if Int64.minValue.toInt ≤ n ∧ n ≤ Int64.maxValue.toInt then pure (.integer n) else failure

/-- A decimal number: an integer without point and power, else a floating-point number. -/
def decimal : Parser Value := do
  let negative ← sign
  let whole ← plainDigits
  match ← fraction, ← power with
  | none, none => integer (if negative then -(digitsValue 10 whole : Int) else digitsValue 10 whole)
  | places, power =>
    let places := places.getD []
    if !negative && roundsToInfinity (whole ++ places) (power.getD 0 - places.length) then failure
    else pure .float

/-- An integer in another base, read from behind the mark of the base. -/
def based (base : Nat) : Parser Value := do
  let found ← digits base
  integer (digitsValue base found)

/-- A value that starts with a digit or a sign. -/
def numeric : Parser Value := fun input ↦
  if startsDate input then (do date; timeOfDate; pure .dateTime : Parser Value) input
  else if startsTime input then (do time; pure .dateTime : Parser Value) input
  else match input with
    | '0' :: 'x' :: rest => based 16 rest
    | '0' :: 'o' :: rest => based 8 rest
    | '0' :: 'b' :: rest => based 2 rest
    | c :: 'i' :: 'n' :: 'f' :: rest => if c = '+' ∨ c = '-' then some (.float, rest) else decimal input
    | c :: 'n' :: 'a' :: 'n' :: rest => if c = '+' ∨ c = '-' then some (.float, rest) else decimal input
    | _ => decimal input

end PubSub.Toml
