/-!
# TOML strings

The bodies of the four kinds of string, read from behind the opening quotes to behind the closing ones. Basic strings
have escapes, literal strings have none. Strings in triple quotes may hold line breaks and up to two quotes in a row,
also right before the closing ones, and a backslash at the end of a line joins the line with the next text.
Lines are taken to end with a line feed alone.
-/

namespace PubSub.Toml

/-- A body together with what follows it. -/
abbrev Body := Option (List Char × List Char)

def Body.push (c : Char) (body : Body) : Body :=
  body.map fun found ↦ (c :: found.1, found.2)

def isSpace (c : Char) : Bool :=
  c == ' ' || c == '\t'

/-- Whether a character may stand in a text as it is: control characters may not, the tab apart. -/
def isPlain (c : Char) : Bool :=
  c == '\t' || (32 ≤ c.toNat && c.toNat != 127)

def hexDigit? (c : Char) : Option Nat :=
  if '0' ≤ c ∧ c ≤ '9' then some (c.toNat - 48)
  else if 'a' ≤ c ∧ c ≤ 'f' then some (c.toNat - 87)
  else if 'A' ≤ c ∧ c ≤ 'F' then some (c.toNat - 55)
  else none

/-- The character that hexadecimal digits stand for, if they are digits of a Unicode scalar value. -/
def scalar? (digits : List Char) : Option Char := do
  let n ← digits.foldlM (fun n c ↦ (hexDigit? c).map fun digit ↦ 16 * n + digit) 0
  if n.isValidChar then some (Char.ofNat n) else none

/-- The character that a letter behind a backslash stands for. -/
def escaped? : Char → Option Char
  | 'b' => some '\x08'
  | 't' => some '\t'
  | 'n' => some '\n'
  | 'f' => some '\x0c'
  | 'r' => some '\r'
  | '\x22' => some '\x22'
  | '\\' => some '\\'
  | _ => none

/-- An escape, read from behind its backslash. -/
def escape? : List Char → Option (Char × List Char)
  | 'u' :: a :: b :: c :: d :: rest => (scalar? [a, b, c, d]).map (·, rest)
  | 'U' :: a :: b :: c :: d :: e :: f :: g :: h :: rest => (scalar? [a, b, c, d, e, f, g, h]).map (·, rest)
  | c :: rest => (escaped? c).map (·, rest)
  | [] => none

theorem length_lt_of_escape? {input : List Char} {c : Char} {rest : List Char} (h : escape? input = some (c, rest)) :
    rest.length < input.length := by
  unfold escape? at h
  split at h
  all_goals simp only [Option.map_eq_some_iff, Prod.mk.injEq, reduceCtorEq] at h
  all_goals first
    | exact h.elim
    | (obtain ⟨_, _, _, rfl⟩ := h; simp only [List.length_cons]; omega)

def basicBody (input : List Char) : Body :=
  match input with
  | [] => none
  | '\x22' :: rest => some ([], rest)
  | '\\' :: rest =>
    match h : escape? rest with
    | none => none
    | some (c, after) =>
      have := length_lt_of_escape? h
      Body.push c (basicBody after)
  | c :: rest => if isPlain c then Body.push c (basicBody rest) else none
termination_by input.length

def literalBody : List Char → Body
  | [] => none
  | '\x27' :: rest => some ([], rest)
  | c :: rest => if isPlain c then Body.push c (literalBody rest) else none

/-- The end of a string in triple quotes, if it is here. Up to two quotes before the closing ones belong to the text. -/
def closing? (quote : Char) : List Char → Option Body
  | a :: b :: c :: rest =>
    if a = quote ∧ b = quote ∧ c = quote then
      match rest with
      | d :: e :: f :: rest =>
        if d ≠ quote then some (some ([], d :: e :: f :: rest))
        else if e ≠ quote then some (some ([quote], e :: f :: rest))
        else if f ≠ quote then some (some ([quote, quote], f :: rest))
        else some none
      | rest =>
        let more := rest.takeWhile (· == quote)
        some (some (more, rest.drop more.length))
    else none
  | _ => none

/-- What a backslash at the end of a line leads to: the first character that is neither blank nor a line end. -/
def continuation? (input : List Char) : Option (List Char) :=
  match input.dropWhile isSpace with
  | '\n' :: rest => some (rest.dropWhile fun c ↦ isSpace c || c == '\n')
  | _ => none

/-- The body of a basic string in triple quotes. No more than `fuel` characters and escapes are read. -/
def multiBasicBody : Nat → List Char → Body
  | 0, _ => none
  | fuel + 1, input =>
    match closing? '\x22' input with
    | some body => body
    | none =>
      match input with
      | [] => none
      | '\\' :: rest =>
        match continuation? rest with
        | some after => multiBasicBody fuel after
        | none =>
          match escape? rest with
          | none => none
          | some (c, after) => Body.push c (multiBasicBody fuel after)
      | c :: rest => if isPlain c || c == '\n' then Body.push c (multiBasicBody fuel rest) else none

def multiLiteralBody (input : List Char) : Body :=
  match closing? '\x27' input with
  | some body => body
  | none =>
    match input with
    | [] => none
    | c :: rest => if isPlain c || c == '\n' then Body.push c (multiLiteralBody rest) else none

def dropLineEnd : List Char → List Char
  | '\n' :: rest => rest
  | input => input

/-- A string of any kind, read from its opening quotes. -/
def string? : List Char → Body
  | '\x22' :: '\x22' :: '\x22' :: rest =>
    let rest := dropLineEnd rest
    multiBasicBody (rest.length + 1) rest
  | '\x22' :: rest => basicBody rest
  | '\x27' :: '\x27' :: '\x27' :: rest => multiLiteralBody (dropLineEnd rest)
  | '\x27' :: rest => literalBody rest
  | _ => none

end PubSub.Toml
