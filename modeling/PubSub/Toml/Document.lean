import PubSub.Toml.Scalar
/-!
# TOML documents

A document is a sequence of lines: blank ones, comments, headers and assignments. It is read into statements first,
and the statements are then carried out on an empty table. Values nest fewer than 80 deep, and a dotted key has fewer
than 80 parts. The reading functions bound their loops by the length of the text, which no loop exceeds, since each
round takes a character.
-/

namespace PubSub.Toml

/-- How deep arrays and inline tables nest at most, and how many parts a dotted key has at most. -/
def maxNesting : Nat := 79

/-- Blank space within a line. -/
def spaces : Parser Unit :=
  modify fun rest ↦ rest.dropWhile isSpace

/-- The text behind a comment that has just started. -/
def dropComment : List Char → List Char :=
  List.dropWhile isPlain

/-- Blank space, line ends and comments. -/
def blanks : Nat → Parser Unit
  | 0 => pure ()
  | fuel + 1 => do
    match ← peek with
    | some '#' =>
      modify dropComment
      if (← peek).isSome then expect ['\n']
      blanks fuel
    | some c =>
      if isSpace c || c == '\n' then
        discard (satisfy fun _ ↦ true)
        blanks fuel
    | none => pure ()

def skipBlanks : Parser Unit := do
  blanks (← get).length

/-! ## Keys -/

/-- Whether a character may stand in a key without quotes. -/
def isBareKey (c : Char) : Bool :=
  c.isAlphanum || c == '_' || c == '-'

/-- One part of a key, bare or in single or double quotes. -/
def keyPart : Parser String := fun input ↦
  match input with
  | '\x22' :: rest => (basicBody rest).map fun found ↦ (String.ofList found.1, found.2)
  | '\x27' :: rest => (literalBody rest).map fun found ↦ (String.ofList found.1, found.2)
  | _ =>
    let bare := input.takeWhile isBareKey
    if bare.isEmpty then none else some (String.ofList bare, input.drop bare.length)

/-- A key of at most `limit` parts with points between them: the parts before the last, and the last. -/
def keyOfParts : Nat → Parser (List String × String)
  | 0 => failure
  | limit + 1 => do
    spaces
    let part ← keyPart
    spaces
    if (← peek) = some '.' then
      expect ['.']
      let (path, last) ← keyOfParts limit
      pure (part :: path, last)
    else pure ([], part)

def dottedKey : Parser (List String × String) :=
  keyOfParts maxNesting

/-! ## Values -/

/-- The elements of an array, read from behind the opening bracket or a comma, in at most `fuel` rounds. -/
def arrayItems (element : Parser Value) : Nat → Parser (List Value)
  | 0 => failure
  | fuel + 1 => do
    skipBlanks
    if (← peek) = some ']' then
      expect [']']
      pure []
    else
      let first ← element
      skipBlanks
      if (← peek) = some ',' then
        expect [',']
        let rest ← arrayItems element fuel
        pure (first :: rest)
      else
        expect [']']
        pure [first]

/-- The assignments of an inline table, read from behind the opening brace or a comma, in at most `fuel` rounds. -/
def inlineEntries (element : Parser Value) : Nat → Table → Parser Table
  | 0, _ => failure
  | fuel + 1, table => do
    let (path, key) ← dottedKey
    expect ['=']
    spaces
    let value ← element
    spaces
    match table.assign key value path with
    | none => failure
    | some table =>
      if (← peek) = some ',' then
        expect [',']
        inlineEntries element fuel table
      else
        expect ['\x7d']
        pure table

/-- An inline table, read from behind the opening brace. -/
def inlineTable (element : Parser Value) : Parser Value := do
  spaces
  if (← peek) = some '\x7d' then
    expect ['\x7d']
    pure (.table .inline [])
  else
    .table .inline <$> inlineEntries element (← get).length []

def string : Parser Value := fun input ↦
  (string? input).map fun found ↦ (.string (String.ofList found.1), found.2)

/-- A value whose elements, if it is an array or an inline table, are read by `inner`. Without `inner` it is neither. -/
def valueWith (inner : Option (Parser Value)) : Parser Value := do
  match ← peek with
  | some '\x22' => string
  | some '\x27' => string
  | some 't' =>
    expect ['t', 'r', 'u', 'e']
    pure (.boolean true)
  | some 'f' =>
    expect ['f', 'a', 'l', 's', 'e']
    pure (.boolean false)
  | some 'i' =>
    expect ['i', 'n', 'f']
    pure .float
  | some 'n' =>
    expect ['n', 'a', 'n']
    pure .float
  | some '[' =>
    match inner with
    | none => failure
    | some element =>
      expect ['[']
      .array <$> arrayItems element (← get).length
  | some '\x7b' =>
    match inner with
    | none => failure
    | some element =>
      expect ['\x7b']
      inlineTable element
  | _ => numeric

/-- A value in which arrays and inline tables nest at most `depth` deep. -/
def valueWithin : Nat → Parser Value
  | 0 => valueWith none
  | depth + 1 => valueWith (some (valueWithin depth))

def value : Parser Value :=
  valueWithin maxNesting

/-! ## Lines -/

/-- The end of a line, behind blank space and a comment. -/
def lineEnd : Parser Unit := do
  spaces
  if (← peek) = some '#' then modify dropComment
  match ← peek with
  | none => pure ()
  | some _ => expect ['\n']

def statement : Parser Statement := do
  match ← get with
  | '[' :: '[' :: _ =>
    expect ['[', '[']
    let (path, key) ← dottedKey
    expect [']', ']']
    lineEnd
    pure (.element path key)
  | '[' :: _ =>
    expect ['[']
    let (path, key) ← dottedKey
    expect [']']
    lineEnd
    pure (.header path key)
  | _ =>
    let (path, key) ← dottedKey
    expect ['=']
    spaces
    let assigned ← value
    lineEnd
    pure (.assign path key assigned)

/-- The statements of a text, in at most `fuel` rounds. -/
def statements : Nat → Parser (List Statement)
  | 0 => failure
  | fuel + 1 => do
    skipBlanks
    if (← peek).isNone then pure []
    else
      let first ← statement
      let rest ← statements fuel
      pure (first :: rest)

/-- The text with each line end written as a line feed alone. -/
def unifyLineEnds : List Char → List Char
  | '\r' :: '\n' :: rest => '\n' :: unifyLineEnds rest
  | c :: rest => c :: unifyLineEnds rest
  | [] => []

/-- The text without the mark that some editors put in front. -/
def dropByteOrderMark : List Char → List Char
  | '\ufeff' :: rest => rest
  | input => input

def parse? (document : String) : Option Table := do
  let input := unifyLineEnds (dropByteOrderMark document.toList)
  let (found, _) ← statements (input.length + 1) input
  Table.build [] [] found

end PubSub.Toml
