import PubSub.Proofs.Toml.Lines
/-!
# Writing documents

Texts are written as basic strings, in which quotes, backslashes and control characters are escaped, and integers in
decimal digits. What is written is read back, whatever the text or the number is, as long as an integer fits 64 bits;
a larger one makes its line unreadable.
-/

namespace PubSub.Toml

/-- A character as it is written within a basic string. -/
def escaped : Char → List Char
  | '\x08' => ['\\', 'b']
  | '\t' => ['\\', 't']
  | '\n' => ['\\', 'n']
  | '\x0c' => ['\\', 'f']
  | '\r' => ['\\', 'r']
  | '\x22' => ['\\', '\x22']
  | '\\' => ['\\', '\\']
  | c => if isPlain c then [c] else ['\\', 'u', '0', '0', (c.toNat / 16).digitChar, (c.toNat % 16).digitChar]

/-- A text written as a basic string. -/
def quoted (text : String) : String :=
  String.ofList ('\x22' :: text.toList.flatMap escaped ++ ['\x22'])

/-- The line that assigns a value, given by its text, to a key. -/
def assignment (key value : String) : String :=
  key ++ " = " ++ value

/-- The header of a table. -/
def heading (key : String) : String :=
  "[" ++ key ++ "]"

/-! ## Strings -/

theorem toNat_lt_of_control {c : Char} (control : ¬isPlain c = true) : c.toNat < 128 := by
  simp only [isPlain, Bool.or_eq_true, Bool.and_eq_true, decide_eq_true_eq, bne_iff_ne, ne_eq] at control
  omega

theorem scalar?_hex (code : Fin 128) :
    scalar? ['0', '0', (code.val / 16).digitChar, (code.val % 16).digitChar] = some (Char.ofNat code) := by
  revert code
  decide +kernel

theorem basicBody_escaped (c : Char) (rest : List Char) :
    basicBody (escaped c ++ rest) = Body.push c (basicBody rest) := by
  unfold escaped
  split
  iterate 7 rw [List.cons_append, basicBody_escape]; rfl
  rename_i quote backslash
  split
  · rename_i plain
    rw [List.singleton_append, basicBody_plain quote backslash, if_pos plain]
  · rename_i control
    have read := scalar?_hex ⟨c.toNat, toNat_lt_of_control control⟩
    rw [Char.ofNat_toNat] at read
    rw [List.cons_append, basicBody_escape]
    simp [escape?, read]

theorem basicBody_flatMap_escaped (text rest : List Char) :
    basicBody (text.flatMap escaped ++ '\x22' :: rest) = some (text, rest) := by
  induction text with
  | nil => simp [basicBody]
  | cons c text ih =>
    rw [List.flatMap_cons, List.append_assoc, basicBody_escaped, ih]
    rfl

theorem exists_escaped (c : Char) : ∃ first rest, escaped c = first :: rest ∧ first ≠ '\x22' := by
  unfold escaped
  split
  iterate 7 exact ⟨'\\', _, rfl, by decide⟩
  split
  · rename_i quote _ _
    exact ⟨c, [], rfl, quote⟩
  · exact ⟨'\\', _, rfl, by decide⟩

theorem not_mem_escaped (c : Char) : '\r' ∉ escaped c := by
  have digit (d : Fin 16) : d.val.digitChar ≠ '\r' := by
    revert d
    decide
  unfold escaped
  split
  iterate 7 decide
  split
  · rename_i plain
    rintro mem
    rw [← List.mem_singleton.1 mem] at plain
    cases plain
  · rename_i control
    have small := toNat_lt_of_control control
    have high := digit ⟨c.toNat / 16, by omega⟩
    have low := digit ⟨c.toNat % 16, by omega⟩
    simp [high.symm, low.symm]

theorem toList_quoted (text : String) : (quoted text).toList = '\x22' :: (text.toList.flatMap escaped ++ ['\x22']) := by
  simp [quoted]

/-- A basic string is read back as the text it was written for. -/
theorem value_quoted (text : String) (rest : List Char) :
    value ((quoted text).toList ++ '\n' :: rest) = some (.string text, '\n' :: rest) := by
  have body := basicBody_flatMap_escaped text.toList ('\n' :: rest)
  have single : ['\x22', '\x22'].isPrefixOf (text.toList.flatMap escaped ++ '\x22' :: '\n' :: rest) = false := by
    rcases text.toList with _ | ⟨c, left⟩
    · rfl
    · obtain ⟨first, others, same, other⟩ := exists_escaped c
      simp [same, List.isPrefixOf, Ne.symm other]
  have reads : value ((quoted text).toList ++ '\n' :: rest) =
      string ('\x22' :: (text.toList.flatMap escaped ++ '\x22' :: '\n' :: rest)) := by
    rw [toList_quoted, List.cons_append, List.append_assoc]
    rfl
  rw [reads, string, string?_basic single, body]
  simp

theorem not_mem_quoted (text : String) : '\r' ∉ (quoted text).toList := by
  simp [toList_quoted, not_mem_escaped]

/-! ## Numbers -/

theorem hexDigit?_of_isDigit {c : Char} (digit : c.isDigit = true) : hexDigit? c = some (c.toNat - 48) := by
  have between : '0' ≤ c ∧ c ≤ '9' := by
    simp only [Char.isDigit, Bool.and_eq_true, decide_eq_true_eq] at digit
    exact digit
  exact if_pos between

theorem isDigitOf_of_isDigit {c : Char} (digit : c.isDigit = true) : isDigitOf 10 c = true := by
  rw [isDigitOf, hexDigit?_of_isDigit digit, Option.any_some, decide_eq_true_eq]
  simp only [Char.isDigit, Bool.and_eq_true, decide_eq_true_eq] at digit
  have : c.toNat ≤ 57 := digit.2
  omega

theorem isDigit_of_mem {n : Nat} {c : Char} (mem : c ∈ Nat.toDigits 10 n) : c.isDigit = true :=
  Nat.isDigit_of_mem_toDigits (by decide) (by decide) mem

theorem digitsValue_toDigits (n : Nat) : digitsValue 10 (Nat.toDigits 10 n) = n := by
  have same (digits : List Char) (all : ∀ c ∈ digits, c.isDigit = true) (start : Nat) :
      digits.foldl (fun n c ↦ 10 * n + (hexDigit? c).getD 0) start = Nat.ofDigitChars 10 digits start := by
    induction digits generalizing start with
    | nil => rfl
    | cons c rest ih =>
      rw [List.foldl_cons, hexDigit?_of_isDigit (all c List.mem_cons_self),
        ih fun d mem ↦ all d (List.mem_cons_of_mem c mem)]
      rfl
  rw [digitsValue, same _ fun c ↦ isDigit_of_mem, Nat.ofDigitChars_toDigits (by decide) (by decide)]

theorem head?_toDigits {n : Nat} (positive : n ≠ 0) : (Nat.toDigits 10 n).head? ≠ some '0' := by
  rw [Nat.toDigits_eq_if (by decide)]
  split
  · rename_i small
    have digit (d : Fin 10) : d.val ≠ 0 → d.val.digitChar ≠ '0' := by
      revert d
      decide
    simpa using digit ⟨n, small⟩ positive
  · have ih : (Nat.toDigits 10 (n / 10)).head? ≠ some '0' := head?_toDigits (by omega)
    rcases h : Nat.toDigits 10 (n / 10) with _ | ⟨c, rest⟩
    · exact absurd h Nat.toDigits_ne_nil
    · rw [h] at ih
      exact ih

theorem moreDigits_append_line {digits : List Char} (all : ∀ c ∈ digits, c.isDigit = true) (rest : List Char) :
    moreDigits 10 (digits ++ '\n' :: rest) = some (digits, '\n' :: rest) := by
  induction digits with
  | nil => exact moreDigits_cons 10 (by decide) rest
  | cons c digits ih =>
    have digit := all c List.mem_cons_self
    have other : c ≠ '_' := by
      rintro rfl
      cases digit
    rw [List.cons_append, moreDigits_cons 10 other, if_pos (isDigitOf_of_isDigit digit),
      ih fun d mem ↦ all d (List.mem_cons_of_mem c mem)]
    rfl

theorem plainDigits_toDigits (n : Nat) (rest : List Char) :
    plainDigits (Nat.toDigits 10 n ++ '\n' :: rest) = some (Nat.toDigits 10 n, '\n' :: rest) := by
  by_cases zero : n = 0
  · subst zero
    rfl
  · have head := head?_toDigits zero
    have all (c : Char) (mem : c ∈ Nat.toDigits 10 n) := isDigit_of_mem mem
    rcases h : Nat.toDigits 10 n with _ | ⟨c, digits⟩
    · exact absurd h Nat.toDigits_ne_nil
    · rw [h] at head all
      have other : c ≠ '0' := fun same ↦ head (congrArg some same)
      have digit := isDigitOf_of_isDigit (all c List.mem_cons_self)
      have more := moreDigits_append_line (fun d mem ↦ all d (List.mem_cons_of_mem c mem)) rest
      simp [plainDigits, bind_apply, map_apply, satisfy, digit, other, more]

/-- Digits, a sign before them or not, that are followed by a line end are read as an integer. -/
theorem decimal_toDigits (negative : Bool) (n : Nat) (rest : List Char) :
    decimal ((if negative then ['-'] else []) ++ Nat.toDigits 10 n ++ '\n' :: rest) =
      integer (if negative then -(n : Int) else n) ('\n' :: rest) := by
  have signed : sign ((if negative then ['-'] else []) ++ Nat.toDigits 10 n ++ '\n' :: rest) =
      some (negative, Nat.toDigits 10 n ++ '\n' :: rest) := by
    cases negative with
    | true => rfl
    | false =>
      rcases h : Nat.toDigits 10 n with _ | ⟨c, digits⟩
      · exact absurd h Nat.toDigits_ne_nil
      · have digit : c.isDigit = true := isDigit_of_mem (h ▸ List.mem_cons_self)
        have plus : c ≠ '+' := by
          rintro rfl
          cases digit
        have minus : c ≠ '-' := by
          rintro rfl
          cases digit
        simp [sign, plus, minus]
  rw [decimal, bind_apply, signed, Option.bind_some, bind_apply, plainDigits_toDigits, Option.bind_some]
  simp only [digitsValue_toDigits]
  rfl

/-- An integer in decimal digits. -/
def decimalText (n : Int) : List Char :=
  (if n < 0 then ['-'] else []) ++ Nat.toDigits 10 n.natAbs

theorem toList_toString (n : Int) : (toString n).toList = decimalText n := by
  cases n with
  | ofNat n => exact Nat.toList_repr
  | negSucc n =>
    change ("-" ++ Nat.repr (n + 1)).toList = _
    rw [String.toList_append, Nat.toList_repr, decimalText, if_pos (Int.negSucc_lt_zero n)]
    simp

theorem exists_decimalText (n : Int) : ∃ first digits, decimalText n = first :: digits ∧
    (first = '-' ∨ first.isDigit = true) ∧ ∀ c ∈ digits, c.isDigit = true := by
  have all (c : Char) (mem : c ∈ Nat.toDigits 10 n.natAbs) := isDigit_of_mem mem
  by_cases negative : n < 0
  · exact ⟨'-', Nat.toDigits 10 n.natAbs, by rw [decimalText, if_pos negative]; rfl, .inl rfl, all⟩
  · rcases h : Nat.toDigits 10 n.natAbs with _ | ⟨c, digits⟩
    · exact absurd h Nat.toDigits_ne_nil
    · rw [h] at all
      exact ⟨c, digits, by rw [decimalText, if_neg negative, h]; rfl, .inr (all c List.mem_cons_self),
        fun d mem ↦ all d (List.mem_cons_of_mem c mem)⟩

theorem not_mem_toString (n : Int) : '\r' ∉ (toString n).toList := by
  obtain ⟨first, digits, text, start, all⟩ := exists_decimalText n
  rw [toList_toString, text, List.mem_cons]
  rintro (rfl | mem)
  · rcases start with same | digit
    · cases same
    · cases digit
  · cases all _ mem

theorem isSpace_of_decimalText {n : Int} {c : Char} (head : c ∈ (toString n).toList.head?) : isSpace c = false := by
  obtain ⟨first, digits, text, start, -⟩ := exists_decimalText n
  rw [toList_toString, text] at head
  obtain rfl : first = c := by simpa using head
  rcases start with rfl | digit
  · rfl
  · simp only [isSpace, Bool.or_eq_false_iff, beq_eq_false_iff_ne]
    constructor <;> rintro rfl <;> cases digit

theorem valueWith_eq_numeric {c : Char} (start : c = '-' ∨ c.isDigit = true) (inner : Option (Parser Value))
    (rest : List Char) : valueWith inner (c :: rest) = numeric (c :: rest) := by
  have other (d : Char) (h : d ≠ '-' ∧ d.isDigit = false) : c ≠ d := by
    rintro rfl
    rcases start with rfl | digit
    · exact h.1 rfl
    · exact Bool.false_ne_true (h.2.symm.trans digit)
  simp [valueWith, bind_apply, peek, other '\x22' (by decide), other '\x27' (by decide), other 't' (by decide),
    other 'f' (by decide), other 'i' (by decide), other 'n' (by decide), other '[' (by decide),
    other '\x7b' (by decide)]

/-- An integer that fits 64 bits is read back, and one that does not makes its line unreadable. -/
theorem value_toString (n : Int) (rest : List Char) :
    value ((toString n).toList ++ '\n' :: rest) = integer n ('\n' :: rest) := by
  obtain ⟨first, digits, text, start, all⟩ := exists_decimalText n
  have numbered : value ((toString n).toList ++ '\n' :: rest) = numeric ((toString n).toList ++ '\n' :: rest) := by
    rw [toList_toString, text, List.cons_append]
    exact valueWith_eq_numeric start (some (valueWithin 78)) _
  have undated : startsDate (decimalText n ++ '\n' :: rest) = false := by
    rw [startsDate_append_line, text, ← Bool.not_eq_true, startsDate_iff]
    rintro ⟨a, b, c, d, left, same, -⟩
    have dash := all '-' (by simp [(List.cons.inj same).2])
    cases dash
  have untimed : startsTime (decimalText n ++ '\n' :: rest) = false := by
    rw [startsTime_append_line, text, ← Bool.not_eq_true, startsTime_iff]
    rintro ⟨a, b, left, same, -⟩
    have colon := all ':' (by simp [(List.cons.inj same).2])
    cases colon
  have unmarked : ∀ mark ∈ marks, ∀ left, decimalText n ++ '\n' :: rest ≠ mark ++ left := by
    have whole : ∀ mark ∈ marks, '\n' ∉ mark ∧ mark.tail.all Char.isDigit = false := by decide
    intro mark mem left same
    obtain ⟨ends, lettered⟩ := whole mark mem
    obtain ⟨others, same⟩ := exists_append_of_append_line ends same
    cases mark with
    | nil => cases lettered
    | cons a mark =>
      obtain rfl : digits = mark ++ others := (List.cons.inj (text.symm.trans same)).2
      rw [List.tail_cons, List.all_eq_true.2 fun c mem ↦ all c (List.mem_append_left _ mem)] at lettered
      cases lettered
  have sum : (if decide (n < 0) then -(n.natAbs : Int) else n.natAbs) = n := by
    by_cases negative : n < 0
    · rw [if_pos (decide_eq_true negative)]
      omega
    · rw [if_neg (mt of_decide_eq_true negative)]
      omega
  rw [numbered, toList_toString, numeric_eq, undated, untimed, if_neg Bool.false_ne_true, if_neg Bool.false_ne_true,
    plainNumeric_of_unmarked unmarked, decimalText]
  have reads := decimal_toDigits (decide (n < 0)) n.natAbs rest
  rw [sum] at reads
  simpa using reads

/-! ## Lines -/

/-- Whether a word can be a key without quotes. -/
def IsBareWord (word : String) : Prop :=
  word.toList ≠ [] ∧ ∀ c ∈ word.toList, isBareKey c = true

theorem IsBareWord.of_all {word : String} (some : word.toList.isEmpty = false) (all : word.toList.all isBareKey = true) :
    IsBareWord word :=
  ⟨List.isEmpty_eq_false_iff.1 some, List.all_eq_true.1 all⟩

theorem IsBareWord.exists_cons {word : String} (bare : IsBareWord word) :
    ∃ first rest, word.toList = first :: rest ∧ isBareKey first = true := by
  obtain ⟨some, all⟩ := bare
  rcases h : word.toList with _ | ⟨first, rest⟩
  · exact absurd h some
  · exact ⟨first, rest, rfl, all first (h ▸ List.mem_cons_self)⟩

theorem ne_of_isBareKey {c d : Char} (bare : isBareKey c = true) (other : isBareKey d = false) : c ≠ d := by
  rintro rfl
  exact Bool.false_ne_true (other.symm.trans bare)

theorem isSpace_of_isBareKey {c : Char} (bare : isBareKey c = true) : isSpace c = false := by
  simp [isSpace, ne_of_isBareKey bare (show isBareKey ' ' = false by decide),
    ne_of_isBareKey bare (show isBareKey '\t' = false by decide)]

theorem keyPart_word {word : String} (bare : IsBareWord word) {c : Char} (stops : isBareKey c = false)
    (rest : List Char) : keyPart (word.toList ++ c :: rest) = some (word, c :: rest) := by
  obtain ⟨first, others, text, start⟩ := bare.exists_cons
  have front : (word.toList ++ c :: rest).takeWhile isBareKey = word.toList := by
    rw [List.takeWhile_append_of_pos bare.2, List.takeWhile_cons_of_neg (by simp [stops]), List.append_nil]
  rw [keyPart_bare, front]
  · simp [bare.1]
  · simpa [text] using ne_of_isBareKey start (show isBareKey '\x22' = false by decide)
  · simpa [text] using ne_of_isBareKey start (show isBareKey '\x27' = false by decide)

theorem spaces_apply (input : List Char) : spaces input = some ((), input.dropWhile isSpace) :=
  rfl

theorem keyOfParts_word {word : String} (bare : IsBareWord word) {c d : Char} {rest left : List Char}
    (stops : isBareKey c = false) (skips : (c :: rest).dropWhile isSpace = d :: left) (single : d ≠ '.') (limit : Nat) :
    keyOfParts (limit + 1) (word.toList ++ c :: rest) = some (([], word), d :: left) := by
  obtain ⟨first, others, text, start⟩ := bare.exists_cons
  have whole : (word.toList ++ c :: rest).dropWhile isSpace = word.toList ++ c :: rest := by
    rw [text, List.cons_append, List.dropWhile_cons_of_neg (by simp [isSpace_of_isBareKey start])]
  rw [keyOfParts, bind_apply, spaces_apply, Option.bind_some, whole, bind_apply, keyPart_word bare stops,
    Option.bind_some, bind_apply, spaces_apply, Option.bind_some, skips]
  simp [bind_apply, peek, single, pure_apply]

theorem lineEnd_newline (rest : List Char) : lineEnd ('\n' :: rest) = some ((), rest) :=
  rfl

/-- An assignment is read as one if its value can be read. -/
theorem statement_assignment {key text : String} (bare : IsBareWord key)
    (flush : ∀ c ∈ text.toList.head?, isSpace c = false) (rest : List Char) :
    statement ((assignment key text).toList ++ '\n' :: rest) =
      (value (text.toList ++ '\n' :: rest)).bind fun found ↦
        (lineEnd found.2).map fun left ↦ (.assign [] key found.1, left.2) := by
  obtain ⟨first, others, same, start⟩ := bare.exists_cons
  have line : (assignment key text).toList ++ '\n' :: rest =
      key.toList ++ ' ' :: '=' :: ' ' :: (text.toList ++ '\n' :: rest) := by
    simp [assignment]
  have dispatch : statement (key.toList ++ ' ' :: '=' :: ' ' :: (text.toList ++ '\n' :: rest)) =
      assignLine (key.toList ++ ' ' :: '=' :: ' ' :: (text.toList ++ '\n' :: rest)) := by
    rw [same]
    exact statement_assign (ne_of_isBareKey start (by decide)) _
  have aligned : (' ' :: (text.toList ++ '\n' :: rest)).dropWhile isSpace = text.toList ++ '\n' :: rest := by
    rw [List.dropWhile_cons_of_pos (by decide)]
    rcases h : text.toList with _ | ⟨c, letters⟩
    · rfl
    · exact List.dropWhile_cons_of_neg (by simp [flush c (by rw [h]; rfl)])
  have begins : dottedKey (key.toList ++ ' ' :: '=' :: ' ' :: (text.toList ++ '\n' :: rest)) =
      some (([], key), '=' :: ' ' :: (text.toList ++ '\n' :: rest)) :=
    keyOfParts_word bare (by decide) rfl (by decide) 78
  have equals (input : List Char) : expect ['='] ('=' :: input) = some ((), input) := rfl
  rw [line, dispatch, assignLine, bind_apply, begins, Option.bind_some]
  dsimp only
  rw [bind_apply, equals, Option.bind_some, bind_apply, spaces_apply, Option.bind_some, aligned]
  simp only [bind_apply, pure_apply, Option.map_eq_bind]
  rfl

theorem statement_heading {key : String} (bare : IsBareWord key) (rest : List Char) :
    statement ((heading key).toList ++ '\n' :: rest) = some (.header [] key, rest) := by
  obtain ⟨first, others, same, start⟩ := bare.exists_cons
  have line : (heading key).toList ++ '\n' :: rest = '[' :: (key.toList ++ ']' :: '\n' :: rest) := by
    simp [heading]
  have dispatch : statement ('[' :: (key.toList ++ ']' :: '\n' :: rest)) =
      headerLine ('[' :: (key.toList ++ ']' :: '\n' :: rest)) := by
    rw [same]
    exact statement_header (ne_of_isBareKey start (by decide)) _
  have begins : dottedKey (key.toList ++ ']' :: '\n' :: rest) = some (([], key), ']' :: '\n' :: rest) :=
    keyOfParts_word bare (by decide) rfl (by decide) 78
  have opens (input : List Char) : expect ['['] ('[' :: input) = some ((), input) := rfl
  rw [line, dispatch, headerLine, bind_apply, opens, Option.bind_some, bind_apply, begins]
  rfl

theorem unifyLineEnds_append {text : List Char} (plain : '\r' ∉ text) (more : List Char) :
    unifyLineEnds (text ++ more) = text ++ unifyLineEnds more := by
  induction text with
  | nil => rfl
  | cons c rest ih =>
    obtain ⟨other, others⟩ := not_or.1 (mt List.mem_cons.2 plain)
    rw [List.cons_append, unifyLineEnds, ih others]
    · rfl
    · exact fun _ carriage ↦ absurd carriage.symm other

theorem unifyLineEnds_of_not_mem {text : List Char} (plain : '\r' ∉ text) : unifyLineEnds text = text := by
  simpa [unifyLineEnds] using unifyLineEnds_append plain []

/-- What starts as headers and assignments do is no blank space. -/
theorem skipBlanks_start {c : Char} (start : isBareKey c = true ∨ c = '[') (rest : List Char) :
    skipBlanks (c :: rest) = some ((), c :: rest) := by
  have comment : c ≠ '#' := by
    rcases start with bare | rfl
    · exact ne_of_isBareKey bare (by decide)
    · decide
  have blank : (isSpace c || c == '\n') = false := by
    rcases start with bare | rfl
    · simp [isSpace_of_isBareKey bare, ne_of_isBareKey bare (show isBareKey '\n' = false by decide)]
    · rfl
  rw [skipBlanks_other comment, if_neg (by simp [blank])]

/-- What a line says that starts as headers and assignments do. -/
theorem read?_line {c : Char} {rest : List Char} {said : Statement} (start : isBareKey c = true ∨ c = '[')
    (plain : '\r' ∉ c :: rest) (reads : statement (c :: rest ++ ['\n']) = some (said, [])) :
    read? (c :: rest ++ ['\n']) = some [said] := by
  have unified : unifyLineEnds (c :: rest ++ ['\n']) = c :: rest ++ ['\n'] :=
    unifyLineEnds_of_not_mem (by simpa using plain)
  have begins : skipBlanks (c :: rest ++ ['\n']) = some ((), c :: rest ++ ['\n']) := skipBlanks_start start _
  have ends : statements (c :: rest ++ ['\n']).length [] = some ([], []) := rfl
  rw [read?, unified, statements_succ, begins, Option.bind_some]
  dsimp only
  rw [if_neg (by simp), reads, Option.bind_some, ends]
  rfl

theorem not_mem_of_isBareWord {word : String} (bare : IsBareWord word) : '\r' ∉ word.toList :=
  fun mem ↦ ne_of_isBareKey (bare.2 _ mem) (by decide) rfl

theorem not_mem_assignment {key text : String} (bare : IsBareWord key) (plain : '\r' ∉ text.toList) :
    '\r' ∉ (assignment key text).toList := by
  simpa [assignment, plain] using not_mem_of_isBareWord bare

theorem read?_heading {key : String} (bare : IsBareWord key) :
    read? ((heading key).toList ++ ['\n']) = some [.header [] key] := by
  have plain := not_mem_of_isBareWord bare
  have line : (heading key).toList = '[' :: (key.toList ++ [']']) := by simp [heading]
  have reads := statement_heading bare []
  rw [line] at reads ⊢
  exact read?_line (.inr rfl) (by simpa using plain) reads

theorem read?_assignment {key text : String} (bare : IsBareWord key) (plain : '\r' ∉ text.toList)
    (flush : ∀ c ∈ text.toList.head?, isSpace c = false) {assigned : Value}
    (reads : value (text.toList ++ ['\n']) = some (assigned, ['\n'])) :
    read? ((assignment key text).toList ++ ['\n']) = some [.assign [] key assigned] := by
  obtain ⟨first, others, same, start⟩ := bare.exists_cons
  have line : (assignment key text).toList = first :: (others ++ ' ' :: '=' :: ' ' :: text.toList) := by
    simp [assignment, same]
  have whole := statement_assignment bare flush []
  rw [reads, Option.bind_some, lineEnd_newline, Option.map_some] at whole
  have unmixed := not_mem_assignment bare plain
  rw [line] at whole unmixed ⊢
  exact read?_line (.inl start) unmixed whole

/-- What a text says that assigns an integer first, if it can be read. -/
theorem statements_integer {key : String} (bare : IsBareWord key) {n : Int} {fuel : Nat} {more : List Char}
    {found : List Statement × List Char}
    (reads : statements fuel ((assignment key (toString n)).toList ++ '\n' :: more) = some found) :
    ∃ rest, found.1 = .assign [] key (.integer n) :: rest := by
  obtain ⟨first, others, same, start⟩ := bare.exists_cons
  have begins : skipBlanks ((assignment key (toString n)).toList ++ '\n' :: more) =
      some ((), (assignment key (toString n)).toList ++ '\n' :: more) := by
    have line : (assignment key (toString n)).toList =
        first :: (others ++ ' ' :: '=' :: ' ' :: (toString n).toList) := by
      simp [assignment, same]
    rw [line]
    exact skipBlanks_start (.inl start) _
  cases fuel with
  | zero => cases reads
  | succ fuel =>
    rw [statements_succ, begins, Option.bind_some] at reads
    dsimp only at reads
    rw [if_neg (by simp), statement_assignment bare fun _ ↦ isSpace_of_decimalText, value_toString, integer] at reads
    split at reads
    · obtain ⟨rest, -, rfl⟩ := Option.map_eq_some_iff.1 reads
      exact ⟨rest.1, rfl⟩
    · cases reads

end PubSub.Toml
