import PubSub.Proofs.Toml.Locality
/-!
# Values end within their line

Numbers, times, keys, arrays and inline tables are read without a look at what follows the line end that closes them.
Only blank space, line ends and comments, which arrays allow between their elements, may run to the end of a text; but
an array does not end there.
-/

namespace PubSub.Toml

variable {α β : Type}

/-! ## Digits -/

theorem moreDigits_underscore (base : Nat) (c : Char) (rest : List Char) :
    moreDigits base ('_' :: c :: rest) = if isDigitOf base c then Body.push c (moreDigits base rest) else none := by
  rw [moreDigits]

theorem moreDigits_cons (base : Nat) {c : Char} (other : c ≠ '_') (rest : List Char) :
    moreDigits base (c :: rest) =
      if isDigitOf base c then Body.push c (moreDigits base rest) else some ([], c :: rest) := by
  rw [moreDigits] <;> simp [other]

theorem confined_moreDigits (base : Nat) (line : List Char) : ConfinedAt (moreDigits base) line := by
  cases line with
  | nil => exact .reads [] fun more ↦ moreDigits_cons base (by decide) more
  | cons c rest =>
    by_cases underscore : c = '_'
    · subst underscore
      cases rest with
      | nil => exact .fails fun more ↦ moreDigits_underscore base '\n' more
      | cons d rest =>
        have reads (more : List Char) := moreDigits_underscore base d (rest ++ '\n' :: more)
        cases digit : isDigitOf base d with
        | false => exact .fails fun more ↦ (reads more).trans (by simp [digit])
        | true => exact (confined_moreDigits base rest).push fun more ↦ (reads more).trans (if_pos digit)
    · have reads (more : List Char) := moreDigits_cons base underscore (rest ++ '\n' :: more)
      cases digit : isDigitOf base c with
      | false => exact .reads (c :: rest) fun more ↦ (reads more).trans (if_neg (by simp [digit]))
      | true => exact (confined_moreDigits base rest).push fun more ↦ (reads more).trans (if_pos digit)
termination_by line.length

theorem confined_digits (base : Nat) : Confined (digits base) :=
  (confined_satisfy rfl).bind fun _ ↦ Confined.bind (confined_moreDigits _) fun _ ↦ .pure _

theorem confined_plainDigits : Confined plainDigits :=
  (confined_satisfy rfl).bind fun _ ↦ .ite (.pure _) (Confined.bind (confined_moreDigits _) fun _ ↦ .pure _)

theorem confined_sign : Confined sign := by
  intro line
  cases line with
  | nil => exact .reads [] fun _ ↦ rfl
  | cons c rest =>
    by_cases plus : c = '+'
    · subst plus
      exact .reads rest fun _ ↦ rfl
    · by_cases minus : c = '-'
      · subst minus
        exact .reads rest fun _ ↦ rfl
      · have unsigned (more : List Char) : sign (c :: rest ++ '\n' :: more) = some (false, c :: rest ++ '\n' :: more) := by
          simp [sign, plus, minus]
        exact .reads _ unsigned

theorem confined_twoDigits (low high : Nat) : Confined (twoDigits low high) :=
  (confined_satisfy rfl).bind fun _ ↦ (confined_satisfy rfl).bind fun _ ↦ .ite (.pure _) .failure

theorem confined_expectChar {c : Char} (other : c ≠ '\n') : Confined (expect [c]) :=
  confined_expect (by simpa using other.symm)

/-! ## Dates and times -/

theorem confined_date : Confined date := by
  refine (confined_twoDigits 0 99).bind fun _ ↦ (confined_twoDigits 0 99).bind fun _ ↦ ?_
  refine (confined_expectChar (by decide)).bind fun _ ↦ (confined_twoDigits 1 12).bind fun _ ↦ ?_
  exact (confined_expectChar (by decide)).bind fun _ ↦ (confined_twoDigits 1 _).discard

theorem confined_time : Confined time := by
  refine (confined_twoDigits 0 23).discard.bind fun _ ↦ (confined_expectChar (by decide)).bind fun _ ↦ ?_
  refine (confined_twoDigits 0 59).discard.bind fun _ ↦ (confined_expectChar (by decide)).bind fun _ ↦ ?_
  refine (confined_twoDigits 0 60).discard.bind fun _ ↦ confined_peek.bind fun _ ↦ .ite ?_ (.pure _)
  refine (confined_expectChar (by decide)).bind fun _ ↦ (confined_satisfy rfl).discard.bind fun _ ↦ ?_
  exact confined_dropWhile rfl

theorem confined_offset : Confined offset := by
  refine confined_peek.bind fun next ↦ ?_
  split
  · exact confined_expectChar (by decide)
  · exact confined_expectChar (by decide)
  · split
    · rename_i c _ _ signed
      refine (confined_expectChar ?_).bind fun _ ↦ ?_
      · rcases signed with rfl | rfl <;> decide
      · exact (confined_twoDigits 0 23).discard.bind fun _ ↦ (confined_expectChar (by decide)).bind fun _ ↦
          (confined_twoDigits 0 59).discard
    · exact .pure _
  · exact .pure _

theorem startsTime_iff {input : List Char} : startsTime input = true ↔
    ∃ a b rest, input = a :: b :: ':' :: rest ∧ isDigitOf 10 a ∧ isDigitOf 10 b := by
  unfold startsTime
  split
  · rename_i a b rest
    simp only [Bool.and_eq_true]
    exact ⟨fun digits ↦ ⟨a, b, rest, rfl, digits⟩, fun ⟨_, _, _, same, digits⟩ ↦ by cases same; exact digits⟩
  · rename_i other
    exact ⟨nofun, fun ⟨a, b, rest, same, _⟩ ↦ (other a b rest same).elim⟩

theorem startsDate_iff {input : List Char} : startsDate input = true ↔
    ∃ a b c d rest, input = a :: b :: c :: d :: '-' :: rest ∧ [a, b, c, d].all (isDigitOf 10) := by
  unfold startsDate
  split
  · rename_i a b c d rest
    refine ⟨fun digits ↦ ⟨a, b, c, d, rest, rfl, digits⟩, ?_⟩
    rintro ⟨_, _, _, _, _, ⟨⟩, digits⟩
    exact digits
  · rename_i other
    exact ⟨nofun, fun ⟨a, b, c, d, rest, same, _⟩ ↦ (other a b c d rest same).elim⟩

theorem ne_of_isDigitOf {base : Nat} {c : Char} (digit : isDigitOf base c) : '\n' ≠ c := by
  rintro rfl
  cases digit

theorem startsTime_append_line (line more : List Char) : startsTime (line ++ '\n' :: more) = startsTime line := by
  rw [Bool.eq_iff_iff, startsTime_iff, startsTime_iff]
  constructor
  · rintro ⟨a, b, rest, same, ha, hb⟩
    have whole : '\n' ∉ [a, b, ':'] := by simp [ne_of_isDigitOf ha, ne_of_isDigitOf hb]
    obtain ⟨left, rfl⟩ := exists_append_of_append_line whole same
    exact ⟨a, b, left, rfl, ha, hb⟩
  · rintro ⟨a, b, rest, rfl, digits⟩
    exact ⟨a, b, rest ++ '\n' :: more, rfl, digits⟩

theorem startsDate_append_line (line more : List Char) : startsDate (line ++ '\n' :: more) = startsDate line := by
  rw [Bool.eq_iff_iff, startsDate_iff, startsDate_iff]
  constructor
  · rintro ⟨a, b, c, d, rest, same, digits⟩
    have whole : '\n' ∉ [a, b, c, d, '-'] := by
      intro mem
      have mem : '\n' ∈ [a, b, c, d] := by simpa using mem
      exact ne_of_isDigitOf (List.all_eq_true.1 digits _ mem) rfl
    obtain ⟨left, rfl⟩ := exists_append_of_append_line whole same
    exact ⟨a, b, c, d, left, rfl, digits⟩
  · rintro ⟨a, b, c, d, rest, rfl, digits⟩
    exact ⟨a, b, c, d, rest ++ '\n' :: more, rfl, digits⟩

theorem confined_timeOfDate : Confined timeOfDate := by
  intro line
  cases line with
  | nil => exact .reads [] fun _ ↦ rfl
  | cons delimiter rest =>
    by_cases starts : (delimiter = 'T' ∨ delimiter = 't' ∨ delimiter = ' ') ∧ startsTime rest
    · refine (confined_time.bind (fun _ ↦ confined_offset) rest).congr fun more ↦ ?_
      exact if_pos ((startsTime_append_line rest more).symm ▸ starts)
    · have none (more : List Char) :
          timeOfDate (delimiter :: rest ++ '\n' :: more) = some ((), delimiter :: rest ++ '\n' :: more) :=
        if_neg ((startsTime_append_line rest more).symm ▸ starts)
      exact .reads (delimiter :: rest) none

/-! ## Numbers -/

theorem confined_fraction : Confined fraction :=
  confined_peek.bind fun _ ↦ .ite ((confined_expectChar (by decide)).bind fun _ ↦ (confined_digits 10).map _) (.pure _)

theorem confined_power : Confined power := by
  refine confined_peek.bind fun next ↦ ?_
  split
  · split
    · rename_i c exponent
      refine (confined_expectChar ?_).bind fun _ ↦ confined_sign.bind fun _ ↦ (confined_digits 10).bind fun _ ↦ .pure _
      rcases exponent with rfl | rfl <;> decide
    · exact .pure _
  · exact .pure _

theorem confined_integer (n : Int) : Confined (integer n) :=
  .ite (.pure _) .failure

theorem confined_decimal : Confined decimal := by
  refine confined_sign.bind fun _ ↦ confined_plainDigits.bind fun _ ↦ confined_fraction.bind fun _ ↦ ?_
  refine confined_power.bind fun _ ↦ ?_
  split
  · exact confined_integer _
  · exact .ite .failure (.pure _)

theorem confined_based (base : Nat) : Confined (based base) :=
  (confined_digits base).bind fun _ ↦ confined_integer _

/-- A number that is no time. -/
def plainNumeric : Parser Value := fun input ↦
  match input with
  | '0' :: 'x' :: rest => based 16 rest
  | '0' :: 'o' :: rest => based 8 rest
  | '0' :: 'b' :: rest => based 2 rest
  | c :: 'i' :: 'n' :: 'f' :: rest => if c = '+' ∨ c = '-' then some (.float, rest) else decimal input
  | c :: 'n' :: 'a' :: 'n' :: rest => if c = '+' ∨ c = '-' then some (.float, rest) else decimal input
  | _ => decimal input

theorem numeric_eq (input : List Char) : numeric input =
    if startsDate input then (do date; timeOfDate; pure .dateTime : Parser Value) input
    else if startsTime input then (do time; pure .dateTime : Parser Value) input
    else plainNumeric input :=
  rfl

/-- What tells a number that is not read as a decimal one. -/
def marks : List (List Char) :=
  [['0', 'x'], ['0', 'o'], ['0', 'b'], ['+', 'i', 'n', 'f'], ['-', 'i', 'n', 'f'], ['+', 'n', 'a', 'n'],
    ['-', 'n', 'a', 'n']]

theorem plainNumeric_of_unmarked {input : List Char} (unmarked : ∀ mark ∈ marks, ∀ rest, input ≠ mark ++ rest) :
    plainNumeric input = decimal input := by
  unfold plainNumeric
  split
  · exact absurd rfl (unmarked ['0', 'x'] (by decide) _)
  · exact absurd rfl (unmarked ['0', 'o'] (by decide) _)
  · exact absurd rfl (unmarked ['0', 'b'] (by decide) _)
  · rw [if_neg]
    rintro (rfl | rfl)
    · exact unmarked ['+', 'i', 'n', 'f'] (by decide) _ rfl
    · exact unmarked ['-', 'i', 'n', 'f'] (by decide) _ rfl
  · rw [if_neg]
    rintro (rfl | rfl)
    · exact unmarked ['+', 'n', 'a', 'n'] (by decide) _ rfl
    · exact unmarked ['-', 'n', 'a', 'n'] (by decide) _ rfl
  · rfl

theorem confined_plainNumeric : Confined plainNumeric := by
  intro line
  by_cases marked : ∃ mark ∈ marks, ∃ rest, line = mark ++ rest
  · obtain ⟨mark, mem, rest, rfl⟩ := marked
    simp only [marks, List.mem_cons, List.not_mem_nil, or_false] at mem
    rcases mem with rfl | rfl | rfl | rfl | rfl | rfl | rfl
    · exact (confined_based 16 rest).congr fun _ ↦ rfl
    · exact (confined_based 8 rest).congr fun _ ↦ rfl
    · exact (confined_based 2 rest).congr fun _ ↦ rfl
    all_goals exact .reads rest fun _ ↦ rfl
  · refine (confined_decimal line).congr fun more ↦ plainNumeric_of_unmarked fun mark mem rest same ↦ ?_
    have whole : ∀ mark ∈ marks, '\n' ∉ mark := by decide
    exact marked ⟨mark, mem, exists_append_of_append_line (whole mark mem) same⟩

theorem confined_numeric : Confined numeric := by
  intro line
  have undated := startsDate_append_line line
  have untimed := startsTime_append_line line
  cases dated : startsDate line with
  | true =>
    refine (confined_date.bind (fun _ ↦ confined_timeOfDate.bind fun _ ↦ .pure .dateTime) line).congr fun more ↦ ?_
    simp [numeric_eq, undated, dated]
  | false =>
    cases timed : startsTime line with
    | true =>
      refine (confined_time.bind (fun _ ↦ .pure .dateTime) line).congr fun more ↦ ?_
      simp [numeric_eq, undated, dated, untimed, timed]
    | false =>
      refine (confined_plainNumeric line).congr fun more ↦ ?_
      simp [numeric_eq, undated, dated, untimed, timed]

/-! ## Keys -/

theorem confined_spaces : Confined spaces :=
  confined_dropWhile rfl

theorem keyPart_bare {input : List Char} (basic : input.head? ≠ some '\x22') (literal : input.head? ≠ some '\x27') :
    keyPart input =
      if (input.takeWhile isBareKey).isEmpty then none
      else some (String.ofList (input.takeWhile isBareKey), input.drop (input.takeWhile isBareKey).length) := by
  unfold keyPart
  split
  · exact absurd rfl basic
  · exact absurd rfl literal
  · rfl

theorem confined_keyPart : Confined keyPart := by
  intro line
  by_cases basic : line.head? = some '\x22'
  · obtain ⟨rest, rfl⟩ := List.head?_eq_some_iff.1 basic
    exact (Confined.map String.ofList confined_basicBody rest).congr fun more ↦ (map_apply _ _ _).symm
  · by_cases literal : line.head? = some '\x27'
    · obtain ⟨rest, rfl⟩ := List.head?_eq_some_iff.1 literal
      exact (Confined.map String.ofList confined_literalBody rest).congr fun more ↦ (map_apply _ _ _).symm
    · have reads (more : List Char) : keyPart (line ++ '\n' :: more) =
          if (line.takeWhile isBareKey).isEmpty then none
          else some (String.ofList (line.takeWhile isBareKey),
            line.drop (line.takeWhile isBareKey).length ++ '\n' :: more) := by
        have stops := takeWhile_append_line (show isBareKey '\n' = false by decide) line more
        rw [keyPart_bare, stops, List.drop_append_of_le_length (List.takeWhile_prefix _).length_le]
        · cases line <;> simp_all
        · cases line <;> simp_all
      cases bare : (line.takeWhile isBareKey).isEmpty with
      | true => exact .fails fun more ↦ (reads more).trans (if_pos bare)
      | false => exact .reads _ fun more ↦ (reads more).trans (if_neg (by simp [bare]))

theorem confined_keyOfParts (limit : Nat) : Confined (keyOfParts limit) := by
  induction limit with
  | zero => exact .failure
  | succ limit ih =>
    refine confined_spaces.bind fun _ ↦ confined_keyPart.bind fun _ ↦ confined_spaces.bind fun _ ↦ ?_
    refine confined_peek.bind fun _ ↦ .ite ((confined_expectChar (by decide)).bind fun _ ↦ ?_) (.pure _)
    exact ih.bind fun _ ↦ .pure _

theorem confined_dottedKey : Confined dottedKey :=
  confined_keyOfParts maxNesting

theorem confined_string : Confined string :=
  fun line ↦ (Confined.map (fun text ↦ Value.string (String.ofList text)) confined_string? line).congr
    fun _ ↦ by rw [map_apply]; rfl

/-! ## Blank space, line ends and comments -/

/-- What is left behind a comment, which ends before a line end or with the text. -/
def afterComment (next : List Char → Option (Unit × List Char)) : List Char → Option (Unit × List Char)
  | [] => some ((), [])
  | c :: rest => if c = '\n' then next rest else none

theorem blanks_nil (fuel : Nat) : blanks fuel [] = some ((), []) := by
  cases fuel <;> rfl

theorem blanks_comment (fuel : Nat) (rest : List Char) :
    blanks (fuel + 1) ('#' :: rest) = afterComment (blanks fuel) (rest.dropWhile isPlain) := by
  have left : dropComment ('#' :: rest) = rest.dropWhile isPlain := rfl
  have reads : blanks (fuel + 1) ('#' :: rest) = (do
      if (← peek).isSome then expect ['\n']
      blanks fuel : Parser Unit) (dropComment ('#' :: rest)) := rfl
  rw [reads, left]
  cases rest.dropWhile isPlain with
  | nil => exact blanks_nil fuel
  | cons c rest =>
    by_cases ends : c = '\n'
    · subst ends
      rfl
    · simp [bind_apply, peek, expect, afterComment, ends, Ne.symm ends]

theorem blanks_other {c : Char} (comment : c ≠ '#') (fuel : Nat) (rest : List Char) :
    blanks (fuel + 1) (c :: rest) =
      if isSpace c || c == '\n' then blanks fuel rest else some ((), c :: rest) := by
  simp only [blanks, bind_apply, peek, List.head?_cons, Option.bind_some]
  split <;> rfl

theorem length_lt_of_dropWhile {test : Char → Bool} {rest left : List Char} {c : Char}
    (h : rest.dropWhile test = c :: left) : left.length < rest.length := by
  have := (List.dropWhile_suffix test (l := rest)).length_le
  rw [h] at this
  exact this

theorem blanks_congr {few many : Nat} (input : List Char) (hfew : input.length ≤ few) (hmany : input.length ≤ many) :
    blanks few input = blanks many input := by
  cases input with
  | nil => rw [blanks_nil, blanks_nil]
  | cons c rest =>
    obtain ⟨few, rfl⟩ := Nat.exists_eq_add_of_le' (Nat.lt_of_lt_of_le (Nat.zero_lt_succ _) hfew)
    obtain ⟨many, rfl⟩ := Nat.exists_eq_add_of_le' (Nat.lt_of_lt_of_le (Nat.zero_lt_succ _) hmany)
    simp only [List.length_cons, Nat.add_le_add_iff_right] at hfew hmany
    by_cases comment : c = '#'
    · subst comment
      rw [blanks_comment, blanks_comment]
      rcases h : rest.dropWhile isPlain with _ | ⟨d, left⟩
      · rfl
      · have shorter : left.length < rest.length := by
          have := (List.dropWhile_suffix isPlain (l := rest)).length_le
          rw [h] at this
          exact this
        simp only [afterComment]
        have same : blanks few left = blanks many left := blanks_congr left (by omega) (by omega)
        simp only [same]
    · rw [blanks_other comment, blanks_other comment, blanks_congr rest hfew hmany]
termination_by input.length
decreasing_by all_goals simp_all <;> omega

theorem skipBlanks_eq (input : List Char) : skipBlanks input = blanks input.length input :=
  rfl

theorem skipBlanks_comment (rest : List Char) :
    skipBlanks ('#' :: rest) = afterComment skipBlanks (rest.dropWhile isPlain) := by
  rw [skipBlanks_eq, List.length_cons, blanks_comment]
  rcases h : rest.dropWhile isPlain with _ | ⟨c, left⟩
  · rfl
  · have shorter := length_lt_of_dropWhile h
    have same : blanks rest.length left = skipBlanks left := blanks_congr left (by omega) (by omega)
    simp only [afterComment, same]

theorem skipBlanks_other {c : Char} (comment : c ≠ '#') (rest : List Char) :
    skipBlanks (c :: rest) = if isSpace c || c == '\n' then skipBlanks rest else some ((), c :: rest) :=
  blanks_other comment rest.length rest

/-- Blank space ends within a line, or goes on behind it. -/
theorem skipBlanks_append_line (line : List Char) :
    skipBlanks (line ++ ['\n']) = none ∨
      (∃ c rest, ∀ more, skipBlanks (line ++ '\n' :: more) = some ((), c :: rest ++ '\n' :: more)) ∨
      ∀ more, skipBlanks (line ++ '\n' :: more) = skipBlanks more := by
  cases line with
  | nil => exact .inr (.inr fun more ↦ skipBlanks_other (by decide) more)
  | cons c rest =>
    by_cases comment : c = '#'
    · subst comment
      have skips (more : List Char) : skipBlanks ('#' :: rest ++ '\n' :: more) =
          afterComment skipBlanks (rest.dropWhile isPlain ++ '\n' :: more) := by
        rw [List.cons_append, skipBlanks_comment, dropWhile_append_line (by decide)]
      rcases h : rest.dropWhile isPlain with _ | ⟨d, left⟩
      · exact .inr (.inr fun more ↦ (skips more).trans (by rw [h]; rfl))
      · by_cases ends : d = '\n'
        · subst ends
          have shorter := length_lt_of_dropWhile h
          have goes (more : List Char) : skipBlanks ('#' :: rest ++ '\n' :: more) = skipBlanks (left ++ '\n' :: more) :=
            (skips more).trans (by rw [h]; rfl)
          simp only [goes]
          exact skipBlanks_append_line left
        · exact .inl ((skips []).trans (by rw [h]; exact if_neg ends))
    · cases blank : isSpace c || c == '\n' with
      | false =>
        exact .inr (.inl ⟨c, rest, fun more ↦ (skipBlanks_other comment _).trans (if_neg (by simp [blank]))⟩)
      | true =>
        have goes (more : List Char) : skipBlanks (c :: rest ++ '\n' :: more) = skipBlanks (rest ++ '\n' :: more) :=
          (skipBlanks_other comment _).trans (if_pos blank)
        simp only [goes]
        exact skipBlanks_append_line rest
termination_by line.length
decreasing_by all_goals simp_all <;> omega

/-- Behind blank space stands something, or reading fails. -/
theorem Confined.afterBlanks {parser : Parser α} (confined : Confined parser) (empty : parser [] = none) :
    Confined (skipBlanks >>= fun _ ↦ parser) := by
  intro line
  rcases skipBlanks_append_line line with failed | ⟨c, rest, skips⟩ | through
  · exact .inl (by rw [bind_apply, failed]; rfl)
  · exact (confined (c :: rest)).congr fun more ↦ by rw [bind_apply, skips]; rfl
  · exact .inl (by rw [bind_apply, through]; exact empty)

/-! ## Arrays and inline tables -/

/-- Whether one parser reads whatever another one reads. -/
def Covers (parser other : Parser α) : Prop :=
  ∀ input found, other input = some found → parser input = some found

namespace Covers

variable {parser other : Parser α} {next further : α → Parser β}

theorem refl (parser : Parser α) : Covers parser parser :=
  fun _ _ h ↦ h

theorem failure (parser : Parser α) : Covers parser Alternative.failure :=
  fun _ _ h ↦ nomatch h

theorem bind (first : Covers parser other) (second : ∀ value, Covers (next value) (further value)) :
    Covers (parser >>= next) (other >>= further) := by
  intro input found h
  rw [bind_apply] at h ⊢
  obtain ⟨read, hread, h⟩ := Option.bind_eq_some_iff.1 h
  exact Option.bind_eq_some_iff.2 ⟨read, first input read hread, second read.1 read.2 found h⟩

theorem after (parser : Parser α) (second : ∀ value, Covers (next value) (further value)) :
    Covers (parser >>= next) (parser >>= further) :=
  (refl parser).bind second

theorem ite {condition : Prop} [Decidable condition] {yes no more less : Parser α} (hyes : Covers yes more)
    (hno : Covers no less) : Covers (if condition then yes else no) (if condition then more else less) := by
  split
  · exact hyes
  · exact hno

end Covers

variable {element : Parser Value}

theorem confined_arrayItems (confined : Confined element) (empty : element [] = none) (fuel : Nat) :
    Confined (arrayItems element fuel) := by
  induction fuel with
  | zero => exact .failure
  | succ fuel ih =>
    refine .afterBlanks (confined_peek.bind fun _ ↦ .ite ((confined_expectChar (by decide)).bind fun _ ↦ .pure _)
      (confined.bind fun first ↦ .afterBlanks (confined_peek.bind fun _ ↦ .ite ?_ ?_) rfl)) ?_
    · exact (confined_expectChar (by decide)).bind fun _ ↦ ih.bind fun _ ↦ .pure _
    · exact (confined_expectChar (by decide)).bind fun _ ↦ .pure _
    · simp [bind_apply, peek, empty]

theorem steady_arrayItems (element : Parser Value) : Steady (arrayItems element) := by
  intro fuel
  change Covers _ _
  induction fuel with
  | zero => exact .failure _
  | succ fuel ih =>
    refine .after _ fun _ ↦ .after _ fun _ ↦ .ite (.refl _) (.after _ fun _ ↦ .after _ fun _ ↦ .after _ fun _ ↦ ?_)
    exact .ite (.after _ fun _ ↦ ih.bind fun _ ↦ .refl _) (.refl _)

theorem confined_inlineEntries (confined : Confined element) (fuel : Nat) (table : Table) :
    Confined (inlineEntries element fuel table) := by
  induction fuel generalizing table with
  | zero => exact .failure
  | succ fuel ih =>
    refine confined_dottedKey.bind fun _ ↦ (confined_expectChar (by decide)).bind fun _ ↦ ?_
    refine confined_spaces.bind fun _ ↦ confined.bind fun _ ↦ confined_spaces.bind fun _ ↦ ?_
    split
    · exact .failure
    · refine confined_peek.bind fun _ ↦ .ite ((confined_expectChar (by decide)).bind fun _ ↦ ih _) ?_
      exact (confined_expectChar (by decide)).bind fun _ ↦ .pure _

theorem steady_inlineEntries (element : Parser Value) (table : Table) :
    Steady fun fuel ↦ inlineEntries element fuel table := by
  intro fuel
  change Covers _ _
  induction fuel generalizing table with
  | zero => exact .failure _
  | succ fuel ih =>
    refine .after _ fun _ ↦ .after _ fun _ ↦ .after _ fun _ ↦ .after _ fun _ ↦ .after _ fun _ ↦ ?_
    split
    · exact .refl _
    · exact .after _ fun _ ↦ .ite (.after _ fun _ ↦ ih _) (.refl _)

theorem confined_inlineTable (confined : Confined element) : Confined (inlineTable element) := by
  refine confined_spaces.bind fun _ ↦ confined_peek.bind fun _ ↦ .ite ?_ ?_
  · exact (confined_expectChar (by decide)).bind fun _ ↦ .pure _
  · have entries := (Confined.of_length (steady_inlineEntries element []) (confined_inlineEntries confined · []) 0).map
      (Value.table .inline)
    exact fun line ↦ (entries line).congr fun _ ↦ rfl

/-! ## Values -/

theorem confined_valueWith {inner : Option (Parser Value)}
    (confined : ∀ element ∈ inner, Confined element ∧ element [] = none) : Confined (valueWith inner) := by
  have word {word : List Char} (whole : '\n' ∉ word) (value : Value) :
      Confined (do expect word; pure value : Parser Value) := (confined_expect whole).bind fun _ ↦ .pure value
  refine confined_peek.bind fun next ↦ ?_
  split
  · exact confined_string
  · exact confined_string
  · exact word (by decide) _
  · exact word (by decide) _
  · exact word (by decide) _
  · exact word (by decide) _
  · split
    · exact .failure
    · rename_i element
      obtain ⟨confined, empty⟩ := confined element rfl
      refine (confined_expectChar (by decide)).bind fun _ ↦ fun line ↦ ?_
      have items :=
        (Confined.of_length (steady_arrayItems element) (confined_arrayItems confined empty) 0).map Value.array
      exact (items line).congr fun _ ↦ rfl
  · split
    · exact .failure
    · rename_i element
      exact (confined_expectChar (by decide)).bind fun _ ↦ confined_inlineTable (confined element rfl).1
  · exact confined_numeric

theorem valueWith_nil (inner : Option (Parser Value)) : valueWith inner [] = none :=
  rfl

theorem confined_valueWithin (depth : Nat) : Confined (valueWithin depth) := by
  induction depth with
  | zero => exact confined_valueWith nofun
  | succ depth ih =>
    refine confined_valueWith fun element same ↦ ?_
    cases same
    refine ⟨ih, ?_⟩
    cases depth <;> exact valueWith_nil _

theorem confined_value : Confined value :=
  confined_valueWithin maxNesting

end PubSub.Toml
