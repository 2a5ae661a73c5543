import PubSub.Toml.Document
/-!
# What comes after a line end does not matter

A value of a document ends before the end of its line at the latest. So whatever a reading function takes from a text
that a line end closes, it takes from every longer text too, and it leaves the line end. The functions that are built of
smaller ones inherit this from them.
-/

namespace PubSub.Toml

variable {α β : Type}

theorem pure_apply (value : α) (input : List Char) : (pure value : Parser α) input = some (value, input) :=
  rfl

theorem failure_apply (input : List Char) : (failure : Parser α) input = none :=
  rfl

theorem bind_apply (parser : Parser α) (next : α → Parser β) (input : List Char) :
    (parser >>= next) input = (parser input).bind fun found ↦ next found.1 found.2 :=
  rfl

theorem map_apply (change : α → β) (parser : Parser α) (input : List Char) :
    (change <$> parser) input = (parser input).map fun found ↦ (change found.1, found.2) := by
  cases h : parser input <;> simp [Functor.map, StateT.map, h]

theorem ite_apply (condition : Prop) [Decidable condition] (yes no : Parser α) (input : List Char) :
    (if condition then yes else no) input = if condition then yes input else no input := by
  split <;> rfl

/-- Whether a parser fails on a line, or reads from it and leaves the line end and whatever follows. -/
def ConfinedAt (parser : Parser α) (line : List Char) : Prop :=
  parser (line ++ ['\n']) = none ∨
    ∃ value left, ∀ more, parser (line ++ '\n' :: more) = some (value, left ++ '\n' :: more)

/-- Whether a parser leaves the line end of every text that a line end closes. -/
def Confined (parser : Parser α) : Prop :=
  ∀ line, ConfinedAt parser line

namespace ConfinedAt

variable {parser other : Parser α} {next : α → Parser β} {line rest : List Char}

theorem fails (h : ∀ more, parser (line ++ '\n' :: more) = none) : ConfinedAt parser line :=
  .inl (h [])

theorem reads {value : α} (left : List Char)
    (h : ∀ more, parser (line ++ '\n' :: more) = some (value, left ++ '\n' :: more)) : ConfinedAt parser line :=
  .inr ⟨value, left, h⟩

theorem congr (confined : ConfinedAt other rest)
    (same : ∀ more, parser (line ++ '\n' :: more) = other (rest ++ '\n' :: more)) : ConfinedAt parser line := by
  rcases confined with failed | ⟨value, left, reads⟩
  · exact .inl ((same []).trans failed)
  · exact .inr ⟨value, left, fun more ↦ (same more).trans (reads more)⟩

theorem bind (first : ConfinedAt parser line) (second : ∀ value, Confined (next value)) :
    ConfinedAt (parser >>= next) line := by
  rcases first with failed | ⟨value, left, reads⟩
  · refine .inl ?_
    change (parser (line ++ ['\n'])).bind _ = none
    rw [failed]
    rfl
  · refine (second value left).congr fun more ↦ ?_
    change (parser (line ++ '\n' :: more)).bind _ = _
    rw [reads]
    rfl

/-- One more character in front of what is read. -/
theorem push {body after : Parser (List Char)} {c : Char} (confined : ConfinedAt after rest)
    (same : ∀ more, body (line ++ '\n' :: more) = Body.push c (after (rest ++ '\n' :: more))) :
    ConfinedAt body line := by
  rcases confined with failed | ⟨value, left, reads⟩
  · exact .inl ((same []).trans (by rw [failed]; rfl))
  · exact .inr ⟨c :: value, left, fun more ↦ (same more).trans (by rw [reads]; rfl)⟩

end ConfinedAt

namespace Confined

variable {parser other : Parser α} {next : α → Parser β}

theorem pure (value : α) : Confined (Pure.pure value) :=
  fun line ↦ .reads line fun _ ↦ rfl

theorem failure : Confined (Alternative.failure : Parser α) :=
  fun _ ↦ .fails fun _ ↦ rfl

theorem bind (first : Confined parser) (second : ∀ value, Confined (next value)) : Confined (parser >>= next) :=
  fun line ↦ (first line).bind second

theorem map (change : α → β) (confined : Confined parser) : Confined (change <$> parser) :=
  confined.bind fun value ↦ .pure (change value)

theorem discard (confined : Confined parser) : Confined (Functor.discard parser) :=
  confined.map fun _ ↦ ()

theorem ite {condition : Prop} [Decidable condition] (yes : Confined parser) (no : Confined other) :
    Confined (if condition then parser else other) := by
  split
  · exact yes
  · exact no

end Confined

/-! ## Small parts -/

theorem dropWhile_append_line {test : Char → Bool} (stops : test '\n' = false) (line more : List Char) :
    (line ++ '\n' :: more).dropWhile test = line.dropWhile test ++ '\n' :: more := by
  rw [List.dropWhile_append]
  split
  · rename_i all
    rw [List.isEmpty_iff.1 all, List.dropWhile_cons_of_neg (by simp [stops])]
    rfl
  · rfl

theorem takeWhile_append_line {test : Char → Bool} (stops : test '\n' = false) (line more : List Char) :
    (line ++ '\n' :: more).takeWhile test = line.takeWhile test := by
  rw [List.takeWhile_append]
  split
  · rename_i all
    rw [List.takeWhile_cons_of_neg (by simp [stops]), List.append_nil]
    exact ((List.takeWhile_prefix test).eq_of_length all).symm
  · rfl

theorem confined_dropWhile {test : Char → Bool} (stops : test '\n' = false) :
    Confined (modify fun rest ↦ rest.dropWhile test) :=
  fun line ↦ .reads (line.dropWhile test) fun more ↦ congrArg (fun rest ↦ some ((), rest))
    (dropWhile_append_line stops line more)

theorem head?_append_line (line more : List Char) : (line ++ '\n' :: more).head? = (line ++ ['\n']).head? := by
  cases line <;> rfl

theorem confined_peek : Confined peek :=
  fun line ↦ .reads line fun more ↦
    congrArg (fun next ↦ some (next, line ++ '\n' :: more)) (head?_append_line line more)

theorem confined_satisfy {test : Char → Bool} (stops : test '\n' = false) : Confined (satisfy test) := by
  intro line
  cases line with
  | nil => exact .fails fun more ↦ by simp [satisfy, stops]
  | cons c rest =>
    cases passed : test c with
    | true =>
      have reads (more : List Char) : satisfy test (c :: rest ++ '\n' :: more) = some (c, rest ++ '\n' :: more) := by
        simp [satisfy, passed]
      exact .reads rest reads
    | false => exact .fails fun more ↦ by simp [satisfy, passed]

theorem isPrefixOf_append_line {beginning : List Char} (whole : '\n' ∉ beginning) (line more : List Char) :
    beginning.isPrefixOf (line ++ '\n' :: more) = beginning.isPrefixOf line := by
  induction beginning generalizing line with
  | nil => simp [List.isPrefixOf]
  | cons c rest ih =>
    obtain ⟨other, others⟩ := not_or.1 (mt List.mem_cons.2 whole)
    cases line with
    | nil => simp [List.isPrefixOf, Ne.symm other]
    | cons d line => simp [List.isPrefixOf, ih others]

theorem exists_append_of_append_line {beginning rest line more : List Char} (whole : '\n' ∉ beginning)
    (h : line ++ '\n' :: more = beginning ++ rest) : ∃ left, line = beginning ++ left := by
  have starts : beginning.isPrefixOf (line ++ '\n' :: more) = true := List.isPrefixOf_iff_prefix.2 ⟨rest, h.symm⟩
  rw [isPrefixOf_append_line whole] at starts
  obtain ⟨left, same⟩ := List.isPrefixOf_iff_prefix.1 starts
  exact ⟨left, same.symm⟩

theorem confined_expect {beginning : List Char} (whole : '\n' ∉ beginning) : Confined (expect beginning) := by
  intro line
  have begins := isPrefixOf_append_line whole line
  cases starts : beginning.isPrefixOf line with
  | false => exact .fails fun more ↦ by simp [expect, begins, starts]
  | true =>
    have le := (List.isPrefixOf_iff_prefix.1 starts).length_le
    have reads (more : List Char) :
        expect beginning (line ++ '\n' :: more) = some ((), line.drop beginning.length ++ '\n' :: more) := by
      simp [expect, begins, starts, List.drop_append_of_le_length le]
    exact .reads _ reads

/-! ## Strings -/

theorem confined_literalBody : Confined literalBody := by
  intro line
  induction line with
  | nil => exact .fails fun _ ↦ rfl
  | cons c rest ih =>
    by_cases closes : c = '\x27'
    · subst closes
      exact .reads rest fun _ ↦ rfl
    · cases plain : isPlain c with
      | false => exact .fails fun more ↦ by simp [literalBody, plain]
      | true => exact ih.push (c := c) fun more ↦ by simp [literalBody, plain]

theorem scalar?_of_mem {digits : List Char} (h : '\n' ∈ digits) : scalar? digits = none := by
  have stuck (n : Nat) :
      digits.foldlM (fun n c ↦ (hexDigit? c).map fun digit ↦ 16 * n + digit) n = (none : Option Nat) := by
    induction digits generalizing n with
    | nil => cases h
    | cons c rest ih =>
      rw [List.foldlM_cons]
      rcases List.mem_cons.1 h with rfl | h
      · rfl
      · cases hexDigit? c with
        | none => rfl
        | some digit => exact ih h _
  rw [scalar?, stuck]
  rfl

/-- The character that the next digits stand for, so many of them. -/
def codePoint (count : Nat) : Parser Char := fun input ↦
  if count ≤ input.length then (scalar? (input.take count)).map (·, input.drop count) else none

theorem escape?_four (input : List Char) : escape? ('u' :: input) = codePoint 4 input := by
  rcases input with _ | ⟨a, _ | ⟨b, _ | ⟨c, _ | ⟨d, rest⟩⟩⟩⟩ <;> simp [escape?, escaped?, codePoint]

theorem escape?_eight (input : List Char) : escape? ('U' :: input) = codePoint 8 input := by
  rcases input with _ | ⟨a, _ | ⟨b, _ | ⟨c, _ | ⟨d, _ | ⟨e, _ | ⟨f, _ | ⟨g, _ | ⟨h, rest⟩⟩⟩⟩⟩⟩⟩⟩ <;>
    simp [escape?, escaped?, codePoint]

theorem escape?_letter {c : Char} (four : c ≠ 'u') (eight : c ≠ 'U') (rest : List Char) :
    escape? (c :: rest) = (escaped? c).map (·, rest) := by
  simp [escape?, four, eight]

theorem confined_codePoint (count : Nat) : Confined (codePoint count) := by
  intro line
  by_cases enough : count ≤ line.length
  · have same (more : List Char) : codePoint count (line ++ '\n' :: more) =
        (scalar? (line.take count)).map (·, line.drop count ++ '\n' :: more) := by
      rw [codePoint, if_pos (by rw [List.length_append]; omega), List.take_append_of_le_length enough,
        List.drop_append_of_le_length enough]
    cases read : scalar? (line.take count) with
    | none => exact .fails fun more ↦ by rw [same, read]; rfl
    | some c => exact .reads (line.drop count) fun more ↦ by rw [same, read]; rfl
  · refine .fails fun more ↦ ?_
    have ends : '\n' ∈ (line ++ '\n' :: more).take count := by
      rw [List.take_append, List.take_cons (by omega)]
      simp
    simp [codePoint, scalar?_of_mem ends]

theorem confined_escape? : Confined escape? := by
  intro line
  cases line with
  | nil => exact .fails fun _ ↦ rfl
  | cons c rest =>
    by_cases four : c = 'u'
    · subst four
      exact (confined_codePoint 4 rest).congr fun more ↦ escape?_four _
    · by_cases eight : c = 'U'
      · subst eight
        exact (confined_codePoint 8 rest).congr fun more ↦ escape?_eight _
      · cases read : escaped? c with
        | none => exact .fails fun more ↦ by simp [escape?_letter four eight, read]
        | some d => exact .reads rest fun more ↦ by simp [escape?_letter four eight, read]; rfl

theorem basicBody_escape (rest : List Char) :
    basicBody ('\\' :: rest) = (escape? rest).bind fun found ↦ Body.push found.1 (basicBody found.2) := by
  rw [basicBody]
  split <;> simp_all

theorem basicBody_plain {c : Char} (closes : c ≠ '\x22') (escapes : c ≠ '\\') (rest : List Char) :
    basicBody (c :: rest) = if isPlain c then Body.push c (basicBody rest) else none := by
  rw [basicBody]
  · exact closes
  · exact escapes

theorem confined_basicBody (line : List Char) : ConfinedAt basicBody line := by
  cases line with
  | nil => exact .fails fun more ↦ by rw [List.nil_append, basicBody_plain (by decide) (by decide)]; rfl
  | cons c rest =>
    by_cases closes : c = '\x22'
    · subst closes
      have ends (more : List Char) :
          basicBody ('\x22' :: rest ++ '\n' :: more) = some ([], rest ++ '\n' :: more) := by simp [basicBody]
      exact .reads rest ends
    · by_cases escapes : c = '\\'
      · subst escapes
        rcases confined_escape? rest with failed | ⟨d, left, reads⟩
        · exact .inl (by rw [List.cons_append, basicBody_escape, failed]; rfl)
        · have : left.length < rest.length := by simpa using length_lt_of_escape? (reads [])
          refine (confined_basicBody left).push (c := d) fun more ↦ ?_
          rw [List.cons_append, basicBody_escape, reads]
          rfl
      · cases plain : isPlain c with
        | false => exact .fails fun more ↦ by simp [basicBody_plain closes escapes, plain]
        | true =>
          refine (confined_basicBody rest).push (c := c) fun more ↦ ?_
          rw [List.cons_append, basicBody_plain closes escapes, if_pos plain]
termination_by line.length
decreasing_by all_goals simp_all <;> omega

/-- The quotes that belong to the text of a string in triple quotes, read from behind the first three that end it. -/
def surplus (quote : Char) : Parser (List Char) := do
  if (← peek) = some quote then
    expect [quote]
    if (← peek) = some quote then
      expect [quote]
      if (← peek) = some quote then failure else pure [quote, quote]
    else pure [quote]
  else pure []

theorem confined_surplus {quote : Char} (other : quote ≠ '\n') : Confined (surplus quote) := by
  have whole : '\n' ∉ [quote] := by simpa using other.symm
  refine confined_peek.bind fun _ ↦ .ite ((confined_expect whole).bind fun _ ↦ ?_) (.pure _)
  refine confined_peek.bind fun _ ↦ .ite ((confined_expect whole).bind fun _ ↦ ?_) (.pure _)
  exact confined_peek.bind fun _ ↦ .ite .failure (.pure _)

theorem closing?_quotes (quote : Char) (input : List Char) :
    closing? quote (quote :: quote :: quote :: input) = some (surplus quote input) := by
  rcases input with _ | ⟨d, _ | ⟨e, _ | ⟨f, rest⟩⟩⟩
  · simp [closing?, surplus, bind_apply, ite_apply, pure_apply, peek]
  · by_cases hd : d = quote <;> simp [closing?, surplus, bind_apply, ite_apply, pure_apply, peek, expect, hd]
  · by_cases hd : d = quote <;> by_cases he : e = quote <;>
      simp [closing?, surplus, bind_apply, ite_apply, pure_apply, failure_apply, peek, expect, hd, he]
  · by_cases hd : d = quote <;> by_cases he : e = quote <;> by_cases hf : f = quote <;>
      simp [closing?, surplus, bind_apply, ite_apply, pure_apply, failure_apply, peek, expect, hd, he, hf]

theorem closing?_eq_none {quote : Char} {input : List Char} (h : [quote, quote, quote].isPrefixOf input = false) :
    closing? quote input = none := by
  unfold closing?
  split
  · rw [if_neg]
    rintro ⟨rfl, rfl, rfl⟩
    simp at h
  · rfl

/-- A line that is continued is continued within the line, or by whatever comes next. -/
theorem continuation?_append_line (line : List Char) :
    (∀ more, continuation? (line ++ '\n' :: more) = none) ∨
      (∃ left, ∀ more, continuation? (line ++ '\n' :: more) = some (left ++ '\n' :: more)) ∨
      continuation? (line ++ ['\n']) = some [] := by
  have skips (more : List Char) : (line ++ '\n' :: more).dropWhile isSpace = line.dropWhile isSpace ++ '\n' :: more :=
    dropWhile_append_line rfl line more
  rcases left : line.dropWhile isSpace with _ | ⟨c, rest⟩
  · exact .inr (.inr (by rw [continuation?, skips, left]; rfl))
  · by_cases ends : c = '\n'
    · subst ends
      rcases blank : rest.dropWhile (fun c ↦ isSpace c || c == '\n') with _ | ⟨d, text⟩
      · refine .inr (.inr ?_)
        simp [continuation?, skips, left, List.dropWhile_append, blank]
      · refine .inr (.inl ⟨d :: text, fun more ↦ ?_⟩)
        simp [continuation?, skips, left, List.dropWhile_append, blank]
    · refine .inl fun more ↦ ?_
      rw [continuation?, skips, left]
      split
      · rename_i same
        exact absurd (List.cons.inj same).1 ends
      · rfl

theorem multiBasicBody_nil (fuel : Nat) : multiBasicBody fuel [] = none := by
  cases fuel <;> rfl

theorem multiBasicBody_quotes (fuel : Nat) (input : List Char) :
    multiBasicBody (fuel + 1) ('\x22' :: '\x22' :: '\x22' :: input) = surplus '\x22' input := by
  simp only [multiBasicBody, closing?_quotes]

theorem multiBasicBody_escape {input : List Char} (more : closing? '\x22' ('\\' :: input) = none) (fuel : Nat) :
    multiBasicBody (fuel + 1) ('\\' :: input) = match continuation? input with
      | some after => multiBasicBody fuel after
      | none => (escape? input).bind fun found ↦ Body.push found.1 (multiBasicBody fuel found.2) := by
  simp only [multiBasicBody, more]
  cases continuation? input <;> cases escape? input <;> rfl

theorem multiBasicBody_cons {c : Char} {input : List Char} (more : closing? '\x22' (c :: input) = none)
    (escapes : c ≠ '\\') (fuel : Nat) :
    multiBasicBody (fuel + 1) (c :: input) =
      if isPlain c || c == '\n' then Body.push c (multiBasicBody fuel input) else none := by
  rw [multiBasicBody, more]
  simp [escapes]

theorem confined_multiBasicBody (fuel : Nat) : Confined (multiBasicBody fuel) := by
  induction fuel with
  | zero => exact fun _ ↦ .fails fun _ ↦ rfl
  | succ fuel ih =>
    intro line
    cases closes : ['\x22', '\x22', '\x22'].isPrefixOf line with
    | true =>
      obtain ⟨rest, rfl⟩ := List.isPrefixOf_iff_prefix.1 closes
      exact (confined_surplus (by decide) rest).congr fun more ↦ multiBasicBody_quotes fuel _
    | false =>
      have goes (more : List Char) : closing? '\x22' (line ++ '\n' :: more) = none :=
        closing?_eq_none ((isPrefixOf_append_line (by decide) line more).trans closes)
      cases line with
      | nil =>
        refine .inl ?_
        rw [List.nil_append, multiBasicBody_cons (goes []) (by decide), multiBasicBody_nil]
        rfl
      | cons c rest =>
        simp only [List.cons_append] at goes
        by_cases escapes : c = '\\'
        · subst escapes
          have reads (more : List Char) := multiBasicBody_escape (goes more) fuel
          rcases continuation?_append_line rest with whole | ⟨left, continued⟩ | continued
          · rcases confined_escape? rest with failed | ⟨d, left, escape⟩
            · exact .inl ((reads []).trans (by rw [whole, failed]; rfl))
            · exact (ih left).push (c := d) fun more ↦ (reads more).trans (by rw [whole, escape]; rfl)
          · exact (ih left).congr fun more ↦ (reads more).trans (by rw [continued])
          · exact .inl ((reads []).trans (by rw [continued]; exact multiBasicBody_nil fuel))
        · have reads (more : List Char) := multiBasicBody_cons (goes more) escapes fuel
          cases plain : isPlain c || c == '\n' with
          | false => exact .fails fun more ↦ (reads more).trans (by simp [plain])
          | true => exact (ih rest).push (c := c) fun more ↦ (reads more).trans (by simp [plain])

theorem multiLiteralBody_cons {c : Char} {input : List Char} (more : closing? '\x27' (c :: input) = none) :
    multiLiteralBody (c :: input) =
      if isPlain c || c == '\n' then Body.push c (multiLiteralBody input) else none := by
  simp only [multiLiteralBody, more]

theorem confined_multiLiteralBody : Confined multiLiteralBody := by
  intro line
  induction line with
  | nil => exact .inl rfl
  | cons c rest ih =>
    cases closes : ['\x27', '\x27', '\x27'].isPrefixOf (c :: rest) with
    | true =>
      obtain ⟨left, same⟩ := List.isPrefixOf_iff_prefix.1 closes
      rw [← same]
      refine (confined_surplus (show '\x27' ≠ '\n' by decide) left).congr fun more ↦ ?_
      have ends := closing?_quotes '\x27' (left ++ '\n' :: more)
      simp [multiLiteralBody, ends]
    | false =>
      have reads (more : List Char) := multiLiteralBody_cons
        (closing?_eq_none ((isPrefixOf_append_line (by decide) (c :: rest) more).trans closes))
      cases plain : isPlain c || c == '\n' with
      | false => exact .fails fun more ↦ (reads more).trans (by simp [plain])
      | true => exact ih.push (c := c) fun more ↦ (reads more).trans (by simp [plain])

/-! ## Loops -/

/-- Whether a parser reads with one more unit of fuel whatever it reads with less. -/
def Steady (parser : Nat → Parser α) : Prop :=
  ∀ fuel input found, parser fuel input = some found → parser (fuel + 1) input = some found

theorem Steady.of_le {parser : Nat → Parser α} (steady : Steady parser) {few many : Nat} (le : few ≤ many)
    {input : List Char} {found : α × List Char} (h : parser few input = some found) :
    parser many input = some found := by
  induction le with
  | refl => exact h
  | step _ ih => exact steady _ input found ih

/-- A loop whose bound is the length of the text. -/
theorem Confined.of_length {parser : Nat → Parser α} (steady : Steady parser)
    (confined : ∀ fuel, Confined (parser fuel)) (extra : Nat) :
    Confined fun input ↦ parser (input.length + extra) input := by
  intro line
  rcases confined ((line ++ ['\n']).length + extra) line with failed | ⟨value, left, reads⟩
  · exact .inl failed
  · refine .inr ⟨value, left, fun more ↦ steady.of_le ?_ (reads more)⟩
    simp

theorem push_of_push {c : Char} {body longer : Body} {found : List Char × List Char}
    (h : ∀ found, body = some found → longer = some found) (pushed : Body.push c body = some found) :
    Body.push c longer = some found := by
  cases read : body with
  | none =>
    rw [read] at pushed
    cases pushed
  | some inner => rwa [h inner read, ← read]

theorem steady_multiBasicBody : Steady multiBasicBody := by
  intro fuel
  induction fuel with
  | zero => exact fun _ _ h ↦ nomatch h
  | succ fuel ih =>
    intro input found h
    cases closes : closing? '\x22' input with
    | some body =>
      simp only [multiBasicBody, closes] at h ⊢
      exact h
    | none =>
      cases input with
      | nil => exact h
      | cons c rest =>
        by_cases escapes : c = '\\'
        · subst escapes
          rw [multiBasicBody_escape closes] at h ⊢
          cases continued : continuation? rest with
          | some after =>
            rw [continued] at h
            exact ih after found h
          | none =>
            rw [continued] at h
            obtain ⟨read, escape, pushed⟩ := Option.bind_eq_some_iff.1 h
            exact Option.bind_eq_some_iff.2 ⟨read, escape, push_of_push (ih read.2) pushed⟩
        · rw [multiBasicBody_cons closes escapes] at h ⊢
          split at h
          · rename_i plain
            exact (if_pos plain).trans (push_of_push (ih rest) h)
          · cases h

theorem confined_dropLineEnd {parser : Parser α} (confined : Confined parser) (empty : parser [] = none) :
    Confined fun input ↦ parser (dropLineEnd input) := by
  intro line
  cases line with
  | nil => exact .inl empty
  | cons c rest =>
    by_cases ends : c = '\n'
    · subst ends
      exact (confined rest).congr fun _ ↦ rfl
    · refine (confined (c :: rest)).congr fun more ↦ ?_
      simp [dropLineEnd, ends]

theorem string?_basic {input : List Char} (single : ['\x22', '\x22'].isPrefixOf input = false) :
    string? ('\x22' :: input) = basicBody input := by
  unfold string?
  split
  · simp_all
  · rename_i same
    rw [(List.cons.inj same).2]
  · simp_all
  · simp_all
  · simp_all

theorem string?_literal {input : List Char} (single : ['\x27', '\x27'].isPrefixOf input = false) :
    string? ('\x27' :: input) = literalBody input := by
  unfold string?
  split
  · simp_all
  · simp_all
  · simp_all
  · rename_i same
    rw [(List.cons.inj same).2]
  · simp_all

theorem string?_eq_none {c : Char} {input : List Char} (basic : c ≠ '\x22') (literal : c ≠ '\x27') :
    string? (c :: input) = none := by
  simp [string?, basic, literal]

theorem confined_string? : Confined string? := by
  intro line
  cases line with
  | nil => exact .fails fun _ ↦ rfl
  | cons c rest =>
    by_cases basic : c = '\x22'
    · subst basic
      cases triple : ['\x22', '\x22'].isPrefixOf rest with
      | true =>
        obtain ⟨left, rfl⟩ := List.isPrefixOf_iff_prefix.1 triple
        exact (confined_dropLineEnd (.of_length steady_multiBasicBody confined_multiBasicBody 1) rfl left).congr
          fun _ ↦ rfl
      | false =>
        exact (confined_basicBody rest).congr fun more ↦
          string?_basic ((isPrefixOf_append_line (by decide) rest more).trans triple)
    · by_cases literal : c = '\x27'
      · subst literal
        cases triple : ['\x27', '\x27'].isPrefixOf rest with
        | true =>
          obtain ⟨left, rfl⟩ := List.isPrefixOf_iff_prefix.1 triple
          exact (confined_dropLineEnd confined_multiLiteralBody rfl left).congr fun _ ↦ rfl
        | false =>
          exact (confined_literalBody rest).congr fun more ↦
            string?_literal ((isPrefixOf_append_line (by decide) rest more).trans triple)
      · exact .fails fun _ ↦ string?_eq_none basic literal

end PubSub.Toml
