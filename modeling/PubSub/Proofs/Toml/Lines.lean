import PubSub.Proofs.Toml.Values
/-!
# A document is read line by line

A text that a line end closes says what it says whatever stands behind it: if it can be read on its own, then a longer
text says the same first, and what the rest says follows.
-/

namespace PubSub.Toml

variable {α β : Type}

/-- Whether a parser fails on a line, leaves the line end and what follows, or takes the line with its end. -/
def SettledAt (parser : Parser α) (line : List Char) : Prop :=
  ConfinedAt parser line ∨ ∃ value, ∀ more, parser (line ++ '\n' :: more) = some (value, more)

/-- Whether a parser takes no more than one line end of every text that a line end closes. -/
def Settled (parser : Parser α) : Prop :=
  ∀ line, SettledAt parser line

theorem SettledAt.congr {parser other : Parser α} {line rest : List Char} (settled : SettledAt other rest)
    (same : ∀ more, parser (line ++ '\n' :: more) = other (rest ++ '\n' :: more)) : SettledAt parser line := by
  rcases settled with confined | ⟨value, takes⟩
  · exact .inl (confined.congr same)
  · exact .inr ⟨value, fun more ↦ (same more).trans (takes more)⟩

namespace Settled

variable {parser other : Parser α} {next : α → Parser β}

theorem after (first : Confined parser) (second : ∀ value, Settled (next value)) : Settled (parser >>= next) := by
  intro line
  rcases first line with failed | ⟨value, left, reads⟩
  · exact .inl (.inl (by rw [bind_apply, failed]; rfl))
  · exact (second value left).congr fun more ↦ by rw [bind_apply, reads]; rfl

theorem map (change : α → β) (settled : Settled parser) : Settled (parser >>= fun value ↦ pure (change value)) := by
  intro line
  rcases settled line with confined | ⟨value, takes⟩
  · exact .inl (confined.bind fun _ ↦ .pure _)
  · exact .inr ⟨change value, fun more ↦ by rw [bind_apply, takes]; rfl⟩

theorem ite {condition : Prop} [Decidable condition] (yes : Settled parser) (no : Settled other) :
    Settled (if condition then parser else other) := by
  split
  · exact yes
  · exact no

end Settled

/-- The end of a line, or of the text. -/
def breaks : Parser Unit := do
  match ← peek with
  | none => pure ()
  | some _ => expect ['\n']

theorem settled_breaks : Settled breaks := by
  intro line
  cases line with
  | nil => exact .inr ⟨(), fun _ ↦ rfl⟩
  | cons c rest =>
    by_cases ends : c = '\n'
    · subst ends
      exact .inl (.reads rest fun _ ↦ rfl)
    · refine .inl (.fails fun more ↦ ?_)
      simp [breaks, bind_apply, peek, expect, Ne.symm ends]

theorem settled_lineEnd : Settled lineEnd := by
  have comment : Confined (modify dropComment) := confined_dropWhile rfl
  have ends : Settled (do
      if (← peek) = some '#' then modify dropComment >>= fun _ ↦ breaks
      else breaks : Parser Unit) :=
    .after confined_peek fun _ ↦ .ite (.after comment fun _ ↦ settled_breaks) settled_breaks
  exact .after confined_spaces fun _ ↦ ends

/-- A header in double brackets. -/
def elementLine : Parser Statement := do
  expect ['[', '[']
  let (path, key) ← dottedKey
  expect [']', ']']
  lineEnd
  pure (.element path key)

/-- A header in single brackets. -/
def headerLine : Parser Statement := do
  expect ['[']
  let (path, key) ← dottedKey
  expect [']']
  lineEnd
  pure (.header path key)

/-- An assignment. -/
def assignLine : Parser Statement := do
  let (path, key) ← dottedKey
  expect ['=']
  spaces
  let assigned ← value
  lineEnd
  pure (.assign path key assigned)

theorem statement_eq (input : List Char) : statement input =
    match input with
    | '[' :: '[' :: _ => elementLine input
    | '[' :: _ => headerLine input
    | _ => assignLine input := by
  have reads : statement input =
      (match input with
        | '[' :: '[' :: _ => elementLine
        | '[' :: _ => headerLine
        | _ => assignLine) input := rfl
  rw [reads]
  split <;> rfl

theorem statement_header {c : Char} (single : c ≠ '[') (rest : List Char) :
    statement ('[' :: c :: rest) = headerLine ('[' :: c :: rest) := by
  simp [statement_eq, single]

theorem statement_assign {c : Char} (other : c ≠ '[') (rest : List Char) :
    statement (c :: rest) = assignLine (c :: rest) := by
  simp [statement_eq, other]

theorem settled_elementLine : Settled elementLine :=
  .after (confined_expect (by decide)) fun _ ↦ .after confined_dottedKey fun _ ↦
    .after (confined_expect (by decide)) fun _ ↦ settled_lineEnd.map _

theorem settled_headerLine : Settled headerLine :=
  .after (confined_expect (by decide)) fun _ ↦ .after confined_dottedKey fun _ ↦
    .after (confined_expect (by decide)) fun _ ↦ settled_lineEnd.map _

theorem settled_assignLine : Settled assignLine :=
  .after confined_dottedKey fun _ ↦ .after (confined_expect (by decide)) fun _ ↦ .after confined_spaces fun _ ↦
    .after confined_value fun _ ↦ settled_lineEnd.map _

theorem settled_statement : Settled statement := by
  intro line
  cases line with
  | nil => exact (settled_assignLine []).congr fun _ ↦ rfl
  | cons c rest =>
    by_cases bracket : c = '['
    · subst bracket
      cases rest with
      | nil => exact (settled_headerLine ['[']).congr fun _ ↦ rfl
      | cons c rest =>
        by_cases double : c = '['
        · subst double
          exact (settled_elementLine ('[' :: '[' :: rest)).congr fun _ ↦ rfl
        · exact (settled_headerLine ('[' :: c :: rest)).congr fun _ ↦ statement_header double _
    · exact (settled_assignLine (c :: rest)).congr fun _ ↦ statement_assign bracket _

/-! ## Documents -/

theorem statements_succ (fuel : Nat) (input : List Char) : statements (fuel + 1) input =
    (skipBlanks input).bind fun left ↦
      if left.2.isEmpty then some ([], left.2)
      else (statement left.2).bind fun first ↦
        (statements fuel first.2).map fun rest ↦ (first.1 :: rest.1, rest.2) := by
  rw [statements, bind_apply]
  congr 1
  funext left
  rcases left with ⟨_, _ | ⟨c, rest⟩⟩
  · rfl
  · change (statement >>= fun first ↦ statements fuel >>= fun rest ↦ pure (first :: rest)) (c :: rest) = _
    simp only [bind_apply, pure_apply, Option.map_eq_bind]
    rfl

theorem steady_statements : Steady statements := by
  intro fuel
  induction fuel with
  | zero => exact fun _ _ h ↦ nomatch h
  | succ fuel ih =>
    intro input found h
    rw [statements_succ] at h ⊢
    obtain ⟨left, skips, h⟩ := Option.bind_eq_some_iff.1 h
    refine Option.bind_eq_some_iff.2 ⟨left, skips, ?_⟩
    split at h
    · rename_i empty
      rw [if_pos empty]
      exact h
    · rename_i some
      obtain ⟨first, reads, h⟩ := Option.bind_eq_some_iff.1 h
      obtain ⟨rest, follows, rfl⟩ := Option.map_eq_some_iff.1 h
      rw [if_neg some, reads, Option.bind_some, ih _ _ follows]
      rfl

/-- A text that stands alone says the same in front of any other, and what the other says follows. -/
theorem statements_append {fuel : Nat} {line left : List Char} {said : List Statement}
    (reads : statements fuel (line ++ ['\n']) = some (said, left)) (extra : Nat) (more : List Char) :
    said.length < fuel ∧ statements (said.length + extra) (line ++ '\n' :: more) =
      (statements extra more).map fun found ↦ (said ++ found.1, found.2) := by
  induction fuel generalizing line said with
  | zero => cases reads
  | succ fuel ih =>
    rw [statements_succ] at reads
    rcases skipBlanks_append_line line with failed | ⟨c, rest, skips⟩ | through
    · rw [failed] at reads
      cases reads
    · rw [skips] at reads
      have reads : ((statement (c :: rest ++ ['\n'])).bind fun first ↦
          (statements fuel first.2).map fun rest ↦ (first.1 :: rest.1, rest.2)) = some (said, left) := reads
      obtain ⟨first, begins, reads⟩ := Option.bind_eq_some_iff.1 reads
      obtain ⟨found, follows, same⟩ := Option.map_eq_some_iff.1 reads
      obtain ⟨rfl, rfl⟩ := Prod.mk.inj same
      have step (more : List Char) (fuel : Nat) : statements (fuel + 1) (line ++ '\n' :: more) =
          (statement (c :: rest ++ '\n' :: more)).bind fun first ↦
            (statements fuel first.2).map fun rest ↦ (first.1 :: rest.1, rest.2) := by
        rw [statements_succ, skips]
        rfl
      have count : (first.1 :: found.1).length + extra = (found.1.length + extra) + 1 := by
        rw [List.length_cons]
        omega
      rw [count, step]
      rcases settled_statement (c :: rest) with (failed | ⟨value, left, within⟩) | ⟨value, whole⟩
      · rw [failed] at begins
        cases begins
      · rw [within] at begins
        obtain rfl := Option.some.inj begins
        obtain ⟨lt, goes⟩ := ih follows
        refine ⟨Nat.succ_lt_succ lt, ?_⟩
        rw [within, Option.bind_some, goes, Option.map_map]
        rfl
      · rw [whole] at begins
        obtain rfl := Option.some.inj begins
        cases fuel with
        | zero => cases follows
        | succ fuel =>
          obtain rfl := Option.some.inj follows
          refine ⟨by simp, ?_⟩
          rw [whole, Option.bind_some, List.length_nil, Nat.zero_add]
          rfl
    · rw [through] at reads
      cases reads
      refine ⟨Nat.zero_lt_succ _, ?_⟩
      have same : statements extra (line ++ '\n' :: more) = statements extra more := by
        cases extra with
        | zero => rfl
        | succ extra => rw [statements_succ, through, ← statements_succ]
      simp [same]

theorem exists_unifyLineEnds_append (text : List Char) : ∃ line, ∀ more,
    unifyLineEnds (text ++ '\n' :: more) = line ++ '\n' :: unifyLineEnds more := by
  cases text with
  | nil => exact ⟨[], fun _ ↦ rfl⟩
  | cons c rest =>
    by_cases ends : c = '\r' ∧ ∃ left, rest = '\n' :: left
    · obtain ⟨rfl, left, rfl⟩ := ends
      obtain ⟨line, same⟩ := exists_unifyLineEnds_append left
      exact ⟨'\n' :: line, fun more ↦ congrArg ('\n' :: ·) (same more)⟩
    · by_cases last : c = '\r' ∧ rest = []
      · obtain ⟨rfl, rfl⟩ := last
        exact ⟨[], fun _ ↦ rfl⟩
      · obtain ⟨line, same⟩ := exists_unifyLineEnds_append rest
        refine ⟨c :: line, fun more ↦ ?_⟩
        rw [List.cons_append, unifyLineEnds, same]
        · rfl
        · intro after carriage next
          rcases rest with _ | ⟨d, left⟩
          · exact last ⟨carriage, rfl⟩
          · exact ends ⟨carriage, left, congrArg (· :: left) (List.cons.inj next).1⟩
termination_by text.length

/-- What a text says, line ends being written either way. -/
def read? (text : List Char) : Option (List Statement) :=
  (statements ((unifyLineEnds text).length + 1) (unifyLineEnds text)).map Prod.fst

theorem parse?_eq (document : String) :
    parse? document = (read? (dropByteOrderMark document.toList)).bind (Table.build [] []) := by
  simp only [parse?, read?]
  cases statements _ (unifyLineEnds (dropByteOrderMark document.toList)) <;> rfl

/-- The mark that some editors put in front cannot be read. -/
theorem dropByteOrderMark_of_read? {text : List Char} {said : List Statement} (reads : read? text = some said) :
    dropByteOrderMark text = text := by
  unfold dropByteOrderMark
  split
  · rename_i rest
    have unified : unifyLineEnds ('\ufeff' :: rest) = '\ufeff' :: unifyLineEnds rest := by simp [unifyLineEnds]
    have stops : skipBlanks ('\ufeff' :: unifyLineEnds rest) = some ((), '\ufeff' :: unifyLineEnds rest) := rfl
    have fails : statement ('\ufeff' :: unifyLineEnds rest) = none := rfl
    rw [read?, unified, statements_succ, stops, Option.bind_some] at reads
    dsimp only at reads
    rw [fails] at reads
    cases reads
  · rfl

theorem dropByteOrderMark_append {text : List Char} {said : List Statement} (reads : read? (text ++ ['\n']) = some said)
    (more : List Char) : dropByteOrderMark (text ++ '\n' :: more) = text ++ '\n' :: more := by
  have unmarked := dropByteOrderMark_of_read? reads
  unfold dropByteOrderMark at unmarked ⊢
  rcases text with _ | ⟨c, rest⟩
  · rfl
  · split
    · rename_i marked
      obtain ⟨rfl, -⟩ := List.cons.inj marked
      exact absurd (congrArg List.length unmarked) (by simp)
    · rfl

/-- Two texts that can be read on their own can be read one behind the other. -/
theorem read?_append {text more : List Char} {said next : List Statement} (reads : read? (text ++ ['\n']) = some said)
    (follows : read? more = some next) : read? (text ++ '\n' :: more) = some (said ++ next) := by
  obtain ⟨line, same⟩ := exists_unifyLineEnds_append text
  have ends : unifyLineEnds (text ++ ['\n']) = line ++ ['\n'] := same []
  obtain ⟨⟨_, left⟩, first, rfl⟩ := Option.map_eq_some_iff.1 reads
  obtain ⟨⟨_, rest⟩, second, rfl⟩ := Option.map_eq_some_iff.1 follows
  rw [ends] at first
  obtain ⟨lt, goes⟩ := statements_append first ((unifyLineEnds more).length + 1) (unifyLineEnds more)
  rw [second, ← same] at goes
  refine Option.map_eq_some_iff.2 ⟨_, steady_statements.of_le ?_ goes, rfl⟩
  simp only [same, List.length_append, List.length_cons, List.length_nil] at lt ⊢
  omega

/-- What a text says behind one that can be read on its own. -/
theorem exists_of_read?_append {text more : List Char} {said all : List Statement}
    (reads : read? (text ++ ['\n']) = some said) (whole : read? (text ++ '\n' :: more) = some all) :
    ∃ fuel next, statements fuel (unifyLineEnds more) = some next ∧ all = said ++ next.1 := by
  obtain ⟨line, same⟩ := exists_unifyLineEnds_append text
  have ends : unifyLineEnds (text ++ ['\n']) = line ++ ['\n'] := same []
  obtain ⟨⟨_, left⟩, first, rfl⟩ := Option.map_eq_some_iff.1 reads
  obtain ⟨⟨_, rest⟩, both, rfl⟩ := Option.map_eq_some_iff.1 whole
  rw [ends] at first
  rw [same] at both
  obtain ⟨-, goes⟩ := statements_append first ((line ++ '\n' :: unifyLineEnds more).length + 1) (unifyLineEnds more)
  rw [steady_statements.of_le (Nat.le_add_left _ _) both] at goes
  obtain ⟨next, follows, split⟩ := Option.map_eq_some_iff.1 goes.symm
  exact ⟨_, next, follows, (congrArg Prod.fst split).symm⟩

end PubSub.Toml
