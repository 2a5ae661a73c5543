import PubSub.Toml.Value
/-!
# What a statement does to a table

Each statement concerns one key of the table it is carried out on: what becomes of that key depends on its values alone,
and other keys keep theirs. If the key holds a table, the same is true one level further in. So nothing that a document
has said is ever unsaid, and a statement can be carried out on a table that says more, as long as it does not touch what
is said in addition.
-/

namespace PubSub.Toml

namespace Table

variable {table other written : Table} {key name : String} {value : Value}

/-- The values that a table lists under a key. -/
def under (key : String) (table : Table) : List Value :=
  (table.filter fun entry ↦ entry.1 == key).map Prod.snd

theorem get?_eq_head? (key : String) (table : Table) : table.get? key = (table.under key).head? := by
  rw [get?, under, List.head?_map, List.head?_filter]

theorem get?_eq_none_iff : table.get? key = none ↔ table.under key = [] := by
  rw [get?_eq_head?, List.head?_eq_none_iff]

@[simp]
theorem under_nil (key : String) : under key [] = [] :=
  rfl

theorem under_cons (name : String) (value : Value) (table : Table) (key : String) :
    under key ((name, value) :: table) = if name = key then value :: table.under key else table.under key := by
  by_cases same : name = key <;> simp [under, same]

theorem under_append (table : Table) (name : String) (value : Value) (key : String) :
    under key (table ++ [(name, value)]) = if name = key then table.under key ++ [value] else table.under key := by
  by_cases same : name = key <;> simp [under, same]

theorem under_replace (table : Table) (name : String) (value : Value) (key : String) :
    (table.replace name value).under key =
      if name = key then (table.under key).map fun _ ↦ value else table.under key := by
  induction table with
  | nil => simp [replace]
  | cons entry table ih =>
    obtain ⟨first, old⟩ := entry
    have step : replace ((first, old) :: table) name value =
        (if first == name then (name, value) else (first, old)) :: replace table name value := rfl
    rw [step]
    by_cases here : first = name
    · subst here
      rw [if_pos (beq_self_eq_true first), under_cons, under_cons, ih]
      split <;> simp
    · rw [if_neg (by simpa using here), under_cons, under_cons, ih]
      by_cases same : name = key
      · subst same
        simp only [if_neg here]
      · simp only [if_neg same]

theorem under_remove (table : Table) (name key : String) :
    (table.remove name).under key = if name = key then [] else table.under key := by
  unfold remove under
  rw [List.filter_filter]
  by_cases same : name = key
  · rw [if_pos same, List.filter_eq_nil_iff.2]
    · rfl
    · simp [same]
  · rw [if_neg same]
    congr 1
    refine List.filter_congr fun entry _ ↦ ?_
    by_cases here : entry.1 = key
    · simp [here, Ne.symm same]
    · simp [here]

/-- The table with a key given its first value, or another value in the place of the one that it has. -/
def rewrite (key : String) (fresh : Option Value) (change : Value → Option Value) (table : Table) : Option Table :=
  match table.get? key with
  | none => fresh.map fun value ↦ table ++ [(key, value)]
  | some value => (change value).map (table.replace key)

/-- An operation that concerns one key. -/
structure Concerns (key : String) (change : Table → Option Table) : Prop where
  others : ∀ {table written : Table} {other : String}, change table = some written → other ≠ key →
    written.under other = table.under other
  present : ∀ {table written : Table}, change table = some written → written.under key ≠ []
  single : ∀ {table written : Table}, change table = some written → (table.under key).length ≤ 1 →
    (written.under key).length ≤ 1
  decided : ∀ {table other written : Table}, change table = some written → other.under key = table.under key →
    ∃ same, change other = some same ∧ same.under key = written.under key
  /-- An integer stays what it is. -/
  plain : ∀ {table : Table} {n : Int}, table.get? key = some (.integer n) → change table = none

theorem rewrite_eq_some {fresh : Option Value} {change : Value → Option Value}
    (h : rewrite key fresh change table = some written) :
    (table.under key = [] ∧ ∃ value, fresh = some value ∧ written = table ++ [(key, value)]) ∨
      ∃ old more value, table.under key = old :: more ∧ change old = some value ∧
        written = table.replace key value := by
  rw [rewrite, get?_eq_head?] at h
  rcases values : table.under key with _ | ⟨old, more⟩
  · rw [values] at h
    obtain ⟨value, given, rfl⟩ := Option.map_eq_some_iff.1 h
    exact .inl ⟨rfl, value, given, rfl⟩
  · rw [values] at h
    obtain ⟨value, changed, rfl⟩ := Option.map_eq_some_iff.1 h
    exact .inr ⟨old, more, value, rfl, changed, rfl⟩

theorem rewrite_of_under_nil {fresh : Option Value} {change : Value → Option Value} (h : table.under key = []) :
    rewrite key fresh change table = fresh.map fun value ↦ table ++ [(key, value)] := by
  rw [rewrite, get?_eq_head?, h]
  rfl

theorem rewrite_of_under_cons {fresh : Option Value} {change : Value → Option Value} {old : Value} {more : List Value}
    (h : table.under key = old :: more) : rewrite key fresh change table = (change old).map (table.replace key) := by
  rw [rewrite, get?_eq_head?, h]
  rfl

theorem concerns_rewrite (key : String) (fresh : Option Value) {change : Value → Option Value}
    (plain : ∀ n, change (.integer n) = none) : Concerns key (rewrite key fresh change) where
  others h other := by
    rcases rewrite_eq_some h with ⟨-, value, -, rfl⟩ | ⟨_, _, value, -, -, rfl⟩
    · rw [under_append, if_neg other.symm]
    · rw [under_replace, if_neg other.symm]
  present h := by
    rcases rewrite_eq_some h with ⟨-, value, -, rfl⟩ | ⟨old, more, value, values, -, rfl⟩
    · simp [under_append]
    · simp [under_replace, values]
  single h le := by
    rcases rewrite_eq_some h with ⟨none, value, -, rfl⟩ | ⟨old, more, value, -, -, rfl⟩
    · simp [under_append, none]
    · simpa [under_replace] using le
  decided h same := by
    rcases rewrite_eq_some h with ⟨none, value, given, rfl⟩ | ⟨old, more, value, values, changed, rfl⟩
    · refine ⟨_, (rewrite_of_under_nil (same.trans none)).trans (congrArg _ given), ?_⟩
      simp [under_append, same]
    · refine ⟨_, (rewrite_of_under_cons (same.trans values)).trans (congrArg _ changed), ?_⟩
      simp [under_replace, same]
  plain found := by
    rw [rewrite, found]
    simp [plain]

theorem openTable_eq_some (h : openTable key table = some written) :
    (table.under key = [] ∧ written = table ++ [(key, .table .header [])]) ∨
      ∃ inner more, table.under key = .table .implied inner :: more ∧
        written = table.remove key ++ [(key, .table .header inner)] := by
  unfold openTable at h
  rw [get?_eq_head?] at h
  split at h
  · rename_i none
    exact .inl ⟨List.head?_eq_none_iff.1 none, (Option.some.inj h).symm⟩
  · rename_i inner found
    obtain ⟨more, values⟩ := List.head?_eq_some_iff.1 found
    exact .inr ⟨inner, more, values, (Option.some.inj h).symm⟩
  · cases h

theorem openTable_of_under_nil (h : table.under key = []) :
    openTable key table = some (table ++ [(key, .table .header [])]) := by
  rw [openTable, get?_eq_none_iff.2 h]

theorem openTable_of_under_cons {inner : Table} {more : List Value}
    (h : table.under key = .table .implied inner :: more) :
    openTable key table = some (table.remove key ++ [(key, .table .header inner)]) := by
  rw [openTable, get?_eq_head?, h]
  rfl

theorem concerns_openTable (key : String) : Concerns key (openTable key) where
  others h other := by
    rcases openTable_eq_some h with ⟨-, rfl⟩ | ⟨inner, _, -, rfl⟩
    · rw [under_append, if_neg other.symm]
    · rw [under_append, under_remove, if_neg other.symm, if_neg other.symm]
  present h := by
    rcases openTable_eq_some h with ⟨-, rfl⟩ | ⟨inner, _, -, rfl⟩ <;> simp [under_append]
  single h _ := by
    rcases openTable_eq_some h with ⟨none, rfl⟩ | ⟨inner, _, -, rfl⟩
    · simp [under_append, none]
    · simp [under_append, under_remove]
  decided h same := by
    rcases openTable_eq_some h with ⟨none, rfl⟩ | ⟨inner, _, values, rfl⟩
    · exact ⟨_, openTable_of_under_nil (same.trans none), by simp [under_append, same]⟩
    · exact ⟨_, openTable_of_under_cons (same.trans values), by simp [under_append, under_remove]⟩
  plain found := by
    rw [openTable, found]

/-! ## Operations that lead into tables -/

/-- Whether a change of a value, if it is a table, concerns one key of that table. -/
def Layered (change : Value → Option Value) : Prop :=
  ∀ origin, (∀ inner, change (.table origin inner) = none) ∨
    ∃ name within, Concerns name within ∧ ∀ inner, change (.table origin inner) = (within inner).map (.table origin)

/-- What a statement does to the whole document. -/
inductive Operation : String → (Table → Option Table) → Prop
  | rewrite {key : String} (fresh : Option Value) {change : Value → Option Value} (layered : Layered change)
    (plain : ∀ n, change (.integer n) = none) : Operation key (rewrite key fresh change)
  | openTable (key : String) : Operation key (openTable key)

theorem Operation.concerns {operation : Table → Option Table} (h : Operation key operation) :
    Concerns key operation := by
  cases h with
  | rewrite fresh layered plain => exact concerns_rewrite key fresh plain
  | openTable => exact concerns_openTable key

/-- What an assignment to a dotted key does to the value of its first part. -/
def assignInto (key : String) (value : Value) (path : List String) : Value → Option Value
  | .table .dotted inner => (assign key value path inner).map (.table .dotted)
  | .table .implied inner =>
    if path.isEmpty then none else (assign key value path inner).map (.table .implied)
  | .tables items => if path.isEmpty then none else (modifyLast? (assign key value path) items).map .tables
  | _ => none

/-- What a header does to the value of the first part of its path. -/
def descendInto (change : Table → Option Table) (path : List String) : Value → Option Value
  | .table .inline _ => none
  | .table origin inner => (descend change path inner).map (.table origin)
  | .tables items => (modifyLast? (descend change path) items).map .tables
  | _ => none

/-- What a header in double brackets does to the value of its last part. -/
def elementInto : Value → Option Value
  | .tables items => some (.tables (items ++ [[]]))
  | _ => none

theorem assign_nil (key : String) (value : Value) : assign key value [] = rewrite key (some value) fun _ ↦ none := by
  funext table
  rw [assign, rewrite]
  cases table.get? key <;> rfl

theorem assign_cons (key : String) (value : Value) (part : String) (path : List String) :
    assign key value (part :: path) =
      rewrite part ((assign key value path []).map (.table .dotted)) (assignInto key value path) := by
  funext table
  simp only [assign, rewrite]
  rcases table.get? part with _ | found
  · simp [Function.comp_def]
  · cases found with
    | table origin inner =>
      cases origin <;> simp only [assignInto, Option.map_map, Option.map_none] <;> try rfl
      split <;> simp [Function.comp_def]
    | tables items =>
      simp only [assignInto]
      split <;> simp [Function.comp_def]
    | _ => rfl

theorem descend_cons (change : Table → Option Table) (part : String) (path : List String) :
    descend change (part :: path) =
      rewrite part ((descend change path []).map (.table .implied)) (descendInto change path) := by
  funext table
  simp only [descend, rewrite]
  rcases table.get? part with _ | found
  · simp [Function.comp_def]
  · cases found with
    | table origin inner => cases origin <;> simp [descendInto, Function.comp_def]
    | tables items => simp [descendInto, Function.comp_def]
    | _ => rfl

theorem openElement_eq (key : String) : openElement key = rewrite key (some (.tables [[]])) elementInto := by
  funext table
  simp only [openElement, rewrite]
  rcases table.get? key with _ | found
  · rfl
  · cases found <;> rfl

theorem operation_assign (key : String) (value : Value) (path : List String) :
    ∃ name, Operation name (assign key value path) := by
  induction path with
  | nil =>
    rw [assign_nil]
    exact ⟨key, .rewrite _ (fun _ ↦ .inl fun _ ↦ rfl) fun _ ↦ rfl⟩
  | cons part path ih =>
    obtain ⟨name, within⟩ := ih
    rw [assign_cons]
    refine ⟨part, .rewrite _ (fun origin ↦ ?_) fun _ ↦ rfl⟩
    cases origin with
    | inline => exact .inl fun _ ↦ rfl
    | header => exact .inl fun _ ↦ rfl
    | implied =>
      cases final : path.isEmpty with
      | true => exact .inl fun _ ↦ by simp [assignInto, final]
      | false => exact .inr ⟨name, _, within.concerns, fun _ ↦ by simp [assignInto, final]⟩
    | dotted => exact .inr ⟨name, _, within.concerns, fun _ ↦ rfl⟩

theorem operation_descend {change : Table → Option Table} (last : ∃ name, Operation name change) (path : List String) :
    ∃ name, Operation name (descend change path) := by
  induction path with
  | nil => exact last
  | cons part path ih =>
    obtain ⟨name, within⟩ := ih
    rw [descend_cons]
    refine ⟨part, .rewrite _ (fun origin ↦ ?_) fun _ ↦ rfl⟩
    cases origin with
    | inline => exact .inl fun _ ↦ rfl
    | _ => exact .inr ⟨name, _, within.concerns, fun _ ↦ rfl⟩

theorem operation_openElement (key : String) : Operation key (openElement key) := by
  rw [openElement_eq]
  exact .rewrite _ (fun _ ↦ .inl fun _ ↦ rfl) fun _ ↦ rfl

/-- Carried out on a table inside the document, an operation leaves a table there, opened by a header if a header has
only implied it before. -/
theorem Operation.within {operation : Table → Option Table} (h : Operation key operation)
    (carried : operation table = some written) {origin : Origin} {inner : Table}
    (found : table.under name = [.table origin inner]) :
    ∃ origin' inner', written.under name = [.table origin' inner'] ∧
      (origin' = origin ∨ origin = .implied ∧ origin' = .header) ∧
      (inner' = inner ∨ ∃ part within, Concerns part within ∧ within inner = some inner') := by
  by_cases here : name = key
  · subst here
    cases h with
    | rewrite fresh layered plain =>
      rename_i change
      rw [rewrite_of_under_cons found] at carried
      obtain ⟨value, changed, rfl⟩ := Option.map_eq_some_iff.1 carried
      rcases layered origin with refused | ⟨part, within, concerns, leads⟩
      · rw [refused] at changed
        cases changed
      · rw [leads] at changed
        obtain ⟨inner', deeper, rfl⟩ := Option.map_eq_some_iff.1 changed
        refine ⟨origin, inner', ?_, .inl rfl, .inr ⟨part, within, concerns, deeper⟩⟩
        rw [under_replace, if_pos rfl, found]
        rfl
    | openTable =>
      rcases openTable_eq_some carried with ⟨none, -⟩ | ⟨_, more, values, rfl⟩
      · rw [none] at found
        cases found
      · obtain ⟨same, -⟩ := List.cons.inj (values.symm.trans found)
        obtain ⟨rfl, rfl⟩ := Value.table.inj same
        refine ⟨.header, _, ?_, .inr ⟨rfl, rfl⟩, .inl rfl⟩
        rw [under_append, if_pos rfl, under_remove, if_pos rfl]
        rfl
  · exact ⟨origin, inner, (h.concerns.others carried here).trans found, .inl rfl, .inl rfl⟩

/-- The values that a table inside the document lists under a key. -/
def inside (key name : String) (table : Table) : List Value :=
  match table.under key with
  | [.table _ inner] => under name inner
  | _ => []

theorem inside_of_under {origin : Origin} {inner : Table} (found : table.under key = [.table origin inner])
    (name : String) : table.inside key name = inner.under name := by
  rw [inside, found]

theorem inside_congr (same : written.under key = table.under key) (name : String) :
    written.inside key name = table.inside key name := by
  rw [inside, inside, same]

theorem exists_of_inside_ne_nil (h : table.inside key name ≠ []) :
    ∃ origin inner, table.under key = [.table origin inner] := by
  unfold inside at h
  split at h
  · rename_i origin inner found
    exact ⟨origin, inner, found⟩
  · exact absurd rfl h

namespace Operation

variable {concerned : String} {operation : Table → Option Table}

/-- What a table inside the document lists under a key stays, or it is changed by what concerns this key. -/
theorem inside_cases (h : Operation concerned operation) (carried : operation table = some written)
    (has : table.inside key name ≠ []) : written.inside key name = table.inside key name ∨
      ∃ within inner inner', Concerns name within ∧ within inner = some inner' ∧
        inner.under name = table.inside key name ∧ inner'.under name = written.inside key name := by
  obtain ⟨origin, inner, found⟩ := exists_of_inside_ne_nil has
  obtain ⟨origin', inner', found', -, rfl | ⟨part, within, concerns, deeper⟩⟩ := h.within carried found
  · exact .inl (by rw [inside_of_under found', inside_of_under found])
  · rw [inside_of_under found', inside_of_under found]
    by_cases here : name = part
    · subst here
      exact .inr ⟨within, inner, inner', concerns, deeper, rfl, rfl⟩
    · exact .inl (concerns.others deeper here)

/-- What a table inside the document has, it keeps. -/
theorem inside_ne_nil (h : Operation concerned operation) (carried : operation table = some written)
    (has : table.inside key name ≠ []) : written.inside key name ≠ [] := by
  rcases h.inside_cases carried has with same | ⟨within, inner, inner', concerns, deeper, -, now⟩
  · rwa [same]
  · rw [← now]
    exact concerns.present deeper

/-- An integer in a table inside the document stays what it is. -/
theorem inside_integer (h : Operation concerned operation) (carried : operation table = some written) {n : Int}
    (has : table.inside key name = [.integer n]) : written.inside key name = [.integer n] := by
  rcases h.inside_cases carried (fun none ↦ nomatch has.symm.trans none) with
    same | ⟨within, inner, _, concerns, deeper, was, -⟩
  · rw [same, has]
  · have refused := concerns.plain (get?_eq_head? name inner ▸ congrArg List.head? (was.trans has))
    cases refused.symm.trans deeper

end Operation

/-! ## Statements -/

end Table

/-- What a statement does to the document, if `current` leads to the table that takes assignments. -/
def Statement.carry (current : List String) : Statement → Table → Option Table
  | .assign path key value => Table.descend (Table.assign key value path) current
  | .header path key => Table.descend (Table.openTable key) path
  | .element path key => Table.descend (Table.openElement key) path

/-- Where the table that takes assignments is after a statement. -/
def Statement.after (current : List String) : Statement → List String
  | .assign _ _ _ => current
  | .header path key => path ++ [key]
  | .element path key => path ++ [key]

theorem Statement.operation (current : List String) (statement : Statement) :
    ∃ key, Table.Operation key (statement.carry current) := by
  cases statement with
  | assign path key value => exact Table.operation_descend (Table.operation_assign key value path) current
  | header path key => exact Table.operation_descend ⟨key, .openTable key⟩ path
  | element path key => exact Table.operation_descend ⟨key, Table.operation_openElement key⟩ path

namespace Table

variable {root built full rest : Table} {key name : String} {value : Value}

theorem build_cons (root : Table) (current : List String) (first : Statement) (rest : List Statement) :
    build root current (first :: rest) =
      (first.carry current root).bind fun root ↦ build root (first.after current) rest := by
  cases first <;> rfl

theorem build_append (root : Table) (current : List String) (first rest : List Statement) :
    build root current (first ++ rest) =
      (build root current first).bind fun root ↦ build root (first.foldl Statement.after current) rest := by
  induction first generalizing root current with
  | nil => rfl
  | cons statement first ih =>
    rw [List.cons_append, build_cons, build_cons, Option.bind_assoc]
    congr 1
    funext root
    exact ih root _

/-- What every operation keeps, a document keeps. -/
theorem build_keeps (holds : Table → Prop) (step : ∀ {key operation table written}, Operation key operation →
    operation table = some written → holds table → holds written) {current : List String} {said : List Statement}
    (h : build root current said = some built) (start : holds root) : holds built := by
  induction said generalizing root current with
  | nil => exact Option.some.inj h ▸ start
  | cons first rest ih =>
    rw [build_cons] at h
    obtain ⟨next, carried, h⟩ := Option.bind_eq_some_iff.1 h
    obtain ⟨_, operation⟩ := first.operation current
    exact ih h (step operation carried start)

/-! ## Saying more -/

/-- Whether a document says nothing of some names in tables of the document. -/
def Silent (names : String → List String) (table : Table) : Prop :=
  ∀ key, ∀ name ∈ names key, table.inside key name = []

/-- Whether a document says what another one says, except that tables of it say something of some names too. -/
def Extends (names : String → List String) (full rest : Table) : Prop :=
  ∀ key, full.under key = rest.under key ∨ ∃ origin wider inner,
    full.under key = [.table origin wider] ∧ rest.under key = [.table origin inner] ∧
      ∀ name, name ∉ names key → under name wider = under name inner

variable {names : String → List String} {concerned : String} {operation : Table → Option Table}

theorem Extends.refl (names : String → List String) (table : Table) : table.Extends names table :=
  fun _ ↦ .inl rfl

theorem Operation.silent (h : Operation concerned operation) (carried : operation table = some built)
    (silent : built.Silent names) : table.Silent names :=
  fun key name mem ↦ Decidable.byContradiction fun has ↦ h.inside_ne_nil carried has (silent key name mem)

theorem silent_of_build {current : List String} {said : List Statement} (h : build root current said = some built)
    (silent : built.Silent names) : root.Silent names := by
  induction said generalizing root current with
  | nil => exact Option.some.inj h ▸ silent
  | cons first rest ih =>
    rw [build_cons] at h
    obtain ⟨next, carried, h⟩ := Option.bind_eq_some_iff.1 h
    obtain ⟨_, operation⟩ := first.operation current
    exact operation.silent carried (ih h)

/-- An operation that leads into a table can be carried out on one that says more there. The key that it concerns there
is none of the names, since the document then says something of it. -/
theorem Operation.extends_within (h : Operation concerned operation) (carried : operation rest = some built)
    (silent : built.Silent names) {origin : Origin} {large small : Table}
    (hfull : full.under concerned = [.table origin large]) (hrest : rest.under concerned = [.table origin small])
    (agree : ∀ name, name ∉ names concerned → large.under name = small.under name) :
    ∃ grown origin' large' small', operation full = some grown ∧
      grown.under concerned = [.table origin' large'] ∧ built.under concerned = [.table origin' small'] ∧
      (∀ name, name ∉ names concerned → under name large' = under name small') ∧
      ∀ name ∈ names concerned, under name large' = under name large := by
  cases h with
  | rewrite fresh layered plain =>
    rename_i change
    rw [rewrite_of_under_cons hrest] at carried
    obtain ⟨value, changed, rfl⟩ := Option.map_eq_some_iff.1 carried
    rcases layered origin with refused | ⟨part, within, concerns, leads⟩
    · rw [refused] at changed
      cases changed
    · rw [leads] at changed
      obtain ⟨small', deeper, rfl⟩ := Option.map_eq_some_iff.1 changed
      have hbuilt : (rest.replace concerned (.table origin small')).under concerned = [.table origin small'] := by
        rw [under_replace, if_pos rfl, hrest]
        rfl
      have apart : part ∉ names concerned := fun mem ↦
        concerns.present deeper ((inside_of_under hbuilt part).symm.trans (silent concerned part mem))
      obtain ⟨large', carries, decided⟩ := concerns.decided deeper (agree part apart)
      refine ⟨full.replace concerned (.table origin large'), origin, large', small', ?_, ?_, hbuilt, ?_, ?_⟩
      · rw [rewrite_of_under_cons hfull, leads, carries]
        rfl
      · rw [under_replace, if_pos rfl, hfull]
        rfl
      · intro name other
        by_cases here : name = part
        · rw [here, decided]
        · rw [concerns.others carries here, concerns.others deeper here, agree name other]
      · intro name mem
        exact concerns.others carries fun here ↦ apart (here ▸ mem)
  | openTable =>
    rcases openTable_eq_some carried with ⟨none, -⟩ | ⟨inner, more, values, rfl⟩
    · rw [none] at hrest
      cases hrest
    · obtain ⟨same, -⟩ := List.cons.inj (values.symm.trans hrest)
      obtain ⟨rfl, rfl⟩ := Value.table.inj same
      refine ⟨_, .header, large, inner, openTable_of_under_cons hfull, ?_, ?_, agree, fun _ _ ↦ rfl⟩
      · rw [under_append, if_pos rfl, under_remove, if_pos rfl]
        rfl
      · rw [under_append, if_pos rfl, under_remove, if_pos rfl]
        rfl

/-- An operation on a document can be carried out on one that says more, if it says nothing of the names. -/
theorem Operation.extends (h : Operation concerned operation) (carried : operation rest = some built)
    (wider : full.Extends names rest) (silent : built.Silent names) : ∃ grown, operation full = some grown ∧
      grown.Extends names built ∧ ∀ key, ∀ name ∈ names key, grown.inside key name = full.inside key name := by
  have concerns := h.concerns
  rcases wider concerned with same | ⟨origin, large, small, hfull, hrest, agree⟩
  · obtain ⟨grown, carries, decided⟩ := concerns.decided carried same
    refine ⟨grown, carries, fun key ↦ ?_, fun key name mem ↦ ?_⟩
    · by_cases here : key = concerned
      · exact .inl (here ▸ decided)
      · rw [concerns.others carries here, concerns.others carried here]
        exact wider key
    · by_cases here : key = concerned
      · subst here
        rw [inside_congr decided, silent key name mem, inside_congr same, h.silent carried silent key name mem]
      · exact inside_congr (concerns.others carries here) name
  · obtain ⟨grown, origin', large', small', carries, hgrown, hbuilt, agree', kept⟩ :=
      h.extends_within carried silent hfull hrest agree
    refine ⟨grown, carries, fun key ↦ ?_, fun key name mem ↦ ?_⟩
    · by_cases here : key = concerned
      · subst here
        exact .inr ⟨origin', large', small', hgrown, hbuilt, agree'⟩
      · rw [concerns.others carries here, concerns.others carried here]
        exact wider key
    · by_cases here : key = concerned
      · subst here
        rw [inside_of_under hgrown, inside_of_under hfull]
        exact kept name mem
      · exact inside_congr (concerns.others carries here) name

/-- The same for a whole run of statements. -/
theorem Extends.build {current : List String} {said : List Statement} (wider : full.Extends names rest)
    (h : build rest current said = some built) (silent : built.Silent names) : ∃ grown,
      Table.build full current said = some grown ∧ grown.Extends names built ∧
        ∀ key, ∀ name ∈ names key, grown.inside key name = full.inside key name := by
  induction said generalizing full rest current with
  | nil => exact ⟨full, rfl, Option.some.inj h ▸ wider, fun _ _ _ ↦ rfl⟩
  | cons first said ih =>
    rw [build_cons] at h
    obtain ⟨next, carried, h⟩ := Option.bind_eq_some_iff.1 h
    obtain ⟨_, operation⟩ := first.operation current
    obtain ⟨grown, carries, still, kept⟩ := operation.extends carried wider (silent_of_build h silent)
    obtain ⟨final, builds, covers, keeps⟩ := ih still h
    refine ⟨final, ?_, covers, fun key name mem ↦ (keeps key name mem).trans (kept key name mem)⟩
    rw [build_cons, carries]
    exact builds

/-! ## Sections -/

/-- Whether a header of its own has opened a table. -/
def IsOpened (key : String) (table : Table) : Prop :=
  ∃ inner, table.under key = [.table .header inner]

theorem isOpened_of_openTable (h : openTable key root = some built) : built.IsOpened key := by
  rcases openTable_eq_some h with ⟨none, rfl⟩ | ⟨inner, _, -, rfl⟩
  · exact ⟨[], by rw [under_append, if_pos rfl, none]; rfl⟩
  · exact ⟨inner, by rw [under_append, if_pos rfl, under_remove, if_pos rfl]; rfl⟩

theorem isOpened_of_build {current : List String} {said : List Statement} (h : build root current said = some built)
    (opened : root.IsOpened key) : built.IsOpened key := by
  refine build_keeps (IsOpened key) (fun operation carried opened ↦ ?_) h opened
  obtain ⟨inner, found⟩ := opened
  obtain ⟨origin, inner', found', same | ⟨implied, -⟩, -⟩ := operation.within carried found
  · exact ⟨inner', same ▸ found'⟩
  · cases implied

/-- Every table lists a key once at most. -/
theorem length_under_of_build {current : List String} {said : List Statement} (h : build [] current said = some built)
    (key : String) : (built.under key).length ≤ 1 := by
  refine build_keeps (fun table ↦ (table.under key).length ≤ 1) (fun operation carried single ↦ ?_) h (Nat.zero_le 1)
  rename_i concerned _ _ _
  by_cases here : key = concerned
  · exact here ▸ operation.concerns.single carried (here ▸ single)
  · rwa [operation.concerns.others carried here]

theorem under_replace_self {old : Value} (found : root.under key = [old]) (value : Value) :
    (root.replace key value).under key = [value] := by
  rw [under_replace, if_pos rfl, found]
  rfl

theorem carry_assignment {inner : Table} (found : root.under key = [.table .header inner]) (name : String)
    (value : Value) : (Statement.assign [] name value).carry [key] root =
      (assign name value [] inner).map fun grown ↦ root.replace key (.table .header grown) := by
  have deeper : descendInto (assign name value []) [] (.table .header inner) =
      (assign name value [] inner).map (.table .header) := rfl
  rw [Statement.carry, descend_cons, rewrite_of_under_cons found, deeper, Option.map_map]
  rfl

/-- What has been assigned in a section is listed there. -/
theorem inside_of_assignment (opened : root.IsOpened key)
    (carried : (Statement.assign [] name value).carry [key] root = some built) : built.inside key name = [value] := by
  obtain ⟨inner, found⟩ := opened
  rw [carry_assignment found, assign_nil] at carried
  obtain ⟨grown, assigned, rfl⟩ := Option.map_eq_some_iff.1 carried
  rcases rewrite_eq_some assigned with ⟨none, given, same, rfl⟩ | ⟨_, _, _, -, refused, -⟩
  · obtain rfl := Option.some.inj same
    rw [inside_of_under (under_replace_self found _), under_append, if_pos rfl, none]
    rfl
  · cases refused

/-- An assignment in a section. -/
theorem Extends.assignment (wider : full.Extends names rest) (opened : rest.IsOpened key) (mem : name ∈ names key)
    (fresh : full.inside key name = []) (value : Value) : ∃ grown,
      (Statement.assign [] name value).carry [key] full = some grown ∧ grown.Extends names rest ∧
        grown.inside key name = [value] ∧
        ∀ other, ∀ more ∈ names other, (other ≠ key ∨ more ≠ name) →
          grown.inside other more = full.inside other more := by
  obtain ⟨inner, hrest⟩ := opened
  obtain ⟨large, hfull, agree⟩ : ∃ large, full.under key = [.table .header large] ∧
      ∀ name, name ∉ names key → under name large = under name inner := by
    rcases wider key with same | ⟨origin, large, small, hfull, same, agree⟩
    · exact ⟨inner, same.trans hrest, fun _ _ ↦ rfl⟩
    · obtain ⟨rfl, rfl⟩ := Value.table.inj (List.cons.inj (same.symm.trans hrest)).1
      exact ⟨large, hfull, agree⟩
  rw [inside_of_under hfull] at fresh
  have assigned : assign name value [] large = some (large ++ [(name, value)]) := by
    rw [assign_nil, rewrite_of_under_nil fresh]
    rfl
  have carries : (Statement.assign [] name value).carry [key] full =
      some (full.replace key (.table .header (large ++ [(name, value)]))) := by
    rw [carry_assignment hfull, assigned]
    rfl
  have hgrown := under_replace_self hfull (.table .header (large ++ [(name, value)]))
  have others {other : String} (different : other ≠ key) :
      (full.replace key (.table .header (large ++ [(name, value)]))).under other = full.under other := by
    rw [under_replace, if_neg different.symm]
  refine ⟨_, carries, fun other ↦ ?_, ?_, fun other more _ different ↦ ?_⟩
  · by_cases here : other = key
    · subst here
      refine .inr ⟨.header, _, inner, hgrown, hrest, fun other absent ↦ ?_⟩
      have unlike : name ≠ other := fun same ↦ absent (same ▸ mem)
      rw [under_append, if_neg unlike, agree other absent]
    · rw [others here]
      exact wider other
  · rw [inside_of_under hgrown, under_append, if_pos rfl, fresh]
    rfl
  · by_cases here : other = key
    · subst here
      rw [inside_of_under hgrown, inside_of_under hfull, under_append,
        if_neg (different.resolve_left fun unlike ↦ unlike rfl).symm]
    · exact inside_congr (others here) more

end Table

end PubSub.Toml
