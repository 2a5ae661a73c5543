import PubSub.Proofs.Config.Writing
/-!
# A configuration file overlays the defaults

The fields that a file sets are added to what the rest of the file says. The rest must be well formed and say nothing
of the fields; then the configuration has the fields that are set, and the defaults for all others. A port or a level
out of range is refused, whatever stands before or behind it.
-/

namespace PubSub

open Toml

namespace Config

/-- All fields. -/
def Field.every : List Field :=
  [protocol, host, port, path, username, password, qos, retain, autoConnect]

/-- The keys of the fields that belong to a table of the file. -/
def fieldKeys (key : String) : List String :=
  (Field.every.filter (·.part.key == key)).map Field.key

theorem Field.mem_every (field : Field) : field ∈ every := by
  cases field <;> decide

theorem mem_fieldKeys_iff {key name : String} :
    name ∈ fieldKeys key ↔ ∃ field : Field, field.part.key = key ∧ field.key = name := by
  simp [fieldKeys, Field.mem_every]

theorem Field.mem_fieldKeys (field : Field) : field.key ∈ fieldKeys field.part.key :=
  mem_fieldKeys_iff.2 ⟨field, rfl, rfl⟩

variable {current next : Option Part} {items : List Item} {path : List String} {full rest built : Table}

/-- Whether the part whose fields may come next is the table that takes assignments. -/
def Leads (current : Option Part) (path : List String) (table : Table) : Prop :=
  ∀ part, current = some part → path = [part.key] ∧ table.IsOpened part.key

theorem Leads.none (path : List String) (table : Table) : Leads none path table := by
  rintro _ ⟨⟩

theorem foldl_after_of_assignments {said : List Statement} (plain : said.all (· matches .assign ..) = true) :
    said.foldl Statement.after path = path := by
  induction said with
  | nil => rfl
  | cons first said ih =>
    obtain ⟨assigns, plain⟩ := Bool.and_eq_true_iff.1 (List.all_cons ▸ plain)
    cases first with
    | assign => exact ih plain
    | _ => cases assigns

theorem Leads.other {text : String} (leads : Leads current path rest)
    (accepted : (Item.other text).after? current = some next)
    (builds : Table.build rest path (Item.other text).said = some built) :
    Leads next ((Item.other text).said.foldl Statement.after path) built := by
  obtain ⟨said, reads, decides⟩ := Option.map_eq_some_iff.1 accepted
  have same : (Item.other text).said = said := by simp [Item.said, reads]
  rw [same] at builds ⊢
  intro part expected
  split at decides
  · rename_i plain
    subst decides
    obtain ⟨here, opened⟩ := leads part expected
    exact ⟨(foldl_after_of_assignments plain).trans here, Table.isOpened_of_build builds opened⟩
  · rw [← decides] at expected
    cases expected

theorem Leads.opens {part : Part} (builds : Table.build rest path (Item.opens part).said = some built) :
    Leads (some part) ((Item.opens part).said.foldl Statement.after path) built := by
  rintro _ ⟨⟩
  obtain ⟨opened, carried, same⟩ := Option.bind_eq_some_iff.1 (Table.build_cons .. ▸ builds)
  obtain rfl := Option.some.inj same
  exact ⟨rfl, Table.isOpened_of_openTable carried⟩

theorem Leads.step {item : Item} (leads : Leads current path rest) (accepted : item.after? current = some next)
    (builds : Table.build rest path item.said = some built) :
    Leads next (item.said.foldl Statement.after path) built := by
  cases item with
  | opens part =>
    cases accepted
    exact .opens builds
  | other text => exact leads.other accepted builds
  | sets assignment =>
    obtain ⟨-, rfl⟩ := Item.after?_sets accepted
    intro part expected
    obtain ⟨here, opened⟩ := leads part expected
    exact ⟨here, Table.isOpened_of_build builds opened⟩

theorem Leads.run (leads : Leads current path rest) (placed : items.foldlM Item.after? current = some next)
    (builds : Table.build rest path (items.flatMap Item.said) = some built) :
    Leads next ((items.flatMap Item.said).foldl Statement.after path) built := by
  induction items generalizing current path rest with
  | nil =>
    cases placed
    cases builds
    exact leads
  | cons item items ih =>
    rw [List.foldlM_cons] at placed
    obtain ⟨middle, accepted, placed⟩ := Option.bind_eq_some_iff.1 placed
    rw [List.flatMap_cons, Table.build_append] at builds
    obtain ⟨table, first, builds⟩ := Option.bind_eq_some_iff.1 builds
    rw [List.flatMap_cons, List.foldl_append]
    exact ih (leads.step accepted first) placed builds

/-! ## Overlaying -/

/-- Whether a table has been given the fields that items set, and no other field. -/
structure Adds (items : List Item) (full grown : Table) : Prop where
  tells : ∀ assignment ∈ assignments items, assignment.field.told grown = [assignment.field.value assignment.value]
  others : ∀ field, field ∉ (assignments items).map Assignment.field → field.told grown = field.told full

namespace Adds

variable {item : Item} {assignment : Assignment} {table grown : Table}

theorem nil (table : Table) : Adds [] table table :=
  ⟨by simp [assignments], fun _ _ ↦ rfl⟩

theorem keep (adds : Adds items table grown) (kept : item.assignment? = none)
    (unchanged : ∀ field : Field, field.told table = field.told full) : Adds (item :: items) full grown := by
  have same : assignments (item :: items) = assignments items := assignments_cons_of_kept kept
  refine ⟨same ▸ adds.tells, fun field absent ↦ ?_⟩
  exact (adds.others field (same ▸ absent)).trans (unchanged field)

theorem assign (adds : Adds items table grown) (unique : assignment.field ∉ (assignments items).map Assignment.field)
    (tells : assignment.field.told table = [assignment.field.value assignment.value])
    (unchanged : ∀ field, field ≠ assignment.field → field.told table = field.told full) :
    Adds (.sets assignment :: items) full grown := by
  constructor
  · intro later mem
    rcases List.mem_cons.1 mem with rfl | mem
    · exact (adds.others _ unique).trans tells
    · exact adds.tells later mem
  · intro field absent
    obtain ⟨other, absent⟩ := not_or.1 (mt List.mem_cons.2 absent)
    exact (adds.others field absent).trans (unchanged field other)

end Adds

/-- Items that can be carried out without the fields that they set can be carried out with them. -/
theorem exists_build_items (placed : items.foldlM Item.after? current = some next) (leads : Leads current path rest)
    (wider : full.Extends fieldKeys rest)
    (builds : Table.build rest path ((remainder items).flatMap Item.said) = some built)
    (silent : built.Silent fieldKeys) (distinct : ((assignments items).map Assignment.field).Nodup)
    (fresh : ∀ assignment ∈ assignments items, assignment.field.told full = []) :
    ∃ grown, Table.build full path (items.flatMap Item.said) = some grown ∧ grown.Extends fieldKeys built ∧
      Adds items full grown := by
  induction items generalizing current path full rest with
  | nil => exact ⟨full, rfl, Option.some.inj builds ▸ wider, .nil full⟩
  | cons item items ih =>
    rw [List.foldlM_cons] at placed
    obtain ⟨middle, accepted, placed⟩ := Option.bind_eq_some_iff.1 placed
    rw [List.flatMap_cons, Table.build_append]
    cases kept : item.assignment? with
    | none =>
      -- Such an item is carried out on both tables.
      rw [remainder_cons_of_kept kept, List.flatMap_cons, Table.build_append] at builds
      rw [assignments_cons_of_kept kept] at distinct fresh
      obtain ⟨table, first, builds⟩ := Option.bind_eq_some_iff.1 builds
      obtain ⟨grown, carries, still, told⟩ := wider.build first (Table.silent_of_build builds silent)
      have unchanged (field : Field) : field.told grown = field.told full := told _ _ field.mem_fieldKeys
      obtain ⟨final, ends, covers, adds⟩ := ih placed (leads.step accepted first) still builds distinct
        fun assignment mem ↦ (unchanged _).trans (fresh assignment mem)
      exact ⟨final, by rw [carries]; exact ends, covers, adds.keep kept unchanged⟩
    | some assignment =>
      obtain rfl := Item.eq_sets kept
      obtain ⟨here, rfl⟩ := Item.after?_sets accepted
      obtain ⟨rfl, opened⟩ := leads _ here
      obtain ⟨unique, distinct⟩ := List.nodup_cons.1 distinct
      obtain ⟨grown, carries, still, tells, others⟩ := wider.assignment opened assignment.field.mem_fieldKeys
        (fresh assignment List.mem_cons_self) (assignment.field.value assignment.value)
      have unchanged (field : Field) (other : field ≠ assignment.field) : field.told grown = field.told full :=
        others _ _ field.mem_fieldKeys (.inr (mt Field.eq_of_key_eq other))
      have first : Table.build full [assignment.field.part.key] (Item.sets assignment).said = some grown :=
        (Table.build_cons ..).trans (by rw [carries]; rfl)
      obtain ⟨final, ends, covers, adds⟩ := ih placed leads still builds distinct fun later mem ↦
        (unchanged _ fun twice ↦ unique (twice ▸ List.mem_map_of_mem mem)).trans
          (fresh later (List.mem_cons_of_mem _ mem))
      exact ⟨final, by rw [first]; exact ends, covers, adds.assign unique tells unchanged⟩

/-- Whether a table says nothing of a field: it lacks the table of the field's part, or that one lacks the field. -/
def Field.isOpenIn (table : Table) (field : Field) : Bool :=
  match table.get? field.part.key with
  | none => true
  | some (.table _ entries) => (Table.get? entries field.key).isNone
  | some _ => false

theorem Field.under_of_isOpenIn {table : Table} {field : Field} (isOpen : field.isOpenIn table = true)
    (single : (table.under field.part.key).length ≤ 1) : table.under field.part.key = [] ∨ ∃ origin entries,
      table.under field.part.key = [.table origin entries] ∧ Table.under field.key entries = [] := by
  unfold isOpenIn at isOpen
  rw [Table.get?_eq_head?] at isOpen
  rcases values : table.under field.part.key with _ | ⟨value, _ | ⟨_, _⟩⟩
  · exact .inl rfl
  · rw [values, List.head?_cons] at isOpen
    cases value with
    | table origin entries =>
      exact .inr ⟨origin, entries, rfl, Table.get?_eq_none_iff.1 (Option.isNone_iff_eq_none.1 isOpen)⟩
    | _ => cases isOpen
  · simp [values] at single

theorem Field.told_of_isOpenIn {table : Table} {field : Field} (isOpen : field.isOpenIn table = true)
    (single : (table.under field.part.key).length ≤ 1) : field.told table = [] := by
  rcases field.under_of_isOpenIn isOpen single with none | ⟨origin, entries, found, absent⟩
  · rw [told, Table.inside, none]
  · rw [told, Table.inside_of_under found, absent]

theorem IsTabular.of_extends {part : Part} (tabular : IsTabular part rest) (wider : full.Extends fieldKeys rest) :
    IsTabular part full := by
  rcases wider part.key with same | ⟨origin, large, _, hfull, -⟩
  · rwa [IsTabular, same]
  · exact .inr ⟨origin, large, hfull⟩

/-- A configuration with given contents of its fields. -/
def ofFields (contents : (field : Field) → field.Data) : Config :=
  ⟨⟨contents .protocol, contents .host, contents .port, contents .path, contents .username, contents .password⟩,
    ⟨contents .qos, contents .retain⟩, ⟨contents .autoConnect⟩⟩

theorem content_ofFields (contents : (field : Field) → field.Data) (field : Field) :
    (ofFields contents).content field = contents field := by
  cases field <;> rfl

/-- What an assigned field comes to, or a field that is left open. -/
theorem exists_content {grown : Table} (adds : Adds items [] grown) (field : Field) : ∃ content : field.Data,
    Settles field.read (field.told grown) (standard.content field) content ∧
      (∀ value, ⟨field, value⟩ ∈ assignments items → content = value) ∧
      (field ∉ (assignments items).map Assignment.field → content = standard.content field) := by
  by_cases given : field ∈ (assignments items).map Assignment.field
  · obtain ⟨⟨named, value⟩, mem, rfl⟩ := List.mem_map.1 given
    have tells : named.told grown = [named.value value] := adds.tells ⟨named, value⟩ mem
    refine ⟨value, tells ▸ .singleton (named.read_value value), fun other among ↦ ?_, absurd given⟩
    have also : named.told grown = [named.value other] := adds.tells ⟨named, other⟩ among
    have reads := congrArg named.read (List.cons.inj (tells.symm.trans also)).1
    rw [named.read_value, named.read_value] at reads
    exact Except.ok.inj reads
  · have silent : field.told grown = [] := adds.others field given
    refine ⟨standard.content field, silent ▸ .nil, fun value among ↦ ?_, fun _ ↦ rfl⟩
    exact absurd (List.mem_map_of_mem among) given

/-- A file whose remainder is well formed and says nothing of the fields sets exactly the fields that it assigns. -/
theorem exists_parse_document (placed : (after? items).isSome)
    (distinct : ((assignments items).map Assignment.field).Nodup)
    (wellFormed : parse? (document (remainder items)) = some rest)
    (silent : ∀ field : Field, field.isOpenIn rest = true) : ∃ config, parse (document items) = .ok config ∧
      (∀ assignment ∈ assignments items, config.content assignment.field = assignment.value) ∧
      ∀ field, field ∉ (assignments items).map Assignment.field → config.content field = standard.content field := by
  obtain ⟨next, placed⟩ := Option.isSome_iff_exists.1 placed
  have readable (item : Item) (mem : item ∈ items) := read?_text_of_mem placed mem
  have kept (item : Item) (mem : item ∈ remainder items) : read? (item.text.toList ++ ['\n']) = some item.said :=
    readable item (List.mem_filter.1 mem).1
  have builds : Table.build [] [] ((remainder items).flatMap Item.said) = some rest := by
    rw [← wellFormed, parse?_document kept]
  have single := Table.length_under_of_build builds
  have unsaid : rest.Silent fieldKeys := by
    intro key name mem
    obtain ⟨field, rfl, rfl⟩ := mem_fieldKeys_iff.1 mem
    exact field.told_of_isOpenIn (silent field) (single _)
  obtain ⟨grown, carries, wider, adds⟩ :=
    exists_build_items placed (.none [] []) (.refl fieldKeys []) builds unsaid distinct fun _ _ ↦ rfl
  have tabular (part : Part) : IsTabular part grown := by
    have tabular (field : Field) : IsTabular field.part rest :=
      (field.under_of_isOpenIn (silent field) (single _)).imp_right fun ⟨origin, entries, found, _⟩ ↦
        ⟨origin, entries, found⟩
    refine IsTabular.of_extends ?_ wider
    cases part with
    | broker => exact tabular .host
    | channels => exact tabular .qos
    | behavior => exact tabular .autoConnect
  obtain ⟨contents, h⟩ := Classical.axiomOfChoice (exists_content adds)
  refine ⟨ofFields contents, ?_, fun assignment mem ↦ ?_, fun field absent ↦ ?_⟩
  · rw [parse, parse?_document readable, carries]
    refine foldlM_withEntry_of_told tabular fun field ↦ ?_
    rw [content_ofFields]
    exact (h field).1
  · rw [content_ofFields]
    exact (h assignment.field).2.1 _ mem
  · rw [content_ofFields]
    exact (h field).2.2 absent

/-! ## Without other text -/

theorem remainder_of_bare (bare : ∀ text, .other text ∉ items) :
    remainder items = (items.filterMap Item.part?).map .opens := by
  induction items with
  | nil => rfl
  | cons item items ih =>
    have same := ih fun text mem ↦ bare text (List.mem_cons_of_mem _ mem)
    cases item with
    | opens part => exact congrArg (Item.opens part :: ·) same
    | sets => exact same
    | other text => exact absurd List.mem_cons_self (bare text)

theorem build_headers {parts : List Part} (distinct : parts.Nodup) (fresh : ∀ part ∈ parts, rest.under part.key = []) :
    Table.build rest path ((parts.map Item.opens).flatMap Item.said) =
      some (rest ++ parts.map fun part ↦ (part.key, .table .header [])) := by
  induction parts generalizing rest path with
  | nil => simp [Table.build]
  | cons part parts ih =>
    obtain ⟨absent, distinct⟩ := List.nodup_cons.1 distinct
    have opened : (Statement.header [] part.key).carry path rest = some (rest ++ [(part.key, .table .header [])]) :=
      Table.openTable_of_under_nil (fresh part List.mem_cons_self)
    have still (other : Part) (mem : other ∈ parts) :
        Table.under other.key (rest ++ [(part.key, .table .header [])]) = [] := by
      have unlike : part.key ≠ other.key := fun same ↦ absent (Part.eq_of_key_eq same ▸ mem)
      rw [Table.under_append, if_neg unlike]
      exact fresh other (List.mem_cons_of_mem _ mem)
    have first : ((part :: parts).map Item.opens).flatMap Item.said =
        .header [] part.key :: (parts.map Item.opens).flatMap Item.said := rfl
    rw [first, Table.build_cons, opened, Option.bind_some, ih distinct still, List.append_assoc]
    rfl

/-- Headers alone are well formed if each is there at most once, and they say nothing of the fields. -/
theorem exists_parse?_remainder (bare : ∀ text, .other text ∉ items) (distinct : (items.filterMap Item.part?).Nodup) :
    ∃ rest, parse? (document (remainder items)) = some rest ∧ ∀ field : Field, field.isOpenIn rest = true := by
  rw [remainder_of_bare bare]
  generalize items.filterMap Item.part? = parts at distinct ⊢
  refine ⟨parts.map fun part ↦ (part.key, .table .header []), ?_, fun field ↦ ?_⟩
  · rw [parse?_document, build_headers distinct fun _ _ ↦ Table.under_nil _]
    · rfl
    · intro item mem
      obtain ⟨part, -, rfl⟩ := List.mem_map.1 mem
      exact read?_heading part.isBareWord_key
  · have empty {value : Value} (found : Table.get? (parts.map fun part ↦ (part.key, .table .header [])) field.part.key =
        some value) : value = .table .header [] := by
      obtain ⟨entry, among, rfl⟩ := Option.map_eq_some_iff.1 found
      obtain ⟨part, -, rfl⟩ := List.mem_map.1 (List.mem_of_find?_eq_some among)
      rfl
    unfold Field.isOpenIn
    split
    · rfl
    · rename_i entries found
      obtain ⟨-, rfl⟩ := Value.table.inj (empty found)
      rfl
    · rename_i untabled found
      exact absurd (empty found) (untabled _ _)

/-! ## Out of range -/

theorem exists_toList_document (some : items ≠ []) : ∃ text, (document items).toList = text ++ ['\n'] := by
  induction items with
  | nil => exact absurd rfl some
  | cons item items ih =>
    rw [toList_document_cons]
    by_cases last : items = []
    · subst last
      exact ⟨item.text.toList, rfl⟩
    · obtain ⟨text, same⟩ := ih last
      exact ⟨item.text.toList ++ '\n' :: text, by rw [same]; simp⟩

/-- The document says an integer that stands where its field may stand, whatever follows. -/
theorem Field.told_of_parse? {field : Field} {before : List Item} (placed : after? before = some (some field.part))
    {n : Int} {after : String} {table : Table}
    (parses : parse? (document before ++ Toml.assignment field.key (toString n) ++ "\n" ++ after) = some table) :
    field.told table = [.integer n] := by
  have readable := read?_document fun item mem ↦ read?_text_of_mem placed mem
  have begun : before ≠ [] := by
    rintro rfl
    cases placed
  obtain ⟨text, ends⟩ := exists_toList_document begun
  rw [ends] at readable
  have whole : (document before ++ Toml.assignment field.key (toString n) ++ "\n" ++ after).toList =
      text ++ '\n' :: ((Toml.assignment field.key (toString n)).toList ++ '\n' :: after.toList) := by
    simp [ends]
  have plain := not_mem_assignment field.isBareWord_key (not_mem_toString n)
  have line : unifyLineEnds ((Toml.assignment field.key (toString n)).toList ++ '\n' :: after.toList) =
      (Toml.assignment field.key (toString n)).toList ++ '\n' :: unifyLineEnds after.toList := by
    rw [unifyLineEnds_append plain, unifyLineEnds]
    exact fun _ carriage ↦ absurd carriage (by decide)
  rw [parse?_eq, whole, dropByteOrderMark_append readable] at parses
  obtain ⟨all, reads, builds⟩ := Option.bind_eq_some_iff.1 parses
  obtain ⟨fuel, found, follows, rfl⟩ := exists_of_read?_append readable reads
  rw [line] at follows
  obtain ⟨others, tells⟩ := statements_integer field.isBareWord_key follows
  rw [tells, Table.build_append] at builds
  obtain ⟨middle, first, builds⟩ := Option.bind_eq_some_iff.1 builds
  obtain ⟨here, opened⟩ := Leads.run (.none [] []) placed first field.part rfl
  rw [here, Table.build_cons] at builds
  obtain ⟨grown, carried, builds⟩ := Option.bind_eq_some_iff.1 builds
  exact Table.build_keeps (fun table ↦ field.told table = [.integer n])
    (fun operation carried has ↦ operation.inside_integer carried has) builds
    (Table.inside_of_assignment opened carried)

/-- A field that refuses an integer makes the file refused, whatever stands before or behind it. -/
theorem exists_parse_eq_error (field : Field) {before : List Item} (placed : after? before = some (some field.part))
    {n : Int} (refused : ∃ fault, field.read (.integer n) = .error fault) (after : String) :
    ∃ fault, parse (document before ++ Toml.assignment field.key (toString n) ++ "\n" ++ after) = .error fault := by
  obtain ⟨fault, refused⟩ := refused
  unfold parse
  split
  · exact ⟨_, rfl⟩
  · rename_i table parses
    exact exists_foldlM_withEntry_eq_error (field.told_of_parse? placed parses) refused

/-- Reading a file overlays the defaults. Take any items in any order, fields standing below the header of their part
and each at most once. If what is left of the file without the fields is well formed and says nothing of them, then the
file is read as the configuration that has the assigned fields, and the defaults for all others. Headers alone are such
a rest, if none is there twice. A port or a level of a delivery guarantee out of range is refused, whatever stands
behind it and whatever its part has begun with. -/
theorem parse_overlays :
    (∀ items rest, (after? items).isSome = true → ((assignments items).map Assignment.field).Nodup →
      parse? (document (remainder items)) = some rest → (∀ field : Field, field.isOpenIn rest = true) →
        ∃ config, parse (document items) = .ok config ∧
          (∀ assignment ∈ assignments items, config.content assignment.field = assignment.value) ∧
          ∀ field, field ∉ (assignments items).map Assignment.field → config.content field = standard.content field) ∧
    (∀ items, (∀ text, .other text ∉ items) → (items.filterMap Item.part?).Nodup →
      ∃ rest, parse? (document (remainder items)) = some rest ∧ ∀ field : Field, field.isOpenIn rest = true) ∧
    (∀ before (port : Int) after, after? before = some (some .broker) → ¬(0 ≤ port ∧ port ≤ 65535) →
      ∃ fault, parse (document before ++ Toml.assignment "port" (toString port) ++ "\n" ++ after) = .error fault) ∧
    ∀ before (level : Int) after, after? before = some (some .channels) → ¬(0 ≤ level ∧ level ≤ 2) →
      ∃ fault, parse (document before ++ Toml.assignment "qos" (toString level) ++ "\n" ++ after) = .error fault := by
  refine ⟨fun items rest placed distinct wellFormed silent ↦ exists_parse_document placed distinct wellFormed silent,
    fun items bare distinct ↦ exists_parse?_remainder bare distinct, fun before port after placed outside ↦ ?_,
    fun before level after placed outside ↦ ?_⟩
  · exact exists_parse_eq_error .port placed (read_port_of_not outside) after
  · exact exists_parse_eq_error .qos placed (read_qos_of_not outside) after

/-- The parts in another order, keys that are no field among the fields, and a text that needs escapes: the file is read,
and it is refused once the port 65536 follows. A level of -1 is refused as well. -/
theorem parse_overlays_reordered :
    let items : List Item := [.other "title = 'relay'  # no field", .opens .channels, .sets ⟨.retain, true⟩,
      .other "limits = [1, 2]", .sets ⟨.qos, .exactlyOnce⟩, .opens .broker, .sets ⟨.password, "a\"\\\n\x01"⟩,
      .other "tls = \x7b on = false \x7d"]
    (∃ config, parse (document items) = .ok config ∧ config.channels.retain = true ∧
      config.channels.qos = .exactlyOnce ∧ config.broker.password = "a\"\\\n\x01" ∧
      config.broker.port = standard.broker.port) ∧
    (∃ rest, parse? (document (remainder [.opens .behavior, .opens .broker, .sets ⟨.port, 8883⟩])) = some rest ∧
      ∀ field : Field, field.isOpenIn rest = true) ∧
    (∃ fault, parse (document items ++ Toml.assignment "port" (toString (65536 : Int)) ++ "\n" ++ "[logging]") =
      .error fault) ∧
    ∃ fault, parse (document [.opens .broker, .sets ⟨.port, 8883⟩, .opens .channels] ++
      Toml.assignment "qos" (toString (-1 : Int)) ++ "\n" ++ "") = .error fault := by
  intro items
  obtain ⟨overlays, opens, port, level⟩ := parse_overlays
  have accepted : (parse? (document (remainder items))).any (fun rest ↦ Field.every.all (·.isOpenIn rest)) = true := by
    decide +kernel
  obtain ⟨rest, wellFormed, silent⟩ := (Option.any_eq_true _ _).1 accepted
  obtain ⟨config, parsed, tells, others⟩ := overlays items rest (by decide +kernel) (by decide) wellFormed
    fun field ↦ List.all_eq_true.1 silent field field.mem_every
  have held : assignments items = [⟨.retain, true⟩, ⟨.qos, .exactlyOnce⟩, ⟨.password, "a\"\\\n\x01"⟩] := rfl
  refine ⟨⟨config, parsed, tells ⟨.retain, true⟩ ?_, tells ⟨.qos, .exactlyOnce⟩ ?_, tells ⟨.password, _⟩ ?_,
      others .port (by decide)⟩, opens _ (by simp) (by decide),
    port items 65536 "[logging]" (by decide +kernel) (by decide),
    level [.opens .broker, .sets ⟨.port, 8883⟩, .opens .channels] (-1) "" (by decide +kernel) (by decide)⟩
  · simp [held]
  · simp [held]
  · simp [held]

end Config

end PubSub
