import PubSub.MessagePack.Packable
import PubSub.Proofs.MessagePack.Item
import Mathlib.Data.List.Nodup
import Mathlib.Data.List.Perm.Basic
/-!
# Records in maps

What a map says of the fields of a record does not depend on the order of its entries, and entries under other strings
say nothing. A field may be left out, which is then for the reader of the record to judge, but no field may be there
twice, by its name or by its number.
-/

namespace PubSub.MessagePack

/-! ## Texts -/

theorem length_ofString (text : String) : (Bytes.ofString text).length = text.utf8ByteSize := by
  simp [Bytes.ofString]

theorem ofString_injective : Function.Injective Bytes.ofString := by
  intro text other same
  have read := Bytes.toString?_ofString text
  rw [same, Bytes.toString?_ofString] at read
  exact (Option.some.inj read).symm

/-! ## Keys -/

/-- Whether a key is a string that names no field. -/
def IsForeign (names : List String) (key : Item) : Prop :=
  ∃ bytes, key.stringBytes? = some bytes ∧ ∀ name ∈ names, Bytes.ofString name ≠ bytes

/-- Whether a key stands for a field, as its name or as its number. -/
inductive IsKey (names : List String) (index : Nat) : Item → Prop
  | name {name : String} {key : Item} (known : names[index]? = some name)
    (string : key.stringBytes? = some (Bytes.ofString name)) : IsKey names index key
  | number {value : UInt64} (known : index < names.length) (numbers : value.toNat = index) :
    IsKey names index (.unsigned value)

variable {names : List String} {index : Nat} {key : Item} {bytes : Bytes}

theorem IsKey.lt_length (stands : IsKey names index key) : index < names.length := by
  cases stands with
  | name known => exact (List.getElem?_eq_some_iff.1 known).1
  | number known => exact known

theorem isKey_ofString {name : String} (known : names[index]? = some name) :
    IsKey names index (Item.ofString name) :=
  .name known rfl

/-- A string stands for the field that it names, if there is one. -/
theorem of?_of_stringBytes? (string : key.stringBytes? = some bytes) :
    FieldKey.of? names key = some ((names.findIdx? fun name ↦ Bytes.ofString name == bytes).elim .unknown .field) := by
  cases key with
  | text | binary =>
    cases string
    simp only [FieldKey.of?, Item.stringBytes?, Option.bind_eq_bind, Option.bind_some]
    split
    · rename_i found
      rw [found]
      rfl
    · rename_i unfound
      rw [unfound]
      rfl
  | _ => cases string

theorem IsForeign.of?_eq (foreign : IsForeign names key) : FieldKey.of? names key = some .unknown := by
  obtain ⟨bytes, string, others⟩ := foreign
  have unfound : names.findIdx? (fun name ↦ Bytes.ofString name == bytes) = none := by
    rw [List.findIdx?_eq_none_iff]
    exact fun name hmem ↦ beq_eq_false_iff_ne.2 (others name hmem)
  rw [of?_of_stringBytes? string, unfound, Option.elim_none]

theorem IsKey.of?_eq (nodup : names.Nodup) (stands : IsKey names index key) :
    FieldKey.of? names key = some (.field index) := by
  cases stands with
  | @name name _ known string =>
    obtain ⟨within, same⟩ := List.getElem?_eq_some_iff.1 known
    have found : names.findIdx? (fun other ↦ Bytes.ofString other == Bytes.ofString name) = some index := by
      rw [List.findIdx?_eq_some_iff_getElem]
      refine ⟨within, by simp [same], fun earlier before equal ↦ ?_⟩
      have twice : names[earlier] = names[index] := (ofString_injective (beq_iff_eq.1 equal)).trans same.symm
      exact Nat.ne_of_lt before (nodup.getElem_inj_iff.1 twice)
    rw [of?_of_stringBytes? string, found, Option.elim_some]
  | @number value known numbers =>
    rw [FieldKey.of?, numbers, if_pos known]

/-! ## Values of fields -/

section Fields

variable {value : Item} {found fields : List (Option Item)} {stands : FieldKey}

/-- The values of the fields with one more, if its field has none yet. -/
def fill? (value : Item) (found : List (Option Item)) : FieldKey → Option (List (Option Item))
  | .unknown => some found
  | .field index => if (found[index]?.join).isSome then none else some (found.set index (some value))

theorem fill?_field (value : Item) (found : List (Option Item)) (index : Nat) :
    fill? value found (.field index) =
      if (found[index]?.join).isSome then none else some (found.set index (some value)) :=
  rfl

theorem fill?_field_eq_some_iff : fill? value found (.field index) = some fields ↔
    ¬(found[index]?.join).isSome ∧ found.set index (some value) = fields := by
  rw [fill?_field]
  split <;> simp [*]

theorem length_of_fill? (fills : fill? value found stands = some fields) : fields.length = found.length := by
  cases stands with
  | unknown =>
    cases fills
    rfl
  | field index =>
    obtain ⟨-, rfl⟩ := fill?_field_eq_some_iff.1 fills
    exact List.length_set

theorem getElem?_of_fill? (within : index < found.length) (fills : fill? value found (.field index) = some fields) :
    fields[index]? = some (some value) := by
  obtain ⟨-, rfl⟩ := fill?_field_eq_some_iff.1 fills
  rw [List.getElem?_set_self within]

/-- Two values may be filled in either order. If both are for one field, then neither order succeeds; otherwise neither
of them sees what the other has filled. -/
theorem fill?_comm (value other : Item) (left right : FieldKey) (found : List (Option Item)) :
    ((fill? value found left).bind fun found ↦ fill? other found right) =
      (fill? other found right).bind fun found ↦ fill? value found left := by
  cases left with
  | unknown => cases right <;> simp [fill?]
  | field i =>
    cases right with
    | unknown => simp [fill?]
    | field j =>
      simp only [fill?_field]
      by_cases same : i = j
      · subst same
        by_cases within : i < found.length
        · split <;> simp [within]
        · have outside : found.length ≤ i := Nat.le_of_not_lt within
          simp [List.set_eq_of_length_le outside, outside]
      · have left : (found.set i (some value))[j]? = found[j]? := List.getElem?_set_ne same
        have right : (found.set j (some other))[i]? = found[i]? := List.getElem?_set_ne (Ne.symm same)
        split
        · rename_i taken
          split <;> simp [right, taken]
        · rename_i free
          split
          · rename_i taken
            simp [left, taken]
          · rename_i alsoFree
            simp [left, right, free, alsoFree, List.set_comm _ _ same]

end Fields

/-! ## Maps -/

variable {entry first second : Item × Item} {entries others foreign : List (Item × Item)} {fields : List (Option Item)}

/-- The values of the fields after one more entry. -/
def place? (names : List String) (entry : Item × Item) (found : Option (List (Option Item))) :
    Option (List (Option Item)) :=
  found.bind fun found ↦ (FieldKey.of? names entry.1).bind (fill? entry.2 found)

theorem fieldsOfMap?_cons (names : List String) (entry : Item × Item) (rest : List (Item × Item)) :
    fieldsOfMap? names (entry :: rest) = place? names entry (fieldsOfMap? names rest) := by
  refine Option.bind_congr fun found _ ↦ Option.bind_congr fun key _ ↦ ?_
  cases key <;> rfl

theorem fieldsOfMap?_eq_foldr (names : List String) (entries : List (Item × Item)) :
    fieldsOfMap? names entries = entries.foldr (place? names) (some (names.map fun _ ↦ none)) := by
  induction entries with
  | nil => rfl
  | cons entry rest ih => rw [fieldsOfMap?_cons, ih, List.foldr_cons]

theorem length_of_fieldsOfMap? (reads : fieldsOfMap? names entries = some fields) : fields.length = names.length := by
  induction entries generalizing fields with
  | nil =>
    cases reads
    exact List.length_map _
  | cons entry rest ih =>
    rw [fieldsOfMap?_cons] at reads
    obtain ⟨found, earlier, fills⟩ := Option.bind_eq_some_iff.1 reads
    obtain ⟨key, -, fills⟩ := Option.bind_eq_some_iff.1 fills
    exact (length_of_fill? fills).trans (ih earlier)

instance (names : List String) : LeftCommutative (place? names) where
  left_comm first second found := by
    cases found with
    | none => rfl
    | some found =>
      simp only [place?, Option.bind_some]
      cases FieldKey.of? names first.1 with
      | none => simp
      | some left =>
        cases FieldKey.of? names second.1 with
        | none => simp
        | some right => exact fill?_comm second.2 first.2 right left found

/-- The order of entries does not matter. -/
theorem fieldsOfMap?_perm (order : entries.Perm others) : fieldsOfMap? names entries = fieldsOfMap? names others := by
  rw [fieldsOfMap?_eq_foldr, fieldsOfMap?_eq_foldr, order.foldr_eq]

/-- Entries under foreign keys say nothing. -/
theorem fieldsOfMap?_append_foreign (foreign : ∀ entry ∈ others, IsForeign names entry.1) :
    fieldsOfMap? names (entries ++ others) = fieldsOfMap? names entries := by
  rw [fieldsOfMap?_perm List.perm_append_comm]
  induction others with
  | nil => rfl
  | cons entry rest ih =>
    rw [List.forall_mem_cons] at foreign
    rw [List.cons_append, fieldsOfMap?_cons, ih foreign.2, place?, foreign.1.of?_eq]
    exact Option.bind_fun_some _

/-- What an entry says of a field is what is read of the field. -/
theorem getElem?_of_fieldsOfMap? (nodup : names.Nodup) (stands : IsKey names index entry.1) (among : entry ∈ entries)
    (reads : fieldsOfMap? names entries = some fields) : fields[index]? = some (some entry.2) := by
  obtain ⟨before, after, rfl⟩ := List.append_of_mem among
  rw [fieldsOfMap?_perm List.perm_middle, fieldsOfMap?_cons, place?, stands.of?_eq nodup] at reads
  obtain ⟨found, earlier, fills⟩ := Option.bind_eq_some_iff.1 reads
  exact getElem?_of_fill? (length_of_fieldsOfMap? earlier ▸ stands.lt_length) fills

/-- Whether a map has two entries for one field. -/
def Twice (names : List String) (entries : List (Item × Item)) : Prop :=
  ∃ index first second rest, IsKey names index first.1 ∧ IsKey names index second.1 ∧
    entries.Perm (first :: second :: rest)

/-- A map with two entries for one field is refused. -/
theorem fieldsOfMap?_of_twice (nodup : names.Nodup) (twice : Twice names entries) :
    fieldsOfMap? names entries = none := by
  obtain ⟨index, first, second, rest, left, right, order⟩ := twice
  rw [fieldsOfMap?_perm order, fieldsOfMap?_cons]
  cases reads : fieldsOfMap? names (second :: rest) with
  | none => rfl
  | some fields =>
    have taken := getElem?_of_fieldsOfMap? nodup right List.mem_cons_self reads
    rw [place?, left.of?_eq nodup, Option.bind_some, Option.bind_some, fill?_field, taken]
    rfl

/-! ## Records -/

section Records

variable {fields : List (String × Item)} {keep : String → Bool} {whole : Item}

/-- The entries that a record has for fields. -/
def entriesOf (fields : List (String × Item)) : List (Item × Item) :=
  fields.map fun field ↦ (Item.ofString field.1, field.2)

/-- What is told of a field if not all of them are kept. -/
def kept (keep : String → Bool) (field : String × Item) : Option Item :=
  if keep field.1 then some field.2 else none

/-- Whether a map has the entries of a record for the fields that are kept, in any order, and besides only entries under
foreign keys. -/
def Tells (keep : String → Bool) (whole : Item) (entries : List (Item × Item)) : Prop :=
  ∃ fields foreign, whole = record fields ∧ (∀ entry ∈ foreign, IsForeign (fields.map Prod.fst) entry.1) ∧
    entries.Perm (entriesOf (fields.filter fun field ↦ keep field.1) ++ foreign)

theorem record_injective : Function.Injective record := by
  intro fields others same
  refine List.map_injective_iff.2 (fun field other equal ↦ ?_) (Item.map.inj same)
  obtain ⟨name, value⟩ := Prod.mk.inj equal
  exact Prod.ext (ofString_injective (Item.text.inj name)) value

/-- The fields of a record that are kept are found under their names. -/
theorem fieldsOfMap?_entriesOf (done : List String) (nodup : (done ++ fields.map Prod.fst).Nodup) :
    fieldsOfMap? (done ++ fields.map Prod.fst) (entriesOf (fields.filter fun field ↦ keep field.1)) =
      some (done.map (fun _ ↦ none) ++ fields.map (kept keep)) := by
  induction fields generalizing done with
  | nil => simp [entriesOf, fieldsOfMap?]
  | cons field rest ih =>
    have later := ih (done ++ [field.1]) (by simpa using nodup)
    rw [List.append_assoc, List.singleton_append] at later
    rw [List.map_cons, List.filter_cons]
    split
    · rename_i stays
      have key : FieldKey.of? (done ++ field.1 :: rest.map Prod.fst) (Item.ofString field.1) =
          some (.field done.length) :=
        (isKey_ofString (by simp)).of?_eq nodup
      rw [entriesOf, List.map_cons, fieldsOfMap?_cons, ← entriesOf, later]
      simp [place?, key, fill?_field, kept, stays]
    · rename_i left
      simp [later, kept, left]

/-- The fields that are kept are found under their names, and no other. -/
theorem fields?_of_tells (tells : Tells keep (record fields) entries) (nodup : (fields.map Prod.fst).Nodup) :
    (Item.map entries).fields? (fields.map Prod.fst) = some (fields.map (kept keep)) := by
  obtain ⟨others, foreign, same, unknown, order⟩ := tells
  obtain rfl := record_injective same
  rw [Item.fields?, fieldsOfMap?_perm order, fieldsOfMap?_append_foreign unknown]
  exact fieldsOfMap?_entriesOf [] nodup

/-- A record has the entries of all its fields. -/
theorem tells_record (fields : List (String × Item)) : Tells (fun _ ↦ true) (record fields) (entriesOf fields) :=
  ⟨fields, [], rfl, by simp, by simp⟩

theorem readBackEntries_entriesOf (fields : List (String × Item)) : Item.readBackEntries (entriesOf fields) =
    entriesOf (fields.map fun field ↦ (field.1, field.2.readBack)) := by
  induction fields with
  | nil => rfl
  | cons field rest ih =>
    rw [entriesOf, List.map_cons, Item.readBackEntries, ← entriesOf, ih]
    rfl

theorem readBack_record (fields : List (String × Item)) :
    (record fields).readBack = record (fields.map fun field ↦ (field.1, field.2.readBack)) :=
  congrArg Item.map (readBackEntries_entriesOf fields)

/-- A record as it is written, but behind any form of its header. -/
theorem written_record {depth : Nat} (header : (Header.map fields.length).Form bytes)
    (fits : (record fields).Fits (depth + 1)) :
    (record fields).readBack.Written (depth + 1) (bytes ++ Item.encodeEntries (entriesOf fields)) := by
  have few : (Item.readBackEntries (entriesOf fields)).length = fields.length := by
    rw [Item.length_readBackEntries, entriesOf, List.length_map]
  rw [← few] at header
  exact .inr (.map header (Item.each_encodeEntries Item.written_encode fits.2.2))

/-- A record that is read back has the entries of all its fields. -/
theorem exists_tells_readBack (fields : List (String × Item)) :
    ∃ entries, (record fields).readBack = .map entries ∧ Tells (fun _ ↦ true) (record fields).readBack entries := by
  rw [readBack_record]
  exact ⟨_, rfl, tells_record _⟩

/-- What is read where a record was written tells the fields of another, if the record has those that are kept, in any
order, and others with other names. -/
theorem tells_readBack_of_perm {foreign others : List (String × Item)}
    (unknown : ∀ field ∈ foreign, field.1 ∉ fields.map Prod.fst)
    (order : others.Perm (fields.filter (fun field ↦ keep field.1) ++ foreign)) :
    Tells keep (record fields).readBack (Item.readBackEntries (entriesOf others)) := by
  refine ⟨_, Item.readBackEntries (entriesOf foreign), readBack_record fields, fun entry among ↦ ?_, ?_⟩
  · rw [readBackEntries_entriesOf, entriesOf, List.map_map] at among
    obtain ⟨field, mem, rfl⟩ := List.mem_map.1 among
    refine ⟨_, rfl, fun name named same ↦ unknown field mem ?_⟩
    obtain rfl := ofString_injective same
    simpa using named
  · have back := order.map fun field ↦ (Item.ofString field.1, field.2.readBack)
    rw [readBackEntries_entriesOf, readBackEntries_entriesOf, List.filter_map]
    simpa [entriesOf, Function.comp_def] using back

/-- The fields of a record that was written are read back, each by itself. -/
theorem fields?_of_tells_readBack (tells : Tells keep (record fields).readBack entries)
    (nodup : (fields.map Prod.fst).Nodup) :
    (Item.map entries).fields? (fields.map Prod.fst) =
      some (fields.map fun field ↦ kept keep (field.1, field.2.readBack)) := by
  have same : (fields.map fun field ↦ (field.1, field.2.readBack)).map Prod.fst = fields.map Prod.fst := by
    simp [Function.comp_def]
  rw [readBack_record] at tells
  have found := fields?_of_tells tells (same ▸ nodup)
  rw [same, List.map_map] at found
  exact found

end Records

end PubSub.MessagePack
