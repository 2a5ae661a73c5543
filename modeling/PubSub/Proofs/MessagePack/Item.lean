import PubSub.Proofs.MessagePack.Header
/-!
# Forms of items

An item is read from each of its forms, whatever follows it, and nothing of what follows is touched. What is written of
an item is a form of it, if the lengths in the item are below `2 ^ 32` and no more containers are open at once than the
reader allows. Integers come back with the marker that they were written with.
-/

namespace PubSub.MessagePack

open Reader

namespace Item

mutual

/-- The item that is read where an item was written. -/
def readBack : Item → Item
  | signed value => if 0 ≤ value.toInt then .unsigned (UInt64.ofNat value.toInt.toNat) else .signed value
  | array items => .array (readBackItems items)
  | map entries => .map (readBackEntries entries)
  | item => item

/-- The items that are read where items were written. -/
def readBackItems : List Item → List Item
  | [] => []
  | item :: rest => readBack item :: readBackItems rest

/-- The entries that are read where entries were written. -/
def readBackEntries : List (Item × Item) → List (Item × Item)
  | [] => []
  | (key, value) :: rest => (readBack key, readBack value) :: readBackEntries rest

end

mutual

/-- Whether an item can be written such that it is read with at most `depth` containers open at once. -/
def Fits (depth : Nat) : Item → Prop
  | text bytes | binary bytes | extension _ bytes => bytes.length < UInt32.size
  | array items => items.length < UInt32.size ∧ 0 < depth ∧ FitAll (depth - 1) items
  | map entries => entries.length < UInt32.size ∧ 0 < depth ∧ FitEach (depth - 1) entries
  | _ => True

/-- Whether all items can be written. -/
def FitAll (depth : Nat) : List Item → Prop
  | [] => True
  | item :: rest => Fits depth item ∧ FitAll depth rest

/-- Whether the keys and values of all entries can be written. -/
def FitEach (depth : Nat) : List (Item × Item) → Prop
  | [] => True
  | (key, value) :: rest => (Fits depth key ∧ Fits depth value) ∧ FitEach depth rest

end

variable {depth : Nat} {item : Item} {items : List Item} {entries : List (Item × Item)} {bytes : Bytes}

/-! ## Reading a form -/

/-- What is written one after the other is read one after the other. -/
theorem times_of_each {α : Type} {form : α → Bytes → Prop} {element : Reader α}
    (read : ∀ {one bytes}, form one bytes → ∀ rest, element (bytes ++ rest) = some (one, rest)) {all : List α}
    (each : Each form all bytes) (rest : Bytes) : times element all.length (bytes ++ rest) = some (all, rest) := by
  induction each with
  | nil => rfl
  | cons head tail ih =>
    rw [List.append_assoc, List.length_cons, times, bind_eq (read head _), bind_eq ih]
    rfl

theorem entry_of_form {form : Item → Bytes → Prop} {element : Reader Item}
    (read : ∀ {one bytes}, form one bytes → ∀ rest, element (bytes ++ rest) = some (one, rest)) {entry : Item × Item}
    (written : Entry form entry bytes) (rest : Bytes) :
    (Prod.mk <$> element <*> element) (bytes ++ rest) = some (entry, rest) := by
  obtain ⟨first, second⟩ := written
  rw [List.append_assoc, seq_eq_bind_map, bind_eq (map_eq (read first _) Prod.mk), map_eq (read second rest)]

/-- An item that holds no others is read whether containers may open or not. -/
theorem readerWith_of_plain (plain : Plain item bytes) (inner : Option (Reader Item)) (rest : Bytes) :
    readerWith inner (bytes ++ rest) = some (item, rest) := by
  cases plain with
  | scalar scalar header =>
    refine (bind_eq (Header.reader_of_form header rest) _).trans ?_
    cases item <;> first | rfl | cases scalar
  | @text content _ header =>
    rw [List.append_assoc]
    exact (bind_eq (Header.reader_of_form header _) _).trans (map_eq (bytes_append content rest) text)
  | @binary content _ header =>
    rw [List.append_assoc]
    exact (bind_eq (Header.reader_of_form header _) _).trans (map_eq (bytes_append content rest) binary)
  | @extension kind content _ header =>
    rw [List.append_assoc]
    exact (bind_eq (Header.reader_of_form header _) _).trans (map_eq (bytes_append content rest) (extension kind))

theorem readerWith_of_container {form : Item → Bytes → Prop} {element : Reader Item}
    (read : ∀ {one bytes}, form one bytes → ∀ rest, element (bytes ++ rest) = some (one, rest))
    (container : Container form item bytes) (rest : Bytes) :
    readerWith (some element) (bytes ++ rest) = some (item, rest) := by
  cases container with
  | array header each =>
    rw [List.append_assoc]
    exact (bind_eq (Header.reader_of_form header _) _).trans (map_eq (times_of_each read each rest) array)
  | map header each =>
    rw [List.append_assoc]
    exact (bind_eq (Header.reader_of_form header _) _).trans
      (map_eq (times_of_each (fun written ↦ entry_of_form read written) each rest) map)

/-- An item is read from each of its forms, whatever follows. -/
theorem reader_of_written (written : item.Written depth bytes) (rest : Bytes) :
    reader depth (bytes ++ rest) = some (item, rest) := by
  induction depth generalizing item bytes rest with
  | zero => exact readerWith_of_plain written none rest
  | succ depth ih =>
    rcases written with plain | container
    · exact readerWith_of_plain plain _ rest
    · exact readerWith_of_container ih container rest

theorem decode?_of_written (written : item.Written maxDepth bytes) (rest : Bytes) :
    decode? (bytes ++ rest) = some item := by
  rw [decode?, reader_of_written written rest]
  rfl

/-! ## Writing a form -/

theorem length_readBackItems (items : List Item) : (readBackItems items).length = items.length := by
  induction items with
  | nil => rfl
  | cons item rest ih => simp [readBackItems, ih]

theorem length_readBackEntries (entries : List (Item × Item)) :
    (readBackEntries entries).length = entries.length := by
  induction entries with
  | nil => rfl
  | cons entry rest ih => simp [readBackEntries, ih]

/-- The elements of a container are written one after the other. -/
theorem each_encodeItems {form : Item → Bytes → Prop} (writes : ∀ {item : Item}, item.Fits depth →
    form item.readBack item.encode) (fits : FitAll depth items) :
    Each form (readBackItems items) (encodeItems items) := by
  induction items with
  | nil => exact .nil
  | cons item rest ih => exact .cons (writes fits.1) (ih fits.2)

/-- The entries of a map are written one after the other, each key before its value. -/
theorem each_encodeEntries {form : Item → Bytes → Prop} (writes : ∀ {item : Item}, item.Fits depth →
    form item.readBack item.encode) (fits : FitEach depth entries) :
    Each (Entry form) (readBackEntries entries) (encodeEntries entries) := by
  induction entries with
  | nil => exact .nil
  | cons entry rest ih =>
    rw [encodeEntries, ← List.append_assoc]
    exact .cons (.mk (writes fits.1.1) (writes fits.1.2)) (ih fits.2)

/-- An item that holds no others is written the same whatever the depth. -/
theorem written_of_plain (plain : Plain item bytes) : item.Written depth bytes := by
  cases depth with
  | zero => exact plain
  | succ depth => exact .inl plain

/-- What is written of an item is a form of it. -/
theorem written_encode (fits : item.Fits depth) : item.readBack.Written depth item.encode := by
  have form (header : Header) (fits : header.Fits) : header.readBack.Form header.encode := Header.form_encode fits
  induction depth using Nat.strongRecOn generalizing item with
  | ind depth ih =>
    cases item with
    | nil => exact written_of_plain (.scalar rfl (form .nil trivial))
    | boolean value => exact written_of_plain (.scalar rfl (form (.boolean value) trivial))
    | unsigned value => exact written_of_plain (.scalar rfl (form (.unsigned value) trivial))
    | signed value =>
      have header : (Header.signed value).readBack.Form (encode (signed value)) := form (.signed value) trivial
      refine written_of_plain ?_
      by_cases sign : 0 ≤ value.toInt
      · simp only [readBack, Header.readBack, if_pos sign] at header ⊢
        exact .scalar rfl header
      · simp only [readBack, Header.readBack, if_neg sign] at header ⊢
        exact .scalar rfl header
    | float32 bits => exact written_of_plain (.scalar rfl (form (.float32 bits) trivial))
    | float64 bits => exact written_of_plain (.scalar rfl (form (.float64 bits) trivial))
    | text bytes => exact written_of_plain (.text (form (.text _) fits))
    | binary bytes => exact written_of_plain (.binary (form (.binary _) fits))
    | extension kind bytes => exact written_of_plain (.extension (form (.extension _) fits))
    | array items =>
      obtain ⟨few, opens, fits⟩ := fits
      cases depth with
      | zero => cases opens
      | succ depth =>
        rw [← length_readBackItems] at few
        rw [encode, ← length_readBackItems]
        exact .inr (.array (form (.array _) few) (each_encodeItems (ih depth depth.lt_succ_self) fits))
    | map entries =>
      obtain ⟨few, opens, fits⟩ := fits
      cases depth with
      | zero => cases opens
      | succ depth =>
        rw [← length_readBackEntries] at few
        rw [encode, ← length_readBackEntries]
        exact .inr (.map (form (.map _) few) (each_encodeEntries (ih depth depth.lt_succ_self) fits))

theorem decode?_encode (fits : item.Fits maxDepth) (rest : Bytes) :
    decode? (item.encode ++ rest) = some item.readBack :=
  decode?_of_written (written_encode fits) rest

end Item

end PubSub.MessagePack
