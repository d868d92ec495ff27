import CallFlow.Proofs.Json.Numbers

namespace CallFlow

namespace Value

/-- Induction on values, with a list by its items and an object by its members. -/
theorem byParts {motive : Value → Prop} (null : motive .null) (bool : ∀ b, motive (.bool b))
    (int : ∀ i, motive (.int i)) (float : ∀ x, motive (.float x)) (text : ∀ s, motive (.text s))
    (list : ∀ items, (∀ v ∈ items, motive v) → motive (.list items))
    (object : ∀ members, (∀ m ∈ members, motive m.2) → motive (.object members)) (v : Value) :
    motive v :=
  Json.write.induct motive (fun members => ∀ m ∈ members, motive m.2)
    (fun items => ∀ v ∈ items, motive v) null (bool true) (bool false) int float text list object
    nofun (fun _ _ hv hrest => List.forall_mem_cons.2 ⟨hv, hrest⟩)
    nofun (fun _ _ _ hv hrest => List.forall_mem_cons.2 ⟨hv, hrest⟩) v

mutual

/-- A value with each of its texts changed, names of members included. Of members that come to have
one name the last counts. -/
def mapTexts (f : String → String) : Value → Value
  | .null => .null
  | .bool b => .bool b
  | .int i => .int i
  | .float x => .float x
  | .text s => .text (f s)
  | .list items => .list (mapItems f items)
  | .object members => .object (Bindings.ofMembers (mapMembers f members))

/-- Values with each of their texts changed. -/
def mapItems (f : String → String) : List Value → List Value
  | [] => []
  | v :: rest => mapTexts f v :: mapItems f rest

/-- Members with each of their texts changed. -/
def mapMembers (f : String → String) : List (String × Value) → List (String × Value)
  | [] => []
  | (name, v) :: rest => (f name, mapTexts f v) :: mapMembers f rest

end

mutual

/-- The texts in a value, names of members included. -/
def texts : Value → List String
  | .null | .bool _ | .int _ | .float _ => []
  | .text s => [s]
  | .list items => textsOfItems items
  | .object members => textsOfMembers members

/-- The texts in values. -/
def textsOfItems : List Value → List String
  | [] => []
  | v :: rest => texts v ++ textsOfItems rest

/-- The texts in members. -/
def textsOfMembers : List (String × Value) → List String
  | [] => []
  | (name, v) :: rest => name :: texts v ++ textsOfMembers rest

end

theorem mapItems_eq (f : String → String) (items : List Value) :
    mapItems f items = items.map (mapTexts f) := by
  induction items with
  | nil => rfl
  | cons v rest ih => rw [mapItems, ih, List.map_cons]

theorem mapMembers_eq (f : String → String) (members : List (String × Value)) :
    mapMembers f members = members.map fun m => (f m.1, m.2.mapTexts f) := by
  induction members with
  | nil => rfl
  | cons m rest ih => rw [mapMembers, ih, List.map_cons]

theorem textsOfItems_eq (items : List Value) : textsOfItems items = items.flatMap texts := by
  induction items with
  | nil => rfl
  | cons v rest ih => rw [textsOfItems, ih, List.flatMap_cons]

theorem textsOfMembers_eq (members : List (String × Value)) :
    textsOfMembers members = members.flatMap fun m => m.1 :: m.2.texts := by
  induction members with
  | nil => rfl
  | cons m rest ih => rw [textsOfMembers, ih, List.flatMap_cons]

end Value

namespace Json

/-- Characters in quotes. -/
def inQuotes (cs : List Char) : List Char := '"' :: (cs ++ ['"'])

/-- What stands between items and between members. -/
def separator : List Char := [',', ' ']

mutual

/-- The text of a value that has certain characters between the quotes of its texts. -/
def spell (inner : String → List Char) : Value → List Char
  | .null => (write .null).toList
  | .bool b => (write (.bool b)).toList
  | .int i => (write (.int i)).toList
  | .float x => (write (.float x)).toList
  | .text s => inQuotes (inner s)
  | .list items => '[' :: (separator.intercalate (spellItems inner items) ++ [']'])
  | .object members => '{' :: (separator.intercalate (spellMembers inner members) ++ ['}'])

/-- The texts of values. -/
def spellItems (inner : String → List Char) : List Value → List (List Char)
  | [] => []
  | v :: rest => spell inner v :: spellItems inner rest

/-- The texts of members, name and value. -/
def spellMembers (inner : String → List Char) : List (String × Value) → List (List Char)
  | [] => []
  | (name, v) :: rest =>
    (inQuotes (inner name) ++ ':' :: ' ' :: spell inner v) :: spellMembers inner rest

end

/-- A text with its characters escaped. -/
def escape (s : String) : List Char := s.toList.flatMap escapeChar

section Parts

/-- The text of a member, name and value. -/
def spellMember (inner : String → List Char) (m : String × Value) : List Char :=
  inQuotes (inner m.1) ++ ':' :: ' ' :: spell inner m.2

theorem spellItems_eq (inner : String → List Char) (items : List Value) :
    spellItems inner items = items.map (spell inner) := by
  induction items with
  | nil => rfl
  | cons v rest ih => rw [spellItems, ih, List.map_cons]

theorem spellMembers_eq (inner : String → List Char) (members : List (String × Value)) :
    spellMembers inner members = members.map (spellMember inner) := by
  induction members with
  | nil => rfl
  | cons m rest ih => rw [spellMembers, ih, List.map_cons, spellMember]

theorem writeItems_eq (items : List Value) : writeItems items = items.map write := by
  induction items with
  | nil => rfl
  | cons v rest ih => rw [writeItems, ih, List.map_cons]

theorem writeMembers_eq (members : List (String × Value)) :
    writeMembers members = members.map fun m => quote m.1 ++ ": " ++ write m.2 := by
  induction members with
  | nil => rfl
  | cons m rest ih => rw [writeMembers, ih, List.map_cons]

/-- A list is writable if every item is. -/
theorem areWritable_iff {room : Nat} {items : List Value} :
    areWritable room items = true ↔ ∀ v ∈ items, isWritable room v = true := by
  induction items with
  | nil => exact iff_of_true rfl nofun
  | cons v rest ih => rw [areWritable, Bool.and_eq_true, ih, List.forall_mem_cons]

/-- An object is writable if every value in it is. -/
theorem membersAreWritable_iff {room : Nat} {members : List (String × Value)} :
    membersAreWritable room members = true ↔ ∀ m ∈ members, isWritable room m.2 = true := by
  induction members with
  | nil => exact iff_of_true rfl nofun
  | cons m rest ih => rw [membersAreWritable, Bool.and_eq_true, ih, List.forall_mem_cons]

/-- A list that can be written takes up room for itself, and its items can be written in the
rest. -/
theorem exists_room_of_list {room : Nat} {items : List Value}
    (h : isWritable room (.list items) = true) :
    ∃ inside, room = inside + 1 ∧ ∀ v ∈ items, isWritable inside v = true := by
  rw [isWritable, Bool.and_eq_true, decide_eq_true_eq, areWritable_iff] at h
  exact ⟨room - 1, by omega, h.2⟩

/-- An object that can be written takes up room for itself, and its values can be written in the
rest. -/
theorem exists_room_of_object {room : Nat} {members : List (String × Value)}
    (h : isWritable room (.object members) = true) :
    ∃ inside, room = inside + 1 ∧ ∀ m ∈ members, isWritable inside m.2 = true := by
  rw [isWritable, Bool.and_eq_true, decide_eq_true_eq, membersAreWritable_iff] at h
  exact ⟨room - 1, by omega, h.2⟩

end Parts

/-- A value is written with its texts escaped. -/
theorem toList_write (v : Value) : (write v).toList = spell escape v := by
  have hquote : ∀ s, (quote s).toList = inQuotes (escape s) := by
    intro s
    simp [quote, inQuotes, escape]
  induction v using Value.byParts with
  | null | bool | int | float => rfl
  | text s => exact hquote s
  | list items ih =>
    have hitems : (items.map write).map String.toList = items.map (spell escape) := by
      rw [List.map_map]
      exact List.map_congr_left ih
    rw [write, spell, writeItems_eq, spellItems_eq, ← hitems]
    simp [String.toList_intercalate, separator]
  | object members ih =>
    have hmembers : (members.map fun m => quote m.1 ++ ": " ++ write m.2).map String.toList =
        members.map (spellMember escape) := by
      rw [List.map_map]
      refine List.map_congr_left fun m hm => ?_
      simp [spellMember, hquote, ih m hm]
    rw [write, spell, writeMembers_eq, spellMembers_eq, ← hmembers]
    simp [String.toList_intercalate, separator]

section Reading

variable {inner : String → List Char} {f : String → String} {room : Nat}

/-- Items that are spelled one by one are spelled together. -/
theorem spells_items {items : List Value} (hne : items ≠ [])
    (h : ∀ v ∈ items, Spells room (spell inner v) (.value (v.mapTexts f))) :
    Spells room (separator.intercalate (items.map (spell inner)) ++ [']'])
      (.items (items.map (Value.mapTexts f))) := by
  induction items with
  | nil => exact absurd rfl hne
  | cons v rest ih =>
    obtain ⟨hv, hrest⟩ := List.forall_mem_cons.1 h
    cases rest with
    | nil =>
      rw [List.map_singleton, List.intercalate_singleton]
      exact .item hv spaces_nil .endItems
    | cons w rest =>
      have hmore := Spells.moreItems spaces_one (ih (List.cons_ne_nil w rest) hrest)
      have hspell := Spells.item hv spaces_nil hmore
      simpa [separator, List.intercalate_cons_cons] using hspell

/-- Members that are spelled one by one are spelled together. -/
theorem spells_members {members : List (String × Value)} (hne : members ≠ [])
    (hname : ∀ m ∈ members, Quoted (inner m.1 ++ ['"']) (f m.1).toList)
    (h : ∀ m ∈ members, Spells room (spell inner m.2) (.value (m.2.mapTexts f))) :
    Spells room (separator.intercalate (members.map (spellMember inner)) ++ ['}'])
      (.members (members.map fun m => (f m.1, m.2.mapTexts f))) := by
  induction members with
  | nil => exact absurd rfl hne
  | cons m rest ih =>
    obtain ⟨hm, hrest⟩ := List.forall_mem_cons.1 h
    obtain ⟨hmname, hrestname⟩ := List.forall_mem_cons.1 hname
    have hmember : ∀ {ds ms}, Spells room ds (.moreMembers ms) →
        Spells room (spellMember inner m ++ ds) (.members ((f m.1, m.2.mapTexts f) :: ms)) := by
      intro ds ms hds
      have hspell := Spells.member hmname spaces_nil spaces_one hm spaces_nil hds
      simpa [spellMember, inQuotes] using hspell
    cases rest with
    | nil =>
      rw [List.map_singleton, List.intercalate_singleton]
      exact hmember .endMembers
    | cons n rest =>
      have hmore := Spells.moreMembers spaces_one (ih (List.cons_ne_nil n rest) hrestname hrest)
      simpa [separator, List.intercalate_cons_cons] using hmember hmore

/-- A value that can be written is read with the texts that stand between its quotes. -/
theorem spells_spell {v : Value} (hwritable : isWritable room v = true)
    (h : ∀ s ∈ v.texts, Quoted (inner s ++ ['"']) (f s).toList) :
    Spells room (spell inner v) (.value (v.mapTexts f)) := by
  induction v using Value.byParts generalizing room with
  | null => exact .word (w := "null") (by simp [words, Value.mapTexts])
  | bool b =>
    cases b with
    | false => exact .word (w := "false") (by simp [words, Value.mapTexts])
    | true => exact .word (w := "true") (by simp [words, Value.mapTexts])
  | int i => exact spells_int (of_decide_eq_true hwritable)
  | float x => exact spells_float room x
  | text s =>
    have hspell : Spells room ('"' :: (inner s ++ ['"']))
        (.value (.text (String.ofList (f s).toList))) :=
      .text (h s (List.mem_singleton.2 rfl))
    rwa [String.ofList_toList] at hspell
  | list items ih =>
    obtain ⟨room, rfl, hitemsWritable⟩ := exists_room_of_list hwritable
    have hitems : ∀ v ∈ items, Spells room (spell inner v) (.value (v.mapTexts f)) := by
      intro v hv
      refine ih v hv (hitemsWritable v hv) fun s hs => h s ?_
      rw [Value.texts, Value.textsOfItems_eq]
      exact List.mem_flatMap.2 ⟨v, hv, hs⟩
    rw [spell, spellItems_eq, Value.mapTexts, Value.mapItems_eq]
    cases items with
    | nil => exact .noItems spaces_nil
    | cons v rest =>
      have hspell := Spells.list spaces_nil (spells_items (List.cons_ne_nil v rest) hitems)
      exact hspell
  | object members ih =>
    obtain ⟨room, rfl, hvaluesWritable⟩ := exists_room_of_object hwritable
    rw [Value.texts, Value.textsOfMembers_eq] at h
    have hnames : ∀ m ∈ members, Quoted (inner m.1 ++ ['"']) (f m.1).toList :=
      fun m hm => h m.1 (List.mem_flatMap.2 ⟨m, hm, List.mem_cons_self⟩)
    have hvalues : ∀ m ∈ members, Spells room (spell inner m.2) (.value (m.2.mapTexts f)) :=
      fun m hm => ih m hm (hvaluesWritable m hm) fun s hs =>
        h s (List.mem_flatMap.2 ⟨m, hm, List.mem_cons_of_mem m.1 hs⟩)
    rw [spell, spellMembers_eq, Value.mapTexts, Value.mapMembers_eq]
    cases members with
    | nil => exact .noMembers spaces_nil
    | cons m rest =>
      have hspell :=
        Spells.object spaces_nil (spells_members (List.cons_ne_nil m rest) hnames hvalues)
      exact hspell

/-- The characters between the quotes decide what the text of a value is read as. -/
theorem readChars_spell {v : Value} (hwritable : isWritable room v = true)
    (h : ∀ s ∈ v.texts, Quoted (inner s ++ ['"']) (f s).toList) :
    readChars room (spell inner v) = .ok (v.mapTexts f) :=
  readChars_eq_ok_iff.2 ⟨[], spell inner v, [], spaces_nil, spells_spell hwritable h, spaces_nil,
    by simp⟩

/-- A writable value is read back from its spelling, its texts as they were quoted. -/
theorem read_spell {v : Value} (hwritable : isWritable maxNesting v = true)
    (h : ∀ s ∈ v.texts, Quoted (inner s ++ ['"']) (f s).toList) :
    read (String.ofList (spell inner v)) = .ok (v.mapTexts f) := by
  rw [read, String.toList_ofList, readChars_spell hwritable h]

/-- A value that can be written in some room is read there as it was, but for names that an object
has twice. -/
theorem readChars_write {v : Value} (hwritable : isWritable room v = true) :
    readChars room (write v).toList = .ok (v.mapTexts id) := by
  rw [toList_write]
  refine readChars_spell hwritable fun s _ => ?_
  have hquoted := Quoted.close.escape_append s.toList
  rwa [List.append_nil] at hquoted

/-- A writable value is read back from what is written for it. -/
theorem read_write {v : Value} (hwritable : isWritable maxNesting v = true) :
    read (write v) = .ok (v.mapTexts id) := readChars_write hwritable

theorem spell_singleton (s : String) :
    spell inner (.list [.text s]) = '[' :: (inQuotes (inner s) ++ [']']) := by
  simp [spell, spellItems]

end Reading

section Lengths

variable {room : Nat} {cs : List Char}

/-- A text is spelled in quotes. -/
theorem Spells.exists_of_text {s : String} (h : Spells room cs (.value (.text s))) :
    ∃ inside, Quoted inside s.toList ∧ cs = '"' :: inside := by
  cases h with
  | word h => simp [words] at h
  | number _ h | negative _ h =>
    obtain ⟨_, h⟩ | ⟨_, h⟩ := Numeral.exists_of_value h <;> cases h
  | text h => exact ⟨_, by simpa using h, rfl⟩

/-- A list of one value is spelled by the value in brackets. -/
theorem Spells.exists_of_singleton {v : Value} (h : Spells room cs (.value (.list [v]))) :
    ∃ inside before used after, Spells inside used (.value v) ∧
      cs = '[' :: (before ++ (used ++ (after ++ [']']))) := by
  cases h with
  | word h => simp [words] at h
  | number _ h | negative _ h =>
    obtain ⟨_, h⟩ | ⟨_, h⟩ := Numeral.exists_of_value h <;> cases h
  | list hws h =>
    cases h with
    | item hv hafter h =>
      cases h with
      | endItems => exact ⟨_, _, _, _, hv, rfl⟩
      | moreItems _ h => cases h

/-- Only a text without escapes is read as it stands between quotes. -/
theorem isPlain_of_readChars {s : String}
    (h : readChars room ('[' :: (inQuotes s.toList ++ [']'])) = .ok (.list [.text s])) :
    ∀ c ∈ s.toList, IsPlain c := by
  obtain ⟨before, used, after, -, hused, -, hcs⟩ := readChars_eq_ok_iff.1 h
  obtain ⟨_, front, item, back, hitem, rfl⟩ := hused.exists_of_singleton
  obtain ⟨inside, hinside, rfl⟩ := hitem.exists_of_text
  obtain ⟨hlt, hplain⟩ := hinside.length_lt
  have hlength := congrArg List.length hcs
  simp only [inQuotes, List.length_cons, List.length_append, List.length_nil] at hlength
  exact hplain (by omega)

end Lengths

end Json

end CallFlow
