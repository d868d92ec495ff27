import CallFlow.Proofs.Json.Grammar

namespace CallFlow.Json

open Fallible

/-- The first of two readers has less room than the second: it reads the same, or finds that it
has too little. -/
def Narrows {α : Type} (narrow wide : Except ReadError α) : Prop :=
  narrow = wide ∨ narrow = .error .nestedTooDeep

namespace Narrows

variable {α β : Type} {x y : Except ReadError α}

theorem refl (x : Except ReadError α) : Narrows x x := Or.inl rfl

/-- Readers that go on after each other narrow each other if their steps do. -/
theorem bind {f g : α → Except ReadError β} (h : Narrows x y) (hfg : ∀ a, Narrows (f a) (g a)) :
    Narrows (x.bind f) (y.bind g) := by
  obtain rfl | rfl := h
  · cases x with
    | error e => exact refl _
    | ok a => exact hfg a
  · exact Or.inr rfl

theorem map (h : Narrows x y) (f : α → β) : Narrows (x.map f) (y.map f) := by
  obtain rfl | rfl := h
  · exact refl _
  · exact Or.inr rfl

end Narrows

/-- The three readers at one bound, each narrowed by less room. -/
private structure Narrowed (n : Nat) : Prop where
  value : ∀ {room wide} (_ : room ≤ wide) cs, Narrows (readValue n room cs) (readValue n wide cs)
  items : ∀ {room wide} (_ : room ≤ wide) cs, Narrows (readItems n room cs) (readItems n wide cs)
  members : ∀ {room wide} (_ : room ≤ wide) cs,
    Narrows (readMembers n room cs) (readMembers n wide cs)

section Readers

variable {n room wide : Nat}

private theorem Narrowed.itemsAfter (h : Narrowed n) (hle : room ≤ wide) (cs : List Char) :
    Narrows (itemsAfter n room cs) (itemsAfter n wide cs) := by
  unfold Json.itemsAfter
  split
  · exact .refl _
  · exact h.items hle _
  · exact .refl _

private theorem Narrowed.membersAfter (h : Narrowed n) (hle : room ≤ wide) (cs : List Char) :
    Narrows (membersAfter n room cs) (membersAfter n wide cs) := by
  unfold Json.membersAfter
  split
  · exact .refl _
  · exact h.members hle _
  · exact .refl _

private theorem Narrowed.memberAfter (h : Narrowed n) (hle : room ≤ wide) (name : String)
    (cs : List Char) : Narrows (memberAfter n room name cs) (memberAfter n wide name cs) := by
  unfold Json.memberAfter
  split
  · exact (h.value hle _).bind fun r => (h.membersAfter hle _).map _
  · exact .refl _

private theorem Narrowed.value_succ (h : Narrowed n) (hle : room ≤ wide) (cs : List Char) :
    Narrows (readValue (n + 1) room cs) (readValue (n + 1) wide cs) := by
  rw [readValue.eq_def, readValue.eq_def]
  dsimp only
  split
  · exact .refl _
  · cases room with
    | zero => exact Or.inr rfl
    | succ room =>
      obtain ⟨wide, rfl⟩ := Nat.exists_eq_add_one_of_ne_zero (n := wide) (by omega)
      dsimp only
      split
      · exact .refl _
      · exact (h.items (by omega) _).bind fun _ => .refl _
  · cases room with
    | zero => exact Or.inr rfl
    | succ room =>
      obtain ⟨wide, rfl⟩ := Nat.exists_eq_add_one_of_ne_zero (n := wide) (by omega)
      dsimp only
      split
      · exact .refl _
      · exact (h.members (by omega) _).bind fun _ => .refl _
  · exact .refl _

private theorem Narrowed.members_succ (h : Narrowed n) (hle : room ≤ wide) (cs : List Char) :
    Narrows (readMembers (n + 1) room cs) (readMembers (n + 1) wide cs) := by
  by_cases hquote : ∃ after, cs = '"' :: after
  · obtain ⟨cs, rfl⟩ := hquote
    rw [readMembers_succ, readMembers_succ]
    exact (Narrows.refl _).bind fun _ => h.memberAfter hle _ _
  · have hrefused : ∀ room, readMembers (n + 1) room cs = .error .malformed := by
      intro room
      rw [readMembers]
      exact fun after heq => hquote ⟨after, heq⟩
    rw [hrefused, hrefused]
    exact .refl _

private theorem narrowed (n : Nat) : Narrowed n := by
  induction n with
  | zero => exact ⟨fun _ _ => .refl _, fun _ _ => .refl _, fun _ _ => .refl _⟩
  | succ n ih =>
    refine ⟨fun hle cs => ih.value_succ hle cs, fun hle cs => ?_,
      fun hle cs => ih.members_succ hle cs⟩
    rw [readItems_succ, readItems_succ]
    exact (ih.value hle cs).bind fun r => (ih.itemsAfter hle _).map _

/-- With less room a text reads the same, or is nested too deep. -/
theorem narrows_readChars (hle : room ≤ wide) (cs : List Char) :
    Narrows (readChars room cs) (readChars wide cs) :=
  ((narrowed _).value hle _).bind fun _ => .refl _

/-- A text that is JSON whatever the nesting is read as its value, or nested too deep. -/
theorem read_eq_of_spells {s : String} {room : Nat} {v : Value}
    (h : readChars room s.toList = .ok v) :
    read s = .ok v ∨ read s = .error .nestedTooDeep := by
  obtain hle | hle := Nat.le_total maxNesting room
  · rw [← h]
    exact narrows_readChars hle s.toList
  · obtain hsame | hdeep := narrows_readChars hle s.toList
    · exact Or.inl (hsame.symm.trans h)
    · rw [h] at hdeep
      cases hdeep

end Readers

/-- Whether a character opens a list or an object. -/
def isOpening (c : Char) : Bool := c = '[' || c = '{'

/-- The number of characters that open a list or an object. -/
def openings (cs : List Char) : Nat := cs.countP isOpening

section Openings

variable {n room : Nat} {cs : List Char}

theorem openings_append (cs ds : List Char) :
    openings (cs ++ ds) = openings cs + openings ds := List.countP_append

/-- Skipping blanks skips no bracket. -/
theorem openings_skipSpace_le (cs : List Char) : openings (skipSpace cs) ≤ openings cs :=
  (List.dropWhile_sublist _).countP_le

/-- The three readers at one bound, each with more openings before it than it has room for when it
finds that it has too little. -/
private structure Opened (n : Nat) : Prop where
  value : ∀ {room cs}, readValue n room cs = .error .nestedTooDeep → room < openings cs
  items : ∀ {room cs}, readItems n room cs = .error .nestedTooDeep → room < openings cs
  members : ∀ {room cs}, readMembers n room cs = .error .nestedTooDeep → room < openings cs

/-- No number and no word is nested. -/
theorem readScalar_ne (cs : List Char) : readScalar cs ≠ .error .nestedTooDeep := by
  have hunsigned : ∀ negative ds, readUnsigned negative ds ≠ .error .nestedTooDeep := by
    intro negative ds
    fun_cases readUnsigned negative ds <;> simp_all
  unfold readScalar
  split
  · nofun
  · split <;> exact hunsigned _ _

/-- A text nests nothing. -/
theorem readText_ne (cs : List Char) : readText cs ≠ .error .nestedTooDeep := by
  unfold readText
  split <;> nofun

private theorem Opened.itemsAfter (h : Opened n)
    (herror : itemsAfter n room cs = .error .nestedTooDeep) : room < openings cs := by
  unfold Json.itemsAfter at herror
  split at herror
  · cases herror
  · rename_i rest
    have hitems := h.items herror
    have hskip := openings_skipSpace_le rest
    have hcons : openings (',' :: rest) = openings rest := rfl
    omega
  · cases herror

private theorem Opened.membersAfter (h : Opened n)
    (herror : membersAfter n room cs = .error .nestedTooDeep) : room < openings cs := by
  unfold Json.membersAfter at herror
  split at herror
  · cases herror
  · rename_i rest
    have hmembers := h.members herror
    have hskip := openings_skipSpace_le rest
    have hcons : openings (',' :: rest) = openings rest := rfl
    omega
  · cases herror

/-- What is left after a value has no more openings than there were. -/
theorem openings_le_of_readValue {v : Value} {rest : List Char}
    (h : readValue n room cs = .ok (v, rest)) : openings rest ≤ openings cs := by
  obtain ⟨used, -, rfl⟩ := exists_of_readValue h
  rw [openings_append]
  omega

private theorem Opened.memberAfter (h : Opened n) {name : String}
    (herror : memberAfter n room name cs = .error .nestedTooDeep) : room < openings cs := by
  unfold Json.memberAfter at herror
  split at herror
  · rename_i rest
    have hskip := openings_skipSpace_le rest
    have hcons : openings (':' :: rest) = openings rest := rfl
    obtain hvalue | ⟨⟨v, after⟩, hvalue, hmore⟩ := bind_eq_error_iff.1 herror
    · have := h.value hvalue
      omega
    · have hmembers : room < openings (skipSpace after) := h.membersAfter (map_eq_error_iff.1 hmore)
      have hle := openings_le_of_readValue hvalue
      have hafter := openings_skipSpace_le after
      omega
  · cases herror

private theorem Opened.value_succ (h : Opened n)
    (herror : readValue (n + 1) room cs = .error .nestedTooDeep) : room < openings cs := by
  rw [readValue.eq_def] at herror
  dsimp only at herror
  split at herror
  · obtain htext | ⟨_, -, hok⟩ := bind_eq_error_iff.1 herror
    · exact absurd htext (readText_ne _)
    · cases hok
  · rename_i rest
    have hskip := openings_skipSpace_le rest
    have hcons : openings ('[' :: rest) = openings rest + 1 := List.countP_cons_of_pos rfl
    split at herror
    · omega
    · split at herror
      · cases herror
      · obtain hitems | ⟨_, -, hok⟩ := bind_eq_error_iff.1 herror
        · have := h.items hitems
          omega
        · cases hok
  · rename_i rest
    have hskip := openings_skipSpace_le rest
    have hcons : openings ('{' :: rest) = openings rest + 1 := List.countP_cons_of_pos rfl
    split at herror
    · omega
    · split at herror
      · cases herror
      · obtain hmembers | ⟨_, -, hok⟩ := bind_eq_error_iff.1 herror
        · have := h.members hmembers
          omega
        · cases hok
  · exact absurd herror (readScalar_ne _)

private theorem Opened.members_succ (h : Opened n)
    (herror : readMembers (n + 1) room cs = .error .nestedTooDeep) : room < openings cs := by
  by_cases hquote : ∃ after, cs = '"' :: after
  · obtain ⟨cs, rfl⟩ := hquote
    rw [readMembers_succ] at herror
    obtain htext | ⟨⟨name, rest⟩, htext, hmember⟩ := bind_eq_error_iff.1 herror
    · exact absurd htext (readText_ne _)
    · obtain ⟨text, _, -, -, rfl⟩ := exists_of_readText htext
      have hmembers := h.memberAfter hmember
      have hskip := openings_skipSpace_le rest
      have hcons : openings ('"' :: (text ++ rest)) = openings (text ++ rest) := rfl
      rw [openings_append] at hcons
      dsimp only at hmembers
      omega
  · rw [readMembers] at herror
    · cases herror
    · exact fun after heq => hquote ⟨after, heq⟩

private theorem opened (n : Nat) : Opened n := by
  induction n with
  | zero => exact ⟨nofun, nofun, nofun⟩
  | succ n ih =>
    refine ⟨ih.value_succ, fun {room cs} herror => ?_, ih.members_succ⟩
    rw [readItems_succ] at herror
    obtain hvalue | ⟨⟨v, rest⟩, hvalue, hmore⟩ := bind_eq_error_iff.1 herror
    · exact ih.value hvalue
    · have hitems : room < openings (skipSpace rest) := ih.itemsAfter (map_eq_error_iff.1 hmore)
      have hle := openings_le_of_readValue hvalue
      have hskip := openings_skipSpace_le rest
      omega

/-- A text is nested too deep only if it opens more lists and objects than there is room for. -/
theorem lt_openings_of_readChars (h : readChars room cs = .error .nestedTooDeep) :
    room < openings cs := by
  obtain hvalue | ⟨_, -, hrest⟩ := bind_eq_error_iff.1 h
  · have hskip := openings_skipSpace_le cs
    have := (opened _).value hvalue
    omega
  · dsimp only at hrest
    split at hrest <;> cases hrest

/-- More lists than there is room for, each opened in the one before, are nested too deep, whatever
follows. -/
theorem readValue_replicate {n room count : Nat} (hcount : room < count) (hn : 2 * count ≤ n)
    (rest : List Char) :
    readValue n room (List.replicate count '[' ++ rest) = .error .nestedTooDeep := by
  induction room generalizing n count with
  | zero =>
    obtain ⟨count, rfl⟩ := Nat.exists_eq_succ_of_ne_zero (Nat.ne_of_gt hcount)
    obtain ⟨n, rfl⟩ := Nat.exists_eq_succ_of_ne_zero (show n ≠ 0 by omega)
    rw [List.replicate_succ, List.cons_append, readValue]
  | succ room ih =>
    obtain ⟨count, rfl⟩ : ∃ k, count = k + 2 := ⟨count - 2, by omega⟩
    obtain ⟨n, rfl⟩ : ∃ k, n = k + 2 := ⟨n - 2, by omega⟩
    have hinner : readValue n room ('[' :: (List.replicate count '[' ++ rest)) =
        .error .nestedTooDeep := by
      rw [← List.cons_append, ← List.replicate_succ]
      exact ih (by omega) (by omega)
    have hlist := readValue_list (c := '[') (spaces_nil) (by decide) (by decide)
      (n + 1) room (List.replicate count '[' ++ rest)
    rw [readItems_succ, hinner] at hlist
    exact hlist

/-- A member of an object whose value opens too many lists. -/
theorem read_member_replicate {count : Nat} (hcount : maxNesting ≤ count) (rest : String) :
    read ("\x7b\"a\": " ++ String.ofList (List.replicate count '[') ++ rest) =
      .error .nestedTooDeep := by
  have htext : ("\x7b\"a\": " ++ String.ofList (List.replicate count '[') ++ rest).toList =
      '{' :: '"' :: 'a' :: '"' :: ':' :: ' ' :: (List.replicate count '[' ++ rest.toList) := by
    simp
  have hplain : ∀ c ∈ ['a'], IsPlain c := by simp [IsPlain]
  have hname (cs : List Char) : readText ('a' :: '"' :: cs) = .ok ("a", cs) :=
    readText_append (Quoted.close.plain_append hplain) cs
  have hskip : skipSpace (' ' :: (List.replicate count '[' ++ rest.toList)) =
      List.replicate count '[' ++ rest.toList := by
    obtain ⟨count, rfl⟩ : ∃ k, count = k + 1 := ⟨count - 1, by unfold maxNesting at hcount; omega⟩
    exact skipSpace_append spaces_one (by decide) _
  obtain ⟨n, hn, hfuel⟩ : ∃ n, 2 * count ≤ n ∧
      2 * ('{' :: '"' :: 'a' :: '"' :: ':' :: ' ' ::
        (List.replicate count '[' ++ rest.toList)).length + 2 = n + 2 := by
    refine ⟨_, ?_, rfl⟩
    simp
    omega
  have hvalue := readValue_replicate (show 969 < count from hcount) hn rest.toList
  have hobject := readValue_object (spaces_nil) (n + 1) 969
    ('a' :: '"' :: ':' :: ' ' :: (List.replicate count '[' ++ rest.toList))
  have hcolon (cs : List Char) : skipSpace (':' :: cs) = ':' :: cs := rfl
  rw [readMembers_succ, hname, Except.bind, hcolon, memberAfter, hskip, hvalue] at hobject
  have hbrace (cs : List Char) : skipSpace ('{' :: cs) = '{' :: cs := rfl
  rw [read, htext, readChars, hfuel, hbrace]
  have hroom : maxNesting = 969 + 1 := rfl
  rw [hroom]
  exact congrArg (Except.bind · _) hobject

/-- A text that nests too deep has more opening brackets than levels are allowed. -/
theorem lt_openings_of_read {s : String} (h : read s = .error .nestedTooDeep) :
    maxNesting < openings s.toList := lt_openings_of_readChars h

end Openings

end CallFlow.Json
