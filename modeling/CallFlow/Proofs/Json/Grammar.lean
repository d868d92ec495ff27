import CallFlow.Proofs.Fallible
import CallFlow.Proofs.Json.Numeral
import CallFlow.Proofs.Json.Quoted

namespace CallFlow.Json

open Fallible

/-- Nothing but blanks of JSON. -/
def Spaces (ws : List Char) : Prop := ∀ c ∈ ws, isSpace c = true

/-- What a stretch of JSON text stands for. -/
inductive Phrase where
  | value (v : Value)
  /-- Items of a list, one at least, up to its end. -/
  | items (vs : List Value)
  /-- What follows an item, up to the end of the list. -/
  | moreItems (vs : List Value)
  /-- Members of an object, one at least, up to its end. -/
  | members (ms : List (String × Value))
  /-- What follows a member, up to the end of the object. -/
  | moreMembers (ms : List (String × Value))

/-- The characters stand for the phrase, with lists and objects inside of each other no deeper than
there is room. What is read as a value are the characters that spell it, whatever comes after. -/
inductive Spells : Nat → List Char → Phrase → Prop where
  | word {room : Nat} {w : String} {v : Value} (h : (w, v) ∈ words) :
    Spells room w.toList (.value v)
  | number {room : Nat} {p : Numeral} (hp : p.IsProper) {v : Value} (h : p.value false = .ok v) :
    Spells room p.text (.value v)
  | negative {room : Nat} {p : Numeral} (hp : p.IsProper) {v : Value}
    (h : p.value true = .ok v) : Spells room ('-' :: p.text) (.value v)
  | text {room : Nat} {cs s : List Char} (h : Quoted cs s) :
    Spells room ('"' :: cs) (.value (.text (String.ofList s)))
  | noItems {room : Nat} {ws : List Char} (hws : Spaces ws) :
    Spells (room + 1) ('[' :: (ws ++ [']'])) (.value (.list []))
  | list {room : Nat} {ws cs : List Char} {vs : List Value} (hws : Spaces ws)
    (h : Spells room cs (.items vs)) : Spells (room + 1) ('[' :: (ws ++ cs)) (.value (.list vs))
  | noMembers {room : Nat} {ws : List Char} (hws : Spaces ws) :
    Spells (room + 1) ('{' :: (ws ++ ['}'])) (.value (.object []))
  | object {room : Nat} {ws cs : List Char} {ms : List (String × Value)} (hws : Spaces ws)
    (h : Spells room cs (.members ms)) :
    Spells (room + 1) ('{' :: (ws ++ cs)) (.value (.object (Bindings.ofMembers ms)))
  | item {room : Nat} {cs ws ds : List Char} {v : Value} {vs : List Value}
    (hv : Spells room cs (.value v)) (hws : Spaces ws) (h : Spells room ds (.moreItems vs)) :
    Spells room (cs ++ (ws ++ ds)) (.items (v :: vs))
  | endItems {room : Nat} : Spells room [']'] (.moreItems [])
  | moreItems {room : Nat} {ws ds : List Char} {vs : List Value} (hws : Spaces ws)
    (h : Spells room ds (.items vs)) : Spells room (',' :: (ws ++ ds)) (.moreItems vs)
  | member {room : Nat} {name s before after cs ws ds : List Char} {v : Value}
    {ms : List (String × Value)} (hname : Quoted name s) (hbefore : Spaces before)
    (hafter : Spaces after) (hv : Spells room cs (.value v)) (hws : Spaces ws)
    (h : Spells room ds (.moreMembers ms)) :
    Spells room ('"' :: (name ++ (before ++ ':' :: (after ++ (cs ++ (ws ++ ds))))))
      (.members ((String.ofList s, v) :: ms))
  | endMembers {room : Nat} : Spells room ['}'] (.moreMembers [])
  | moreMembers {room : Nat} {ws ds : List Char} {ms : List (String × Value)} (hws : Spaces ws)
    (h : Spells room ds (.members ms)) : Spells room (',' :: (ws ++ ds)) (.moreMembers ms)

section Spaces

theorem spaces_nil : Spaces [] := nofun

theorem spaces_one : Spaces [' '] := by
  intro c hc
  rw [List.mem_singleton.1 hc]
  rfl

variable {ws cs : List Char} {c : Char}

/-- Blanks in front are skipped up to the first character that is none. -/
theorem skipSpace_append (hws : Spaces ws) (hc : isSpace c = false) (cs : List Char) :
    skipSpace (ws ++ c :: cs) = c :: cs := by
  rw [skipSpace, List.dropWhile_append_of_pos hws, List.dropWhile_cons_of_neg (by simp [hc])]

theorem exists_skipSpace (cs : List Char) : ∃ ws, Spaces ws ∧ cs = ws ++ skipSpace cs :=
  ⟨cs.takeWhile isSpace, fun _ hc => List.mem_takeWhile_imp hc,
    List.takeWhile_append_dropWhile.symm⟩

theorem isSpace_of_isDigit (h : c.isDigit = true) : isSpace c = false := by
  have hspace : c ≠ ' ' := ne_of_isDigit h rfl
  have htab : c ≠ '\t' := ne_of_isDigit h rfl
  have hline : c ≠ '\n' := ne_of_isDigit h rfl
  have hreturn : c ≠ '\r' := ne_of_isDigit h rfl
  simp [isSpace, hspace, htab, hline, hreturn]

theorem ends_nil : Ends [] := nofun

theorem ends_mark (hc : c = ',' ∨ c = ']' ∨ c = '}') (cs : List Char) : Ends (c :: cs) := by
  intro d hd
  cases hd
  obtain rfl | rfl | rfl := hc <;> decide

/-- No number goes on after blanks. -/
theorem Spaces.ends_append (hws : Spaces ws) (hcs : Ends cs) : Ends (ws ++ cs) := by
  cases ws with
  | nil => exact hcs
  | cons w ws =>
    intro d hd
    cases hd
    have hw := hws w List.mem_cons_self
    simp only [isSpace, Bool.or_eq_true, decide_eq_true_eq] at hw
    obtain ((rfl | rfl) | rfl) | rfl := hw <;> decide

end Spaces

/-- The characters that a phrase can begin with. -/
def Phrase.Opens : Phrase → Char → Prop
  | .value _, c | .items _, c => isSpace c = false ∧ c ≠ ']'
  | .moreItems _, c => c = ',' ∨ c = ']'
  | .members _, c => c = '"'
  | .moreMembers _, c => c = ',' ∨ c = '}'

/-- No phrase opens with a blank. -/
theorem Phrase.Opens.isSpace_eq {p : Phrase} {c : Char} (h : p.Opens c) : isSpace c = false := by
  cases p with
  | value | items => exact h.1
  | moreItems | moreMembers => obtain rfl | rfl := h <;> rfl
  | members =>
    obtain rfl := h
    rfl

/-- A numeral begins with a digit. -/
theorem Numeral.IsProper.exists_cons {p : Numeral} (hp : p.IsProper) :
    ∃ c cs, p.text = c :: cs ∧ c.isDigit = true := by
  obtain ⟨c, cs, hcs⟩ := List.exists_cons_of_ne_nil hp.whole_ne
  refine ⟨c, cs ++ (p.fraction.elim [] ('.' :: ·) ++ p.exponent.elim [] Prod.fst), ?_,
    hp.whole c (hcs ▸ List.mem_cons_self)⟩
  rw [Numeral.text, hcs]
  rfl

/-- No word opens like a text, a list or an object. -/
theorem exists_cons_of_mem_words {w : String} {v : Value} (h : (w, v) ∈ words) :
    ∃ c cs, w.toList = c :: cs ∧
      isSpace c = false ∧ c ≠ ']' ∧ c ≠ '"' ∧ c ≠ '[' ∧ c ≠ '{' := by
  simp only [words, List.mem_cons, Prod.mk.injEq, List.not_mem_nil, or_false] at h
  obtain ⟨rfl, -⟩ | ⟨rfl, -⟩ | ⟨rfl, -⟩ | ⟨rfl, -⟩ | ⟨rfl, -⟩ | ⟨rfl, -⟩ := h <;>
    exact ⟨_, _, rfl, by decide⟩

/-- A phrase begins with what its kind opens with. -/
theorem Spells.opens {room : Nat} {cs : List Char} {p : Phrase} (h : Spells room cs p) :
    ∃ c rest, cs = c :: rest ∧ p.Opens c := by
  induction h with
  | word h =>
    obtain ⟨c, cs, htext, hspace, hc, -⟩ := exists_cons_of_mem_words h
    exact ⟨c, cs, htext, hspace, hc⟩
  | number hp =>
    obtain ⟨c, cs, htext, hc⟩ := hp.exists_cons
    exact ⟨c, cs, htext, isSpace_of_isDigit hc, ne_of_isDigit hc rfl⟩
  | negative => exact ⟨'-', _, rfl, by decide, by decide⟩
  | text => exact ⟨'"', _, rfl, by decide, by decide⟩
  | noItems => exact ⟨'[', _, rfl, by decide, by decide⟩
  | list => exact ⟨'[', _, rfl, by decide, by decide⟩
  | noMembers => exact ⟨'{', _, rfl, by decide, by decide⟩
  | object => exact ⟨'{', _, rfl, by decide, by decide⟩
  | item _ _ _ ih =>
    obtain ⟨c, rest, rfl, hc⟩ := ih
    exact ⟨c, _, rfl, hc⟩
  | endItems => exact ⟨']', [], rfl, Or.inr rfl⟩
  | moreItems => exact ⟨',', _, rfl, Or.inl rfl⟩
  | member => exact ⟨'"', _, rfl, rfl⟩
  | endMembers => exact ⟨'}', [], rfl, Or.inr rfl⟩
  | moreMembers => exact ⟨',', _, rfl, Or.inl rfl⟩

theorem Spells.ne_nil {room : Nat} {cs : List Char} {p : Phrase} (h : Spells room cs p) :
    cs ≠ [] := by
  obtain ⟨c, rest, rfl, -⟩ := h.opens
  exact List.cons_ne_nil c rest

/-- Members end with a closing brace. -/
private def Phrase.Closes (cs : List Char) : Phrase → Prop
  | .members _ | .moreMembers _ => cs.getLast? = some '}'
  | _ => True

private theorem Spells.closes {room : Nat} {cs : List Char} {p : Phrase} (h : Spells room cs p) :
    p.Closes cs := by
  induction h with
  | @member _ _ _ _ _ _ _ ds _ _ _ _ _ _ _ _ _ ih =>
    have hlast : ds.getLast? = some '}' := ih
    change List.getLast? _ = _
    simp [List.getLast?_cons, hlast]
  | endMembers => rfl
  | @moreMembers _ _ ds _ _ _ ih =>
    have hlast : ds.getLast? = some '}' := ih
    change List.getLast? _ = _
    simp [List.getLast?_cons, hlast]
  | _ => trivial

/-- A number is whole or a floating-point number. -/
theorem Numeral.exists_of_value {p : Numeral} {negative : Bool} {v : Value}
    (h : p.value negative = .ok v) : (∃ i, v = .int i) ∨ ∃ x, v = .float x := by
  unfold Numeral.value at h
  split at h
  · split at h
    · cases h
    · exact Or.inl ⟨_, (Except.ok.inj h).symm⟩
  · exact Or.inr ⟨_, (Except.ok.inj h).symm⟩

/-- The text of an object goes from an opening to a closing brace. -/
theorem Spells.exists_of_object {room : Nat} {cs : List Char} {members : Bindings}
    (h : Spells room cs (.value (.object members))) : ∃ inside, cs = '{' :: (inside ++ ['}']) := by
  cases h with
  | word h => simp [words] at h
  | number _ h | negative _ h =>
    obtain ⟨_, h⟩ | ⟨_, h⟩ := Numeral.exists_of_value h <;> cases h
  | noMembers => exact ⟨_, rfl⟩
  | object _ h =>
    obtain ⟨front, rfl⟩ := List.getLast?_eq_some_iff.1 h.closes
    exact ⟨_, congrArg _ (List.append_assoc ..).symm⟩

section Readers

variable {n room : Nat} {c : Char} {cs rest : List Char} {v : Value}

/-- A quoted text is read up to its closing mark. -/
theorem readText_append {s : List Char} (h : Quoted cs s) (rest : List Char) :
    readText (cs ++ rest) = .ok (String.ofList s, rest) := by
  have hread := h.readQuoted (n := (cs ++ rest).length + 1) (by simp; omega) rest
  rw [readText, hread]

/-- What is read as a text was quoted. -/
theorem exists_of_readText {s : String} (h : readText cs = .ok (s, rest)) :
    ∃ name t, Quoted name t ∧ s = String.ofList t ∧ cs = name ++ rest := by
  unfold readText at h
  split at h
  · rename_i t after hread
    cases h
    obtain ⟨name, hname, hcs⟩ := Quoted.exists_of_readQuoted hread
    exact ⟨name, t, hname, rfl, hcs⟩
  · cases h

/-- What is read after an item. -/
def itemsAfter (n room : Nat) : List Char → Except ReadError (List Value × List Char)
  | ']' :: rest => .ok ([], rest)
  | ',' :: rest => readItems n room (skipSpace rest)
  | _ => .error .malformed

/-- What is read after a member. -/
def membersAfter (n room : Nat) :
    List Char → Except ReadError (List (String × Value) × List Char)
  | '}' :: rest => .ok ([], rest)
  | ',' :: rest => readMembers n room (skipSpace rest)
  | _ => .error .malformed

/-- Items are an item and those after it. -/
theorem readItems_succ (n room : Nat) (cs : List Char) : readItems (n + 1) room cs =
    (readValue n room cs).bind fun r =>
      (itemsAfter n room (skipSpace r.2)).map fun more => (r.1 :: more.1, more.2) := by
  rw [readItems]
  refine congrArg (readValue n room cs).bind (funext fun r => ?_)
  obtain ⟨v, rest⟩ := r
  dsimp only
  generalize skipSpace rest = after
  split
  · rfl
  · rename_i after _
    rw [itemsAfter]
    cases readItems n room (skipSpace after) <;> rfl
  · rw [itemsAfter]
    · rfl
    all_goals assumption

/-- What is read after the name of a member. -/
def memberAfter (n room : Nat) (name : String) :
    List Char → Except ReadError (List (String × Value) × List Char)
  | ':' :: rest =>
    (readValue n room (skipSpace rest)).bind fun r =>
      (membersAfter n room (skipSpace r.2)).map fun more => ((name, r.1) :: more.1, more.2)
  | _ => .error .malformed

/-- Members are a name, its value and those after it. -/
theorem readMembers_succ (n room : Nat) (cs : List Char) :
    readMembers (n + 1) room ('"' :: cs) =
      (readText cs).bind fun name => memberAfter n room name.1 (skipSpace name.2) := by
  rw [readMembers]
  refine congrArg (readText cs).bind (funext fun r => ?_)
  obtain ⟨name, rest⟩ := r
  dsimp only
  generalize skipSpace rest = after
  split
  · rename_i rest
    rw [memberAfter]
    refine congrArg (readValue n room (skipSpace rest)).bind (funext fun r => ?_)
    obtain ⟨v, rest⟩ := r
    dsimp only
    generalize skipSpace rest = after
    split
    · rfl
    · rename_i after _
      rw [membersAfter]
      cases readMembers n room (skipSpace after) <;> rfl
    · rw [membersAfter]
      · rfl
      all_goals assumption
  · rw [memberAfter]
    assumption

/-- The words are read as their values. -/
theorem readScalar_word {w : String} (h : (w, v) ∈ words) (rest : List Char) :
    readScalar (w.toList ++ rest) = .ok (v, rest) := by
  simp only [words, List.mem_cons, Prod.mk.injEq, List.not_mem_nil, or_false] at h
  obtain ⟨rfl, rfl⟩ | ⟨rfl, rfl⟩ | ⟨rfl, rfl⟩ | ⟨rfl, rfl⟩ | ⟨rfl, rfl⟩ | ⟨rfl, rfl⟩ := h <;> rfl

/-- What begins with no word is a number. -/
private theorem readScalar_of_words (hword : ∀ p ∈ words, afterWord? p.1.toList cs = none) :
    (∀ rest, cs = '-' :: rest → readScalar cs = readUnsigned true rest) ∧
      ((∀ rest, cs ≠ '-' :: rest) → readScalar cs = readUnsigned false cs) := by
  unfold readScalar
  split
  · rename_i r hfound
    obtain ⟨p, hp, hr⟩ := List.exists_of_findSome?_eq_some hfound
    simp [hword p hp] at hr
  · constructor
    · rintro rest rfl
      rfl
    · intro hminus
      split
      · exact absurd rfl (hminus _)
      · rfl

theorem readScalar_digit (hc : c.isDigit = true) (cs : List Char) :
    readScalar (c :: cs) = readUnsigned false (c :: cs) := by
  have hne : ∀ {d : Char}, d.isDigit = false → d ≠ c := fun hd => (ne_of_isDigit hc hd).symm
  have hword : ∀ p ∈ words, afterWord? p.1.toList (c :: cs) = none := by
    simp [words, afterWord?, hne]
  exact (readScalar_of_words hword).2 fun rest heq => hne rfl (List.cons.inj heq).1.symm

theorem readScalar_minus (hc : c.isDigit = true) (cs : List Char) :
    readScalar ('-' :: c :: cs) = readUnsigned true (c :: cs) := by
  have hI : 'I' ≠ c := (ne_of_isDigit hc rfl).symm
  have hword : ∀ p ∈ words, afterWord? p.1.toList ('-' :: c :: cs) = none := by
    simp [words, afterWord?, hI]
  exact (readScalar_of_words hword).1 _ rfl

/-- What is left after a word follows it directly. -/
theorem afterWord?_eq_some_iff {w : List Char} :
    afterWord? w cs = some rest ↔ cs = w ++ rest := by
  fun_induction afterWord? w cs <;> simp_all [eq_comm]

/-- What is read as a scalar spells it. -/
theorem exists_of_readScalar (h : readScalar cs = .ok (v, rest)) :
    ∃ used, Spells room used (.value v) ∧ cs = used ++ rest := by
  unfold readScalar at h
  split at h
  · rename_i r hword
    cases h
    obtain ⟨⟨w, v⟩, hmem, hr⟩ := List.exists_of_findSome?_eq_some hword
    obtain ⟨after, hafter, hr⟩ := Option.map_eq_some_iff.1 hr
    cases hr
    exact ⟨w.toList, .word hmem, afterWord?_eq_some_iff.1 hafter⟩
  · split at h
    · obtain ⟨p, hp, hv, rfl⟩ := Numeral.exists_of_readUnsigned h
      exact ⟨'-' :: p.text, .negative hp hv, rfl⟩
    · obtain ⟨p, hp, hv, rfl⟩ := Numeral.exists_of_readUnsigned h
      exact ⟨p.text, .number hp hv, rfl⟩

theorem readValue_scalar (hquote : c ≠ '"') (hlist : c ≠ '[') (hobject : c ≠ '{') (n room : Nat)
    (cs : List Char) : readValue (n + 1) room (c :: cs) = readScalar (c :: cs) := by
  rw [readValue]
  all_goals
    rintro rest heq
    cases heq
    contradiction

/-- A list is read item by item, with one level less to go. -/
theorem readValue_list {ws : List Char} (hws : Spaces ws) (hspace : isSpace c = false)
    (hc : c ≠ ']') (n room : Nat) (cs : List Char) :
    readValue (n + 1) (room + 1) ('[' :: (ws ++ c :: cs)) =
      (readItems n room (c :: cs)).map fun r => (.list r.1, r.2) := by
  rw [readValue, skipSpace_append hws hspace]
  split
  · rename_i heq
    exact absurd (List.cons.inj heq).1 hc
  · cases readItems n room (c :: cs) <;> rfl

/-- An object is read member by member, with one level less to go. -/
theorem readValue_object {ws : List Char} (hws : Spaces ws) (n room : Nat) (cs : List Char) :
    readValue (n + 1) (room + 1) ('{' :: (ws ++ '"' :: cs)) =
      (readMembers n room ('"' :: cs)).map fun r => (.object (Bindings.ofMembers r.1), r.2) := by
  rw [readValue, skipSpace_append hws (by decide)]
  split
  · rename_i heq
    cases heq
  · cases readMembers n room ('"' :: cs) <;> rfl

/-- The reader of a phrase takes these characters and leaves what follows them. -/
private def Phrase.Taken (room : Nat) (cs : List Char) : Phrase → Prop
  | .value v =>
    ∀ n rest, cs.length ≤ n → Ends rest → readValue n room (cs ++ rest) = .ok (v, rest)
  | .items vs => ∀ n rest, cs.length ≤ n → readItems n room (cs ++ rest) = .ok (vs, rest)
  | .moreItems vs => ∀ n rest, cs.length ≤ n → itemsAfter n room (cs ++ rest) = .ok (vs, rest)
  | .members ms => ∀ n rest, cs.length ≤ n → readMembers n room (cs ++ rest) = .ok (ms, rest)
  | .moreMembers ms =>
    ∀ n rest, cs.length ≤ n → membersAfter n room (cs ++ rest) = .ok (ms, rest)

private theorem exists_fuel_append {ws ds : List Char} (hcs : cs ≠ []) (hds : ds ≠ [])
    (h : (cs ++ (ws ++ ds)).length ≤ n) : ∃ m, n = m + 1 ∧ cs.length ≤ m ∧ ds.length ≤ m := by
  have hfront := List.length_pos_iff.2 hcs
  have hback := List.length_pos_iff.2 hds
  simp only [List.length_append] at h
  exact ⟨n - 1, by omega, by omega, by omega⟩

private theorem exists_fuel (h : (c :: cs).length ≤ n) : ∃ m, n = m + 1 ∧ cs.length ≤ m := by
  rw [List.length_cons] at h
  exact ⟨n - 1, by omega, by omega⟩

private theorem Spells.taken {p : Phrase} (h : Spells room cs p) : p.Taken room cs := by
  induction h with
  | word h =>
    intro n rest hn _
    obtain ⟨c, cs, htext, -, -, hquote, hlist, hobject⟩ := exists_cons_of_mem_words h
    have hread := readScalar_word h rest
    rw [htext] at hn hread ⊢
    obtain ⟨n, rfl, -⟩ := exists_fuel hn
    exact (readValue_scalar hquote hlist hobject n _ (cs ++ rest)).trans hread
  | number hp h =>
    intro n rest hn hrest
    obtain ⟨c, cs, htext, hc⟩ := hp.exists_cons
    have hread := Numeral.readUnsigned_text hp false hrest
    rw [htext] at hn hread ⊢
    obtain ⟨n, rfl, -⟩ := exists_fuel hn
    rw [List.cons_append] at hread ⊢
    rw [readValue_scalar (ne_of_isDigit hc rfl) (ne_of_isDigit hc rfl) (ne_of_isDigit hc rfl),
      readScalar_digit hc, hread, h]
    rfl
  | negative hp h =>
    intro n rest hn hrest
    obtain ⟨c, cs, htext, hc⟩ := hp.exists_cons
    have hread := Numeral.readUnsigned_text hp true hrest
    rw [htext] at hn hread ⊢
    obtain ⟨n, rfl, -⟩ := exists_fuel hn
    rw [List.cons_append] at hread
    rw [List.cons_append, List.cons_append, readValue_scalar (by decide) (by decide) (by decide),
      readScalar_minus hc, hread, h]
    rfl
  | text h =>
    intro n rest hn _
    obtain ⟨n, rfl, -⟩ := exists_fuel hn
    rw [List.cons_append, readValue, readText_append h]
    rfl
  | @noItems room ws hws =>
    intro n rest hn _
    obtain ⟨n, rfl, -⟩ := exists_fuel hn
    rw [List.cons_append, List.append_assoc, List.cons_append, readValue,
      skipSpace_append hws (by decide)]
    rfl
  | @list room ws cs vs hws h ih =>
    intro n rest hn _
    obtain ⟨n, rfl, hle⟩ := exists_fuel hn
    rw [List.length_append] at hle
    have hread := ih n rest (by omega)
    obtain ⟨c, cs, rfl, hspace, hc⟩ := h.opens
    rw [List.cons_append] at hread
    rw [List.cons_append, List.append_assoc, List.cons_append, readValue_list hws hspace hc, hread]
    rfl
  | @noMembers room ws hws =>
    intro n rest hn _
    obtain ⟨n, rfl, -⟩ := exists_fuel hn
    rw [List.cons_append, List.append_assoc, List.cons_append, readValue,
      skipSpace_append hws (by decide)]
    rfl
  | @object room ws cs ms hws h ih =>
    intro n rest hn _
    obtain ⟨n, rfl, hle⟩ := exists_fuel hn
    rw [List.length_append] at hle
    have hread := ih n rest (by omega)
    obtain ⟨_, cs, rfl, rfl⟩ := h.opens
    rw [List.cons_append] at hread
    rw [List.cons_append, List.append_assoc, List.cons_append, readValue_object hws, hread]
    rfl
  | @item room cs ws ds v vs hv hws h ihv ih =>
    intro n rest hn
    obtain ⟨n, rfl, hcs, hds⟩ := exists_fuel_append hv.ne_nil h.ne_nil hn
    have hmore := ih n rest hds
    obtain ⟨d, ds, rfl, hd⟩ := h.opens
    rw [List.cons_append] at hmore
    have hmark : d = ',' ∨ d = ']' ∨ d = '}' := hd.imp_right Or.inl
    have hread := ihv n _ hcs (hws.ends_append (ends_mark hmark (ds ++ rest)))
    rw [List.append_assoc, List.append_assoc, List.cons_append, readItems_succ, hread]
    simp only [Except.bind, skipSpace_append hws hd.isSpace_eq, hmore]
    rfl
  | endItems => exact fun _ _ _ => rfl
  | @moreItems room ws ds vs hws h ih =>
    intro n rest hn
    have hread := ih n rest (by simp at hn; omega)
    obtain ⟨c, ds, rfl, hc, -⟩ := h.opens
    rw [List.cons_append] at hread
    rw [List.cons_append, List.append_assoc, List.cons_append, itemsAfter,
      skipSpace_append hws hc, hread]
  | @member room name s before after cs ws ds v ms hname hbefore hafter hv hws h ihv ih =>
    intro n rest hn
    obtain ⟨n, rfl, hle⟩ := exists_fuel hn
    simp only [List.length_append, List.length_cons] at hle
    have hmore := ih n rest (by omega)
    obtain ⟨d, ds, rfl, hd⟩ := h.opens
    rw [List.cons_append] at hmore
    have hmark : d = ',' ∨ d = ']' ∨ d = '}' := hd.imp_right Or.inr
    have hread := ihv n _ (by omega) (hws.ends_append (ends_mark hmark (ds ++ rest)))
    obtain ⟨c, cs, rfl, hc⟩ := hv.opens
    rw [List.cons_append] at hread
    simp only [List.cons_append, List.append_assoc]
    have hcolon : isSpace ':' = false := rfl
    rw [readMembers_succ, readText_append hname]
    simp only [Except.bind, skipSpace_append hbefore hcolon, memberAfter,
      skipSpace_append hafter hc.1, hread, skipSpace_append hws hd.isSpace_eq, hmore]
    rfl
  | endMembers => exact fun _ _ _ => rfl
  | moreMembers hws h ih =>
    intro n rest hn
    have hread := ih n rest (by simp at hn; omega)
    obtain ⟨_, ds, rfl, rfl⟩ := h.opens
    rw [List.cons_append] at hread
    rw [List.cons_append, List.append_assoc, List.cons_append, membersAfter,
      skipSpace_append hws (by decide), hread]

/-- The characters up to `rest` stand for the phrase. -/
private def Found (room : Nat) (cs rest : List Char) (p : Phrase) : Prop :=
  ∃ used, Spells room used p ∧ cs = used ++ rest

/-- The three readers at one bound, each a reader of its phrase. -/
private structure Sound (n : Nat) : Prop where
  value : ∀ {room cs v rest}, readValue n room cs = .ok (v, rest) → Found room cs rest (.value v)
  items : ∀ {room cs vs rest}, readItems n room cs = .ok (vs, rest) →
    Found room cs rest (.items vs)
  members : ∀ {room cs ms rest}, readMembers n room cs = .ok (ms, rest) →
    Found room cs rest (.members ms)

private theorem Sound.itemsAfter (hsound : Sound n) {vs : List Value}
    (h : itemsAfter n room cs = .ok (vs, rest)) : Found room cs rest (.moreItems vs) := by
  unfold Json.itemsAfter at h
  split at h
  · cases h
    exact ⟨[']'], .endItems, rfl⟩
  · rename_i after
    obtain ⟨used, hused, hcs⟩ := hsound.items h
    obtain ⟨ws, hws, hafter⟩ := exists_skipSpace after
    exact ⟨',' :: (ws ++ used), .moreItems hws hused, by simp [← hcs, ← hafter]⟩
  · cases h

private theorem Sound.membersAfter (hsound : Sound n) {ms : List (String × Value)}
    (h : membersAfter n room cs = .ok (ms, rest)) : Found room cs rest (.moreMembers ms) := by
  unfold Json.membersAfter at h
  split at h
  · cases h
    exact ⟨['}'], .endMembers, rfl⟩
  · rename_i after
    obtain ⟨used, hused, hcs⟩ := hsound.members h
    obtain ⟨ws, hws, hafter⟩ := exists_skipSpace after
    exact ⟨',' :: (ws ++ used), .moreMembers hws hused, by simp [← hcs, ← hafter]⟩
  · cases h

private theorem Sound.value_succ (hsound : Sound n)
    (h : readValue (n + 1) room cs = .ok (v, rest)) : Found room cs rest (.value v) := by
  rw [readValue.eq_def] at h
  dsimp only at h
  split at h
  · rename_i after
    obtain ⟨⟨s, _⟩, htext, hv⟩ := bind_eq_ok_iff.1 h
    cases hv
    obtain ⟨name, t, hname, rfl, rfl⟩ := exists_of_readText htext
    exact ⟨'"' :: name, .text hname, rfl⟩
  · rename_i after
    obtain ⟨ws, hws, hafter⟩ := exists_skipSpace after
    split at h
    · cases h
    · split at h
      · rename_i heq
        cases h
        exact ⟨'[' :: (ws ++ [']']), .noItems hws, by rw [hafter, heq]; simp⟩
      · obtain ⟨⟨vs, _⟩, hitems, hv⟩ := bind_eq_ok_iff.1 h
        cases hv
        obtain ⟨used, hused, hcs⟩ := hsound.items hitems
        exact ⟨'[' :: (ws ++ used), .list hws hused, by simp [← hcs, ← hafter]⟩
  · rename_i after
    obtain ⟨ws, hws, hafter⟩ := exists_skipSpace after
    split at h
    · cases h
    · split at h
      · rename_i heq
        cases h
        exact ⟨'{' :: (ws ++ ['}']), .noMembers hws, by rw [hafter, heq]; simp⟩
      · obtain ⟨⟨ms, _⟩, hmembers, hv⟩ := bind_eq_ok_iff.1 h
        cases hv
        obtain ⟨used, hused, hcs⟩ := hsound.members hmembers
        exact ⟨'{' :: (ws ++ used), .object hws hused, by simp [← hcs, ← hafter]⟩
  · exact exists_of_readScalar h

private theorem Sound.items_succ (hsound : Sound n) {vs : List Value}
    (h : readItems (n + 1) room cs = .ok (vs, rest)) : Found room cs rest (.items vs) := by
  rw [readItems_succ] at h
  obtain ⟨⟨v, after⟩, hvalue, h⟩ := bind_eq_ok_iff.1 h
  obtain ⟨⟨vs, _⟩, hmore, hvs⟩ := map_eq_ok_iff.1 h
  cases hvs
  obtain ⟨used, hused, rfl⟩ := hsound.value hvalue
  obtain ⟨ws, hws, hafter⟩ := exists_skipSpace after
  obtain ⟨more, hmore, hrest⟩ := hsound.itemsAfter hmore
  exact ⟨used ++ (ws ++ more), .item hused hws hmore, by simp [← hrest, ← hafter]⟩

private theorem Sound.members_succ (hsound : Sound n) {ms : List (String × Value)}
    (h : readMembers (n + 1) room cs = .ok (ms, rest)) : Found room cs rest (.members ms) := by
  by_cases hquote : ∃ after, cs = '"' :: after
  · obtain ⟨cs, rfl⟩ := hquote
    rw [readMembers_succ] at h
    obtain ⟨⟨name, middle⟩, htext, hcolon⟩ := bind_eq_ok_iff.1 h
    obtain ⟨name, t, hname, rfl, rfl⟩ := exists_of_readText htext
    obtain ⟨before, hbefore, hmiddle⟩ := exists_skipSpace middle
    unfold memberAfter at hcolon
    split at hcolon
    · rename_i back heq
      obtain ⟨⟨v, after⟩, hvalue, hcomma⟩ := bind_eq_ok_iff.1 hcolon
      obtain ⟨⟨ms, _⟩, hmore, hms⟩ := map_eq_ok_iff.1 hcomma
      cases hms
      obtain ⟨behind, hbehind, hback⟩ := exists_skipSpace back
      obtain ⟨used, hused, hvalue⟩ := hsound.value hvalue
      obtain ⟨ws, hws, hafter⟩ := exists_skipSpace after
      obtain ⟨more, hmore, hrest⟩ := hsound.membersAfter hmore
      refine ⟨_, .member hname hbefore hbehind hused hws hmore, ?_⟩
      rw [hmiddle, heq, hback, hvalue]
      simp [← hrest, ← hafter]
    · cases hcolon
  · rw [readMembers] at h
    · cases h
    · exact fun after heq => hquote ⟨after, heq⟩

private theorem sound (n : Nat) : Sound n := by
  induction n with
  | zero => exact ⟨nofun, nofun, nofun⟩
  | succ n ih => exact ⟨ih.value_succ, ih.items_succ, ih.members_succ⟩

/-- What is read as a value spells it. -/
theorem exists_of_readValue (h : readValue n room cs = .ok (v, rest)) :
    ∃ used, Spells room used (.value v) ∧ cs = used ++ rest := (sound n).value h

end Readers

/-- A text is read as a value exactly if it spells the value, with blanks around it. -/
theorem readChars_eq_ok_iff {room : Nat} {cs : List Char} {v : Value} :
    readChars room cs = .ok v ↔ ∃ before used after,
      Spaces before ∧ Spells room used (.value v) ∧ Spaces after ∧
      cs = before ++ (used ++ after) := by
  constructor
  · intro h
    obtain ⟨⟨w, rest⟩, hvalue, h⟩ := bind_eq_ok_iff.1 h
    obtain ⟨used, hused, hfront⟩ := exists_of_readValue hvalue
    obtain ⟨before, hbefore, hcs⟩ := exists_skipSpace cs
    obtain ⟨after, hafter, hrest⟩ := exists_skipSpace rest
    dsimp only at h
    split at h
    · rename_i hempty
      cases h
      rw [List.isEmpty_iff] at hempty
      rw [hempty, List.append_nil] at hrest
      exact ⟨before, used, after, hbefore, hused, hafter, by rw [hcs, hfront, hrest]⟩
    · cases h
  · rintro ⟨before, used, after, hbefore, hused, hafter, rfl⟩
    have hread : readValue (2 * (before ++ (used ++ after)).length + 2) room (used ++ after) =
        .ok (v, after) := by
      refine hused.taken _ after (by simp; omega) ?_
      rw [← List.append_nil after]
      exact hafter.ends_append ends_nil
    obtain ⟨c, used, rfl, hc⟩ := hused.opens
    have hrest : skipSpace after = [] := List.dropWhile_eq_nil_iff.2 hafter
    rw [List.cons_append] at hread ⊢
    rw [readChars, skipSpace_append hbefore hc.1, hread]
    simp only [bind, Except.bind, hrest, List.isEmpty_nil, if_true]

/-- A text is read as a value exactly if it spells the value between blanks. -/
theorem read_eq_ok_iff {s : String} {v : Value} : read s = .ok v ↔
    ∃ before used after, Spaces before ∧ Spells maxNesting used (.value v) ∧ Spaces after ∧
      s.toList = before ++ (used ++ after) := readChars_eq_ok_iff

end CallFlow.Json
