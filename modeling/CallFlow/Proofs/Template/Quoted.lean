import CallFlow.Proofs.Json.Written
import CallFlow.Proofs.Template.Cut

namespace CallFlow

/-- A value with its texts rendered, names of members included. None when one of them can not be
rendered. -/
def Value.rendered (v : Value) (b : Bindings) : Option Value :=
  if v.texts.all fun s => (Template.render s b).isSome then
    some (v.mapTexts fun s => (Template.render s b).getD "")
  else none

namespace Template

open Json

variable {b : Bindings} {c : Char} {cs : List Char}

/-- What characters are rendered as where all values in them can be shown. -/
def renderChars (b : Bindings) (cs : List Char) : List Char := (pieces cs).flatMap (Piece.fill b)

theorem toList_fill (text : String) (b : Bindings) :
    (fill text b).toList = renderChars b text.toList := String.toList_ofList

theorem placeholder?_cons_of_ne (hc : c ≠ '{') (cs : List Char) :
    placeholder? (c :: cs) = none := by
  unfold placeholder?
  split
  · rename_i heq
    exact absurd (List.cons.inj heq).1 hc
  · rfl

theorem placeholder?_brace_of_ne (hc : c ≠ '{') (cs : List Char) :
    placeholder? ('{' :: c :: cs) = none := by
  unfold placeholder?
  split
  · rename_i heq
    exact absurd (List.cons.inj (List.cons.inj heq).2).1 hc
  · rfl

theorem renderChars_nil : renderChars b [] = [] := by
  rw [renderChars, pieces]
  rfl

/-- Where no placeholder stands, a character is rendered as it is. -/
theorem renderChars_cons (h : placeholder? (c :: cs) = none) :
    renderChars b (c :: cs) = c :: renderChars b cs := by
  rw [renderChars, pieces_cons_of_eq_none h]
  rfl

/-- A placeholder is rendered as what its variable is shown as. -/
theorem renderChars_placed {name : List Char} (h : IsName name) (rest : List Char) :
    renderChars b (placed name rest) =
      (b.getD (String.ofList name)).shown.toList ++ renderChars b rest := by
  rw [renderChars, pieces_placed h, List.flatMap_cons]
  rfl

/-- A name has word characters only. -/
theorem IsName.not_mem (h : IsName cs) (hc : Text.isWord c = false) : c ∉ cs := by
  intro hmem
  cases hc.symm.trans (h.2 c hmem)

theorem IsName.not_mem_placed (h : IsName cs) (hc : Text.isWord c = false) (hopening : c ≠ '{')
    (hclosing : c ≠ '}') : c ∉ placed cs [] := by
  simp [placed, hopening, hclosing, h.not_mem hc]

/-- No placeholder reaches across a quote. -/
theorem placeholder?_append_quote (h : placeholder? cs = none) (rest : List Char) :
    placeholder? (cs ++ '"' :: rest) = none := by
  cases hfound : placeholder? (cs ++ '"' :: rest) with
  | none => rfl
  | some found =>
    obtain ⟨name, back⟩ := found
    obtain ⟨hname, heq⟩ := eq_placed_of_placeholder? hfound
    have hfront : placed name back = placed name [] ++ back := (placed_append name [] back).symm
    have hquote : '"' ∉ placed name [] :=
      hname.not_mem_placed (by decide) (by decide) (by decide)
    rw [hfront] at heq
    obtain ⟨as, has, hback⟩ | ⟨as, rfl, -⟩ := List.append_eq_append_iff.1 heq
    · cases as with
      | nil =>
        rw [List.append_nil] at has
        rw [← has, placeholder?_placed hname] at h
        cases h
      | cons d as =>
        obtain rfl := (List.cons.inj hback).1
        exact absurd (has ▸ List.mem_append_right cs List.mem_cons_self) hquote
    · rw [placed_append, placeholder?_placed hname] at h
      cases h

/-- A quote cuts the pieces of a text into those before it and those after it. -/
theorem pieces_append_quote (cs rest : List Char) :
    pieces (cs ++ '"' :: rest) = pieces cs ++ .char '"' :: pieces rest := by
  fun_induction pieces cs with
  | case1 => exact pieces_cons_of_eq_none (placeholder?_cons_of_ne (show '"' ≠ '{' by decide) rest)
  | case2 c after name back h _ ih =>
    obtain ⟨hname, heq⟩ := eq_placed_of_placeholder? h
    rw [heq, placed_append, pieces_placed hname, ih]
    rfl
  | case3 c after h ih =>
    have hquote := placeholder?_append_quote h rest
    rw [List.cons_append] at hquote ⊢
    rw [pieces_cons_of_eq_none hquote, ih]
    rfl

/-- A mark of quotation divides a text that is rendered. -/
theorem renderChars_append_quote (cs rest : List Char) :
    renderChars b (cs ++ '"' :: rest) = renderChars b cs ++ '"' :: renderChars b rest := by
  simp [renderChars, pieces_append_quote, Piece.fill]

/-- No placeholder begins in the characters, whatever follows them. -/
def IsLiteral (cs : List Char) : Prop := ∀ rest, pieces (cs ++ rest) = cs.map .char ++ pieces rest

namespace IsLiteral

theorem nil : IsLiteral [] := fun _ => rfl

theorem cons (hc : c ≠ '{') (h : IsLiteral cs) : IsLiteral (c :: cs) := by
  intro rest
  rw [List.cons_append, pieces_cons_of_eq_none (placeholder?_cons_of_ne hc _), h]
  rfl

/-- A brace that no other brace follows. -/
theorem brace {d : Char} (hd : d ≠ '{') (h : IsLiteral (d :: cs)) :
    IsLiteral ('{' :: d :: cs) := by
  intro rest
  have hbrace : placeholder? ('{' :: (d :: cs ++ rest)) = none := placeholder?_brace_of_ne hd _
  rw [List.cons_append, pieces_cons_of_eq_none hbrace, h]
  rfl

/-- Without an opening brace everything is literal. -/
theorem of_not_mem (h : '{' ∉ cs) : IsLiteral cs := by
  induction cs with
  | nil => exact nil
  | cons c cs ih =>
    obtain ⟨hc, hcs⟩ := List.ne_and_not_mem_of_not_mem_cons h
    exact (ih hcs).cons hc.symm

/-- A literal text in front is rendered as it is. -/
theorem renderChars_append (h : IsLiteral cs) (rest : List Char) :
    renderChars b (cs ++ rest) = cs ++ renderChars b rest := by
  rw [renderChars, h, List.flatMap_append, List.flatMap_map]
  simp [renderChars, Piece.fill]

end IsLiteral

/-- The characters are rendered as others, whatever follows them. -/
def Renders (b : Bindings) (cs out : List Char) : Prop :=
  ∀ rest, renderChars b (cs ++ rest) = out ++ renderChars b rest

namespace Renders

variable {ds out out' : List Char}

theorem nil : Renders b [] [] := fun _ => rfl

/-- Texts that are rendered apart are rendered together. -/
theorem append (h : Renders b cs out) (h' : Renders b ds out') :
    Renders b (cs ++ ds) (out ++ out') := by
  intro rest
  rw [List.append_assoc, h, h', List.append_assoc]

/-- Anything but an opening brace is rendered as it is. -/
theorem cons (hc : c ≠ '{') (h : Renders b cs out) : Renders b (c :: cs) (c :: out) := by
  intro rest
  rw [List.cons_append, renderChars_cons (placeholder?_cons_of_ne hc _), h]
  rfl

/-- An opening brace before something else than another. -/
theorem brace (h : Renders b cs out) {d : Char} (hhead : cs.head? = some d)
    (hd : d ≠ '{') : Renders b ('{' :: cs) ('{' :: out) := by
  intro rest
  obtain ⟨tail, rfl⟩ := List.head?_eq_some_iff.1 hhead
  have hbrace : placeholder? ('{' :: (d :: tail ++ rest)) = none :=
    placeholder?_brace_of_ne hd _
  rw [List.cons_append, renderChars_cons hbrace, h]
  rfl

theorem literal (h : '{' ∉ cs) : Renders b cs cs := (IsLiteral.of_not_mem h).renderChars_append

/-- A quoted text is rendered inside of its marks. -/
theorem inQuotes (cs : List Char) : Renders b (inQuotes cs) (Json.inQuotes (renderChars b cs)) := by
  intro rest
  have hquote : placeholder? ('"' :: (cs ++ '"' :: rest)) = none :=
    placeholder?_cons_of_ne (show '"' ≠ '{' by decide) _
  have htext : Json.inQuotes cs ++ rest = '"' :: (cs ++ '"' :: rest) := by simp [Json.inQuotes]
  rw [htext, renderChars_cons hquote, renderChars_append_quote]
  simp [Json.inQuotes]

/-- Items that are rendered apart are rendered as a list. -/
theorem intercalate {α : Type} {f g : α → List Char} {as : List α}
    (h : ∀ a ∈ as, Renders b (f a) (g a)) :
    Renders b (separator.intercalate (as.map f)) (separator.intercalate (as.map g)) := by
  induction as with
  | nil => exact nil
  | cons a rest ih =>
    obtain ⟨ha, hrest⟩ := List.forall_mem_cons.1 h
    cases rest with
    | nil => simpa using ha
    | cons a' rest =>
      simp only [List.map_cons, List.intercalate_cons_cons] at ih ⊢
      exact (ha.append (literal (by decide))).append (ih hrest)

end Renders

theorem not_mem_of_digits {cs : List Char} (h : Text.Digits cs) : '{' ∉ cs :=
  fun hmem => absurd (h _ hmem) (by decide)

theorem not_mem_text {p : Numeral} (hp : p.IsProper) : '{' ∉ p.text := by
  have hfraction : '{' ∉ p.fraction.elim [] ('.' :: ·) := by
    cases hfs : p.fraction with
    | none => exact List.not_mem_nil
    | some fs => simp [not_mem_of_digits (hp.fraction fs hfs).1]
  have hexponent : '{' ∉ p.exponent.elim [] Prod.fst := by
    cases he : p.exponent with
    | none => exact List.not_mem_nil
    | some e =>
      obtain ⟨cs, value⟩ := e
      have hletter : ∀ {l : Char}, l = 'e' ∨ l = 'E' → '{' ≠ l := by
        rintro l (rfl | rfl) <;> decide
      obtain ⟨hl, hds, -⟩ | ⟨hl, hds, -⟩ | ⟨hl, hds, -⟩ := hp.exponent _ he <;>
        simp [hletter hl, not_mem_of_digits hds]
  simp [Numeral.text, not_mem_of_digits hp.whole, hfraction, hexponent]

theorem not_mem_word {w : String} {v : Value} (h : (w, v) ∈ words) : '{' ∉ w.toList := by
  simp only [words, List.mem_cons, Prod.mk.injEq, List.not_mem_nil, or_false] at h
  obtain ⟨rfl, -⟩ | ⟨rfl, -⟩ | ⟨rfl, -⟩ | ⟨rfl, -⟩ | ⟨rfl, -⟩ | ⟨rfl, -⟩ := h <;> decide

theorem not_mem_float (x : Float) : '{' ∉ (Decimal.json.text x).toList := by
  have hspells := spells_float 0 x
  generalize (Decimal.json.text x).toList = cs at hspells
  cases hspells with
  | word h => exact not_mem_word h
  | number hp => exact not_mem_text hp
  | negative hp => simp [not_mem_text hp]

theorem not_mem_int (i : Int) : '{' ∉ (toString i).toList := by
  have hdigits := not_mem_of_digits (Text.digits_toDigits i.natAbs)
  rw [NumberText.toList_toString]
  split <;> simp [hdigits]

/-- The text of a value is rendered as its texts are, between their quotes. -/
theorem renders_spell (inner : String → List Char) (v : Value) :
    Renders b (spell inner v) (spell (fun s => renderChars b (inner s)) v) := by
  induction v using Value.byParts with
  | null => exact .literal (not_mem_word (w := "null") (v := .null) (by simp [words]))
  | bool b =>
    cases b with
    | false => exact .literal (not_mem_word (w := "false") (v := .bool false) (by simp [words]))
    | true => exact .literal (not_mem_word (w := "true") (v := .bool true) (by simp [words]))
  | int i => exact .literal (not_mem_int i)
  | float x => exact .literal (not_mem_float x)
  | text s => exact .inQuotes (inner s)
  | list items ih =>
    simp only [spell, spellItems_eq]
    exact .cons (by decide) ((Renders.intercalate ih).append (.literal (by decide)))
  | object members ih =>
    simp only [spell, spellMembers_eq]
    have hmember : ∀ m ∈ members, Renders b (spellMember inner m)
        (spellMember (fun s => renderChars b (inner s)) m) := by
      intro m hm
      exact (Renders.inQuotes (inner m.1)).append (.cons (by decide) (.cons (by decide) (ih m hm)))
    have hmembers := (Renders.intercalate hmember).append
      (Renders.literal (show '{' ∉ ['}'] by decide))
    -- what follows the opening brace is the quote of a name or the closing brace
    cases members with
    | nil => exact hmembers.brace rfl (by decide)
    | cons m rest =>
      refine hmembers.brace (d := '"') ?_ (by decide)
      cases rest <;> rfl

/-- Characters of ASCII. -/
def IsAscii (cs : List Char) : Prop := ∀ c ∈ cs, c.toNat < 128

/-- What a name is bound to suits a placeholder between quotes. A name in ASCII is replaced there,
and what replaces it has to stand for itself, if there is anything that does; any other is escaped,
and so it stays. -/
structure Fits (b : Bindings) (name : String) : Prop where
  plain : IsAscii name.toList → ∀ s, (b.getD name).display = some s → ∀ c ∈ s.toList, IsPlain c
  same : ¬IsAscii name.toList →
    (b.getD name).display = some (String.ofList (placed name.toList []))

section Escapes

variable {name word back : List Char}

/-- Characters that were not escaped stand in a text as they stand in the escaped text. -/
theorem exists_of_escape_eq (hword : '\\' ∉ word) (h : cs.flatMap escapeChar = word ++ back) :
    ∃ rest, cs = word ++ rest ∧ IsAscii word := by
  induction word generalizing cs with
  | nil => exact ⟨cs, rfl, nofun⟩
  | cons w word ih =>
    obtain ⟨hslash, hrest⟩ := List.ne_and_not_mem_of_not_mem_cons hword
    cases cs with
    | nil => cases h
    | cons c cs =>
      rw [List.flatMap_cons] at h
      obtain ⟨hplain, -, hascii⟩ | ⟨tail, hescape⟩ := escapeChar_cases c
      · rw [hplain] at h
        obtain ⟨rfl, htail⟩ := List.cons.inj h
        obtain ⟨rest, rfl, hall⟩ := ih hrest htail
        exact ⟨rest, rfl, List.forall_mem_cons.2 ⟨by omega, hall⟩⟩
      · rw [hescape] at h
        exact absurd (List.cons.inj h).1 hslash

/-- Where a placeholder stands in an escaped text, the same stands in the text. -/
theorem placeholder?_escape (h : placeholder? (cs.flatMap escapeChar) = some (name, back)) :
    (∃ rest, placeholder? cs = some (name, rest)) ∧ IsAscii name := by
  obtain ⟨hname, heq⟩ := eq_placed_of_placeholder? h
  have hslash : '\\' ∉ placed name [] :=
    hname.not_mem_placed (by decide) (by decide) (by decide)
  rw [← List.nil_append back, ← placed_append] at heq
  obtain ⟨rest, rfl, hascii⟩ := exists_of_escape_eq hslash heq
  refine ⟨⟨rest, ?_⟩, fun c hc => hascii c (by simp [placed, hc])⟩
  rw [placed_append]
  exact placeholder?_placed hname rest

/-- Letters, digits and the low line are not escaped. -/
theorem escapeChar_word (hword : Text.isWord c = true) (hascii : c.toNat < 128) :
    escapeChar c = [c] := by
  have hall : ∀ n < 128, Text.isWord (Char.ofNat n) = true →
      escapeChar (Char.ofNat n) = [Char.ofNat n] := by decide +kernel
  have hc := hall c.toNat hascii
  rw [Char.ofNat_toNat] at hc
  exact hc hword

/-- A name of ASCII is not escaped. -/
theorem escape_name (h : IsName name) (hascii : IsAscii name) :
    name.flatMap escapeChar = name := by
  have hname : name.flatMap escapeChar = name.flatMap fun c => [c] :=
    List.flatMap_congr fun c hc => escapeChar_word (h.2 c hc) (hascii c hc)
  rw [hname]
  simp

/-- The braces of a placeholder are not escaped. -/
theorem escape_placed (name rest : List Char) : (placed name rest).flatMap escapeChar =
    placed (name.flatMap escapeChar) (rest.flatMap escapeChar) := by
  have hopening : escapeChar '{' = ['{'] := rfl
  have hclosing : escapeChar '}' = ['}'] := rfl
  simp [placed, hopening, hclosing]

/-- Escapes bring in no braces. -/
theorem not_mem_escapeChar (hc : c ≠ '{') : '{' ∉ escapeChar c := by
  have hdigit : ∀ n, '{' ≠ Nat.digitChar (n % 16) := by
    intro n
    have hall : ∀ k < 16, '{' ≠ Nat.digitChar k := by decide
    exact hall (n % 16) (Nat.mod_lt n (by decide))
  have hunit : ∀ n, '{' ∉ escapeUnit n := by
    intro n
    simp [escapeUnit, unitDigits, hdigit]
  unfold escapeChar
  split_ifs
  all_goals simp [hc.symm, hunit]

/-- Escaping adds no brace. -/
theorem not_mem_escape (h : '{' ∉ cs) : '{' ∉ cs.flatMap escapeChar := by
  intro hmem
  obtain ⟨c, hc, hescape⟩ := List.mem_flatMap.1 hmem
  exact not_mem_escapeChar (ne_of_mem_of_not_mem hc h) hescape

/-- A placeholder whose name is escaped is none any more. -/
theorem pieces_escaped (hname : IsName name) (hascii : ¬IsAscii name) (rest : List Char) :
    pieces ((placed name rest).flatMap escapeChar) =
      ((placed name []).flatMap escapeChar).map .char ++ pieces (rest.flatMap escapeChar) := by
  have hfront : placeholder? ((placed name rest).flatMap escapeChar) = none := by
    cases hfound : placeholder? ((placed name rest).flatMap escapeChar) with
    | none => rfl
    | some found =>
      obtain ⟨other, back⟩ := found
      obtain ⟨⟨after, hother⟩, hall⟩ := placeholder?_escape hfound
      rw [placeholder?_placed hname] at hother
      cases hother
      exact absurd hall hascii
  have hnone : '{' ∉ name.flatMap escapeChar ++ ['}', '}'] := by
    simp [not_mem_escape (hname.not_mem (c := '{') (by decide))]
  obtain ⟨d, tail, hcons⟩ : ∃ d tail, name.flatMap escapeChar ++ ['}', '}'] = d :: tail :=
    List.exists_cons_of_ne_nil (by simp)
  have hinside : IsLiteral ('{' :: (name.flatMap escapeChar ++ ['}', '}'])) := by
    rw [hcons] at hnone ⊢
    exact (IsLiteral.of_not_mem hnone).brace (List.ne_of_not_mem_cons hnone).symm
  have hplaced : ∀ rest, placed (name.flatMap escapeChar) rest =
      '{' :: ('{' :: (name.flatMap escapeChar ++ ['}', '}']) ++ rest) := by
    intro rest
    simp [placed]
  rw [escape_placed, hplaced] at hfront ⊢
  rw [pieces_cons_of_eq_none hfront, hinside, escape_placed, hplaced]
  simp

/-- A placeholder whose name is escaped is no placeholder any more. -/
theorem renderChars_escaped (hname : IsName name) (hascii : ¬IsAscii name) (rest : List Char) :
    renderChars b ((placed name rest).flatMap escapeChar) =
      (placed name []).flatMap escapeChar ++ renderChars b (rest.flatMap escapeChar) := by
  rw [renderChars, pieces_escaped hname hascii, List.flatMap_append, List.flatMap_map]
  simp [renderChars, Piece.fill]

/-- An escaped text that is rendered is read as the rendered text. -/
theorem quoted_renderChars (h : ∀ name, Occurs name cs → Fits b (String.ofList name))
    (hshown : ∀ name, Occurs name cs →
      isWritable maxNesting (b.getD (String.ofList name)) = true) :
    Quoted (renderChars b (cs.flatMap escapeChar) ++ ['"']) (renderChars b cs) := by
  fun_induction pieces cs with
  | case1 =>
    rw [List.flatMap_nil, renderChars_nil]
    exact .close
  | case2 c after name rest hfront _ ih =>
    obtain ⟨hname, heq⟩ := eq_placed_of_placeholder? hfront
    rw [heq] at h hshown ⊢
    have hbehind : ∀ {other}, Occurs other rest → Occurs other (placed name rest) :=
      fun hother => (occurs_placed_iff hname rest).2 (Or.inr hother)
    have hrest := ih (fun other hother => h other (hbehind hother))
      fun other hother => hshown other (hbehind hother)
    have hoccurs : Occurs name (placed name rest) := (occurs_placed_iff hname rest).2 (Or.inl rfl)
    have hdisplay : (b.getD (String.ofList name)).display =
        some (b.getD (String.ofList name)).shown :=
      Value.display_eq_some_iff.2 ⟨hshown name hoccurs, rfl⟩
    obtain ⟨hplain, hsame⟩ := h name hoccurs
    rw [String.toList_ofList, hdisplay] at hplain hsame
    rw [renderChars_placed hname]
    by_cases hascii : IsAscii name
    · rw [escape_placed, escape_name hname hascii, renderChars_placed hname, List.append_assoc]
      exact hrest.plain_append (hplain hascii _ rfl)
    · rw [renderChars_escaped hname hascii, Option.some.inj (hsame hascii), String.toList_ofList,
        List.append_assoc]
      exact hrest.escape_append (placed name [])
  | case3 c after hfront ih =>
    have hbehind : ∀ {other}, Occurs other after → Occurs other (c :: after) :=
      fun hother => occurs_cons_iff.2 (Or.inr hother)
    have hrest := ih (fun other hother => h other (hbehind hother))
      fun other hother => hshown other (hbehind hother)
    rw [List.flatMap_cons, renderChars_cons hfront]
    have hescape : renderChars b (escapeChar c ++ after.flatMap escapeChar) =
        escapeChar c ++ renderChars b (after.flatMap escapeChar) := by
      by_cases hc : c = '{'
      · subst hc
        have hnone : placeholder? ('{' :: after.flatMap escapeChar) = none := by
          cases hfound : placeholder? (('{' :: after).flatMap escapeChar) with
          | none => exact hfound
          | some found =>
            obtain ⟨⟨back, hback⟩, -⟩ := placeholder?_escape hfound
            cases hfront.symm.trans hback
        exact renderChars_cons hnone
      · exact Renders.literal (not_mem_escapeChar hc) _
    rw [hescape, List.append_assoc]
    exact hrest.escapeChar_append c

end Escapes

section Values

/-- Every item is a part of the list. -/
theorem isInfix_intercalate {as : List (List Char)} {a : List Char} (h : a ∈ as) :
    a <:+: separator.intercalate as := by
  induction as with
  | nil => cases h
  | cons d rest ih =>
    cases rest with
    | nil => rw [List.mem_singleton.1 h, List.intercalate_singleton]
    | cons e rest =>
      rw [List.intercalate_cons_cons]
      obtain rfl | hrest := List.mem_cons.1 h
      · exact (List.prefix_append a _).isInfix.trans (List.prefix_append _ _).isInfix
      · exact (ih hrest).trans (List.suffix_append _ _).isInfix

/-- A text of a value stands in the text of the value, between quotes. -/
theorem isInfix_spell (inner : String → List Char) {s : String} {v : Value} (h : s ∈ v.texts) :
    inner s <:+: spell inner v := by
  have hquotes : ∀ cs, cs <:+: Json.inQuotes cs := fun cs => ⟨['"'], ['"'], by simp [Json.inQuotes]⟩
  induction v using Value.byParts with
  | null | bool | int | float => cases h
  | text t =>
    rw [List.mem_singleton.1 h]
    exact hquotes _
  | list items ih =>
    rw [Value.texts, Value.textsOfItems_eq] at h
    obtain ⟨v, hv, hs⟩ := List.mem_flatMap.1 h
    rw [spell, spellItems_eq]
    refine ((ih v hv hs).trans (isInfix_intercalate (List.mem_map_of_mem hv))).trans ?_
    exact ⟨['['], [']'], rfl⟩
  | object members ih =>
    rw [Value.texts, Value.textsOfMembers_eq] at h
    obtain ⟨m, hm, hs⟩ := List.mem_flatMap.1 h
    rw [spell, spellMembers_eq]
    have hmember : inner s <:+: spellMember inner m := by
      obtain rfl | hs := List.mem_cons.1 hs
      · exact (hquotes _).trans (List.prefix_append _ _).isInfix
      · exact (ih m hm hs).trans ⟨Json.inQuotes (inner m.1) ++ [':', ' '], [], by
          simp [spellMember]⟩
    refine (hmember.trans (isInfix_intercalate (List.mem_map_of_mem hm))).trans ?_
    exact ⟨['{'], ['}'], rfl⟩

/-- A text that is written out refers to the names in ASCII that it referred to. -/
theorem mem_names_write {v : Value} {s name : String} (hs : s ∈ v.texts) (hname : name ∈ names s)
    (hascii : IsAscii name.toList) : name ∈ names (write v) := by
  obtain ⟨hword, front, back, heq⟩ := mem_names_iff.1 hname
  have hinfix := isInfix_spell escape hs
  rw [← toList_write] at hinfix
  refine mem_names_iff.2 (Occurs.of_isInfix ⟨hword, front.flatMap escapeChar,
    back.flatMap escapeChar, ?_⟩ hinfix)
  rw [escape, heq, List.flatMap_append, escape_placed, escape_name hword hascii]

/-- Filling in what was written fills in its texts. -/
theorem toList_fill_write (v : Value) (b : Bindings) :
    (fill (write v) b).toList = spell (fun s => renderChars b (escape s)) v := by
  have hrenders := renders_spell (b := b) escape v []
  rw [renderChars_nil, List.append_nil, List.append_nil] at hrenders
  rw [toList_fill, toList_write, hrenders]

/-- The text of a value, rendered, is read as the value with its texts rendered. -/
theorem read_render_write {v : Value} {text : String} (hwritable : isWritable maxNesting v = true)
    (h : ∀ s ∈ v.texts, ∀ name ∈ names s, Fits b name)
    (hrender : render (write v) b = some text) :
    ∃ w, v.rendered b = some w ∧ Json.read text = .ok w := by
  obtain ⟨hshown, rfl⟩ := render_eq_some_iff.1 hrender
  have hname : ∀ s ∈ v.texts, IsShown b s := by
    intro s hs name hname
    by_cases hascii : IsAscii name.toList
    · exact hshown name (mem_names_write hs hname hascii)
    · exact (Value.display_eq_some_iff.1 ((h s hs name hname).same hascii)).1
  have htexts : ∀ s ∈ v.texts, render s b = some (fill s b) :=
    fun s hs => render_eq_some_iff.2 ⟨hname s hs, rfl⟩
  have hall : v.texts.all (fun s => (render s b).isSome) = true :=
    List.all_eq_true.2 fun s hs => by rw [htexts s hs]; rfl
  refine ⟨_, if_pos hall, ?_⟩
  have htext : fill (write v) b =
      String.ofList (spell (fun s => renderChars b (escape s)) v) := by
    rw [← toList_fill_write, String.ofList_toList]
  rw [htext]
  refine read_spell hwritable fun s hs => ?_
  rw [htexts s hs, Option.getD_some, toList_fill]
  have hoccurs : ∀ name, Occurs name s.toList → String.ofList name ∈ names s := by
    intro name hoccurs
    rwa [mem_names_iff, String.toList_ofList]
  exact quoted_renderChars (fun name ho => h s hs _ (hoccurs name ho))
    fun name ho => hname s hs _ (hoccurs name ho)

/-- A text that is nothing but a placeholder. -/
def placeholder (name : String) : String := String.ofList (placed name.toList [])

/-- A placeholder uses one name. -/
theorem names_placeholder {name : String} (hname : IsName name.toList) :
    names (placeholder name) = [name] := by
  rw [names, parse, placeholder, String.toList_ofList, pieces_placed hname, pieces]
  simp [Piece.name?]

/-- A list of one text is rendered as the text is. -/
theorem rendered_singleton (t : String) :
    (Value.list [.text t]).rendered b = (render t b).map fun s => .list [.text s] := by
  cases h : render t b <;>
    simp [Value.rendered, Value.texts, Value.textsOfItems, Value.mapTexts, Value.mapItems, h]

/-- What is bound to a name suits all places if it suits a text that is nothing but its
placeholder. -/
theorem fits_of_read {name : String} (hname : IsName name.toList)
    (h : ∀ text, render (write (.list [.text (placeholder name)])) b = some text →
      ∃ w, (Value.list [.text (placeholder name)]).rendered b = some w ∧ Json.read text = .ok w) :
    Fits b name := by
  simp only [rendered_singleton, placeholder, render_placed hname] at h
  rw [← placeholder] at h
  have hescape : escape (placeholder name) = (placed name.toList []).flatMap escapeChar := by
    rw [escape, placeholder, String.toList_ofList]
  have hwrite : (write (.list [.text (placeholder name)])).toList =
      '[' :: (inQuotes ((placed name.toList []).flatMap escapeChar) ++ [']']) := by
    rw [toList_write, spell_singleton, hescape]
  constructor
  · intro hascii s hdisplay
    have hplaced : write (.list [.text (placeholder name)]) =
        String.ofList ("[\"".toList ++ placed name.toList "\"]".toList) := by
      rw [← String.toList_inj, hwrite, escape_placed, escape_name hname hascii]
      simp [Json.inQuotes, placed]
    have hrender : render (write (.list [.text (placeholder name)])) b =
        some ("[\"" ++ s ++ "\"]") := by
      rw [hplaced, render_append_placed hname, render_of_not_mem (by decide),
        render_of_not_mem (by decide), hdisplay]
      rfl
    obtain ⟨w, hw, hread⟩ := h _ hrender
    rw [hdisplay] at hw
    obtain rfl := Option.some.inj hw
    have htext : ("[\"" ++ s ++ "\"]").toList = '[' :: (inQuotes s.toList ++ [']']) := by
      simp [Json.inQuotes]
    rw [Json.read, htext] at hread
    exact isPlain_of_readChars hread
  · intro hascii
    have hnames : names (write (.list [.text (placeholder name)])) = [] := by
      have hopening : IsLiteral ['[', '"'] := .of_not_mem (by decide)
      have hclosing : pieces [']'] = [.char ']'] := by
        rw [pieces_cons_of_eq_none (placeholder?_cons_of_ne (by decide) []), pieces]
      have hpieces := pieces_escaped hname hascii []
      rw [List.flatMap_nil, pieces, List.append_nil] at hpieces
      have htext : (write (.list [.text (placeholder name)])).toList =
          ['[', '"'] ++ ((placed name.toList []).flatMap escapeChar ++ '"' :: [']']) := by
        simp [hwrite, Json.inQuotes]
      rw [names, parse, htext, hopening, pieces_append_quote, hpieces, hclosing]
      simp only [List.filterMap_append, List.filterMap_map, List.filterMap_cons, Function.comp_def,
        Piece.name?, List.filterMap_none, List.filterMap_nil, List.append_nil]
    obtain ⟨w, hw, hread⟩ := h _ (render_of_names_eq_nil hnames b)
    have hsame : Json.read (write (.list [.text (placeholder name)])) =
        .ok (.list [.text (placeholder name)]) := read_write rfl
    rw [hsame] at hread
    obtain rfl := Except.ok.inj hread
    obtain ⟨s, hs, heq⟩ := Option.map_eq_some_iff.1 hw
    cases heq
    exact hs

end Values

end Template

end CallFlow
