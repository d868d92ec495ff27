import CallFlow.Model.Answer
import CallFlow.Proofs.Bindings
import CallFlow.Proofs.Json.Writable

namespace CallFlow.ModelAnswer

open Json Bindings

/-- No opening brace, then the characters from an opening to a closing brace, then no closing
brace. -/
structure IsSpan (before span after : List Char) : Prop where
  before : '{' ∉ before
  span : ∃ inside, span = '{' :: (inside ++ ['}'])
  after : '}' ∉ after

/-- A text without braces. -/
structure NoBrace (text : String) : Prop where
  opening : '{' ∉ text.toList
  closing : '}' ∉ text.toList

/-- The members with the handle under the plain spelling of its name, if it had only the other. -/
inductive PlainlyNamed : Bindings → Bindings → Prop where
  | kept {o : Bindings} (h : "matchedHandle" ∈ o.names → "matched_handle" ∈ o.names) :
    PlainlyNamed o o
  | renamed {front back : Bindings} {handle : Value} (hfront : "matchedHandle" ∉ front.names)
    (hplain : "matched_handle" ∉ front.names ++ back.names) :
    PlainlyNamed (front ++ ("matchedHandle", handle) :: back)
      (front ++ back ++ [("matched_handle", handle)])

/-- What stands from the first opening to the last closing brace of a text is read as something. -/
def SpanReads (text : String) (result : Except ReadError Value) : Prop :=
  ∃ before span after : String, text = before ++ span ++ after ∧
    IsSpan before.toList span.toList after.toList ∧ read span = result

/-- The object that stands from the first opening to the last closing brace of a text. -/
def Holds (text : String) (members : Bindings) : Prop := SpanReads text (.ok (.object members))

section Braces

variable {c : Char} {cs before after span : List Char}

theorem dropWhile_ne (h : c ∉ before) (rest : List Char) :
    (before ++ c :: rest).dropWhile (· ≠ c) = c :: rest := by
  have hbefore : ∀ d ∈ before, decide (d ≠ c) = true := by
    intro d hd
    exact decide_eq_true (ne_of_mem_of_not_mem hd h)
  rw [List.dropWhile_append_of_pos hbefore, List.dropWhile_cons_of_neg (by simp)]

theorem dropWhile_ne_eq_nil (h : c ∉ cs) : cs.dropWhile (· ≠ c) = [] :=
  List.dropWhile_eq_nil_iff.2 fun _ hd => decide_eq_true (ne_of_mem_of_not_mem hd h)

/-- The span between the outermost braces is found. -/
theorem IsSpan.braced?_eq (h : IsSpan before span after) :
    braced? (before ++ (span ++ after)) = some span := by
  obtain ⟨inside, rfl⟩ := h.span
  have hafter : '}' ∉ after.reverse := fun hmem => h.after (List.mem_reverse.1 hmem)
  have hreverse : ('{' :: (inside ++ ['}'] ++ after)).reverse =
      after.reverse ++ '}' :: ('{' :: inside).reverse := by simp
  rw [braced?, List.cons_append, dropWhile_ne h.before, hreverse, dropWhile_ne hafter]
  simp

/-- What is found between braces is the span of the outermost ones. -/
theorem braced?_eq_some_iff : braced? cs = some span ↔
    ∃ before after, IsSpan before span after ∧ cs = before ++ (span ++ after) := by
  constructor
  · intro hbraced
    by_cases hopening : '{' ∈ cs
    · obtain ⟨before, rest, rfl, hbefore⟩ := List.eq_append_cons_of_mem hopening
      by_cases hclosing : '}' ∈ rest
      · obtain ⟨back, front, hrest, hback⟩ :=
          List.eq_append_cons_of_mem (List.mem_reverse.2 hclosing)
        have hspan : IsSpan before ('{' :: (front.reverse ++ ['}'])) back.reverse :=
          ⟨hbefore, ⟨_, rfl⟩, fun hmem => hback (List.mem_reverse.1 hmem)⟩
        have hcs : before ++ '{' :: rest =
            before ++ ('{' :: (front.reverse ++ ['}']) ++ back.reverse) := by
          rw [← List.reverse_reverse rest, hrest]
          simp
        rw [hcs, hspan.braced?_eq] at hbraced
        cases hbraced
        exact ⟨before, back.reverse, hspan, hcs⟩
      · have hnone : '}' ∉ ('{' :: rest).reverse := by simp [hclosing]
        rw [braced?, dropWhile_ne hbefore, dropWhile_ne_eq_nil hnone] at hbraced
        cases hbraced
    · rw [braced?, dropWhile_ne_eq_nil hopening] at hbraced
      cases hbraced
  · rintro ⟨before, after, hspan, rfl⟩
    exact hspan.braced?_eq

end Braces

section Names

variable {o r front back : Bindings}

/-- The other spelling of the handle is renamed, unless the plain one is there. -/
theorem withPlainName_renamed {handle : Value} (hfront : "matchedHandle" ∉ front.names)
    (hplain : "matched_handle" ∉ front.names ++ back.names) :
    withPlainName (front ++ ("matchedHandle", handle) :: back) =
      front ++ back ++ [("matched_handle", handle)] := by
  have hhas :
      Bindings.has (front ++ ("matchedHandle", handle) :: back) "matched_handle" = false := by
    rw [Bool.eq_false_iff, Ne, Bindings.has_iff_mem_names, names_append]
    simpa [Bindings.names] using hplain
  rw [withPlainName, get?_append hfront, hhas]
  simp only
  rw [erase_append hfront, set_of_not_mem]
  rwa [names_append]

/-- An object that has the plain name, or lacks the other, is left as it is. -/
theorem withPlainName_kept (h : "matchedHandle" ∈ o.names → "matched_handle" ∈ o.names) :
    withPlainName o = o := by
  unfold withPlainName
  split
  · rename_i handle hhandle hplain
    have hhas : o.has "matchedHandle" := by
      rw [Bindings.has, hhandle]
      rfl
    have hmem := Bindings.has_iff_mem_names.2 (h (Bindings.has_iff_mem_names.1 hhas))
    cases hplain.symm.trans hmem
  · rfl

/-- Being plainly named says what the renaming makes. -/
theorem plainlyNamed_iff : PlainlyNamed o r ↔ r = withPlainName o := by
  constructor
  · rintro (hkept | ⟨hfront, hplain⟩)
    · exact (withPlainName_kept hkept).symm
    · exact (withPlainName_renamed hfront hplain).symm
  · rintro rfl
    by_cases hkept : "matchedHandle" ∈ o.names → "matched_handle" ∈ o.names
    · rw [withPlainName_kept hkept]
      exact .kept hkept
    · obtain ⟨hhandle, hplain⟩ := Classical.not_imp.1 hkept
      obtain ⟨front, handle, back, rfl, hfront⟩ := exists_of_mem_names hhandle
      have hrest : "matched_handle" ∉ front.names ++ back.names := by
        rw [names_append] at hplain
        simpa [Bindings.names] using hplain
      rw [withPlainName_renamed hfront hrest]
      exact .renamed hfront hrest

end Names

/-- The text from the first opening to the last closing brace, with what is read of it. -/
theorem spanReads_iff {text : String} {result : Except ReadError Value} :
    SpanReads text result ↔
      ∃ span, braced? text.toList = some span ∧ read (String.ofList span) = result := by
  constructor
  · rintro ⟨before, span, after, rfl, hcut, hread⟩
    refine ⟨span.toList, ?_, by rwa [String.ofList_toList]⟩
    rw [String.toList_append, String.toList_append, List.append_assoc, hcut.braced?_eq]
  · rintro ⟨span, hspan, hread⟩
    obtain ⟨before, after, hcut, htext⟩ := braced?_eq_some_iff.1 hspan
    refine ⟨String.ofList before, String.ofList span, String.ofList after, ?_, ?_, hread⟩
    · simp [← String.toList_inj, htext]
    · simpa only [String.toList_ofList] using hcut

/-- What is found when so much is read between the braces. -/
def found : Except ReadError Value → Except ReadError (Option Bindings)
  | .ok (.object members) => .ok (some (withPlainName members))
  | .error .nestedTooDeep => .error .nestedTooDeep
  | _ => .ok none

/-- What is found in a text follows from what is read between its braces. -/
theorem SpanReads.objectIn?_eq {text : String} {result : Except ReadError Value}
    (h : SpanReads text result) : objectIn? text = found result := by
  obtain ⟨span, hspan, hread⟩ := spanReads_iff.1 h
  rw [objectIn?, hspan, Option.map_some, hread]
  cases result with
  | error e => cases e <;> rfl
  | ok v => cases v <;> rfl

/-- Without an opening brace and a closing one after it, nothing is found. -/
theorem exists_spanReads (text : String) (h : objectIn? text ≠ .ok none) :
    ∃ result, SpanReads text result := by
  cases hspan : braced? text.toList with
  | none =>
    rw [objectIn?, hspan] at h
    exact absurd rfl h
  | some span => exact ⟨_, spanReads_iff.2 ⟨span, hspan, rfl⟩⟩

/-- An object is found in a text exactly if one stands from its first to its last brace. -/
theorem objectIn?_eq_some_iff {text : String} {r : Bindings} :
    objectIn? text = .ok (some r) ↔
      ∃ members, Holds text members ∧ PlainlyNamed members r := by
  constructor
  · intro h
    obtain ⟨result, hreads⟩ := exists_spanReads text (by rw [h]; nofun)
    rw [hreads.objectIn?_eq] at h
    unfold found at h
    split at h
    · cases h
      exact ⟨_, hreads, plainlyNamed_iff.2 rfl⟩
    · cases h
    · cases h
  · rintro ⟨members, hholds, hnamed⟩
    rw [SpanReads.objectIn?_eq hholds, plainlyNamed_iff.1 hnamed, found]

/-- A text can not be searched exactly if what stands between its braces is nested too deep. -/
theorem objectIn?_eq_error_iff {text : String} {e : ReadError} :
    objectIn? text = .error e ↔
      e = .nestedTooDeep ∧ SpanReads text (.error .nestedTooDeep) := by
  constructor
  · intro h
    obtain ⟨result, hreads⟩ := exists_spanReads text (by rw [h]; nofun)
    rw [hreads.objectIn?_eq] at h
    unfold found at h
    split at h
    · cases h
    · exact ⟨(Except.error.inj h).symm, hreads⟩
    · cases h
  · rintro ⟨rfl, hreads⟩
    exact hreads.objectIn?_eq

/-- Two spans of the same characters are the same. -/
theorem IsSpan.eq_of_append_eq {before span after before' span' after' : List Char}
    (h : IsSpan before span after) (h' : IsSpan before' span' after')
    (heq : before ++ (span ++ after) = before' ++ (span' ++ after')) : span = span' := by
  have hspan := h.braced?_eq
  rw [heq, h'.braced?_eq] at hspan
  exact (Option.some.inj hspan).symm

/-- An object that is spelled is the span of its braces. -/
theorem isSpan_of_spells {front used back : List Char} {members : Bindings} {room : Nat}
    (hfront : Spaces front) (hused : Spells room used (.value (.object members)))
    (hback : Spaces back) : IsSpan front used back := by
  have hblank : ∀ {ws : List Char} {c : Char}, Spaces ws → isSpace c = false → c ∉ ws := by
    intro ws c hws hc hmem
    cases hc.symm.trans (hws c hmem)
  exact ⟨hblank hfront rfl, hused.exists_of_object, hblank hback rfl⟩

/-- The blanks around the text of an object make no difference to what is read. -/
theorem read_span {o : String} {members : Bindings} {room : Nat} {front used back : List Char}
    (hfront : Spaces front) (hused : Spells room used (.value (.object members)))
    (hback : Spaces back) (htext : o.toList = front ++ (used ++ back)) :
    read (String.ofList used) = read o := by
  have hspan := isSpan_of_spells hfront hused hback
  have halone : IsSpan [] used [] := isSpan_of_spells nofun hused nofun
  have hiff : read (String.ofList used) = .ok (.object members) ↔
      read o = .ok (.object members) := by
    rw [read_eq_ok_iff, read_eq_ok_iff, String.toList_ofList, htext]
    constructor
    · rintro ⟨front', used', back', hfront', hused', hback', heq⟩
      obtain rfl := halone.eq_of_append_eq (isSpan_of_spells hfront' hused' hback')
        (by simpa using heq)
      exact ⟨front, used, back, hfront, hused', hback, rfl⟩
    · rintro ⟨front', used', back', hfront', hused', hback', heq⟩
      obtain rfl := hspan.eq_of_append_eq (isSpan_of_spells hfront' hused' hback') heq
      exact ⟨[], used, [], nofun, hused', nofun, by simp⟩
  have hread : readChars room o.toList = .ok (.object members) :=
    readChars_eq_ok_iff.2 ⟨front, used, back, hfront, hused, hback, htext⟩
  have hreadUsed : readChars room (String.ofList used).toList = .ok (.object members) :=
    readChars_eq_ok_iff.2 ⟨[], used, [], nofun, hused, nofun, by simp⟩
  -- both are read as the object, or both are nested too deep
  obtain hok | hdeep := read_eq_of_spells hread
  · rw [hiff.2 hok, hok]
  · obtain hok | hdeep' := read_eq_of_spells hreadUsed
    · cases (hiff.1 hok).symm.trans hdeep
    · rw [hdeep', hdeep]

/-- An object among words without braces stands from the first to the last brace. -/
theorem spanReads_of_readChars {o before after : String} {members : Bindings} {room : Nat}
    (h : readChars room o.toList = .ok (.object members)) (hbefore : NoBrace before)
    (hafter : NoBrace after) : SpanReads (before ++ o ++ after) (read o) := by
  obtain ⟨front, used, back, hfront, hused, hback, htext⟩ := readChars_eq_ok_iff.1 h
  have hspan := isSpan_of_spells hfront hused hback
  refine ⟨before ++ String.ofList front, String.ofList used, String.ofList back ++ after, ?_, ?_,
    read_span hfront hused hback htext⟩
  · simp [← String.toList_inj, htext]
  · constructor
    · simp [hbefore.opening, hspan.before]
    · simpa only [String.toList_ofList] using hspan.span
    · simp [hafter.closing, hspan.after]

/-- An object that stands alone, and holds lists each in the one before. -/
theorem objectIn?_write_nest {depth : Nat} (h : maxNesting ≤ depth) :
    readChars (depth + 2) (write (.object [("a", nest depth)])).toList =
        .ok (.object [("a", nest depth)]) ∧
      objectIn? (write (.object [("a", nest depth)])) = .error .nestedTooDeep := by
  have hwritable : isWritable (depth + 2) (.object [("a", nest depth)]) = true := by
    simp [isWritable, membersAreWritable, isWritable_nest]
  have hunwritable : isWritable maxNesting (.object [("a", nest depth)]) = false := by
    have hdepth : ¬depth < maxNesting - 1 := by omega
    simp [isWritable, membersAreWritable, isWritable_nest, hdepth]
  have hread : readChars (depth + 2) (write (.object [("a", nest depth)])).toList =
      .ok (.object [("a", nest depth)]) := by
    rw [readChars_write hwritable]
    simp only [Value.mapTexts, Value.mapMembers, mapTexts_nest]
    rfl
  refine ⟨hread, ?_⟩
  have hnone : NoBrace "" := ⟨by decide, by decide⟩
  have hreads := spanReads_of_readChars hread hnone hnone
  rw [read_eq_nestedTooDeep hread hunwritable] at hreads
  have hfound := hreads.objectIn?_eq
  rwa [String.empty_append, String.append_empty] at hfound

/-- Lists between braces that are opened and never closed. -/
theorem objectIn?_replicate {count : Nat} (h : maxNesting ≤ count) :
    objectIn? ("\x7b\"a\": " ++ String.ofList (List.replicate count '[') ++ "\x7d") =
      .error .nestedTooDeep := by
  refine objectIn?_eq_error_iff.2 ⟨rfl, "", _, "", ?_, ⟨nofun, ?_, nofun⟩,
    read_member_replicate h "\x7d"⟩
  · rw [String.empty_append, String.append_empty]
  · exact ⟨"\"a\": ".toList ++ List.replicate count '[', by simp⟩

/-- An object among words without braces is recovered unless it is nested too deep to be read. Of
any text its object is found, if it holds one, and the search fails only where what stands between
the braces opens more lists and objects than can be open at once. -/
theorem objectIn?_recovers (text : String) :
    (∀ (room : Nat) (o before after : String) (members : Bindings),
      readChars room o.toList = .ok (.object members) → NoBrace before → NoBrace after →
        text = before ++ o ++ after →
          (read o ≠ .error .nestedTooDeep →
            ∃ r, objectIn? text = .ok (some r) ∧ PlainlyNamed members r) ∧
          (read o = .error .nestedTooDeep → objectIn? text = .error .nestedTooDeep)) ∧
    (∀ r : Bindings,
      objectIn? text = .ok (some r) ↔ ∃ members, Holds text members ∧ PlainlyNamed members r) ∧
    (∀ e : ReadError, objectIn? text = .error e ↔
      e = .nestedTooDeep ∧ SpanReads text (.error .nestedTooDeep)) ∧
    (read text = .error .nestedTooDeep → maxNesting < openings text.toList) := by
  refine ⟨fun room o before after members h hbefore hafter htext => ?_,
    fun r => objectIn?_eq_some_iff, fun e => objectIn?_eq_error_iff, lt_openings_of_read⟩
  have hreads := spanReads_of_readChars h hbefore hafter
  rw [← htext] at hreads
  constructor
  · intro hdeep
    have hread : read o = .ok (.object members) := (read_eq_of_spells h).resolve_right hdeep
    rw [hread] at hreads
    have hnamed : PlainlyNamed members (withPlainName members) := plainlyNamed_iff.2 rfl
    exact ⟨withPlainName members, objectIn?_eq_some_iff.2 ⟨members, hreads, hnamed⟩, hnamed⟩
  · intro hdeep
    rw [hreads.objectIn?_eq, hdeep, found]

theorem objectIn?_recovers_fenced :
    objectIn? ("```json\n" ++ "\x7b\"matchedHandle\": \"book\"\x7d" ++ "\n```") =
      .ok (some [("matched_handle", .text "book")]) := by
  have hread : read "\x7b\"matchedHandle\": \"book\"\x7d" =
      .ok (.object [("matchedHandle", .text "book")]) :=
    read_write (v := .object [("matchedHandle", .text "book")]) rfl
  obtain ⟨hrecovers, -⟩ := objectIn?_recovers
    ("```json\n" ++ "\x7b\"matchedHandle\": \"book\"\x7d" ++ "\n```")
  obtain ⟨r, hr, hnamed⟩ := (hrecovers maxNesting _ "```json\n" "\n```" _ hread
    ⟨by decide, by decide⟩ ⟨by decide, by decide⟩ rfl).1 (by rw [hread]; nofun)
  rw [hr, plainlyNamed_iff.1 hnamed]
  rfl

/-- An object that stands alone and holds a hundred thousand lists, each in the one before, is JSON
with enough room for it, but it is nested too deep to be read; and so are as many lists that are
opened and never closed, which are no JSON at all. -/
theorem objectIn?_recovers_nested :
    (readChars 100001 (write (.object [("a", nest 99999)])).toList =
        .ok (.object [("a", nest 99999)]) ∧
      objectIn? (write (.object [("a", nest 99999)])) = .error .nestedTooDeep) ∧
    objectIn? ("\x7b\"a\": " ++ String.ofList (List.replicate 100000 '[') ++ "\x7d") =
      .error .nestedTooDeep :=
  ⟨objectIn?_write_nest (show maxNesting ≤ 99999 by decide),
    objectIn?_replicate (show maxNesting ≤ 100000 by decide)⟩

end CallFlow.ModelAnswer
