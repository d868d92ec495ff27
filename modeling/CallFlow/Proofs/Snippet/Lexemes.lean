import CallFlow.Snippet.Lexer
import CallFlow.Text.Blank
import Mathlib

namespace CallFlow.Snippet.Lexer

/-- A result leaves a suffix of a text to be read. -/
def Leaves {α : Type} (cs : List Char) (result : Option (α × List Char)) : Prop :=
  ∀ a rest, result = some (a, rest) → rest <:+ cs

/-- A result is a token that opens and closes no block, and leaves a suffix of a text. -/
def Lexes (cs : List Char) (result : Option (Token × List Char)) : Prop :=
  ∀ t rest, result = some (t, rest) → (t ≠ .indent ∧ t ≠ .dedent) ∧ rest <:+ cs

section Results

variable {α β : Type} {cs inner : List Char}

theorem leaves_some (a : α) (h : inner <:+ cs) : Leaves cs (some (a, inner)) := by
  rintro _ _ heq
  cases heq
  exact h

/-- What is left does not depend on what is made of the rest. -/
theorem Leaves.map {result : Option (α × List Char)} (h : Leaves inner result) (f : α → β)
    (hinner : inner <:+ cs) : Leaves cs (result.map fun (a, rest) => (f a, rest)) := by
  rintro b rest heq
  obtain ⟨⟨a, left⟩, hresult, hpair⟩ := Option.map_eq_some_iff.1 heq
  cases hpair
  exact (h a rest hresult).trans hinner

/-- Either way an end of the text is left. -/
theorem Leaves.ite {p : Prop} [Decidable p] {yes no : Option (α × List Char)}
    (hyes : Leaves cs yes) (hno : Leaves cs no) : Leaves cs (if p then yes else no) := by
  split
  · exact hyes
  · exact hno

theorem lexes_none : Lexes cs none := nofun

/-- A token that is no margin, with an end of the text left, is fine. -/
theorem lexes_some {t : Token} (ht : t ≠ .indent ∧ t ≠ .dedent) (h : inner <:+ cs) :
    Lexes cs (some (t, inner)) := by
  rintro _ _ heq
  cases heq
  exact ⟨ht, h⟩

theorem lexes_number (imaginary : Bool) (h : inner <:+ cs) :
    Lexes cs (some (.number imaginary, inner)) := lexes_some ⟨nofun, nofun⟩ h

/-- What is left of a part is left of the whole. -/
theorem Lexes.mono {result : Option (Token × List Char)} (h : Lexes inner result)
    (hinner : inner <:+ cs) : Lexes cs result :=
  fun t rest heq => ⟨(h t rest heq).1, (h t rest heq).2.trans hinner⟩

theorem Lexes.ite {p : Prop} [Decidable p] {yes no : Option (Token × List Char)}
    (hyes : Lexes cs yes) (hno : Lexes cs no) : Lexes cs (if p then yes else no) := by
  split
  · exact hyes
  · exact hno

end Results

theorem suffix_cons_cons (c d : Char) (cs : List Char) : cs <:+ c :: d :: cs :=
  List.suffix_append [c, d] cs

/-- The body of a short text leaves what follows it. -/
theorem leaves_shortBody (q : Char) (cs : List Char) : Leaves cs (shortBody q cs) := by
  fun_induction shortBody q cs with
  | case1 => exact nofun
  | case2 c rest ih => exact ih.map ('\\' :: c :: ·) (suffix_cons_cons _ _ _)
  | case3 rest => exact leaves_some _ (List.suffix_cons _ _)
  | case4 => exact nofun
  | case5 c rest _ _ _ ih => exact ih.map (c :: ·) (List.suffix_cons _ _)

theorem leaves_longBody (q : Char) (cs : List Char) : Leaves cs (longBody q cs) := by
  fun_induction longBody q cs with
  | case1 => exact nofun
  | case2 c rest ih => exact ih.map ('\\' :: c :: ·) (suffix_cons_cons _ _ _)
  | case3 c rest _ _ => exact leaves_some _ ((List.drop_suffix 2 rest).trans (List.suffix_cons _ _))
  | case4 c rest _ _ ih => exact ih.map (c :: ·) (List.suffix_cons _ _)

/-- A quoted text is a token that leaves what follows it. -/
theorem lexes_quoted? (quoting : Quoting) (cs : List Char) : Lexes cs (quoted? quoting cs) := by
  cases cs with
  | nil => exact lexes_none
  | cons q rest =>
    have hbody : Leaves (q :: rest)
        (if rest.take 2 = [q, q] then longBody q (rest.drop 2) else shortBody q rest) := by
      refine .ite (fun a left heq => ?_) fun a left heq => ?_
      · exact (leaves_longBody q _ a left heq).trans
          ((List.drop_suffix 2 rest).trans (List.suffix_cons _ _))
      · exact (leaves_shortBody q _ a left heq).trans (List.suffix_cons _ _)
    rintro t left heq
    obtain ⟨⟨body, after⟩, hresult, hpair⟩ := Option.map_eq_some_iff.1 heq
    cases hpair
    exact ⟨⟨nofun, nofun⟩, hbody body left hresult⟩

theorem leaves_digitRun (isDigit : Char → Bool) (cs : List Char) :
    Leaves cs (digitRun isDigit cs) := by
  fun_induction digitRun isDigit cs with
  | case1 => exact leaves_some _ (List.suffix_refl _)
  | case2 c rest _ ih => exact ih.map (· + 1) (suffix_cons_cons _ _ _)
  | case3 => exact nofun
  | case4 => exact nofun
  | case5 c rest _ _ _ ih => exact ih.map (· + 1) (List.suffix_cons _ _)
  | case6 c rest => exact leaves_some _ (List.suffix_refl _)

theorem suffix_of_decimalRun {cs rest : List Char} (h : decimalRun cs = some rest) :
    rest <:+ cs := by
  cases cs with
  | nil => cases h; exact List.suffix_refl _
  | cons c cs =>
    rw [decimalRun] at h
    split at h
    · obtain ⟨⟨count, left⟩, hrun, rfl⟩ := Option.map_eq_some_iff.1 h
      exact leaves_digitRun _ _ count left hrun
    · cases h
      exact List.suffix_refl _

/-- Digits in front of something that is read. -/
theorem lexes_decimalRun_bind {cs inner : List Char} {f : List Char → Option (Token × List Char)}
    (h : ∀ rest, Lexes rest (f rest)) (hinner : inner <:+ cs) :
    Lexes cs ((decimalRun inner).bind f) := by
  rintro t left heq
  obtain ⟨rest, hrun, hf⟩ := Option.bind_eq_some_iff.1 heq
  exact (h rest).mono ((suffix_of_decimalRun hrun).trans hinner) t left hf

theorem lexes_endNumber (cs : List Char) : Lexes cs (endNumber cs) := by
  rw [endNumber.eq_def]
  split
  · exact .ite (lexes_number _ (List.suffix_cons _ _)) lexes_none
  · exact .ite (lexes_number _ (List.suffix_cons _ _)) lexes_none
  · exact .ite (lexes_number _ (List.suffix_refl _)) lexes_none

theorem lexes_exponent (cs : List Char) : Lexes cs (exponent cs) := by
  have hplain : Lexes cs (if canEndNumber cs then some (.number false, cs) else none) :=
    .ite (lexes_number _ (List.suffix_refl _)) lexes_none
  match cs, hplain with
  | [], _ => exact lexes_endNumber []
  | [e], _ => exact .ite lexes_none (lexes_endNumber [e])
  | [e, s], hplain =>
    refine .ite (.ite ?_ (.ite lexes_none hplain)) (lexes_endNumber _)
    exact (lexes_endNumber []).mono (List.nil_suffix ..)
  | e :: s :: c :: more, hplain =>
    refine .ite (.ite (.ite ?_ lexes_none) (.ite ?_ hplain)) (lexes_endNumber _)
    · exact lexes_decimalRun_bind lexes_endNumber (suffix_cons_cons _ _ _)
    · exact lexes_decimalRun_bind lexes_endNumber (List.suffix_cons _ _)

theorem lexes_fraction (cs : List Char) : Lexes cs (fraction cs) := by
  rw [fraction.eq_def]
  split
  · exact lexes_decimalRun_bind lexes_exponent (List.suffix_cons _ _)
  · exact lexes_exponent cs

theorem lexes_basedNumber (isDigit : Char → Bool) (cs : List Char) :
    Lexes cs (basedNumber isDigit cs) := by
  rintro t left heq
  obtain ⟨⟨count, rest⟩, hrun, hnumber⟩ := Option.bind_eq_some_iff.1 heq
  have hrest := leaves_digitRun isDigit cs count rest hrun
  exact Lexes.ite lexes_none (lexes_number _ hrest) t left hnumber

/-- A number is a token that leaves what follows it. -/
theorem lexes_number? (cs : List Char) : Lexes cs (number? cs) := by
  rw [number?.eq_def]
  split
  · rename_i c rest
    have hbased (isDigit : Char → Bool) : Lexes ('0' :: c :: rest) (basedNumber isDigit rest) :=
      (lexes_basedNumber isDigit rest).mono (suffix_cons_cons _ _ _)
    split
    · exact hbased _
    · exact hbased _
    · exact hbased _
    · rintro t left heq
      obtain ⟨after, hrun, hafter⟩ := Option.bind_eq_some_iff.1 heq
      have hsuffix := suffix_of_decimalRun hrun
      exact Lexes.ite lexes_none ((lexes_fraction after).mono hsuffix) t left hafter
  · rintro t left heq
    obtain ⟨after, hrun, hafter⟩ := Option.bind_eq_some_iff.1 heq
    have hsuffix := suffix_of_decimalRun hrun
    exact Lexes.ite lexes_none ((lexes_fraction after).mono hsuffix) t left hafter

/-- A word is a token that leaves what follows it. -/
theorem lexes_word? (cs : List Char) : Lexes cs (word? cs) := by
  rw [word?]
  split
  · rename_i result heq
    split at heq
    · obtain ⟨q, -, rfl⟩ := Option.map_eq_some_iff.1 heq
      exact (lexes_quoted? q _).mono (List.drop_suffix _ _)
    · cases heq
  · have hrest (text : List Char) : cs.drop text.length <:+ cs := List.drop_suffix _ _
    exact .ite (lexes_some ⟨nofun, nofun⟩ (hrest _))
      (.ite (lexes_some ⟨nofun, nofun⟩ (hrest _)) lexes_none)

/-- A lexeme is a token that leaves what follows it. -/
theorem lexes_lexeme? (cs : List Char) : Lexes cs (lexeme? cs) := by
  rw [lexeme?.eq_def]
  split
  · exact .ite (lexes_number? _)
      (.ite (lexes_fraction _) (.ite (lexes_quoted? _ _) (lexes_word? _)))
  · exact lexes_word? cs

/-- A sign leaves what follows it. -/
theorem leaves_sign? (cs : List Char) : Leaves cs (sign? cs) := by
  rintro s rest heq
  obtain ⟨s', -, hpair⟩ := Option.map_eq_some_iff.1 heq
  cases hpair
  exact List.drop_suffix _ _

/-- The blank characters, by their codes. -/
def blankCodes : List Nat :=
  Text.blankRanges.flatMap fun (low, high) => List.range' low (high + 1 - low)

/-- What lies in some ranges lies in one of them. -/
theorem exists_range_of_inRanges {ranges : List (Nat × Nat)} {n : Nat}
    (h : Text.inRanges ranges n = true) : ∃ r ∈ ranges, r.1 ≤ n ∧ n ≤ r.2 := by
  induction ranges with
  | nil => cases h
  | cons r ranges ih =>
    rw [Text.inRanges] at h
    split at h
    · cases h
    · rename_i hlow
      rcases Bool.or_eq_true_iff.1 h with hhigh | hrest
      · exact ⟨r, List.mem_cons_self, by omega, of_decide_eq_true hhigh⟩
      · obtain ⟨r', hr', hrange⟩ := ih hrest
        exact ⟨r', List.mem_cons_of_mem _ hr', hrange⟩

theorem mem_blankCodes {c : Char} (h : Text.isBlank c = true) : c.toNat ∈ blankCodes := by
  obtain ⟨⟨low, high⟩, hmem, hlow, hhigh⟩ := exists_range_of_inRanges h
  refine List.mem_flatMap.2 ⟨(low, high), hmem, List.mem_range'_1.2 ⟨hlow, ?_⟩⟩
  dsimp only at hlow hhigh
  omega

/-- What holds of the character of every blank code holds of every blank character. -/
theorem forall_isBlank {P : Char → Prop} (h : ∀ n ∈ blankCodes, P (Char.ofNat n)) {c : Char}
    (hc : Text.isBlank c = true) : P c := by
  rw [← Char.ofNat_toNat c]
  exact h _ (mem_blankCodes hc)

section Blank

variable {c : Char} (hc : Text.isBlank c = true)

include hc

/-- A blank that passes for the beginning of a word is none of an identifier. -/
theorem not_isIdentifierStart_blank (hstart : isWordStart c = true) :
    128 ≤ c.toNat ∧ Text.isIdentifierStart c = false := by
  refine forall_isBlank (P := fun c => isWordStart c = true →
    128 ≤ c.toNat ∧ Text.isIdentifierStart c = false) ?_ hc hstart
  decide +kernel

/-- No lexeme begins with a blank that begins no word. -/
theorem lexeme?_blank (hstart : isWordStart c = true) (cs : List Char) :
    lexeme? (c :: cs) = none := by
  obtain ⟨hwide, hidentifier⟩ := not_isIdentifierStart_blank hc hstart
  have hplain : c.isDigit = false ∧ c ≠ '.' ∧ isQuote c = false ∧
      "bBrRuUfF".toList.contains c = false ∧ isWordChar c = true := by
    refine forall_isBlank (P := fun c => isWordStart c = true → c.isDigit = false ∧ c ≠ '.' ∧
      isQuote c = false ∧ "bBrRuUfF".toList.contains c = false ∧ isWordChar c = true) ?_ hc hstart
    decide +kernel
  obtain ⟨hdigit, hpoint, hquote, hletter, hword⟩ := hplain
  have hlexeme : lexeme? (c :: cs) = word? (c :: cs) := by
    cases cs with
    | nil => rfl
    | cons d cs => simp [lexeme?, hdigit, hpoint, hquote]
  have htext : (c :: cs).takeWhile isWordChar = c :: cs.takeWhile isWordChar :=
    List.takeWhile_cons_of_pos hword
  have hletters : (c :: cs).takeWhile (fun c => "bBrRuUfF".toList.contains c) = [] :=
    List.takeWhile_cons_of_neg (by rw [hletter]; exact Bool.false_ne_true)
  have hascii : ¬c.toNat < 128 := by omega
  rw [hlexeme]
  simp only [word?, hletters, htext, List.length_nil, List.drop_zero, List.head?_cons,
    Option.any_some, hquote]
  simp [hascii, Text.isIdentifier, hidentifier]

/-- No sign begins with a blank. -/
theorem sign?_blank (cs : List Char) : sign? (c :: cs) = none := by
  have hsigns : ∀ s ∈ Token.signs, s.toList ≠ [] ∧ s.toList.head? ≠ some c := by
    refine forall_isBlank (P := fun c => ∀ s ∈ Token.signs,
      s.toList ≠ [] ∧ s.toList.head? ≠ some c) ?_ hc
    decide +kernel
  rw [sign?, Option.map_eq_none_iff, List.find?_eq_none]
  intro s hs hprefix
  obtain ⟨hne, hhead⟩ := hsigns s hs
  obtain ⟨d, ds, heq⟩ := List.exists_cons_of_ne_nil hne
  rw [heq] at hprefix hhead
  rw [List.isPrefixOf_iff_prefix, List.cons_prefix_cons] at hprefix
  exact hhead (congrArg some hprefix.1)

end Blank

end CallFlow.Snippet.Lexer
