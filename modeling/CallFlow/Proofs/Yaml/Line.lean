import CallFlow.Yaml.Read
import CallFlow.Proofs.Fallible
import CallFlow.Proofs.Json.Quoted

namespace CallFlow.Yaml

section Places

variable {cs rest word : List Char} {c : Char} {comment : Bool} {line column : Nat}

theorem next_of_ne (h : c ≠ '\n') (cs : List Char) (line column : Nat) :
    (Cursor.mk (c :: cs) line column).next = ⟨cs, line, column + 1⟩ := by
  unfold Cursor.next
  split
  · rename_i heq
    cases heq
  · rename_i heq
    cases heq
    exact absurd rfl h
  · rename_i heq
    cases heq
    rfl

/-- Characters of one line are passed column by column. -/
theorem drop_append (h : '\n' ∉ word) (rest : List Char) (line column : Nat) :
    (Cursor.mk (word ++ rest) line column).drop word.length =
      ⟨rest, line, column + word.length⟩ := by
  induction word generalizing column with
  | nil => rfl
  | cons c word ih =>
    have hc : c ≠ '\n' := fun heq => h (heq ▸ List.mem_cons_self)
    rw [List.cons_append, List.length_cons, Cursor.drop, next_of_ne hc,
      ih fun hmem => h (List.mem_cons_of_mem _ hmem), Nat.add_assoc, Nat.add_comm 1]

theorem rest_next (c : Cursor) : c.next.rest = c.rest.tail := by
  unfold Cursor.next
  split <;> rfl

theorem rest_drop (c : Cursor) (n : Nat) : (c.drop n).rest = c.rest.drop n := by
  induction n generalizing c with
  | zero => rfl
  | succ n ih => rw [Cursor.drop, ih, rest_next, ← List.drop_one, List.drop_drop, Nat.add_comm]

theorem rest_skipBlanks (c : Cursor) : c.skipBlanks.rest = c.rest.dropWhile (· = ' ') := by
  have hsplit : c.rest.takeWhile (· = ' ') ++ c.rest.dropWhile (· = ' ') = c.rest :=
    List.takeWhile_append_dropWhile
  rw [Cursor.skipBlanks, rest_drop]
  nth_rewrite 2 [← hsplit]
  exact List.drop_left' rfl

/-- Blanks are passed. -/
theorem skipFrom_replicate (n : Nat) (cs : List Char) (line column : Nat) :
    Cursor.skipFrom false (List.replicate n ' ' ++ cs) line column =
      Cursor.skipFrom false cs line (column + n) := by
  induction n generalizing column with
  | zero => rfl
  | succ n ih =>
    rw [List.replicate_succ, List.cons_append, Cursor.skipFrom]
    · simp only [Bool.false_or, decide_eq_true_eq, show ¬(' ' : Char) = '#' by decide, if_false,
        if_true, ih, Nat.add_assoc, Nat.add_comm 1]
    · decide

/-- A comment is passed with the end of its line. -/
theorem skipFrom_comment (h : '\n' ∉ cs) (rest : List Char) (line column : Nat) :
    Cursor.skipFrom true (cs ++ '\n' :: rest) line column =
      Cursor.skipFrom false rest (line + 1) 0 := by
  induction cs generalizing column with
  | nil => rfl
  | cons c cs ih =>
    have hc : c ≠ '\n' := fun heq => h (heq ▸ List.mem_cons_self)
    rw [List.cons_append, Cursor.skipFrom, if_pos (Bool.true_or _)]
    · exact ih (fun hmem => h (List.mem_cons_of_mem _ hmem)) _
    · exact hc

/-- The rest of a line is passed if nothing but blanks and a comment is left of it. -/
theorem skipFrom_idle (hidle : isIdle cs = true) (h : '\n' ∉ cs) (rest : List Char)
    (line column : Nat) : Cursor.skipFrom false (cs ++ '\n' :: rest) line column =
      Cursor.skipFrom false rest (line + 1) 0 := by
  induction cs generalizing column with
  | nil => rfl
  | cons c cs ih =>
    have hc : c ≠ '\n' := fun heq => h (heq ▸ List.mem_cons_self)
    have hcs : '\n' ∉ cs := fun hmem => h (List.mem_cons_of_mem _ hmem)
    rw [List.cons_append, Cursor.skipFrom, Bool.false_or]
    · by_cases hhash : c = '#'
      · simp only [hhash, decide_true, if_true]
        exact skipFrom_comment hcs _ _ _
      · by_cases hblank : c = ' '
        · subst hblank
          simp only [hhash, decide_false, Bool.false_eq_true, if_false, if_true]
          exact ih (by simpa [isIdle] using hidle) hcs _
        · simp [isIdle, hhash, hblank] at hidle
    · exact hc

/-- Nothing is passed where something stands. -/
theorem skipFrom_cons (hblank : c ≠ ' ') (hend : c ≠ '\n') (hhash : c ≠ '#') (cs : List Char)
    (line column : Nat) :
    Cursor.skipFrom false (c :: cs) line column = ⟨c :: cs, line, column⟩ := by
  rw [Cursor.skipFrom]
  · simp only [Bool.false_or, decide_eq_true_eq, hhash, hblank, if_false]
  · exact hend

theorem le_line_skipFrom (comment : Bool) (cs : List Char) (line column : Nat) :
    line ≤ (Cursor.skipFrom comment cs line column).line := by
  fun_induction Cursor.skipFrom comment cs line column with
  | case1 => exact Nat.le_refl _
  | case2 _ _ _ _ ih => exact Nat.le_trans (Nat.le_succ _) ih
  | case3 _ _ _ _ _ _ _ ih => exact ih
  | case4 _ _ _ _ _ _ ih => exact ih
  | case5 => exact Nat.le_refl _

theorem length_rest_skipFrom_le (comment : Bool) (cs : List Char) (line column : Nat) :
    (Cursor.skipFrom comment cs line column).rest.length ≤ cs.length := by
  fun_induction Cursor.skipFrom comment cs line column with
  | case1 => exact Nat.le_refl _
  | case2 _ _ _ _ ih => exact Nat.le_succ_of_le ih
  | case3 _ _ _ _ _ _ _ ih => exact Nat.le_succ_of_le ih
  | case4 _ _ _ _ _ _ ih => exact Nat.le_succ_of_le ih
  | case5 => exact Nat.le_refl _

/-- The gap that a scalar might be folded over ends where the text does, at a comment, or where the
next thing stands. -/
theorem drop_gap (cs : List Char) (line column : Nat) :
    let after := (Cursor.mk cs line column).drop
      (cs.takeWhile fun c => decide (c = ' ') || decide (c = '\n')).length
    after.rest = [] ∨ after.rest.head? = some '#' ∨
      Cursor.skipFrom false cs line column = after := by
  induction cs generalizing line column with
  | nil => exact Or.inl rfl
  | cons c cs ih =>
    by_cases hend : c = '\n'
    · subst hend
      exact ih (line + 1) 0
    · by_cases hblank : c = ' '
      · subst hblank
        exact ih line (column + 1)
      · simp only [hend, hblank, decide_false, Bool.or_false, List.takeWhile_cons,
          Bool.false_eq_true, if_false, List.length_nil, Cursor.drop]
        by_cases hhash : c = '#'
        · exact Or.inr (Or.inl (by rw [hhash]; rfl))
        · exact Or.inr (Or.inr (skipFrom_cons hblank hend hhash _ _ _))

end Places

/-- Characters none of which is a blank, without a colon at the end. -/
structure IsWord (cs : List Char) : Prop where
  ne_nil : cs ≠ []
  endsHere_eq_false : ∀ c ∈ cs, endsHere [c] = false
  getLast?_ne : cs.getLast? ≠ some ':'

/-- Words with blanks between them. Only the first of them can begin as a comment does. -/
inductive IsPhrase : List Char → Prop where
  | word {cs : List Char} (h : IsWord cs) : IsPhrase cs
  | append {word cs : List Char} (h : IsWord word) (n : Nat) (hrest : IsPhrase cs)
    (hhash : cs.head? ≠ some '#') : IsPhrase (word ++ (List.replicate (n + 1) ' ' ++ cs))

/-- What can stand between a scalar and the end of its line: blanks, and a comment after them. -/
structure IsTrail (cs : List Char) : Prop where
  idle : isIdle cs = true
  apart : cs.head? ≠ some '#'
  newline_notMem : '\n' ∉ cs

/-- What can follow a scalar on its line, inside a block indented by `indent`: the colon after a
name, or nothing but blanks and a comment, and in the lines below nothing that stands deeper than
the block. -/
inductive Closes (indent : Int) : List Char → Prop where
  | colon {rest : List Char} (h : endsHere rest = true) : Closes indent (':' :: rest)
  | line {trail rest : List Char} (htrail : IsTrail trail)
    (hrest : ∀ line, (Cursor.skipFrom false rest line 0).atEnd = true ∨
      ((Cursor.skipFrom false rest line 0).column : Int) ≤ indent) :
    Closes indent (trail ++ '\n' :: rest)

section Plain

variable {indent : Int} {word cs tail rest : List Char}

theorem endsHere_cons (c : Char) (cs : List Char) : endsHere (c :: cs) = endsHere [c] := rfl

theorem plainRun_append (hword : ∀ c ∈ word, endsHere [c] = false)
    (hlast : word.getLast? ≠ some ':') (ht : plainRun false tail = []) :
    plainRun false (word ++ tail) = word := by
  induction word with
  | nil => exact ht
  | cons c word ih =>
    have hgo : stopsPlain false c (word ++ tail) = false := by
      have hc : endsHere [c] = false := hword c List.mem_cons_self
      cases word with
      | nil =>
        have hcolon : c ≠ ':' := fun heq => hlast (by rw [heq]; rfl)
        simp [stopsPlain, hc, hcolon]
      | cons d word =>
        have hd : endsHere [d] = false := hword d (by simp)
        simp [stopsPlain, hc, endsHere_cons d, hd]
    have hlast' : word.getLast? ≠ some ':' := by
      cases word with
      | nil => nofun
      | cons d word => rwa [List.getLast?_cons_cons] at hlast
    rw [List.cons_append, plainRun, hgo, if_neg Bool.false_ne_true,
      ih (fun d hd => hword d (List.mem_cons_of_mem _ hd)) hlast']

theorem IsWord.plainRun_append (h : IsWord word) (ht : plainRun false tail = []) :
    plainRun false (word ++ tail) = word :=
  Yaml.plainRun_append h.endsHere_eq_false h.getLast?_ne ht

theorem IsWord.newline_notMem (h : IsWord word) : '\n' ∉ word := fun hmem => by
  have hend := h.endsHere_eq_false _ hmem
  cases hend

theorem IsPhrase.newline_notMem (h : IsPhrase cs) : '\n' ∉ cs := by
  induction h with
  | word h => exact h.newline_notMem
  | append h n _ _ ih =>
    simp only [List.mem_append, List.mem_replicate]
    rintro (hmem | ⟨-, heq⟩ | hmem)
    · exact h.newline_notMem hmem
    · cases heq
    · exact ih hmem

/-- A trail is empty or begins with a blank. -/
theorem IsTrail.cases (h : IsTrail cs) : cs = [] ∨ ∃ rest, cs = ' ' :: rest := by
  cases cs with
  | nil => exact Or.inl rfl
  | cons c cs =>
    by_cases hblank : c = ' '
    · exact Or.inr ⟨cs, by rw [hblank]⟩
    · have hhash : c = '#' := by simpa [isIdle, hblank] using h.idle
      exact absurd (congrArg some hhash) h.apart

/-- A scalar stops at what closes it. -/
theorem Closes.plainRun_eq_nil (h : Closes indent tail) : plainRun false tail = [] := by
  cases h with
  | colon h => simp [plainRun, stopsPlain, h]
  | @line trail rest htrail _ =>
    obtain rfl | ⟨cs, rfl⟩ := htrail.cases <;> rfl

/-- A scalar does not go on after what closes it. -/
theorem Closes.plainTail_eq (h : Closes indent tail) (n line column : Nat) :
    plainTail false indent n ⟨tail, line, column⟩ = ([], ⟨tail, line, column⟩) := by
  cases n with
  | zero => rfl
  | succ n =>
    rw [plainTail]
    cases h with
    | colon h => simp [Cursor.fold]
    | @line trail rest htrail hrest =>
      refine if_pos ?_
      have hgap := drop_gap (trail ++ '\n' :: rest) line column
      simp only [Bool.or_eq_true, Bool.not_false, Bool.true_and, decide_eq_true_eq]
      generalize Cursor.drop _ _ = after at hgap ⊢
      obtain hnil | hhash | hskip := hgap
      · exact Or.inl (Or.inl (Or.inr (by rw [hnil]; rfl)))
      · exact Or.inl (Or.inr hhash)
      · rw [skipFrom_idle htrail.idle htrail.newline_notMem] at hskip
        obtain hnil | hle := hskip ▸ hrest (line + 1)
        · exact Or.inl (Or.inl (Or.inr (by rw [List.isEmpty_iff.1 hnil]; rfl)))
        · exact Or.inr hle

theorem ne_of_endsHere {c : Char} (h : endsHere [c] = false) : c ≠ ' ' ∧ c ≠ '\t' ∧ c ≠ '\n' := by
  simpa [endsHere, and_assoc] using h

/-- A gap between words is kept as it stands. -/
theorem fold_replicate (n : Nat) {c : Char} (hc : endsHere [c] = false) (cs : List Char)
    (line column : Nat) : (Cursor.mk (List.replicate n ' ' ++ c :: cs) line column).fold (· = ' ') =
      (List.replicate n ' ', ⟨c :: cs, line, column + n⟩) := by
  obtain ⟨hblank, -, hend⟩ := ne_of_endsHere hc
  have hgap : (List.replicate n ' ' ++ c :: cs).takeWhile
      (fun ch => decide (ch = ' ') || decide (ch = '\n')) = List.replicate n ' ' := by
    rw [List.takeWhile_append_of_pos (by simp), List.takeWhile_cons_of_neg (by simp [hblank, hend]),
      List.append_nil]
  have hcount : (List.replicate n ' ').count '\n' = 0 :=
    List.count_eq_zero.2 fun hmem => by cases List.eq_of_mem_replicate hmem
  have hline : '\n' ∉ List.replicate n ' ' := List.count_eq_zero.1 hcount
  have hdrop := drop_append hline (c :: cs) line column
  rw [List.length_replicate] at hdrop
  simp only [Cursor.fold, hgap, hcount, List.length_replicate, hdrop]

/-- A word after a gap belongs to the scalar, and so does what goes on after it. -/
theorem IsWord.plainTail_eq (h : IsWord word) (hhash : word.head? ≠ some '#') {column : Nat}
    (hcolumn : indent ≤ column) (hrest : plainRun false rest = []) (k n line : Nat) :
    plainTail false indent (n + 1) ⟨List.replicate (k + 1) ' ' ++ (word ++ rest), line, column⟩ =
      let (more, last) :=
        plainTail false indent n ⟨rest, line, column + (k + 1) + word.length⟩
      (List.replicate (k + 1) ' ' ++ word ++ more, last) := by
  have hrun := h.plainRun_append hrest
  have hdrop := drop_append h.newline_notMem rest line (column + (k + 1))
  have hfold : (Cursor.mk (List.replicate (k + 1) ' ' ++ (word ++ rest)) line column).fold
      (· = ' ') = (List.replicate (k + 1) ' ', ⟨word ++ rest, line, column + (k + 1)⟩) := by
    cases word with
    | nil => exact absurd rfl h.ne_nil
    | cons c word => exact fold_replicate (k + 1) (h.endsHere_eq_false c List.mem_cons_self) _ _ _
  have hhead : (word ++ rest).head? ≠ some '#' := by
    rwa [List.head?_append_of_ne_nil _ h.ne_nil]
  have hgoes : ((List.replicate (k + 1) ' ').isEmpty || word.isEmpty
      || decide ((word ++ rest).head? = some '#')
      || (!false && decide (((column + (k + 1) : Nat) : Int) ≤ indent))) = false := by
    have hne : word.isEmpty = false := List.isEmpty_eq_false_iff.2 h.ne_nil
    have hdeep : ¬((column + (k + 1) : Nat) : Int) ≤ indent := by omega
    rw [hne, decide_eq_false hhead, decide_eq_false hdeep]
    rfl
  rw [plainTail, hfold]
  simp only [hrun, hgoes, Bool.false_eq_true, if_false, hdrop]

/-- All words of a phrase belong to the scalar. -/
theorem IsPhrase.plainTail_eq (h : IsPhrase cs) (hhash : cs.head? ≠ some '#')
    (ht : Closes indent tail) {n column : Nat} (hn : cs.length ≤ n) (hcolumn : indent ≤ column)
    (k line : Nat) :
    plainTail false indent n ⟨List.replicate (k + 1) ' ' ++ (cs ++ tail), line, column⟩ =
      (List.replicate (k + 1) ' ' ++ cs, ⟨tail, line, column + (k + 1) + cs.length⟩) := by
  induction h generalizing k column n with
  | word h =>
    cases n with
    | zero => exact absurd (List.length_eq_zero_iff.1 (Nat.le_zero.1 hn)) h.ne_nil
    | succ n =>
      rw [h.plainTail_eq hhash hcolumn ht.plainRun_eq_nil, ht.plainTail_eq]
      simp only [List.append_nil]
  | @append word cs h m hrest hhash' ih =>
    cases n with
    | zero => simp at hn
    | succ n =>
      have hlength : cs.length ≤ n := by
        simp only [List.length_append, List.length_replicate] at hn
        omega
      have hhead : word.head? ≠ some '#' := by
        rwa [List.head?_append_of_ne_nil _ h.ne_nil] at hhash
      rw [List.append_assoc, List.append_assoc, h.plainTail_eq hhead hcolumn rfl,
        ih hhash' hlength (by omega)]
      simp only [List.append_assoc, List.length_append, List.length_replicate, Nat.add_assoc]

/-- A phrase is taken as one scalar. -/
theorem IsPhrase.plain_eq (h : IsPhrase cs) (ht : Closes indent tail) {column : Nat}
    (hcolumn : indent ≤ column) (line : Nat) :
    plain false indent ⟨cs ++ tail, line, column⟩ = (cs, ⟨tail, line, column + cs.length⟩) := by
  cases h with
  | word h =>
    simp only [plain, h.plainRun_append ht.plainRun_eq_nil, drop_append h.newline_notMem,
      ht.plainTail_eq, List.append_nil]
  | @append word cs h n hrest hhash =>
    have hrun : plainRun false (word ++ (List.replicate (n + 1) ' ' ++ (cs ++ tail))) = word :=
      h.plainRun_append rfl
    have hlength : cs.length ≤ (word ++ (List.replicate (n + 1) ' ' ++ (cs ++ tail))).length := by
      simp only [List.length_append]
      omega
    have hcolumn' : indent ≤ (column + word.length : Nat) := by omega
    rw [List.append_assoc, List.append_assoc, plain]
    simp only [hrun, drop_append h.newline_notMem,
      hrest.plainTail_eq hhash ht hlength hcolumn']
    simp only [List.length_append, List.length_replicate, Nat.add_assoc]

end Plain

/-- What stands between double quotes on one line, with the closing one, and the characters that it
stands for. -/
inductive IsQuoted : List Char → List Char → Prop where
  | close : IsQuoted ['"'] []
  | bare {c : Char} {cs s : List Char} (hc : endsHere [c] = false) (hquote : c ≠ '"')
    (hslash : c ≠ '\\') (h : IsQuoted cs s) : IsQuoted (c :: cs) (c :: s)
  | blanks {gap cs s : List Char} (hne : gap ≠ []) (hgap : ∀ c ∈ gap, isQuotedBlank c = true)
    (hcs : ∀ c ∈ cs.head?, isQuotedBlank c = false) (h : IsQuoted cs s) :
    IsQuoted (gap ++ cs) (gap ++ s)
  | letter {e c : Char} {cs s : List Char} (he : escapes.lookup e = some c)
    (hwidth : escapeWidth? e = none) (h : IsQuoted cs s) : IsQuoted ('\\' :: e :: cs) (c :: s)
  | number {e c : Char} {digits cs s : List Char} (hwidth : escapeWidth? e = some digits.length)
    (hdigits : hexNat? digits = some c.toNat) (h : IsQuoted cs s) :
    IsQuoted ('\\' :: e :: (digits ++ cs)) (c :: s)

section Quotes

variable {c e : Char} {cs s gap digits rest : List Char} {n : Nat}

theorem newline_notMem_of_isQuotedBlank (h : ∀ c ∈ gap, isQuotedBlank c = true) : '\n' ∉ gap :=
  fun hmem => by cases h _ hmem

theorem isSome_hexValue?_of_hexNat? {u : Nat} (h : hexNat? digits = some u) :
    ∀ c ∈ digits, (Json.hexValue? c).isSome = true := by
  intro c hc
  by_contra hnone
  have hdigits : digits.mapM Json.hexValue? = none :=
    Fallible.mapM_eq_none_iff.2 ⟨c, hc, Option.not_isSome_iff_eq_none.1 hnone⟩
  rw [hexNat?, hdigits] at h
  cases h

theorem IsQuoted.newline_notMem (h : IsQuoted cs s) : '\n' ∉ cs := by
  induction h with
  | close => decide
  | bare hc _ _ _ ih =>
    rw [List.mem_cons]
    rintro (rfl | hmem)
    · cases hc
    · exact ih hmem
  | blanks _ hgap _ _ ih =>
    rw [List.mem_append]
    rintro (hmem | hmem)
    · exact newline_notMem_of_isQuotedBlank hgap hmem
    · exact ih hmem
  | letter he _ _ ih =>
    rw [List.mem_cons, List.mem_cons]
    rintro (heq | rfl | hmem)
    · cases heq
    · cases he
    · exact ih hmem
  | number hwidth hdigits _ ih =>
    rw [List.mem_cons, List.mem_cons, List.mem_append]
    rintro (heq | rfl | hmem | hmem)
    · cases heq
    · cases hwidth
    · cases isSome_hexValue?_of_hexNat? hdigits _ hmem
    · exact ih hmem

theorem IsQuoted.ne_nil (h : IsQuoted cs s) : cs ≠ [] := by
  cases h with
  | blanks hne _ _ _ => exact List.append_ne_nil_of_left_ne_nil hne _
  | _ => nofun

/-- A character that needs no escape stands for itself. -/
theorem doubleQuoted_bare (hc : endsHere [c] = false) (hquote : c ≠ '"') (hslash : c ≠ '\\')
    (n : Nat) (cs : List Char) (line column : Nat) :
    doubleQuoted (n + 1) ⟨c :: cs, line, column⟩ =
      (doubleQuoted n ⟨cs, line, column + 1⟩).map fun r => (c :: r.1, r.2) := by
  obtain ⟨hblank, htab, hend⟩ := ne_of_endsHere hc
  rw [doubleQuoted]
  split
  · rename_i heq
    cases heq
  · rename_i heq
    cases heq
    exact absurd rfl hquote
  · rename_i heq
    cases heq
    exact absurd rfl hslash
  · rename_i heq
    cases heq
    exact absurd rfl hslash
  · rename_i ch cs' _ _ _ heq
    cases heq
    simp only [isQuotedBlank, hblank, htab, hend, decide_false, Bool.or_self, Bool.false_eq_true,
      if_false, next_of_ne hend]

/-- Blanks stand for themselves on a line. -/
theorem doubleQuoted_blanks (hne : gap ≠ []) (hgap : ∀ c ∈ gap, isQuotedBlank c = true)
    (hcs : ∀ c ∈ cs.head?, isQuotedBlank c = false ∧ c ≠ '\n') (n line column : Nat) :
    doubleQuoted (n + 1) ⟨gap ++ cs, line, column⟩ =
      (doubleQuoted n ⟨cs, line, column + gap.length⟩).map fun r => (gap ++ r.1, r.2) := by
  have hline := newline_notMem_of_isQuotedBlank hgap
  have htake : (gap ++ cs).takeWhile (fun ch => isQuotedBlank ch || decide (ch = '\n')) = gap := by
    rw [List.takeWhile_append_of_pos fun c hc => by rw [hgap c hc, Bool.true_or]]
    cases cs with
    | nil => exact List.append_nil _
    | cons c cs =>
      obtain ⟨hblank, hend⟩ := hcs c rfl
      rw [List.takeWhile_cons_of_neg (by simp [hblank, hend]), List.append_nil]
  have hfold : (Cursor.mk (gap ++ cs) line column).fold isQuotedBlank =
      (gap, ⟨cs, line, column + gap.length⟩) := by
    simp only [Cursor.fold, htake, List.count_eq_zero.2 hline, drop_append hline]
  obtain ⟨b, gap', rfl⟩ := List.exists_cons_of_ne_nil hne
  have hb : isQuotedBlank b = true := hgap b List.mem_cons_self
  rw [doubleQuoted, hfold]
  split
  · rename_i heq
    cases heq
  · rename_i heq
    obtain ⟨rfl, -⟩ := List.cons.inj heq
    cases hb
  · rename_i heq
    obtain ⟨rfl, -⟩ := List.cons.inj heq
    cases hb
  · rename_i heq
    obtain ⟨rfl, -⟩ := List.cons.inj heq
    cases hb
  · rename_i heq
    obtain ⟨rfl, -⟩ := List.cons.inj heq
    simp only [hb, Bool.true_or, if_true]

/-- An escape stands for its character. -/
theorem doubleQuoted_escape {after : Cursor} {line column : Nat} (hend : e ≠ '\n')
    (h : escape? ⟨e :: cs, line, column + 1⟩ = some (c, after)) (n : Nat) :
    doubleQuoted (n + 1) ⟨'\\' :: e :: cs, line, column⟩ =
      (doubleQuoted n after).map fun r => (c :: r.1, r.2) := by
  have hnext : (Cursor.mk ('\\' :: e :: cs) line column).next = ⟨e :: cs, line, column + 1⟩ := rfl
  rw [doubleQuoted, hnext, h]
  split
  · rename_i heq
    cases heq
  · rename_i heq
    cases heq
  · rename_i heq
    cases heq
    exact absurd rfl hend
  · simp only [Option.bind_eq_bind, Option.bind_some]
    cases doubleQuoted n after <;> rfl
  · rename_i hslash heq
    cases heq
    exact absurd rfl hslash

/-- A text in double quotes is read as what it stands for, up to the closing quote. -/
theorem IsQuoted.doubleQuoted_eq (h : IsQuoted cs s) (hn : cs.length ≤ n) (tail : List Char)
    (line column : Nat) : doubleQuoted n ⟨cs ++ tail, line, column⟩ =
      some (s, ⟨tail, line, column + cs.length⟩) := by
  induction h generalizing n column with
  | close =>
    obtain ⟨n, rfl⟩ := Nat.exists_eq_add_of_le' hn
    rfl
  | bare hc hquote hslash _ ih =>
    cases n with
    | zero => cases hn
    | succ n =>
      rw [List.cons_append, doubleQuoted_bare hc hquote hslash, ih (Nat.le_of_succ_le_succ hn)]
      simp only [Option.map_some, List.length_cons, Nat.add_assoc, Nat.add_comm 1]
  | @blanks gap cs s hne hgap hcs h ih =>
    have hpos := List.length_pos_iff.2 hne
    rw [List.length_append] at hn
    cases n with
    | zero => omega
    | succ n =>
      have hlength : cs.length ≤ n := by omega
      have hhead : ∀ c ∈ (cs ++ tail).head?, isQuotedBlank c = false ∧ c ≠ '\n' := by
        rw [List.head?_append_of_ne_nil _ h.ne_nil]
        exact fun c hc =>
          ⟨hcs c hc, fun heq => h.newline_notMem (heq ▸ List.mem_of_mem_head? hc)⟩
      rw [List.append_assoc, doubleQuoted_blanks hne hgap hhead, ih hlength]
      simp only [Option.map_some, List.length_append, Nat.add_assoc]
  | @letter e c cs s he hwidth _ ih =>
    cases n with
    | zero => cases hn
    | succ n =>
      have hend : e ≠ '\n' := by
        rintro rfl
        cases he
      have hescape : escape? ⟨e :: (cs ++ tail), line, column + 1⟩ =
          some (c, ⟨cs ++ tail, line, column + 2⟩) := by
        simp only [escape?, hwidth, he, Option.map_some, next_of_ne hend]
      rw [List.cons_append, List.cons_append, doubleQuoted_escape hend hescape,
        ih (Nat.le_of_succ_le (Nat.le_of_succ_le_succ hn))]
      simp only [Option.map_some, List.length_cons, Option.some.injEq, Prod.mk.injEq,
        Cursor.mk.injEq, true_and]
      omega
  | @number e c digits cs s hwidth hdigits _ ih =>
    cases n with
    | zero => cases hn
    | succ n =>
      have hend : e ≠ '\n' := by
        rintro rfl
        cases hwidth
      have hline : '\n' ∉ digits := fun hmem => by
        cases isSome_hexValue?_of_hexNat? hdigits _ hmem
      have hescape : escape? ⟨e :: (digits ++ (cs ++ tail)), line, column + 1⟩ =
          some (c, ⟨cs ++ tail, line, column + 2 + digits.length⟩) := by
        have hunit : ¬0x110000 ≤ c.toNat := by
          have := Json.toNat_bounds c
          omega
        simp [escape?, hwidth, hdigits, hunit, Json.readPair_toNat, next_of_ne hend,
          drop_append hline]
      have hlength : cs.length ≤ n := by
        simp only [List.length_cons, List.length_append] at hn
        omega
      rw [List.cons_append, List.cons_append, List.append_assoc,
        doubleQuoted_escape hend hescape, ih hlength]
      simp only [Option.map_some, List.length_cons, List.length_append, Option.some.injEq,
        Prod.mk.injEq, Cursor.mk.injEq, true_and]
      omega

end Quotes

/-- A scalar that is written on one line, plain or in double quotes, and the value that it is read
as. A plain one has no more digits than a number can be read from. -/
inductive Writes : List Char → Value → Prop where
  | plain {cs : List Char} (h : IsPhrase cs) (hbegins : beginsPlain false cs = true)
    (hdigits : cs.countP Char.isDigit ≤ Json.maxDigits) : Writes cs (scalar (String.ofList cs))
  | quoted {cs s : List Char} (h : IsQuoted cs s) : Writes ('"' :: cs) (.text (String.ofList s))

section Scalars

variable {indent : Int} {c : Char} {cs tail : List Char} {v : Value}

/-- A plain scalar begins with no character that means something else. -/
theorem ne_of_beginsPlain (h : beginsPlain false (c :: cs) = true) :
    ∀ d ∈ [' ', '\n', '#', '[', '\x7b', '"', '\x27'], c ≠ d := by
  rintro d hd rfl
  simp only [List.mem_cons, List.not_mem_nil, or_false] at hd
  obtain rfl | rfl | rfl | rfl | rfl | rfl | rfl := hd <;> cases h

theorem endsHere_eq_false_of_beginsPlain (h : beginsPlain false ('-' :: cs) = true) :
    endsHere cs = false := by
  simpa [beginsPlain] using h

theorem beginsPlain_append (h : beginsPlain false cs = true) (tail : List Char) :
    beginsPlain false (cs ++ tail) = true := by
  cases cs with
  | nil => cases h
  | cons c cs =>
    cases cs with
    | nil =>
      have hdash : c ≠ '-' := by
        rintro rfl
        cases h
      have hmark : c ≠ '?' ∧ c ≠ ':' := by
        constructor <;> rintro rfl <;> cases h
      simpa [beginsPlain, hdash, hmark] using h
    | cons d cs => exact h

theorem leaf_of_ne (hlist : c ≠ '[') (hobject : c ≠ '\x7b') (cs : List Char) (line column : Nat) :
    leaf indent ⟨c :: cs, line, column⟩ = scalarAt false indent ⟨c :: cs, line, column⟩ := by
  unfold leaf
  split
  · rename_i heq
    exact absurd (List.cons.inj heq).1 hlist
  · rename_i heq
    exact absurd (List.cons.inj heq).1 hobject
  · rfl

theorem scalarAt_of_beginsPlain (h : beginsPlain false cs = true) (line column : Nat) :
    scalarAt false indent ⟨cs, line, column⟩ =
      some (scalar (String.ofList (plain false indent ⟨cs, line, column⟩).1),
        (plain false indent ⟨cs, line, column⟩).2) := by
  unfold scalarAt
  split
  · rename_i heq
    obtain rfl : cs = _ := heq
    cases h
  · rename_i heq
    obtain rfl : cs = _ := heq
    cases h
  · rw [if_pos h]

/-- A scalar on one line is read as its value, up to what closes it. -/
theorem Writes.leaf_eq (h : Writes cs v) (ht : Closes indent tail) {column : Nat}
    (hcolumn : indent ≤ column) (line : Nat) :
    leaf indent ⟨cs ++ tail, line, column⟩ = some (v, ⟨tail, line, column + cs.length⟩) := by
  cases h with
  | plain h hbegins _ =>
    have hplain := h.plain_eq ht hcolumn line
    cases cs with
    | nil => cases hbegins
    | cons c cs =>
      have hne := ne_of_beginsPlain hbegins
      rw [List.cons_append, leaf_of_ne (hne _ (by simp)) (hne _ (by simp)), ← List.cons_append,
        scalarAt_of_beginsPlain (beginsPlain_append hbegins tail), hplain]
  | @quoted cs s h =>
    have hlength : cs.length ≤ (cs ++ tail).length + 1 := by
      rw [List.length_append]
      omega
    have hread := h.doubleQuoted_eq hlength tail line (column + 1)
    rw [List.cons_append, leaf_of_ne (by decide) (by decide), scalarAt,
      next_of_ne (by decide)]
    simp only [hread, Option.map_some, List.length_cons, Nat.add_assoc, Nat.add_comm 1]

end Scalars

end CallFlow.Yaml
