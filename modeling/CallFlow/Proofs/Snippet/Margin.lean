import CallFlow.Snippet.Check
import Mathlib

namespace CallFlow.Snippet

/-- The characters that make up the indentation of a line. A form feed begins it anew. -/
def isMargin (c : Char) : Bool := c = ' ' || c = '\t' || c = '\x0c'

/-- The four blanks that stand in front of a line of a snippet. -/
def fourBlanks : List Char := [' ', ' ', ' ', ' ']

/-- The lines of a text as a tokenizer takes them: a line feed ends a line, and so does a carriage
return, with a line feed after it or without. -/
def physicalLines (text : List Char) : List (List Char) :=
  (Lexer.unifyLineEnds text).splitOn '\n'

/-- The indentation of a line, from the last form feed in it on. -/
def margin (line : List Char) : List Char := (line.takeWhile isMargin).rtakeWhile (· ≠ '\x0c')

/-- The first character of a line after its indentation. -/
def firstSign? (line : List Char) : Option Char := (line.dropWhile isMargin).head?

/-- If the first character after the indentation of a line is not blank, the margin in front of it
begins with four blanks. -/
def IsIndented (line : List Char) : Prop :=
  ∀ c, firstSign? line = some c → Text.isBlank c = false → fourBlanks <+: margin line

section Characters

variable {c : Char}

theorem isBlank_of_isMargin (h : isMargin c = true) : Text.isBlank c = true := by
  simp only [isMargin, Bool.or_eq_true, decide_eq_true_eq] at h
  obtain (rfl | rfl) | rfl := h <;> decide

theorem isBlank_of_isLineEnd (h : isLineEnd c = true) : Text.isBlank c = true := by
  simp only [isLineEnd, Bool.or_eq_true, Bool.and_eq_true, decide_eq_true_eq] at h
  obtain (((((((rfl | rfl) | rfl) | rfl) | ⟨hlow, hhigh⟩) | hcode) | hcode) | hcode) := h
  · decide
  · decide
  · decide
  · decide
  · rw [Text.isBlank]
    generalize c.toNat = code at hlow hhigh
    interval_cases code <;> rfl
  · rw [Text.isBlank, hcode]
    rfl
  · rw [Text.isBlank, hcode]
    rfl
  · rw [Text.isBlank, hcode]
    rfl

end Characters

section Lines

variable {piece rest : List Char}

/-- A form feed starts the margin over. -/
theorem margin_of_feed (front : List Char) (hfront : ∀ c ∈ front, isMargin c = true)
    (rest : List Char) : margin (front ++ '\x0c' :: rest) = margin rest := by
  have hfeed : isMargin '\x0c' = true := rfl
  rw [margin, List.takeWhile_append_of_pos hfront, List.takeWhile_cons_of_pos hfeed, margin,
    List.rtakeWhile, List.rtakeWhile, List.reverse_append, List.reverse_cons, List.append_assoc,
    List.takeWhile_append]
  split
  · rename_i hall
    rw [List.singleton_append, List.takeWhile_cons_of_neg (by decide), List.append_nil,
      (List.takeWhile_prefix _).eq_of_length hall]
  · rfl

/-- A margin in front does not hide the first sign. -/
theorem firstSign?_append (h : ∀ c ∈ piece, isMargin c = true) :
    firstSign? (piece ++ rest) = firstSign? rest := by
  rw [firstSign?, List.dropWhile_append_of_pos h, firstSign?]

/-- If not all of the characters at the front are indentation, the first sign is one of them. -/
theorem firstSign?_append_of_not (h : ¬∀ c ∈ piece, isMargin c = true) :
    firstSign? (piece ++ rest) = firstSign? piece := by
  have hne : (piece.dropWhile isMargin).isEmpty = false :=
    List.isEmpty_eq_false_iff.2 fun hnil => h (List.dropWhile_eq_nil_iff.1 hnil)
  rw [firstSign?, List.dropWhile_append, hne, if_neg Bool.false_ne_true, firstSign?,
    List.head?_append_of_ne_nil _ (List.isEmpty_eq_false_iff.1 hne)]

theorem mem_of_firstSign? {c : Char} (h : firstSign? piece = some c) : c ∈ piece :=
  (List.dropWhile_sublist _).subset (List.mem_of_mem_head? h)

/-- Blanks in front of an indented line leave it so, if they end in a form feed where all of them
may be indentation. -/
theorem IsIndented.append (h : IsIndented rest) (hblank : ∀ c ∈ piece, Text.isBlank c = true)
    (hlast : (∀ c ∈ piece, isMargin c = true) → ∃ front, piece = front ++ ['\x0c']) :
    IsIndented (piece ++ rest) := by
  intro c hfirst hc
  by_cases hall : ∀ c ∈ piece, isMargin c = true
  · obtain ⟨front, rfl⟩ := hlast hall
    rw [firstSign?_append hall] at hfirst
    rw [List.append_assoc, List.singleton_append, margin_of_feed front]
    · exact h c hfirst hc
    · exact fun d hd => hall d (List.mem_append_left _ hd)
  · rw [firstSign?_append_of_not hall] at hfirst
    rw [hblank c (mem_of_firstSign? hfirst)] at hc
    cases hc

/-- A piece with something on it is indented by the blanks that are put in front of it, whatever
follows. -/
theorem isIndented_fourBlanks (hfeed : '\x0c' ∉ piece.takeWhile isMargin)
    (hsign : ∃ c ∈ piece, Text.isBlank c = false) : IsIndented (fourBlanks ++ piece ++ rest) := by
  intro c hfirst hc
  have hall : ¬∀ c ∈ piece, isMargin c = true := by
    obtain ⟨d, hd, hblank⟩ := hsign
    intro hall
    rw [isBlank_of_isMargin (hall d hd)] at hblank
    cases hblank
  have htake : (fourBlanks ++ piece ++ rest).takeWhile isMargin =
      fourBlanks ++ piece.takeWhile isMargin := by
    have hblanks : ∀ c ∈ fourBlanks, isMargin c = true := by simp [fourBlanks, isMargin]
    have hlength : (piece.takeWhile isMargin).length ≠ piece.length := fun hlength =>
      hall (List.takeWhile_eq_self_iff.1 ((List.takeWhile_prefix _).eq_of_length hlength))
    rw [List.append_assoc, List.takeWhile_append_of_pos hblanks, List.takeWhile_append,
      if_neg hlength]
  have hmargin : margin (fourBlanks ++ piece ++ rest) = fourBlanks ++ piece.takeWhile isMargin := by
    rw [margin, htake, List.rtakeWhile_eq_self_iff]
    intro d hd
    rw [decide_eq_true_eq]
    rintro rfl
    rcases List.mem_append.1 hd with hd | hd
    · revert hd
      decide
    · exact hfeed hd
  rw [hmargin]
  exact List.prefix_append _ _

end Lines

/-- No sign stands at the beginning of an indented line. -/
theorem IsIndented.isBlank_head {line : List Char} (h : IsIndented line) {c : Char}
    (hhead : line.head? = some c) : Text.isBlank c = true := by
  by_contra hblank
  have hc : Text.isBlank c = false := Bool.eq_false_of_not_eq_true hblank
  have hmargin : ¬isMargin c = true := fun hmargin => hblank (isBlank_of_isMargin hmargin)
  obtain ⟨rest, rfl⟩ := List.head?_eq_some_iff.1 hhead
  have hfour := h c (by rw [firstSign?, List.dropWhile_cons_of_neg hmargin]; rfl) hc
  rw [margin, List.takeWhile_cons_of_neg hmargin] at hfour
  cases List.prefix_nil.1 hfour

/-- What ends a piece, with the characters after it. A carriage return is not parted from a line
feed after it, and only the last piece of a text may go without an end. -/
inductive PieceEnd : List Char → List Char → Prop where
  | both (rest : List Char) : PieceEnd ['\r', '\n'] rest
  | one {c : Char} {rest : List Char} (h : isLineEnd c = true)
      (hfeed : c = '\r' → rest.head? ≠ some '\n') : PieceEnd [c] rest
  | none : PieceEnd [] []

/-- The first piece of a text. -/
theorem exists_lines_eq (cs : List Char) (hne : cs ≠ []) : ∃ body stop rest,
    cs = body ++ stop ++ rest ∧ lines cs = (body ++ stop) :: lines rest ∧
      (∀ c ∈ body, isLineEnd c = false) ∧ PieceEnd stop rest := by
  fun_induction lines cs with
  | case1 => exact absurd rfl hne
  | case2 rest ih => exact ⟨[], ['\r', '\n'], rest, rfl, rfl, nofun, .both rest⟩
  | case3 c rest hpair hend ih =>
    refine ⟨[], [c], rest, rfl, rfl, nofun, .one hend ?_⟩
    rintro rfl hfeed
    cases rest with
    | nil => cases hfeed
    | cons d rest =>
      cases hfeed
      exact hpair rest rfl rfl
  | case4 c rest hpair hend line more hlines ih =>
    have hrest : rest ≠ [] := by
      rintro rfl
      cases hlines
    obtain ⟨body, stop, after, hcs, heq, hbody, hstop⟩ := ih hrest
    rw [hlines] at heq
    obtain ⟨rfl, rfl⟩ := List.cons.inj heq
    refine ⟨c :: body, stop, after, by simp [hcs], rfl, ?_, hstop⟩
    exact List.forall_mem_cons.2 ⟨by simpa using hend, hbody⟩
  | case5 c rest hpair hend hlines ih =>
    have hrest : rest = [] := by
      by_contra hne
      obtain ⟨body, stop, after, -, heq, -, -⟩ := ih hne
      rw [hlines] at heq
      cases heq
    subst hrest
    exact ⟨[c], [], [], rfl, rfl, by simpa using hend, .none⟩

/-- Line ends are unified from the first one on. -/
theorem unifyLineEnds_append {front : List Char} (h : '\r' ∉ front) (rest : List Char) :
    Lexer.unifyLineEnds (front ++ rest) = front ++ Lexer.unifyLineEnds rest := by
  induction front with
  | nil => rfl
  | cons c front ih =>
    have hne : c ≠ '\r' := fun heq => h (heq ▸ List.mem_cons_self)
    have hkeep : ∀ cs, Lexer.unifyLineEnds (c :: cs) = c :: Lexer.unifyLineEnds cs := by
      intro cs
      rw [Lexer.unifyLineEnds]
      · rintro _ rfl
        exact absurd rfl hne
      · rintro rfl
        exact absurd rfl hne
    rw [List.cons_append, hkeep, ih fun hmem => h (List.mem_cons_of_mem _ hmem), List.cons_append]

/-- A return by itself is a line end. -/
theorem unifyLineEnds_return {rest : List Char} (h : rest.head? ≠ some '\n') :
    Lexer.unifyLineEnds ('\r' :: rest) = '\n' :: Lexer.unifyLineEnds rest := by
  rw [Lexer.unifyLineEnds]
  rintro rest rfl
  exact h rfl

/-- A text with its pieces indented. -/
def indented (cs : List Char) : List Char := (lines cs).flatMap indentLine

/-- What indenting does to a piece: four blanks come in front of it, unless it is blank. -/
theorem indentLine_cases (piece : List Char) :
    ((∀ c ∈ piece, Text.isBlank c = true) ∧ indentLine piece = piece) ∨
      ((∃ c ∈ piece, Text.isBlank c = false) ∧ indentLine piece = fourBlanks ++ piece) := by
  rw [indentLine]
  split
  · rename_i hall
    exact Or.inl ⟨List.all_eq_true.1 hall, rfl⟩
  · rename_i hall
    exact Or.inr ⟨by simpa using hall, rfl⟩

theorem fourBlanks_open : ∀ c ∈ fourBlanks, isLineEnd c = false := by
  simp [fourBlanks, isLineEnd]

/-- Indenting adds no line end. -/
theorem mem_of_mem_indentLine {c : Char} {piece : List Char} (h : c ∈ indentLine piece)
    (hend : isLineEnd c = true) : c ∈ piece := by
  obtain ⟨-, heq⟩ | ⟨-, heq⟩ := indentLine_cases piece
  · rwa [heq] at h
  · rw [heq] at h
    rcases List.mem_append.1 h with h | h
    · rw [fourBlanks_open c h] at hend
      cases hend
    · exact h

/-- Indenting does not put a line end in front. -/
theorem head?_indented {cs : List Char} (h : cs.head? ≠ some '\n') :
    (indented cs).head? ≠ some '\n' := by
  by_cases hne : cs = []
  · subst hne
    exact nofun
  obtain ⟨body, stop, rest, rfl, hlines, -, hstop⟩ := exists_lines_eq cs hne
  have hpiece : body ++ stop ≠ [] := by
    intro hnil
    obtain ⟨rfl, rfl⟩ := List.append_eq_nil_iff.1 hnil
    cases hstop
    exact hne rfl
  rw [List.head?_append_of_ne_nil _ hpiece] at h
  rw [indented, hlines, List.flatMap_cons]
  obtain ⟨-, heq⟩ | ⟨-, heq⟩ := indentLine_cases (body ++ stop)
  · rw [heq, List.head?_append_of_ne_nil _ hpiece]
    exact h
  · rw [heq]
    exact nofun

/-- What has no line end belongs to the first line. -/
theorem splitOn_append {front : List Char} (h : '\n' ∉ front) (rest : List Char) :
    (front ++ rest).splitOn '\n' = (rest.splitOn '\n').modifyHead (front ++ ·) := by
  induction front with
  | nil => exact (congrFun List.modifyHead_id _).symm
  | cons c front ih =>
    have hne : (c == '\n') = false := beq_eq_false_iff_ne.2 fun heq => h (heq ▸ List.mem_cons_self)
    rw [List.cons_append, List.splitOn_cons_eq_if_modifyHead, hne, if_neg Bool.false_ne_true,
      ih fun hmem => h (List.mem_cons_of_mem _ hmem), List.modifyHead_modifyHead]
    rfl

/-- What has no line end belongs to the first physical line. -/
theorem physicalLines_append {front : List Char} (hreturn : '\r' ∉ front) (hfeed : '\n' ∉ front)
    (rest : List Char) :
    physicalLines (front ++ rest) = (physicalLines rest).modifyHead (front ++ ·) := by
  rw [physicalLines, unifyLineEnds_append hreturn, splitOn_append hfeed, physicalLines]

/-- What ends a line for a tokenizer, with the characters after it. -/
inductive LineEnd : List Char → List Char → Prop where
  | both (rest : List Char) : LineEnd ['\r', '\n'] rest
  | feed (rest : List Char) : LineEnd ['\n'] rest
  | alone {rest : List Char} (h : rest.head? ≠ some '\n') : LineEnd ['\r'] rest

/-- A line end begins another physical line. -/
theorem LineEnd.physicalLines_append {stop rest : List Char} (h : LineEnd stop rest) :
    physicalLines (stop ++ rest) = [] :: physicalLines rest := by
  cases h with
  | both => rfl
  | feed => rfl
  | alone h => rw [physicalLines, List.singleton_append, unifyLineEnds_return h]; rfl

theorem exists_cons_physicalLines (text : List Char) :
    ∃ line more, physicalLines text = line :: more :=
  List.exists_cons_of_ne_nil (List.splitOn_ne_nil _ _)

/-- A piece ends where a line does, or inside of a line, unless it is the last. -/
theorem PieceEnd.cases_lineEnd {stop rest : List Char} (h : PieceEnd stop rest) :
    LineEnd stop (indented rest) ∨ (stop = [] ∧ rest = []) ∨
      ∃ c, stop = [c] ∧ isLineEnd c = true ∧ c ≠ '\r' ∧ c ≠ '\n' := by
  cases h with
  | both => exact Or.inl (.both _)
  | none => exact Or.inr (Or.inl ⟨rfl, rfl⟩)
  | @one c _ h hfeed =>
    by_cases hn : c = '\n'
    · subst hn
      exact Or.inl (.feed _)
    by_cases hr : c = '\r'
    · subst hr
      exact Or.inl (.alone (head?_indented (hfeed rfl)))
    exact Or.inr (Or.inr ⟨c, rfl, h, hr, hn⟩)

theorem PieceEnd.isBlank {stop rest : List Char} (h : PieceEnd stop rest) :
    ∀ c ∈ stop, Text.isBlank c = true := by
  cases h with
  | both => simpa using ⟨isBlank_of_isLineEnd rfl, isBlank_of_isLineEnd rfl⟩
  | one h => simpa using isBlank_of_isLineEnd h
  | none => exact nofun

/-- A blank line counts as indented. -/
theorem isIndented_of_blank {line : List Char} (h : ∀ c ∈ line, Text.isBlank c = true) :
    IsIndented line := by
  intro c hfirst hc
  rw [h c (mem_of_firstSign? hfirst)] at hc
  cases hc

section Piece

variable {body stop rest : List Char} (hbody : ∀ c ∈ body, isLineEnd c = false)

include hbody

/-- A line ends after the body of a piece that ends where it does. -/
theorem physicalLines_piece (hstop : LineEnd stop rest) {front : List Char}
    (hfront : ∀ c ∈ front, isLineEnd c = false) :
    physicalLines (front ++ body ++ stop ++ rest) = (front ++ body) :: physicalLines rest := by
  have hopen : ∀ c, isLineEnd c = true → c ∉ front ++ body := by
    intro c hc hmem
    rw [(List.mem_append.1 hmem).elim (hfront c) (hbody c)] at hc
    cases hc
  rw [List.append_assoc (front ++ body), physicalLines_append (hopen _ rfl) (hopen _ rfl),
    hstop.physicalLines_append, List.modifyHead_cons, List.append_nil]

/-- A piece that is indented for something on it indents the line, whatever follows its body. -/
theorem isIndented_body (hsign : ∃ c ∈ body, Text.isBlank c = false) (rest : List Char) :
    IsIndented (fourBlanks ++ body ++ rest) := by
  refine isIndented_fourBlanks (fun hmem => ?_) hsign
  have hfeed := hbody _ ((List.takeWhile_prefix _).subset hmem)
  cases hfeed

/-- A piece that ends inside of a line keeps the rest of the line indented. -/
theorem isIndented_inside {c : Char} (hend : isLineEnd c = true) (hreturn : c ≠ '\r')
    (hfeed : c ≠ '\n') (hrest : IsIndented rest) :
    IsIndented (indentLine (body ++ [c]) ++ rest) := by
  obtain ⟨hblank, heq⟩ | ⟨⟨d, hd, hsign⟩, heq⟩ := indentLine_cases (body ++ [c])
  · rw [heq]
    refine hrest.append hblank fun hmargin => ⟨body, ?_⟩
    have hc := hmargin c (List.mem_append_right _ (List.mem_singleton_self c))
    simp only [isMargin, Bool.or_eq_true, decide_eq_true_eq] at hc
    obtain (rfl | rfl) | rfl := hc
    · cases hend
    · cases hend
    · rfl
  · have hmem : d ∈ body := by
      rcases List.mem_append.1 hd with hmem | hmem
      · exact hmem
      · rw [List.mem_singleton.1 hmem, isBlank_of_isLineEnd hend] at hsign
        cases hsign
    rw [heq, ← List.append_assoc, List.append_assoc]
    exact isIndented_body hbody ⟨d, hmem, hsign⟩ _

/-- A piece that ends where a line does is a line of its own. -/
theorem forall_isIndented_lineEnd (hline : LineEnd stop rest)
    (hstop : ∀ c ∈ stop, Text.isBlank c = true)
    (hrest : ∀ line ∈ physicalLines rest, IsIndented line) :
    ∀ line ∈ physicalLines (indentLine (body ++ stop) ++ rest), IsIndented line := by
  obtain ⟨hblank, heq⟩ | ⟨⟨c, hc, hsign⟩, heq⟩ := indentLine_cases (body ++ stop)
  · rw [heq, ← List.nil_append body, physicalLines_piece hbody hline (List.forall_mem_nil _)]
    refine List.forall_mem_cons.2 ⟨isIndented_of_blank fun c hc => ?_, hrest⟩
    exact hblank c (List.mem_append_left _ hc)
  · have hmem : c ∈ body := by
      rcases List.mem_append.1 hc with hmem | hmem
      · exact hmem
      · rw [hstop c hmem] at hsign
        cases hsign
    rw [heq, ← List.append_assoc, physicalLines_piece hbody hline fourBlanks_open]
    have hindented := isIndented_body hbody ⟨c, hmem, hsign⟩ []
    rw [List.append_nil] at hindented
    exact List.forall_mem_cons.2 ⟨hindented, hrest⟩

/-- The last piece of a text, where it goes without an end. -/
theorem forall_isIndented_last : ∀ line ∈ physicalLines (indentLine body), IsIndented line := by
  have hopen : ∀ c, isLineEnd c = true → c ∉ indentLine body := by
    intro c hc hmem
    rw [hbody c (mem_of_mem_indentLine hmem hc)] at hc
    cases hc
  have hline : physicalLines (indentLine body) = [indentLine body] := by
    rw [← List.append_nil (indentLine body), physicalLines_append (hopen _ rfl) (hopen _ rfl)]
    rfl
  rw [hline, List.forall_mem_singleton]
  obtain ⟨hblank, heq⟩ | ⟨hsign, heq⟩ := indentLine_cases body
  · rw [heq]
    exact isIndented_of_blank hblank
  · rw [heq]
    simpa using isIndented_body hbody hsign []

/-- A piece that ends inside of a line begins the line that goes on after it. -/
theorem forall_isIndented_inside {c : Char} (hend : isLineEnd c = true) (hreturn : c ≠ '\r')
    (hfeed : c ≠ '\n') (hrest : ∀ line ∈ physicalLines rest, IsIndented line) :
    ∀ line ∈ physicalLines (indentLine (body ++ [c]) ++ rest), IsIndented line := by
  have hopen : ∀ d, isLineEnd d = true → c ≠ d → d ∉ indentLine (body ++ [c]) := by
    intro d hd hne hmem
    rcases List.mem_append.1 (mem_of_mem_indentLine hmem hd) with hmem | hmem
    · rw [hbody d hmem] at hd
      cases hd
    · exact hne (List.mem_singleton.1 hmem).symm
  obtain ⟨line, more, hmore⟩ := exists_cons_physicalLines rest
  rw [hmore] at hrest
  obtain ⟨hfirst, hrest⟩ := List.forall_mem_cons.1 hrest
  rw [physicalLines_append (hopen _ rfl hreturn) (hopen _ rfl hfeed), hmore, List.modifyHead_cons]
  exact List.forall_mem_cons.2 ⟨isIndented_inside hbody hend hreturn hfeed hfirst, hrest⟩

end Piece

/-- The lines of an indented text are indented. -/
theorem isIndented_of_mem_physicalLines (cs : List Char) :
    ∀ line ∈ physicalLines (indented cs), IsIndented line := by
  -- on the number of characters, piece by piece from the front
  induction hlength : cs.length using Nat.strongRecOn generalizing cs with
  | ind n ih =>
  subst hlength
  by_cases hne : cs = []
  · subst hne
    exact List.forall_mem_singleton.2 (isIndented_of_blank nofun)
  obtain ⟨body, stop, rest, rfl, hlines, hbody, hstop⟩ := exists_lines_eq cs hne
  rw [indented, hlines, List.flatMap_cons]
  obtain hline | ⟨rfl, rfl⟩ | ⟨c, rfl, hend, hreturn, hfeed⟩ := hstop.cases_lineEnd
  · have hrest := ih rest.length (by cases hline <;> simp <;> omega) rest rfl
    exact forall_isIndented_lineEnd hbody hline hstop.isBlank hrest
  · rw [List.append_nil]
    simpa [lines] using forall_isIndented_last hbody
  · have hrest := ih rest.length (by simp; omega) rest rfl
    exact forall_isIndented_inside hbody hend hreturn hfeed hrest

end CallFlow.Snippet
