import CallFlow.Proofs.Snippet.Consumption
import CallFlow.Proofs.Snippet.Lexemes
import CallFlow.Proofs.Snippet.Margin

namespace CallFlow.Snippet

/-- With so many blocks open, the last of them is closed by the last of the tokens, if at all. -/
def Ends : Nat → List Token → Prop
  | 0, ts => ts = []
  | _ + 1, [] => True
  | d + 1, .indent :: ts => Ends (d + 2) ts
  | d + 1, .dedent :: ts => Ends d ts
  | d + 1, _ :: ts => Ends (d + 1) ts

theorem ends_cons {t : Token} (hindent : t ≠ .indent) (hdedent : t ≠ .dedent) (d : Nat)
    (ts : List Token) : Ends (d + 1) (t :: ts) ↔ Ends (d + 1) ts := by
  cases t with
  | indent => exact absurd rfl hindent
  | dedent => exact absurd rfl hdedent
  | _ => rfl

theorem ends_zero {ts : List Token} : Ends 0 ts ↔ ts = [] := by
  rw [Ends]

/-- An indent goes one deeper. -/
theorem ends_indent {d : Nat} {ts : List Token} :
    Ends (d + 1) (.indent :: ts) ↔ Ends (d + 2) ts := Iff.rfl

/-- A dedent goes one up. -/
theorem ends_dedent {d : Nat} {ts : List Token} : Ends (d + 1) (.dedent :: ts) ↔ Ends d ts :=
  Iff.rfl

theorem ends_replicate (d : Nat) : Ends d (List.replicate d .dedent) := by
  induction d with
  | zero => rfl
  | succ d ih => exact ih

/-- Balanced tokens leave the number of open blocks as it is. -/
theorem Ends.of_balanced {front rest : List Token} (hfront : Balanced front) {d : Nat}
    (h : Ends (d + 1) (front ++ rest)) : Ends (d + 1) rest := by
  induction hfront generalizing d rest with
  | nil => exact h
  | plain hindent hdedent _ ih => exact ih ((ends_cons hindent hdedent d _).1 h)
  | @block inner ts _ _ ihinner ih =>
    rw [List.cons_append, List.append_assoc, List.cons_append, ends_indent] at h
    exact ih (ends_dedent.1 (ihinner h))

namespace Lexer

/-- All lines of a text are indented. -/
def AllIndented (cs : List Char) : Prop := ∀ line ∈ cs.splitOn '\n', IsIndented line

/-- All lines of a text after the first are indented. -/
def RestIndented (cs : List Char) : Prop := ∀ line ∈ (cs.splitOn '\n').tail, IsIndented line

section Lines

variable {cs after : List Char}

theorem splitOn_cons (c : Char) (cs : List Char) :
    (c :: cs).splitOn '\n' =
      if c = '\n' then [] :: cs.splitOn '\n' else (cs.splitOn '\n').modifyHead (c :: ·) := by
  rw [List.splitOn_cons_eq_if_modifyHead]
  simp only [beq_iff_eq]

/-- Where all lines are indented, those after the first are. -/
theorem AllIndented.rest (h : AllIndented cs) : RestIndented cs :=
  fun line hline => h line (List.mem_of_mem_tail hline)

/-- After a line end all lines are indented. -/
theorem RestIndented.next (h : RestIndented ('\n' :: cs)) : AllIndented cs := by
  intro line hline
  refine h line ?_
  rwa [splitOn_cons, if_pos rfl]

/-- What holds of the lines to come holds of fewer of them. -/
theorem RestIndented.suffix (h : RestIndented cs) (hsuffix : after <:+ cs) :
    RestIndented after := by
  induction cs with
  | nil => rwa [List.suffix_nil.1 hsuffix]
  | cons c cs ih =>
    rcases List.suffix_cons_iff.1 hsuffix with rfl | hsuffix
    · exact h
    refine ih (fun line hline => h line ?_) hsuffix
    rw [splitOn_cons]
    split
    · exact List.mem_of_mem_tail hline
    · rwa [List.tail_modifyHead]

theorem allIndented_nil : AllIndented [] :=
  List.forall_mem_singleton.2 (isIndented_of_blank nofun)

/-- A comment is left at the end of its line. -/
theorem RestIndented.comment (h : RestIndented cs) :
    AllIndented ((cs.dropWhile (· ≠ '\n')).drop 1) := by
  have hsuffix := h.suffix (List.dropWhile_suffix (· ≠ '\n'))
  cases hrest : cs.dropWhile (· ≠ '\n') with
  | nil => exact allIndented_nil
  | cons c rest =>
    have hc : c = '\n' := by
      have hhead := List.head?_dropWhile_not (· ≠ '\n') cs
      rw [hrest] at hhead
      simpa using hhead
    rw [hrest, hc] at hsuffix
    exact hsuffix.next

end Lines

/-- The width after a character of indentation. -/
def advance (here : Indentation) (c : Char) : Indentation :=
  if c = ' ' then ⟨here.wide + 1, here.narrow + 1⟩
  else if c = '\t' then ⟨(here.wide / 8 + 1) * 8, here.narrow + 1⟩
  else {}

/-- The margin is made of blanks, tabs and form feeds. -/
theorem isMargin_iff {c : Char} : isMargin c = true ↔ c = ' ' ∨ c = '\t' ∨ c = '\x0c' := by
  simp [isMargin, or_assoc]

/-- The width of a margin is counted character by character. -/
theorem indentation_append {run : List Char} (hrun : ∀ c ∈ run, isMargin c = true)
    (here : Indentation) (first : Nat) (after : List Char) :
    indentation here first (run ++ after) = indentation (run.foldl advance here) first after := by
  induction run generalizing here with
  | nil => rfl
  | cons c run ih =>
    obtain ⟨hc, hrun⟩ := List.forall_mem_cons.1 hrun
    rw [List.cons_append, List.foldl_cons, ← ih hrun]
    obtain rfl | rfl | rfl := isMargin_iff.1 hc <;> rfl

/-- Without a form feed a margin only gets wider. -/
theorem le_foldl_advance {run : List Char} (hfeed : '\x0c' ∉ run)
    (hrun : ∀ c ∈ run, isMargin c = true) (here : Indentation) :
    here.wide ≤ (run.foldl advance here).wide := by
  induction run generalizing here with
  | nil => exact le_rfl
  | cons c run ih =>
    obtain ⟨hc, hrun⟩ := List.forall_mem_cons.1 hrun
    have hstep : here.wide ≤ (advance here c).wide := by
      obtain rfl | rfl | rfl := isMargin_iff.1 hc
      · exact Nat.le_succ _
      · change here.wide ≤ (here.wide / 8 + 1) * 8
        omega
      · exact absurd List.mem_cons_self hfeed
    exact hstep.trans (ih (fun hmem => hfeed (List.mem_cons_of_mem _ hmem)) hrun _)

/-- Only what comes after the last form feed counts. -/
theorem foldl_advance_rtakeWhile {run : List Char} (hrun : ∀ c ∈ run, isMargin c = true) :
    run.foldl advance {} = (run.rtakeWhile (· ≠ '\x0c')).foldl advance {} := by
  induction run using List.reverseRecOn with
  | nil => rfl
  | append_singleton run c ih =>
    obtain ⟨hrun, hc⟩ := List.forall_mem_append.1 hrun
    rw [List.rtakeWhile_concat, List.foldl_append]
    split
    · rw [List.foldl_append, ih hrun]
    · rename_i hne
      have hfeed : c = '\x0c' := by simpa using hne
      rw [hfeed]
      rfl

/-- A margin that begins with four blanks has a width. -/
theorem four_le_foldl_advance {run : List Char} (hrun : ∀ c ∈ run, isMargin c = true)
    (hfour : fourBlanks <+: run.rtakeWhile (· ≠ '\x0c')) : 4 ≤ (run.foldl advance {}).wide := by
  obtain ⟨more, hmore⟩ := hfour
  have hmem (c : Char) (hc : c ∈ more) : c ∈ run.rtakeWhile (· ≠ '\x0c') :=
    hmore ▸ List.mem_append_right _ hc
  have hfeed : '\x0c' ∉ more := by
    intro hmem'
    have := List.mem_rtakeWhile_imp (hmem _ hmem')
    simp at this
  rw [foldl_advance_rtakeWhile hrun, ← hmore, List.foldl_append]
  exact le_foldl_advance hfeed
    (fun c hc => hrun c ((List.rtakeWhile_suffix _ _).subset (hmem c hc))) ⟨4, 4⟩

/-- Once the width before a continuation is taken, it stays. -/
theorem eq_of_indentation {here i : Indentation} {first : Nat} (hfirst : first ≠ 0)
    {cs after : List Char} (h : indentation here first cs = some (i, after)) :
    i = ⟨first, first⟩ := by
  fun_induction indentation here first cs with
  | case1 here first rest ih => exact ih hfirst h
  | case2 here first rest ih => exact ih hfirst h
  | case3 here first rest ih => exact ih hfirst h
  | case4 here first c rest ih =>
    rw [if_neg hfirst] at h ih
    exact ih hfirst h
  | case5 => cases h
  | case6 =>
    rw [if_neg hfirst] at h
    cases h
    rfl

/-- What is left after a margin is an end of the text. -/
theorem suffix_of_indentation {here i : Indentation} {first : Nat} {cs after : List Char}
    (h : indentation here first cs = some (i, after)) : after <:+ cs := by
  fun_induction indentation here first cs with
  | case1 here first rest ih => exact (ih h).trans (List.suffix_cons _ _)
  | case2 here first rest ih => exact (ih h).trans (List.suffix_cons _ _)
  | case3 here first rest ih => exact (ih h).trans (List.suffix_cons _ _)
  | case4 here first c rest ih => exact (ih h).trans (suffix_cons_cons _ _ _)
  | case5 => cases h
  | case6 =>
    cases h
    exact List.suffix_refl _

/-- A sign on an indented line has a margin in front of it. -/
theorem four_le_of_allIndented {run rest : List Char} {c : Char}
    (hrun : ∀ d ∈ run, isMargin d = true) (hc : Text.isBlank c = false)
    (h : AllIndented (run ++ c :: rest)) : 4 ≤ (run.foldl advance {}).wide := by
  have hmargin : isMargin c = false := by
    by_contra hmargin
    rw [isBlank_of_isMargin (Bool.eq_true_of_not_eq_false hmargin)] at hc
    cases hc
  have hopen : '\n' ∉ run ++ [c] := by
    intro hmem
    rcases List.mem_append.1 hmem with hmem | hmem
    · cases hrun _ hmem
    · rw [← List.mem_singleton.1 hmem] at hc
      cases hc
  obtain ⟨line, more, hrest⟩ := List.exists_cons_of_ne_nil (List.splitOn_ne_nil '\n' rest)
  have hline : IsIndented (run ++ c :: line) := by
    refine h _ ?_
    rw [List.append_cons run c rest, splitOn_append hopen, hrest, List.modifyHead_cons,
      ← List.append_cons run c line]
    exact List.mem_cons_self
  have hfour := hline c ?_ hc
  · rw [margin, List.takeWhile_append_of_pos hrun, List.takeWhile_cons_of_neg (by simp [hmargin]),
      List.append_nil] at hfour
    exact four_le_foldl_advance hrun hfour
  · rw [firstSign?_append hrun, firstSign?, List.dropWhile_cons_of_neg (by simp [hmargin])]
    rfl

/-- The margin ends at the first other character. -/
theorem indentation_sign {c : Char} (hmargin : isMargin c = false) (hne : c ≠ '\\')
    (here : Indentation) (cs : List Char) :
    indentation here 0 (c :: cs) = some (here, c :: cs) := by
  rw [indentation.eq_def]
  split
  case h_6 => rfl
  all_goals
    rename_i heq
    cases heq
  · cases hmargin
  · cases hmargin
  · cases hmargin
  · exact absurd rfl hne
  · exact absurd rfl hne

/-- A backslash in the indentation continues the line. -/
theorem exists_of_indentation_backslash {here i : Indentation} {cs after : List Char}
    (h : indentation here 0 ('\\' :: cs) = some (i, after)) :
    ∃ c rest, indentation here here.wide (c :: rest) = some (i, after) := by
  rw [indentation.eq_def] at h
  split at h
  case h_4 heq =>
    cases heq
    exact ⟨_, _, h⟩
  case h_5 => cases h
  case h_6 hslash => exact absurd rfl (hslash cs)
  all_goals
    rename_i heq
    cases heq

/-- The first sign of an indented line has a width in front of it. -/
theorem wide_pos {cs after : List Char} {i : Indentation} {c : Char} (hcs : AllIndented cs)
    (h : indentation {} 0 cs = some (i, c :: after)) (hc : Text.isBlank c = false) :
    0 < i.wide := by
  have hrun : ∀ d ∈ cs.takeWhile isMargin, isMargin d = true := fun d hd =>
    List.mem_takeWhile_imp hd
  rw [← List.takeWhile_append_dropWhile (p := isMargin) (l := cs)] at h hcs
  generalize cs.takeWhile isMargin = run at h hcs hrun
  rw [indentation_append hrun] at h
  have hhead := List.head?_dropWhile_not isMargin cs
  generalize cs.dropWhile isMargin = tail at h hcs hhead
  cases tail with
  | nil => cases h
  | cons d rest =>
    by_cases hslash : d = '\\'
    · subst hslash
      have hwide : (run.foldl advance {}).wide ≠ 0 := by
        have := four_le_of_allIndented hrun (by decide) hcs
        omega
      obtain ⟨e, rest, hafter⟩ := exists_of_indentation_backslash h
      rw [eq_of_indentation hwide hafter]
      exact Nat.pos_of_ne_zero hwide
    · rw [indentation_sign hhead hslash] at h
      cases h
      have := four_le_of_allIndented hrun hc hcs
      omega

/-- What comes after a margin is no part of it. -/
theorem isMargin_of_indentation {here i : Indentation} {first : Nat} {cs after : List Char}
    {c : Char} (h : indentation here first cs = some (i, c :: after)) : isMargin c = false := by
  fun_induction indentation here first cs with
  | case1 here first rest ih => exact ih h
  | case2 here first rest ih => exact ih h
  | case3 here first rest ih => exact ih h
  | case4 here first d rest ih => exact ih h
  | case5 => cases h
  | case6 here first cs hblank htab hfeed =>
    cases h
    by_contra hmargin
    obtain rfl | rfl | rfl := isMargin_iff.1 (Bool.eq_true_of_not_eq_false hmargin)
    · exact hblank _ rfl
    · exact htab _ rfl
    · exact hfeed _ rfl

/-- The first indented line opens a block. -/
theorem layout_nil {i : Indentation} (hi : 0 < i.wide) : layout i [] = some ([.indent], [i]) :=
  if_neg hi.ne'

/-- A line with a width in front of it leaves a block open. -/
theorem ends_layout {i : Indentation} (hi : 0 < i.wide) {blocks inner : List Indentation}
    {ts : List Token} (hblocks : blocks ≠ []) (h : layout i blocks = some (ts, inner)) :
    inner ≠ [] ∧ ∀ more, Ends inner.length more → Ends blocks.length (ts ++ more) := by
  induction blocks generalizing ts with
  | nil => exact absurd rfl hblocks
  | cons top outer ih =>
    rw [layout] at h
    split at h
    · split at h
      · cases h
        exact ⟨List.cons_ne_nil _ _, fun more hmore => hmore⟩
      · cases h
    split at h
    · split at h
      · cases h
        exact ⟨List.cons_ne_nil _ _, fun more hmore => hmore⟩
      · cases h
    split at h
    · cases h
    · rename_i houter
      obtain ⟨⟨ts', inner'⟩, hlayout, hpair⟩ := Option.map_eq_some_iff.1 h
      cases hpair
      have hne : outer ≠ [] := by
        rintro rfl
        exact houter hi
      obtain ⟨hinner, hends⟩ := ih hne hlayout
      exact ⟨hinner, hends⟩

/-- What a step of scanning can do, short of the last: the tokens that it cuts, and the place
where scanning goes on. -/
inductive Step : Bool → List Char → List Indentation → List Char →
    List Token → Bool → List Char → List Indentation → List Char → Prop where
  | emptyLine {brackets cs rest i blocks} (h : indentation {} 0 cs = some (i, '\n' :: rest)) :
      Step true brackets blocks cs [] true brackets blocks rest
  | commentLine {brackets cs rest i blocks} (h : indentation {} 0 cs = some (i, '#' :: rest)) :
      Step true brackets blocks cs [] true brackets blocks ((rest.dropWhile (· ≠ '\n')).drop 1)
  | line {cs c rest i blocks front inner} (h : indentation {} 0 cs = some (i, c :: rest))
      (hc : c ≠ '\n') (hlayout : layout i blocks = some (front, inner)) :
      Step true [] blocks cs front false [] inner (c :: rest)
  | lineInside {brackets cs rest i blocks} (hbrackets : brackets ≠ [])
      (h : indentation {} 0 cs = some (i, rest)) :
      Step true brackets blocks cs [] false brackets blocks rest
  | lineEnd {brackets rest blocks} :
      Step false brackets blocks ('\n' :: rest) [.newline] true brackets blocks rest
  | lineEndInside {brackets rest blocks} :
      Step false brackets blocks ('\n' :: rest) [] true brackets blocks rest
  | skip {brackets cs rest blocks} (h : rest <:+ cs) :
      Step false brackets blocks cs [] false brackets blocks rest
  | token {brackets brackets' cs rest blocks t} (h : rest <:+ cs) (hindent : t ≠ .indent)
      (hdedent : t ≠ .dedent) : Step false brackets blocks cs [t] false brackets' blocks rest

/-- At the start of a line the scanner ends all blocks, or takes a step. -/
theorem scan_start_cases {fuel : Nat} {brackets cs : List Char} {blocks : List Indentation}
    {ts : List Token} (h : scan (fuel + 1) true brackets blocks cs = some ts) :
    (brackets = [] ∧ ts = blocks.map fun _ => .dedent) ∨
      ∃ front atStart' brackets' blocks' rest more,
        Step true brackets blocks cs front atStart' brackets' blocks' rest ∧
        scan fuel atStart' brackets' blocks' rest = some more ∧ ts = front ++ more := by
  rw [scan] at h
  obtain ⟨⟨i, rest⟩, hindentation, h⟩ := Option.bind_eq_some_iff.1 h
  dsimp only at h
  split at h
  · split at h
    · rename_i hbrackets
      cases h
      exact Or.inl ⟨List.isEmpty_iff.1 hbrackets, rfl⟩
    · cases h
  · exact Or.inr ⟨_, _, _, _, _, _, .emptyLine hindentation, h, rfl⟩
  · exact Or.inr ⟨_, _, _, _, _, _, .commentLine hindentation, h, rfl⟩
  · rename_i hnil hfeed hcomment
    split at h
    · rename_i hbrackets
      obtain rfl := List.isEmpty_iff.1 hbrackets
      obtain ⟨⟨front, inner⟩, hlayout, h⟩ := Option.bind_eq_some_iff.1 h
      obtain ⟨more, hmore, heq⟩ := Option.bind_eq_some_iff.1 h
      cases heq
      obtain ⟨c, rest, rfl⟩ := List.exists_cons_of_ne_nil hnil
      have hc : c ≠ '\n' := by
        rintro rfl
        exact hfeed rest rfl
      exact Or.inr ⟨_, _, _, _, _, _, .line hindentation hc hlayout, hmore, rfl⟩
    · rename_i hbrackets
      have hne : brackets ≠ [] := fun hnil => hbrackets (List.isEmpty_iff.2 hnil)
      exact Or.inr ⟨_, _, _, _, _, _, .lineInside hne hindentation, h, rfl⟩

/-- Inside a line the scanner takes a step. -/
theorem scan_inside_cases {fuel : Nat} {brackets cs : List Char} {blocks : List Indentation}
    {ts : List Token} (h : scan (fuel + 1) false brackets blocks cs = some ts) :
    ∃ front atStart' brackets' blocks' rest more,
      Step false brackets blocks cs front atStart' brackets' blocks' rest ∧
      scan fuel atStart' brackets' blocks' rest = some more ∧ ts = front ++ more := by
  rw [scan.eq_def] at h
  dsimp only at h
  split at h
  · cases h
  · exact ⟨_, _, _, _, _, _, .skip (List.suffix_cons _ _), h, rfl⟩
  · exact ⟨_, _, _, _, _, _, .skip (List.suffix_cons _ _), h, rfl⟩
  · exact ⟨_, _, _, _, _, _, .skip (List.suffix_cons _ _), h, rfl⟩
  · exact ⟨_, _, _, _, _, _,
      .skip ((List.dropWhile_suffix _).trans (List.suffix_cons _ _)), h, rfl⟩
  · split at h
    · obtain ⟨more, hmore, heq⟩ := Option.bind_eq_some_iff.1 h
      cases heq
      exact ⟨_, _, _, _, _, _, .lineEnd, hmore, rfl⟩
    · exact ⟨_, _, _, _, _, _, .lineEndInside, h, rfl⟩
  · exact ⟨_, _, _, _, _, _, .skip (suffix_cons_cons _ _ _), h, rfl⟩
  · cases h
  · split at h
    · obtain ⟨⟨t, rest⟩, hlexeme, h⟩ := Option.bind_eq_some_iff.1 h
      obtain ⟨more, hmore, heq⟩ := Option.bind_eq_some_iff.1 h
      cases heq
      obtain ⟨⟨hindent, hdedent⟩, hrest⟩ := lexes_lexeme? _ _ _ hlexeme
      exact ⟨_, _, _, _, _, _, .token hrest hindent hdedent, hmore, rfl⟩
    · obtain ⟨⟨s, rest⟩, hsign, h⟩ := Option.bind_eq_some_iff.1 h
      obtain ⟨brackets', -, h⟩ := Option.bind_eq_some_iff.1 h
      obtain ⟨more, hmore, heq⟩ := Option.bind_eq_some_iff.1 h
      cases heq
      have hrest := leaves_sign? _ _ _ hsign
      exact ⟨[.sign s], _, _, _, _, _, .token hrest (by rintro ⟨⟩) (by rintro ⟨⟩), hmore, rfl⟩

/-- A line does not begin with a blank that is no margin. -/
theorem scan_blank {c : Char} (hc : Text.isBlank c = true) (hmargin : isMargin c = false)
    (hfeed : c ≠ '\n') (fuel : Nat) (brackets : List Char) (blocks : List Indentation)
    (cs : List Char) : scan fuel false brackets blocks (c :: cs) = none := by
  have hother : c.isDigit = false ∧ isQuote c = false ∧ c ≠ '.' ∧ c ≠ '#' ∧ c ≠ '\\' := by
    refine forall_isBlank (P := fun c => c.isDigit = false ∧ isQuote c = false ∧ c ≠ '.' ∧
      c ≠ '#' ∧ c ≠ '\\') ?_ hc
    decide +kernel
  obtain ⟨hdigit, hquote, hpoint, hcomment, hslash⟩ := hother
  cases fuel with
  | zero => rfl
  | succ fuel =>
    rw [scan.eq_def]
    dsimp only
    split
    case h_9 heq =>
      cases heq
      rw [hdigit, hquote, decide_eq_false hpoint, Bool.false_and, Bool.or_false, Bool.or_false,
        Bool.or_false]
      split
      · rename_i hstart
        rw [lexeme?_blank hc hstart]
        rfl
      · rw [sign?_blank hc]
        rfl
    all_goals
      rename_i heq
      cases heq
    · cases hmargin
    · cases hmargin
    · cases hmargin
    · exact absurd rfl hcomment
    · exact absurd rfl hfeed
    · exact absurd rfl hslash
    · exact absurd rfl hslash

/-- The lines that scanning has before it are indented. A line that is begun is not one of
them. -/
def Ahead : Bool → List Char → Prop
  | true, cs => AllIndented cs
  | false, cs => RestIndented cs

theorem Ahead.rest {atStart : Bool} {cs : List Char} (h : Ahead atStart cs) : RestIndented cs := by
  cases atStart with
  | true => exact AllIndented.rest h
  | false => exact h

section Steps

variable {atStart atStart' : Bool} {brackets brackets' cs rest : List Char}
  {blocks blocks' : List Indentation} {front : List Token}

/-- A step leaves the lines ahead indented. -/
theorem Step.ahead (hstep : Step atStart brackets blocks cs front atStart' brackets' blocks' rest)
    (h : Ahead atStart cs) : Ahead atStart' rest := by
  have hrest := h.rest
  cases hstep with
  | emptyLine hindentation => exact (hrest.suffix (suffix_of_indentation hindentation)).next
  | commentLine hindentation =>
    have hafter := hrest.suffix (suffix_of_indentation hindentation)
    exact (hafter.suffix (List.suffix_cons _ _)).comment
  | line hindentation => exact hrest.suffix (suffix_of_indentation hindentation)
  | lineInside _ hindentation => exact hrest.suffix (suffix_of_indentation hindentation)
  | lineEnd => exact hrest.next
  | lineEndInside => exact hrest.next
  | skip hsuffix => exact hrest.suffix hsuffix
  | token hsuffix => exact hrest.suffix hsuffix

/-- A line that goes on has a width in front of it. -/
theorem width_of_line {fuel : Nat} {c : Char} {i : Indentation} {more : List Token}
    (h : AllIndented cs) (hindentation : indentation {} 0 cs = some (i, c :: rest)) (hc : c ≠ '\n')
    (hmore : scan fuel false brackets blocks (c :: rest) = some more) : 0 < i.wide := by
  cases hblank : Text.isBlank c with
  | true =>
    rw [scan_blank hblank (isMargin_of_indentation hindentation) hc] at hmore
    cases hmore
  | false => exact wide_pos h hindentation hblank

/-- A step keeps a block open. -/
theorem Step.ends (hstep : Step atStart brackets blocks cs front atStart' brackets' blocks' rest)
    (h : Ahead atStart cs) (hblocks : blocks ≠ []) {fuel : Nat} {more : List Token}
    (hmore : scan fuel atStart' brackets' blocks' rest = some more) :
    blocks' ≠ [] ∧ (Ends blocks'.length more → Ends blocks.length (front ++ more)) := by
  obtain ⟨d, hd⟩ := Nat.exists_eq_succ_of_ne_zero (mt List.length_eq_zero_iff.1 hblocks)
  cases hstep with
  | line hindentation hc hlayout =>
    obtain ⟨hinner, hends⟩ := ends_layout (width_of_line h hindentation hc hmore) hblocks hlayout
    exact ⟨hinner, hends more⟩
  | lineEnd =>
    rw [hd]
    exact ⟨hblocks, (ends_cons (t := .newline) (by rintro ⟨⟩) (by rintro ⟨⟩) d more).2⟩
  | token _ hindent hdedent =>
    rw [hd]
    exact ⟨hblocks, (ends_cons hindent hdedent d more).2⟩
  | _ => exact ⟨hblocks, id⟩

end Steps

/-- The tokens of indented lines close the last of the open blocks at their end only. -/
theorem ends_scan {fuel : Nat} {atStart : Bool} {brackets cs : List Char}
    {blocks : List Indentation} {ts : List Token} (hblocks : blocks ≠ []) (hcs : Ahead atStart cs)
    (h : scan fuel atStart brackets blocks cs = some ts) : Ends blocks.length ts := by
  induction fuel generalizing atStart brackets blocks cs ts with
  | zero => cases h
  | succ fuel ih =>
    cases atStart with
    | true =>
      obtain ⟨-, rfl⟩ | ⟨front, _, _, _, _, more, hstep, hmore, rfl⟩ := scan_start_cases h
      · rw [List.map_const']
        exact ends_replicate _
      · obtain ⟨hblocks', hends⟩ := hstep.ends hcs hblocks hmore
        exact hends (ih hblocks' (hstep.ahead hcs) hmore)
    | false =>
      obtain ⟨front, _, _, _, _, more, hstep, hmore, rfl⟩ := scan_inside_cases h
      obtain ⟨hblocks', hends⟩ := hstep.ends hcs hblocks hmore
      exact hends (ih hblocks' (hstep.ahead hcs) hmore)

/-- The tokens of indented lines are a block that is closed at their end, if there are any. -/
theorem ends_scan_lines {fuel : Nat} {cs : List Char} {ts : List Token} (hcs : AllIndented cs)
    (h : scan fuel true [] [] cs = some ts) :
    ts = [] ∨ ∃ more, ts = .indent :: more ∧ Ends 1 more := by
  induction fuel generalizing cs ts with
  | zero => cases h
  | succ fuel ih =>
    obtain ⟨-, rfl⟩ | ⟨front, _, _, _, _, more, hstep, hmore, rfl⟩ := scan_start_cases h
    · exact Or.inl rfl
    have hahead := hstep.ahead hcs
    cases hstep with
    | emptyLine => exact ih hahead hmore
    | commentLine => exact ih hahead hmore
    | line hindentation hc hlayout =>
      rw [layout_nil (width_of_line hcs hindentation hc hmore)] at hlayout
      cases hlayout
      exact Or.inr ⟨more, rfl, ends_scan (List.cons_ne_nil _ _) hahead hmore⟩
    | lineInside hbrackets => exact absurd rfl hbrackets

end Lexer

end CallFlow.Snippet
