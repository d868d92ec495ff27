import CallFlow.Proofs.Yaml.Line
import Mathlib.Data.List.TakeWhile

namespace CallFlow.Yaml

/-- The text of a name in front of the colon after it, and the name. It is as short as a reader
looks ahead for the colon, and no mark of the bounds of a document. -/
structure Names (cs : List Char) (name : String) : Prop where
  writes : ∃ v, Writes cs v ∧ name? v = some name
  length_le : cs.length ≤ 1024
  no_dashes : isMark '-' cs = false
  no_dots : isMark '.' cs = false

/-- Lines that lay out members with their names in a column. Each has a scalar beside its name, or
members below it that stand deeper. There can be blank lines and lines of comment anywhere. -/
inductive Lays : Nat → List Char → List (String × Value) → Prop where
  | nil {column : Nat} : Lays column [] []
  | idle {column : Nat} {line rest : List Char} {ms : List (String × Value)}
    (hidle : isIdle line = true) (hend : '\n' ∉ line) (h : Lays column rest ms) :
    Lays column (line ++ '\n' :: rest) ms
  | scalar {column : Nat} {word cs trail rest : List Char} {name : String} {v : Value}
    {ms : List (String × Value)} (hname : Names word name) (n : Nat) (hvalue : Writes cs v)
    (htrail : IsTrail trail) (h : Lays column rest ms) :
    Lays column (List.replicate column ' ' ++ (word ++ ':' ::
      (List.replicate (n + 1) ' ' ++ (cs ++ (trail ++ '\n' :: rest))))) ((name, v) :: ms)
  | object {column deeper : Nat} {word trail below rest : List Char} {name : String}
    {inner ms : List (String × Value)} (hname : Names word name) (htrail : IsTrail trail)
    (hdeeper : column < deeper) (hbelow : Lays deeper below inner) (hne : inner ≠ [])
    (h : Lays column rest ms) :
    Lays column (List.replicate column ' ' ++ (word ++ ':' :: (trail ++ '\n' :: (below ++ rest))))
      ((name, .object (Bindings.ofMembers inner)) :: ms)

/-- In the lines that follow, the first thing that stands there, if any, stands in front of a
column. -/
def StandsBack (column : Nat) (rest : List Char) : Prop :=
  ∀ line, (Cursor.skipFrom false rest line 0).atEnd = true ∨
    (Cursor.skipFrom false rest line 0).column < column

section Scalars

variable {indent : Int} {cs word trail rest : List Char} {v : Value} {name : String}
  {line column : Nat}

theorem Writes.newline_notMem (h : Writes cs v) : '\n' ∉ cs := by
  cases h with
  | plain h _ _ => exact h.newline_notMem
  | quoted h =>
    rw [List.mem_cons]
    rintro (heq | hmem)
    · cases heq
    · exact h.newline_notMem hmem

/-- A scalar begins with a character that is no blank and begins no comment. -/
theorem Writes.exists_cons (h : Writes cs v) :
    ∃ c cs', cs = c :: cs' ∧ c ≠ ' ' ∧ c ≠ '\n' ∧ c ≠ '#' := by
  cases h with
  | @plain cs _ hbegins _ =>
    cases cs with
    | nil => cases hbegins
    | cons c cs =>
      have hne := ne_of_beginsPlain hbegins
      exact ⟨c, cs, rfl, hne _ (by simp), hne _ (by simp), hne _ (by simp)⟩
  | quoted h => exact ⟨_, _, rfl, by decide, by decide, by decide⟩

/-- Where a scalar stands nothing is passed. -/
theorem Writes.skipFrom_eq (h : Writes cs v) (tail : List Char) (line column : Nat) :
    Cursor.skipFrom false (cs ++ tail) line column = ⟨cs ++ tail, line, column⟩ := by
  obtain ⟨c, cs, rfl, hblank, hend, hhash⟩ := h.exists_cons
  exact skipFrom_cons hblank hend hhash _ _ _

/-- No scalar is the dash of an item. -/
theorem Writes.atDash_eq_false (h : Writes cs v) (tail : List Char) (line column : Nat) :
    (Cursor.mk (cs ++ tail) line column).atDash = false := by
  unfold Cursor.atDash
  split
  · rename_i rest hdash
    cases h with
    | plain _ hbegins _ =>
      have hgo := beginsPlain_append hbegins tail
      rw [show cs ++ tail = '-' :: rest from hdash] at hgo
      exact endsHere_eq_false_of_beginsPlain hgo
    | quoted _ => cases hdash
  · rfl

/-- After a trail there is no colon. -/
theorem IsTrail.atColon_eq_false (h : IsTrail trail) (rest : List Char) (line column : Nat) :
    (Cursor.mk (trail ++ '\n' :: rest) line column).skipBlanks.atColon = false := by
  have hrest := rest_skipBlanks ⟨trail ++ '\n' :: rest, line, column⟩
  have hidle := h.idle
  unfold Cursor.atColon
  rw [hrest, List.dropWhile_append]
  split
  · rename_i after hcolon
    split at hcolon
    · cases hcolon
    · rename_i hne
      obtain ⟨c, cs, hcs⟩ := List.exists_cons_of_ne_nil (mt List.isEmpty_iff.2 hne)
      rw [isIdle, hcs] at hidle
      rw [hcs] at hcolon
      obtain ⟨rfl, -⟩ := List.cons.inj hcolon
      cases hidle
  · rfl

/-- A scalar that ends its line is a value, and what is read next stands below. -/
theorem Writes.block_eq (h : Writes cs v) (htrail : IsTrail trail)
    (hrest : ∀ line, (Cursor.skipFrom false rest line 0).atEnd = true ∨
      ((Cursor.skipFrom false rest line 0).column : Int) ≤ indent)
    (hcolumn : indent ≤ column) (afterColon : Bool) (n line : Nat) :
    block indent afterColon (n + 1) ⟨cs ++ (trail ++ '\n' :: rest), line, column⟩ =
      some (v, Cursor.skipFrom false rest (line + 1) 0) := by
  have hleaf := h.leaf_eq (Closes.line htrail hrest) hcolumn line
  have hnext : nextLine ⟨trail ++ '\n' :: rest, line, column + cs.length⟩ =
      some (Cursor.skipFrom false rest (line + 1) 0) := by
    have hline := le_line_skipFrom false rest (line + 1) 0
    have hlt : line < (Cursor.skipFrom false rest (line + 1) 0).line := hline
    simp only [nextLine, Cursor.skip, skipFrom_idle htrail.idle htrail.newline_notMem, hlt,
      decide_true, Bool.or_true, if_true]
  rw [block, h.atDash_eq_false, if_neg Bool.false_ne_true, hleaf]
  simp only [Option.bind_eq_bind, Option.bind_some, htrail.atColon_eq_false, Bool.false_eq_true,
    if_false, hnext]

theorem skipBlanks_colon (rest : List Char) (line column : Nat) :
    (Cursor.mk (':' :: rest) line column).skipBlanks = ⟨':' :: rest, line, column⟩ := rfl

theorem atColon_colon (hrest : endsHere rest = true) (line column : Nat) :
    (Cursor.mk (':' :: rest) line column).atColon = true := hrest

/-- A name is read up to the place after its colon. -/
theorem Names.memberName_eq (h : Names word name) (hrest : endsHere rest = true)
    (line column : Nat) : memberName column ⟨word ++ ':' :: rest, line, column⟩ =
      some (name, ⟨rest, line, column + word.length + 1⟩) := by
  obtain ⟨v, hwrites, hname⟩ := h.writes
  have hleaf : leaf column ⟨word ++ ':' :: rest, line, column⟩ =
      some (v, ⟨':' :: rest, line, column + word.length⟩) :=
    hwrites.leaf_eq (Closes.colon hrest) (Int.le_refl _) line
  have hnext : (Cursor.mk (':' :: rest) line (column + word.length)).next =
      ⟨rest, line, column + word.length + 1⟩ := next_of_ne (by decide) _ _ _
  rw [memberName, hleaf]
  simp only [Option.bind_eq_bind, Option.bind_some, skipBlanks_colon, atColon_colon hrest,
    decide_true, Bool.and_self, if_true, hname, hnext]

/-- Where a name stands with a colon after it, members are read. -/
theorem Names.block_eq (h : Names word name) (hrest : endsHere rest = true)
    (hcolumn : indent ≤ column) (n line : Nat) :
    block indent false (n + 1) ⟨word ++ ':' :: rest, line, column⟩ =
      (blockMembers column n ⟨word ++ ':' :: rest, line, column⟩).map fun r =>
        (.object (Bindings.ofMembers r.1), r.2) := by
  obtain ⟨v, hwrites, -⟩ := h.writes
  have hleaf := hwrites.leaf_eq (Closes.colon hrest) hcolumn line
  rw [block, hwrites.atDash_eq_false, if_neg Bool.false_ne_true, hleaf]
  simp only [Option.bind_eq_bind, Option.bind_some, skipBlanks_colon, atColon_colon hrest,
    Bool.false_eq_true, if_true, if_false]
  cases blockMembers column n ⟨word ++ ':' :: rest, line, column⟩ <;> rfl

/-- Where a line begins with a name, that is what is read next. -/
theorem Names.skipFrom_eq (h : Names word name) (column : Nat) (tail : List Char) (line : Nat) :
    Cursor.skipFrom false (List.replicate column ' ' ++ (word ++ tail)) line 0 =
      ⟨word ++ tail, line, column⟩ := by
  obtain ⟨v, hwrites, -⟩ := h.writes
  rw [skipFrom_replicate, hwrites.skipFrom_eq, Nat.zero_add]

theorem Names.atEnd_eq_false (h : Names word name) (tail : List Char) (line column : Nat) :
    (Cursor.mk (word ++ tail) line column).atEnd = false := by
  obtain ⟨v, hwrites, -⟩ := h.writes
  obtain ⟨c, cs, rfl, -⟩ := hwrites.exists_cons
  rfl

theorem Names.atDash_eq_false (h : Names word name) (tail : List Char) (line column : Nat) :
    (Cursor.mk (word ++ tail) line column).atDash = false := by
  obtain ⟨v, hwrites, -⟩ := h.writes
  exact hwrites.atDash_eq_false _ _ _

/-- A line can end after a colon. -/
theorem IsTrail.endsHere_eq_true (h : IsTrail trail) (rest : List Char) :
    endsHere (trail ++ '\n' :: rest) = true := by
  obtain rfl | ⟨cs, rfl⟩ := h.cases <;> rfl

end Scalars

section Layouts

variable {column deeper n line : Nat} {text rest : List Char} {ms : List (String × Value)}

/-- What is read next after the blank lines in front of members: the first of their names, or what
stands below where there are none. -/
theorem Lays.skipFrom_cases (h : Lays column text ms) (rest : List Char) (line : Nat) :
    (ms = [] ∧ ∃ below, Cursor.skipFrom false (text ++ rest) line 0 =
      Cursor.skipFrom false rest below 0) ∨
    (ms ≠ [] ∧ ∃ word name tail below, Names word name ∧ endsHere tail = true ∧ line ≤ below ∧
      Cursor.skipFrom false (text ++ rest) line 0 = ⟨word ++ ':' :: tail, below, column⟩) := by
  induction h generalizing line with
  | nil => exact Or.inl ⟨rfl, line, rfl⟩
  | idle hidle hend _ ih =>
    rw [List.append_assoc, List.cons_append, skipFrom_idle hidle hend]
    refine (ih (line + 1)).imp_right (And.imp_right ?_)
    rintro ⟨word, name, tail, below, hname, htail, hle, hskip⟩
    exact ⟨word, name, tail, below, hname, htail, Nat.le_of_succ_le hle, hskip⟩
  | @scalar column word cs trail text name v ms hname n _ _ _ _ =>
    have htail : endsHere
        (List.replicate (n + 1) ' ' ++ (cs ++ (trail ++ '\n' :: (text ++ rest)))) = true := rfl
    refine Or.inr ⟨nofun, _, _, _, line, hname, htail, Nat.le_refl _, ?_⟩
    simp only [List.append_assoc, List.cons_append]
    exact hname.skipFrom_eq _ _ _
  | @object column deeper word trail lower text name inner ms hname htrail _ _ _ _ _ _ =>
    have htail := htrail.endsHere_eq_true (lower ++ (text ++ rest))
    refine Or.inr ⟨nofun, _, _, _, line, hname, htail, Nat.le_refl _, ?_⟩
    simp only [List.append_assoc, List.cons_append]
    exact hname.skipFrom_eq _ _ _

/-- Members stand in front of any deeper column. -/
theorem Lays.standsBack (h : Lays column text ms) (hrest : StandsBack column rest)
    (hdeeper : column < deeper) : StandsBack deeper (text ++ rest) := by
  intro line
  obtain ⟨-, below, hskip⟩ | ⟨-, word, name, tail, below, -, -, -, hskip⟩ :=
    h.skipFrom_cases rest line
  · rw [hskip]
    exact (hrest below).imp_right fun hlt => Nat.lt_trans hlt hdeeper
  · rw [hskip]
    exact Or.inr hdeeper

/-- The value of a member that begins after its colon, and the place of what is read next. -/
def memberValue (column n line : Nat) (start : Cursor) : Option (Value × Cursor) :=
  if start.atEnd then some (.null, start)
  else if start.line = line then block column true n start
  else if column < start.column then block column false n start
  else if start.column = column && start.atDash then
    (blockItems column n start).map fun (vs, last) => (.list vs, last)
  else some (.null, start)

/-- A member is read by its name and its value, and then the others, if one stands below it. -/
theorem blockMembers_succ {c colon last : Cursor} {name : String} {v : Value}
    (hname : memberName column c = some (name, colon))
    (hvalue : memberValue column n c.line colon.skip = some (v, last)) :
    blockMembers column (n + 1) c =
      if last.atEnd || last.column < column then some ([(name, v)], last)
      else if last.column ≠ column || last.atDash then none
      else (blockMembers column n last).map fun r => ((name, v) :: r.1, r.2) := by
  rw [blockMembers, hname]
  simp only [Option.bind_eq_bind, Option.bind_some]
  rw [memberValue] at hvalue
  split_ifs at hvalue with hend hline hdeep hdash
  · cases hvalue
    rw [if_pos hend]
  · rw [if_neg hend, if_pos hline, hvalue]
    rfl
  · rw [if_neg hend, if_neg hline, if_pos hdeep, hvalue]
    rfl
  · rw [if_neg hend, if_neg hline, if_neg hdeep, if_pos hdash, hvalue]
    rfl
  · cases hvalue
    rw [if_neg hend, if_neg hline, if_neg hdeep, if_neg hdash]

/-- Members that follow after one are read where it ends. -/
theorem Lays.blockMembers_after {c colon : Cursor} {name : String} {v : Value}
    (h : Lays column text ms) (hrest : StandsBack column rest)
    (hname : memberName column c = some (name, colon))
    (hvalue : memberValue column n c.line colon.skip =
      some (v, Cursor.skipFrom false (text ++ rest) line 0))
    (ih : ms ≠ [] → ∃ below, blockMembers column n (Cursor.skipFrom false (text ++ rest) line 0) =
      some (ms, Cursor.skipFrom false rest below 0)) :
    ∃ below, blockMembers column (n + 1) c =
      some ((name, v) :: ms, Cursor.skipFrom false rest below 0) := by
  rw [blockMembers_succ hname hvalue]
  obtain ⟨rfl, below, hskip⟩ | ⟨hne, word, name, tail, line, hname, -, -, hskip⟩ :=
    h.skipFrom_cases rest line
  · refine ⟨below, ?_⟩
    rw [hskip]
    refine if_pos ?_
    simpa only [Bool.or_eq_true, decide_eq_true_eq] using hrest below
  · obtain ⟨below, hread⟩ := ih hne
    refine ⟨below, ?_⟩
    rw [hread, hskip]
    simp only [hname.atEnd_eq_false, hname.atDash_eq_false, Nat.lt_irrefl, ne_eq,
      not_true_eq_false, decide_false, Bool.or_self, Bool.false_eq_true, if_false, Option.map_some]

/-- A scalar beside a name is the value of the member. -/
theorem Writes.memberValue_eq {cs trail : List Char} {v : Value} (h : Writes cs v)
    (htrail : IsTrail trail) (hrest : StandsBack (column + 1) rest) {start : Nat}
    (hstart : column ≤ start) (k n line : Nat) :
    memberValue column (n + 1) line
        (Cursor.mk (List.replicate k ' ' ++ (cs ++ (trail ++ '\n' :: rest))) line start).skip =
      some (v, Cursor.skipFrom false rest (line + 1) 0) := by
  have hback : ∀ line, (Cursor.skipFrom false rest line 0).atEnd = true ∨
      ((Cursor.skipFrom false rest line 0).column : Int) ≤ column :=
    fun line => (hrest line).imp_right fun hlt => by omega
  have hend : (Cursor.mk (cs ++ (trail ++ '\n' :: rest)) line (start + k)).atEnd = false := by
    obtain ⟨c, cs, rfl, -⟩ := h.exists_cons
    rfl
  have hcolumn : (column : Int) ≤ (start + k : Nat) := by omega
  rw [Cursor.skip, skipFrom_replicate, h.skipFrom_eq, memberValue, hend,
    if_neg Bool.false_ne_true, if_pos rfl, h.block_eq htrail hback hcolumn]

/-- Members below a name are the value of the member, if they are read. -/
theorem Lays.memberValue_eq {trail : List Char} (h : Lays deeper text ms)
    (hne : ms ≠ []) (htrail : IsTrail trail) (hdeeper : column < deeper) {last : Cursor}
    {line start : Nat}
    (hread : blockMembers deeper n (Cursor.skipFrom false (text ++ rest) (line + 1) 0) =
      some (ms, last)) :
    memberValue column (n + 1) line
        (Cursor.mk (trail ++ '\n' :: (text ++ rest)) line start).skip =
      some (.object (Bindings.ofMembers ms), last) := by
  rw [Cursor.skip, skipFrom_idle htrail.idle htrail.newline_notMem]
  obtain ⟨rfl, -⟩ | ⟨-, word, name, tail, below, hname, htail, hbelow, hskip⟩ :=
    h.skipFrom_cases rest (line + 1)
  · exact absurd rfl hne
  · have hline : below ≠ line := by omega
    have hcolumn : (column : Int) ≤ deeper := by omega
    rw [hskip] at hread ⊢
    rw [memberValue, hname.atEnd_eq_false, if_neg Bool.false_ne_true, if_neg hline,
      if_pos hdeeper, hname.block_eq htail hcolumn, hread]
    rfl

/-- Members that are laid out are read as they are, up to what stands in front of their column. -/
theorem Lays.blockMembers_eq (h : Lays column text ms) (hne : ms ≠ []) {rest : List Char}
    (hrest : StandsBack column rest) {n line : Nat}
    (hn : (Cursor.skipFrom false (text ++ rest) line 0).rest.length ≤ n) :
    ∃ below, blockMembers column n (Cursor.skipFrom false (text ++ rest) line 0) =
      some (ms, Cursor.skipFrom false rest below 0) := by
  induction h generalizing rest n line with
  | nil => exact absurd rfl hne
  | @idle column front text ms hidle hend _ ih =>
    rw [List.append_assoc, List.cons_append, skipFrom_idle hidle hend] at hn ⊢
    exact ih hne hrest hn
  | @scalar column word cs trail text name v ms hname k hvalue htrail h ih =>
    have hback := h.standsBack hrest (Nat.lt_succ_self column)
    simp only [List.append_assoc, List.cons_append, hname.skipFrom_eq] at hn ⊢
    have hlength := length_rest_skipFrom_le false (text ++ rest) (line + 1) 0
    simp only [List.length_append, List.length_cons] at hn hlength
    obtain ⟨n, rfl⟩ : ∃ m, n = m + 2 := ⟨n - 2, by omega⟩
    refine h.blockMembers_after hrest (hname.memberName_eq rfl line column)
      (hvalue.memberValue_eq htrail hback (by omega) (k + 1) n line) fun hne => ?_
    exact ih hne hrest (by omega)
  | @object column deeper word trail lower text name inner ms hname htrail hdeeper hbelow hinner h
      ihbelow ih =>
    have hback := h.standsBack hrest hdeeper
    simp only [List.append_assoc, List.cons_append, hname.skipFrom_eq] at hn ⊢
    have hlower := length_rest_skipFrom_le false (lower ++ (text ++ rest)) (line + 1) 0
    simp only [List.length_append, List.length_cons] at hn hlower
    obtain ⟨n, rfl⟩ : ∃ m, n = m + 2 := ⟨n - 2, by omega⟩
    have hfuel :
        (Cursor.skipFrom false (lower ++ (text ++ rest)) (line + 1) 0).rest.length ≤ n := by
      omega
    obtain ⟨below, hread⟩ := ihbelow hinner hback hfuel
    refine h.blockMembers_after hrest
      (hname.memberName_eq (htrail.endsHere_eq_true _) line column)
      (hbelow.memberValue_eq hinner htrail hdeeper hread) fun hne => ?_
    have hlength := length_rest_skipFrom_le false (text ++ rest) below 0
    rw [List.length_append] at hlength
    exact ih hne hrest (by omega)

end Layouts

/-- A character that may stand in a text and is neither a line end, other than the line feed, nor a
mark of the order of bytes. -/
def IsOrdinary (c : Char) : Prop :=
  isAllowed c = true ∧ c ∉ ['\u0085', '\u2028', '\u2029', '\ufeff']

section Documents

variable {column : Nat} {word tail text : List Char} {name : String} {mark : Char}
  {lines : List (List Char)} {ms : List (String × Value)}

theorem plainLineEnds_eq_self (h : ∀ c ∈ text, IsOrdinary c) : plainLineEnds text = text := by
  induction text with
  | nil => rfl
  | cons c text ih =>
    obtain ⟨⟨hallowed, hother⟩, htext⟩ := List.forall_mem_cons.1 h
    have hreturn : c ≠ '\r' := by
      rintro rfl
      cases hallowed
    have hnext : c ≠ '\u0085' := fun heq => hother (heq ▸ List.mem_cons_self)
    rw [plainLineEnds, ih htext]
    · simp only [hreturn, hnext, decide_false, Bool.or_self, Bool.false_eq_true, if_false]
    · exact fun _ heq _ => hreturn heq

/-- A line with a name is no mark if the name is none. -/
theorem isMark_name_eq_false (hblank : mark ≠ ' ') (hcolon : mark ≠ ':')
    (hword : isMark mark word = false) (column : Nat) (tail : List Char) :
    isMark mark (List.replicate column ' ' ++ (word ++ ':' :: tail)) = false := by
  cases column with
  | succ column => simp [isMark, List.replicate_succ, hblank.symm]
  | zero =>
    match word with
    | [] => simp [isMark, hcolon.symm]
    | [a] => simp [isMark, hcolon.symm]
    | [a, b] => simp [isMark, hcolon.symm]
    | [a, b, c] => simp [isMark, endsHere]
    | a :: b :: c :: d :: word => exact hword

theorem isIdle_name_eq_false (h : Names word name) (column : Nat) (tail : List Char) :
    isIdle (List.replicate column ' ' ++ (word ++ tail)) = false := by
  obtain ⟨v, hwrites, -⟩ := h.writes
  obtain ⟨c, cs, rfl, hblank, -, hhash⟩ := hwrites.exists_cons
  rw [isIdle, List.dropWhile_append_of_pos (by simp)]
  simp [hblank, hhash]

theorem isMark_eq_false_of_isIdle {line : List Char} (hblank : mark ≠ ' ') (hhash : mark ≠ '#')
    (h : isIdle line = true) : isMark mark line = false := by
  cases line with
  | nil => rfl
  | cons c line =>
    by_cases hc : c = ' '
    · simp [isMark, hc, hblank.symm]
    · have hfirst : c = '#' := by simpa [isIdle, hc] using h
      simp [isMark, hfirst, hhash.symm]

/-- Lines without a mark among them are a document, if there is anything on them. -/
theorem document?_eq_some
    (hmark : ∀ line ∈ lines, isMark '-' line = false ∧ isMark '.' line = false)
    (hbusy : ∃ line ∈ lines, isIdle line = false) : document? lines = some lines := by
  have hopen : lines.dropWhile (fun line => !(isMark '-' line || isMark '.' line)) = [] :=
    List.dropWhile_eq_nil_iff.2 fun line hline => by
      rw [(hmark line hline).1, (hmark line hline).2]
      rfl
  cases hdrop : lines.dropWhile isIdle with
  | nil =>
    obtain ⟨line, hline, hidle⟩ := hbusy
    rw [List.dropWhile_eq_nil_iff.1 hdrop line hline] at hidle
    cases hidle
  | cons line rest =>
    have hline : line ∈ lines :=
      (List.dropWhile_sublist _).subset (hdrop ▸ List.mem_cons_self)
    simp only [document?, hdrop, (hmark line hline).1, Bool.false_eq_true, if_false, hopen]

/-- A line that ends in front of others is the first of the lines. -/
theorem splitOn_line {line : List Char} (h : '\n' ∉ line) (rest : List Char) :
    (line ++ '\n' :: rest).splitOn '\n' = line :: rest.splitOn '\n' :=
  List.splitOn_append_cons_self_of_not_mem h rest

theorem newline_notMem_name (h : Names word name) (htail : '\n' ∉ tail) (column : Nat) :
    '\n' ∉ List.replicate column ' ' ++ (word ++ ':' :: tail) := by
  obtain ⟨v, hwrites, -⟩ := h.writes
  simp only [List.mem_append, List.mem_cons, List.mem_replicate]
  rintro (⟨-, heq⟩ | hmem | heq | hmem)
  · cases heq
  · exact hwrites.newline_notMem hmem
  · cases heq
  · exact htail hmem

/-- What is true of idle lines and of lines with a name is true of all the lines of members, if it
is of those that follow. -/
theorem Lays.forall_lines {p : List Char → Prop} (hidle : ∀ line, isIdle line = true → p line)
    (hname : ∀ word name column tail, Names word name →
      p (List.replicate column ' ' ++ (word ++ ':' :: tail)))
    (h : Lays column text ms) {rest : List Char} (hrest : ∀ line ∈ rest.splitOn '\n', p line) :
    ∀ line ∈ (text ++ rest).splitOn '\n', p line := by
  induction h generalizing rest with
  | nil => exact hrest
  | idle hline hend _ ih =>
    rw [List.append_assoc, List.cons_append, splitOn_line hend, List.forall_mem_cons]
    exact ⟨hidle _ hline, ih hrest⟩
  | @scalar column word cs trail text name v ms hword n hvalue htrail _ ih =>
    have htail : '\n' ∉ List.replicate (n + 1) ' ' ++ (cs ++ trail) := by
      simp [hvalue.newline_notMem, htrail.newline_notMem]
    have hline := splitOn_line (newline_notMem_name hword htail column) (text ++ rest)
    simp only [List.append_assoc, List.cons_append] at hline ⊢
    rw [hline, List.forall_mem_cons]
    exact ⟨hname _ _ _ _ hword, ih hrest⟩
  | @object column deeper word trail lower text name inner ms hword htrail _ _ _ _ ihlower ih =>
    have hline := splitOn_line (newline_notMem_name hword htrail.newline_notMem column)
      (lower ++ (text ++ rest))
    simp only [List.append_assoc, List.cons_append] at hline ⊢
    rw [hline, List.forall_mem_cons]
    exact ⟨hname _ _ _ _ hword, ihlower (ih hrest)⟩

/-- No line of members is a mark of the bounds of a document. -/
theorem Lays.unmarked (h : Lays column text ms) :
    ∀ line ∈ text.splitOn '\n', isMark '-' line = false ∧ isMark '.' line = false := by
  have hlines : ∀ line ∈ (text ++ []).splitOn '\n',
      isMark '-' line = false ∧ isMark '.' line = false := by
    refine h.forall_lines (fun line hline => ?_) (fun word name column tail hword => ?_) ?_
    · exact ⟨isMark_eq_false_of_isIdle (by decide) (by decide) hline,
        isMark_eq_false_of_isIdle (by decide) (by decide) hline⟩
    · exact ⟨isMark_name_eq_false (by decide) (by decide) hword.no_dashes column tail,
        isMark_name_eq_false (by decide) (by decide) hword.no_dots column tail⟩
    · simp [isMark]
  rwa [List.append_nil] at hlines

/-- Where there is a member there is a line that is not idle. -/
theorem Lays.exists_busy (h : Lays column text ms) (hne : ms ≠ []) :
    ∃ line ∈ text.splitOn '\n', isIdle line = false := by
  induction h with
  | nil => exact absurd rfl hne
  | idle _ hend _ ih =>
    obtain ⟨line, hline, hbusy⟩ := ih hne
    rw [splitOn_line hend]
    exact ⟨line, List.mem_cons_of_mem _ hline, hbusy⟩
  | @scalar column word cs trail text name v ms hword n hvalue htrail _ _ =>
    have htail : '\n' ∉ List.replicate (n + 1) ' ' ++ (cs ++ trail) := by
      simp [hvalue.newline_notMem, htrail.newline_notMem]
    have hline := splitOn_line (newline_notMem_name hword htail column) text
    simp only [List.append_assoc, List.cons_append] at hline ⊢
    rw [hline]
    exact ⟨_, List.mem_cons_self, isIdle_name_eq_false hword _ _⟩
  | @object column deeper word trail lower text name inner ms hword htrail _ _ _ _ _ _ =>
    have hline := splitOn_line (newline_notMem_name hword htrail.newline_notMem column)
      (lower ++ text)
    simp only [List.append_assoc, List.cons_append] at hline ⊢
    rw [hline]
    exact ⟨_, List.mem_cons_self, isIdle_name_eq_false hword _ _⟩

/-- A text in which members are laid out, line by line, is read as these members. -/
theorem read_of_lays (h : Lays column text ms) (hne : ms ≠ []) (htext : ∀ c ∈ text, IsOrdinary c) :
    read (String.ofList text) = some (.object (Bindings.ofMembers ms)) := by
  have hmark : text.head? ≠ some '\ufeff' := fun hhead => by
    have hother := (htext _ (List.mem_of_mem_head? hhead)).2
    exact hother (by simp)
  have hallowed : text.all isAllowed = true := List.all_eq_true.2 fun c hc => (htext c hc).1
  have hdocument := document?_eq_some h.unmarked (h.exists_busy hne)
  have hback : StandsBack column [] := fun _ => Or.inl rfl
  have hskip := h.skipFrom_cases [] 0
  have hfuel := Nat.le_refl (Cursor.skipFrom false (text ++ []) 0 0).rest.length
  have hread := h.blockMembers_eq hne hback hfuel
  rw [List.append_nil] at hskip hread
  simp only [read, String.toList_ofList, plainLineEnds_eq_self htext, if_neg hmark, hallowed,
    if_true, hdocument, List.intercalate_splitOn, Cursor.skip, Option.bind_eq_bind,
    Option.bind_some]
  obtain ⟨rfl, -⟩ | ⟨-, word, name, tail, below, hname, htail, -, hstart⟩ := hskip
  · exact absurd rfl hne
  · obtain ⟨last, hread⟩ := hread
    rw [hstart] at hread ⊢
    have hcolumn : (-1 : Int) ≤ column := by omega
    rw [hname.atEnd_eq_false, if_neg Bool.false_ne_true, hname.block_eq htail hcolumn, hread]
    rfl

end Documents

end CallFlow.Yaml
