import CallFlow.Proofs.Template.Filled
import Mathlib.Data.List.Basic
import Mathlib.Logic.ExistsUnique

namespace CallFlow.Template

/-- A placeholder stands at a position of a text. -/
def OccursAt (i : Nat) (name cs : List Char) : Prop :=
  IsName name ∧ ∃ front back, front.length = i ∧ cs = front ++ placed name back

theorem placed_append (name rest cs : List Char) :
    placed name rest ++ cs = placed name (rest ++ cs) := by
  simp [placed]

theorem length_placed (name rest : List Char) :
    (placed name rest).length = name.length + 4 + rest.length := by
  simp [placed]
  omega

/-- A name occurs in front exactly if a placeholder of it stands there. -/
theorem occursAt_zero_iff {name cs : List Char} :
    OccursAt 0 name cs ↔ ∃ rest, placeholder? cs = some (name, rest) := by
  simp only [placeholder?_eq_some_iff, OccursAt]
  constructor
  · rintro ⟨hname, front, back, hfront, rfl⟩
    obtain rfl := List.length_eq_zero_iff.1 hfront
    exact ⟨back, hname, rfl⟩
  · rintro ⟨rest, hname, rfl⟩
    exact ⟨hname, [], rest, rfl, rfl⟩

/-- A name occurs further on if it does after the first character. -/
theorem occursAt_succ_iff {i : Nat} {name : List Char} {c : Char} {cs : List Char} :
    OccursAt (i + 1) name (c :: cs) ↔ OccursAt i name cs := by
  refine and_congr_right fun _ => ⟨?_, ?_⟩
  · rintro ⟨front, back, hfront, heq⟩
    obtain ⟨d, front, rfl⟩ := List.exists_cons_of_length_eq_add_one hfront
    exact ⟨front, back, Nat.succ.inj hfront, (List.cons.inj heq).2⟩
  · rintro ⟨front, back, rfl, rfl⟩
    exact ⟨c :: front, back, rfl, rfl⟩

theorem not_occursAt_nil {i : Nat} {name : List Char} : ¬OccursAt i name [] := by
  rintro ⟨-, front, back, -, heq⟩
  simp [placed] at heq

/-- No placeholder begins in characters that are no opening braces. -/
theorem occursAt_append_iff {name word cs : List Char} (hword : '{' ∉ word) {i : Nat} :
    OccursAt i name (word ++ cs) ↔ ∃ j, i = word.length + j ∧ OccursAt j name cs := by
  induction word generalizing i with
  | nil => simp
  | cons c word ih =>
    obtain ⟨hc, hword⟩ := List.ne_and_not_mem_of_not_mem_cons hword
    cases i with
    | zero =>
      have hnone : placeholder? (c :: (word ++ cs)) = none := by
        unfold placeholder?
        split
        · rename_i heq
          exact absurd (List.cons.inj heq).1.symm hc
        · rfl
      rw [List.cons_append, occursAt_zero_iff, hnone, List.length_cons]
      refine iff_of_false (by simp) ?_
      rintro ⟨j, hj, -⟩
      omega
    | succ i =>
      rw [List.cons_append, occursAt_succ_iff, ih hword, List.length_cons]
      refine exists_congr fun j => and_congr_left' ?_
      omega

/-- Beside the placeholder in front, a text has the placeholders of what follows it. -/
theorem occursAt_placed_iff {name other : List Char} (h : IsName other) (rest : List Char)
    {i : Nat} :
    OccursAt i name (placed other rest) ↔
      i = 0 ∧ name = other ∨ ∃ j, i = other.length + 4 + j ∧ OccursAt j name rest := by
  match i with
  | 0 =>
    have hbehind : ¬∃ j, 0 = other.length + 4 + j ∧ OccursAt j name rest := by
      rintro ⟨j, hj, -⟩
      omega
    rw [occursAt_zero_iff, placeholder?_placed h]
    simp [hbehind, eq_comm]
  | 1 =>
    have hnone : placeholder? ('{' :: (other ++ '}' :: '}' :: rest)) = none := by
      obtain ⟨c, word, rfl⟩ := List.exists_cons_of_ne_nil h.1
      have hc : c ≠ '{' := by
        rintro rfl
        exact absurd (h.2 '{' List.mem_cons_self) (by decide)
      simp [placeholder?, hc]
    rw [placed, occursAt_succ_iff, occursAt_zero_iff, hnone]
    refine iff_of_false (by simp) ?_
    rintro (⟨hi, -⟩ | ⟨j, hj, -⟩) <;> omega
  | i + 2 =>
    have hbrace : '{' ∉ other ++ ['}', '}'] := by
      have hother : '{' ∉ other := fun hmem => absurd (h.2 _ hmem) (by decide)
      simp [hother]
    have hinside : placed other rest = '{' :: '{' :: ((other ++ ['}', '}']) ++ rest) := by
      simp [placed]
    rw [hinside, occursAt_succ_iff, occursAt_succ_iff, occursAt_append_iff hbrace]
    have hlength : (other ++ ['}', '}']).length + 2 = other.length + 4 := by simp
    refine ⟨?_, ?_⟩
    · rintro ⟨j, hj, hoccurs⟩
      exact Or.inr ⟨j, by omega, hoccurs⟩
    · rintro (⟨hi, -⟩ | ⟨j, hj, hoccurs⟩)
      · omega
      · exact ⟨j, by omega, hoccurs⟩

/-- A text cut at placeholders: literal characters with a placeholder after them, and so on, up to
the literal characters after the last placeholder. -/
inductive Cut where
  | last (literal : List Char)
  | part (literal name : List Char) (after : Cut)

namespace Cut

/-- The text that is cut. -/
def text : Cut → List Char
  | last literal => literal
  | part literal name after => literal ++ placed name after.text

/-- The positions of the placeholders, with their names. -/
def spots : Cut → List (Nat × List Char)
  | last _ => []
  | part literal name after =>
    (literal.length, name) ::
      after.spots.map fun spot => (literal.length + name.length + 4 + spot.1, spot.2)

/-- The names of the placeholders. -/
def names : Cut → List String
  | last _ => []
  | part _ name after => String.ofList name :: after.names

/-- The literals as they stand, with the values bound to the names between them. None when one of
these values can not be shown. -/
def render (scope : Bindings) : Cut → Option String
  | last literal => some (String.ofList literal)
  | part literal name after => do
    let value ← (scope.getD (String.ofList name)).display
    let rest ← after.render scope
    return String.ofList literal ++ value ++ rest

/-- The text is cut at all placeholders that stand anywhere in it, and nowhere else. -/
def IsCutOf (d : Cut) (cs : List Char) : Prop :=
  d.text = cs ∧ ∀ i name, OccursAt i name cs ↔ (i, name) ∈ d.spots

/-- The cut with one more character in front of its first literal. -/
def push (c : Char) : Cut → Cut
  | last literal => last (c :: literal)
  | part literal name after => part (c :: literal) name after

variable {c : Char} {cs name rest : List Char} {d : Cut}

@[simp] theorem text_push : (d.push c).text = c :: d.text := by cases d <;> rfl

@[simp] theorem names_push : (d.push c).names = d.names := by cases d <;> rfl

/-- One more literal character is rendered as it is. -/
theorem render_push (scope : Bindings) :
    (d.push c).render scope = (d.render scope).map (String.ofList [c] ++ ·) := by
  cases d with
  | last literal => simp [push, render]
  | part literal name after =>
    cases hvalue : (scope.getD (String.ofList name)).display <;>
      cases hrest : after.render scope <;>
      simp [push, render, hvalue, hrest, ← String.toList_inj]

/-- The spots of a cut are that of its first part and those after it, further on. -/
theorem mem_spots_part_iff {literal name other : List Char} {after : Cut} {i : Nat} :
    (i, other) ∈ (part literal name after).spots ↔
      i = literal.length ∧ other = name ∨
        ∃ j, i = literal.length + name.length + 4 + j ∧ (j, other) ∈ after.spots := by
  simp only [spots, List.mem_cons, Prod.mk.injEq, List.mem_map, Prod.exists]
  refine or_congr_right ⟨?_, ?_⟩
  · rintro ⟨j, found, hmem, rfl, rfl⟩
    exact ⟨j, rfl, hmem⟩
  · rintro ⟨j, rfl, hmem⟩
    exact ⟨j, other, hmem, rfl, rfl⟩

/-- One more literal character moves every spot. -/
theorem mem_spots_push_iff {i : Nat} :
    (i, name) ∈ (d.push c).spots ↔ ∃ j, i = j + 1 ∧ (j, name) ∈ d.spots := by
  cases d with
  | last literal => simp [push, spots]
  | part literal other after =>
    simp only [push, mem_spots_part_iff, List.length_cons]
    constructor
    · rintro (⟨rfl, rfl⟩ | ⟨j, rfl, hmem⟩)
      · exact ⟨_, rfl, Or.inl ⟨rfl, rfl⟩⟩
      · exact ⟨literal.length + other.length + 4 + j, by omega, Or.inr ⟨j, rfl, hmem⟩⟩
    · rintro ⟨j, rfl, ⟨rfl, rfl⟩ | ⟨k, rfl, hmem⟩⟩
      · exact Or.inl ⟨rfl, rfl⟩
      · exact Or.inr ⟨k, by omega, hmem⟩

theorem isCutOf_last_nil : (last []).IsCutOf [] :=
  ⟨rfl, fun _ _ => iff_of_false not_occursAt_nil (List.not_mem_nil)⟩

/-- A literal character may be cut off where no placeholder stands. -/
theorem isCutOf_push_iff (h : placeholder? (c :: cs) = none) :
    (d.push c).IsCutOf (c :: cs) ↔ d.IsCutOf cs := by
  refine and_congr ?_ ⟨fun hspots i name => ?_, fun hspots i name => ?_⟩
  · rw [text_push, List.cons_inj_right]
  · rw [← occursAt_succ_iff, hspots, mem_spots_push_iff]
    simp
  · rw [mem_spots_push_iff]
    cases i with
    | zero => simp [occursAt_zero_iff, h]
    | succ i =>
      rw [occursAt_succ_iff, hspots]
      simp

/-- A placeholder may be cut off where it stands. -/
theorem isCutOf_part_iff (h : IsName name) :
    (part [] name d).IsCutOf (placed name rest) ↔ d.IsCutOf rest := by
  refine and_congr ?_ ⟨fun hspots i other => ?_, fun hspots i other => ?_⟩
  · simp [text, placed]
  · have hbehind := hspots (name.length + 4 + i) other
    rw [occursAt_placed_iff h, mem_spots_part_iff] at hbehind
    simpa using hbehind
  · simp only [occursAt_placed_iff h, mem_spots_part_iff, hspots, List.length_nil, Nat.zero_add]

/-- A text that begins with no placeholder is cut further on. -/
theorem IsCutOf.exists_push (hd : d.IsCutOf (c :: cs)) (h : placeholder? (c :: cs) = none) :
    ∃ d', d = push c d' := by
  obtain ⟨htext, hspots⟩ := hd
  cases d with
  | last literal =>
    obtain rfl : literal = c :: cs := htext
    exact ⟨last cs, rfl⟩
  | part literal name after =>
    cases literal with
    | nil =>
      have hfront := (hspots 0 name).2 (mem_spots_part_iff.2 (Or.inl ⟨rfl, rfl⟩))
      rw [occursAt_zero_iff, h] at hfront
      simp at hfront
    | cons x literal =>
      obtain ⟨rfl, -⟩ := List.cons.inj htext
      exact ⟨part literal name after, rfl⟩

/-- A text that begins with a placeholder is cut there. -/
theorem IsCutOf.exists_part (hd : d.IsCutOf (placed name rest)) (h : IsName name) :
    ∃ d', d = part [] name d' := by
  have hfront := (hd.2 0 name).1 ((occursAt_placed_iff h rest).2 (Or.inl ⟨rfl, rfl⟩))
  cases d with
  | last literal => exact absurd hfront List.not_mem_nil
  | part literal other after =>
    rw [mem_spots_part_iff] at hfront
    rcases hfront with ⟨hliteral, rfl⟩ | ⟨j, hj, -⟩
    · obtain rfl := List.length_eq_zero_iff.1 hliteral.symm
      exact ⟨after, rfl⟩
    · omega

/-- The cut into the pieces of a template. -/
def ofPieces : List Piece → Cut
  | [] => last []
  | .char c :: pieces => (ofPieces pieces).push c
  | .placeholder name :: pieces => part [] name.toList (ofPieces pieces)

/-- The names of a cut are those of the pieces. -/
theorem names_ofPieces (ps : List Piece) : (ofPieces ps).names = ps.filterMap Piece.name? := by
  induction ps with
  | nil => rfl
  | cons p ps ih =>
    cases p with
    | char c => exact names_push.trans ih
    | placeholder name => simp [ofPieces, names, Piece.name?, ih]

/-- A cut is rendered piece by piece. -/
theorem render_ofPieces (scope : Bindings) (ps : List Piece) :
    (ofPieces ps).render scope =
      (ps.mapM (Piece.render scope)).map fun parts => String.ofList parts.flatten := by
  induction ps with
  | nil => rfl
  | cons p ps ih =>
    rw [List.mapM_cons]
    cases p with
    | char c =>
      rw [ofPieces, render_push, ih, Piece.render]
      cases ps.mapM (Piece.render scope) <;> simp
    | placeholder name =>
      rw [ofPieces, render, ih, Piece.render, String.ofList_toList]
      cases (scope.getD name).display <;> cases ps.mapM (Piece.render scope) <;> simp

/-- There is one cut of a text, the one that its pieces are. -/
theorem isCutOf_iff : d.IsCutOf cs ↔ d = ofPieces (pieces cs) := by
  fun_induction pieces cs generalizing d with
  | case1 =>
    constructor
    · rintro ⟨htext, -⟩
      cases d with
      | last literal => exact congrArg last htext
      | part literal name after => simp [text, placed] at htext
    · rintro rfl
      exact isCutOf_last_nil
  | case2 c after name rest h _ ih =>
    obtain ⟨hname, heq⟩ := placeholder?_eq_some_iff.1 h
    rw [heq]
    simp only [ofPieces, String.toList_ofList]
    constructor
    · intro hd
      obtain ⟨d, rfl⟩ := hd.exists_part hname
      rw [ih.1 ((isCutOf_part_iff hname).1 hd)]
    · rintro rfl
      exact (isCutOf_part_iff hname).2 (ih.2 rfl)
  | case3 c after h ih =>
    simp only [ofPieces]
    constructor
    · intro hd
      obtain ⟨d, rfl⟩ := hd.exists_push h
      rw [ih.1 ((isCutOf_push_iff h).1 hd)]
    · rintro rfl
      exact (isCutOf_push_iff h).2 (ih.2 rfl)

end Cut

/-- Where no placeholder stands, a character is a piece. -/
theorem pieces_cons_of_eq_none {c : Char} {cs : List Char} (h : placeholder? (c :: cs) = none) :
    pieces (c :: cs) = .char c :: pieces cs := by
  rw [pieces]
  split
  · rename_i heq
    rw [h] at heq
    cases heq
  · rfl

/-- No placeholder begins in the text before another one and ends in it. -/
theorem placeholder?_append_placed {name : List Char} (h : IsName name) {c : Char} {cs : List Char}
    (hnone : placeholder? (c :: cs) = none) (back : List Char) :
    placeholder? (c :: (cs ++ placed name back)) = none := by
  refine Option.eq_none_iff_forall_ne_some.2 fun ⟨other, rest⟩ hsome => ?_
  obtain ⟨hother, heq⟩ := placeholder?_eq_some_iff.1 hsome
  have hbehind : OccursAt (c :: cs).length name (placed other rest) := by
    rw [← heq]
    exact ⟨h, c :: cs, back, rfl, rfl⟩
  obtain ⟨hzero, -⟩ | ⟨j, hj, -, front, _, rfl, rfl⟩ := (occursAt_placed_iff hother rest).1 hbehind
  · simp at hzero
  · -- the placeholder in front ends before the one further on begins
    rw [← placed_append, ← List.cons_append] at heq
    obtain ⟨hfront, -⟩ := List.append_inj heq (hj.trans (length_placed other front).symm)
    rw [hfront, placeholder?_placed hother] at hnone
    cases hnone

/-- What is inserted for a placeholder is not looked at again: the text before it and the text after
it are rendered as if they stood alone. -/
theorem pieces_append_placed {name : List Char} (h : IsName name) (front back : List Char) :
    pieces (front ++ placed name back) =
      pieces front ++ .placeholder (String.ofList name) :: pieces back := by
  fun_induction pieces front with
  | case1 => simp [pieces_placed h]
  | case2 c after other rest hfront _ ih =>
    obtain ⟨hother, heq⟩ := placeholder?_eq_some_iff.1 hfront
    rw [heq, placed_append, pieces_placed hother, ih]
    rfl
  | case3 c after hnone ih =>
    rw [List.cons_append, pieces_cons_of_eq_none (placeholder?_append_placed h hnone back), ih]
    rfl

/-- A text with a placeholder in it is rendered as what stands before and after, and the value. -/
def around (front value back : Option String) : Option String := do
  return (← front) ++ (← value) ++ (← back)

/-- What stands before a placeholder is rendered apart from what stands after it. -/
theorem render_append_placed {name : String} (h : IsName name.toList) (front back : String)
    (scope : Bindings) :
    render (String.ofList (front.toList ++ placed name.toList back.toList)) scope =
      around (render front scope) (scope.getD name).display (render back scope) := by
  simp only [render, parse, String.toList_ofList, pieces_append_placed h, List.mapM_append,
    List.mapM_cons, String.ofList_toList]
  cases (pieces front.toList).mapM (Piece.render scope) <;>
    cases hvalue : (scope.getD name).display <;>
    cases (pieces back.toList).mapM (Piece.render scope) <;>
    simp [around, Piece.render, hvalue, String.append_assoc]

/-- A text has exactly one cut at all of its placeholders. A template refers to the names of that
cut in their order and is rendered as its literals with the values of the names between them, unless
one of these values can not be shown. So the values of these names are all that matters to it, what
is inserted is not looked at again, and a text without placeholders stays as it is. -/
theorem render_cut (text : String) :
    (∃! d : Cut, d.IsCutOf text.toList) ∧
    (∀ d : Cut, d.IsCutOf text.toList →
      names text = d.names ∧ ∀ scope, render text scope = d.render scope) ∧
    (∀ scope : Bindings,
      render text scope = none ↔ ∃ name ∈ names text, (scope.getD name).display = none) ∧
    (∀ scope other : Bindings, (∀ name ∈ names text, scope.getD name = other.getD name) →
      render text scope = render text other) ∧
    (∀ name front back : String, IsName name.toList →
      text.toList = front.toList ++ placed name.toList back.toList → ∀ scope,
        render text scope =
          around (render front scope) (scope.getD name).display (render back scope)) ∧
    ((∀ i name, ¬OccursAt i name text.toList) → ∀ scope, render text scope = some text) := by
  have hcut : (Cut.ofPieces (pieces text.toList)).IsCutOf text.toList := Cut.isCutOf_iff.2 rfl
  refine ⟨⟨_, hcut, fun d => Cut.isCutOf_iff.1⟩, fun d hd => ?_, fun _ => render_eq_none_iff,
    fun _ _ => render_congr, ?_, ?_⟩
  · obtain rfl := Cut.isCutOf_iff.1 hd
    exact ⟨(Cut.names_ofPieces _).symm, fun scope => (Cut.render_ofPieces scope _).symm⟩
  · intro name front back hname htext scope
    rw [← render_append_placed hname, ← htext, String.ofList_toList]
  · intro hnone scope
    have hlast : (Cut.last text.toList).IsCutOf text.toList :=
      ⟨rfl, fun i name => iff_of_false (hnone i name) List.not_mem_nil⟩
    rw [render, parse, ← Cut.render_ofPieces, ← Cut.isCutOf_iff.1 hlast, Cut.render,
      String.ofList_toList]

private def guests : Bindings := [("name", .text "\x7b\x7bname\x7d\x7d")]

private def greeting : Cut := .part "Hi \x7b".toList "name".toList (.last "\x7d!".toList)

theorem render_cut_greeting : greeting.IsCutOf greeting.text ∧
    render (String.ofList greeting.text) guests =
      some "Hi \x7b\x7b\x7bname\x7d\x7d\x7d!" := by
  have hgreeting : greeting.IsCutOf greeting.text := Cut.isCutOf_iff.2 (by cbv)
  obtain ⟨-, hcut, -⟩ := render_cut (String.ofList greeting.text)
  obtain ⟨-, hrender⟩ := hcut greeting (by rwa [String.toList_ofList])
  exact ⟨hgreeting, (hrender guests).trans (by decide +kernel)⟩

end CallFlow.Template
