import CallFlow.Template
import Mathlib.Data.List.Basic
import Mathlib.Data.List.TakeWhile

namespace CallFlow.Template

/-- The characters of a placeholder with a name, and those after it. -/
def placed (name rest : List Char) : List Char := '{' :: '{' :: (name ++ '}' :: '}' :: rest)

/-- A name that a placeholder can have. -/
def IsName (name : List Char) : Prop := name ≠ [] ∧ ∀ c ∈ name, Text.isWord c = true

/-- Somewhere in the characters stands a placeholder with the name. -/
def Occurs (name cs : List Char) : Prop :=
  IsName name ∧ ∃ front back, cs = front ++ placed name back

private theorem isWord_opening : Text.isWord '{' = false := by decide

private theorem isWord_closing : Text.isWord '}' = false := by decide

/-- A placeholder is read off the front. -/
theorem placeholder?_placed {name : List Char} (h : IsName name) (rest : List Char) :
    placeholder? (placed name rest) = some (name, rest) := by
  have htake : (name ++ '}' :: '}' :: rest).takeWhile Text.isWord = name := by
    simp [List.takeWhile_append_of_pos h.2, isWord_closing]
  have hdrop : (name ++ '}' :: '}' :: rest).dropWhile Text.isWord = '}' :: '}' :: rest := by
    simp [List.dropWhile_append_of_pos h.2, isWord_closing]
  obtain ⟨c, cs, rfl⟩ := List.exists_cons_of_ne_nil h.1
  simp only [placed, placeholder?, htake, hdrop]

/-- What is read as a placeholder is one. -/
theorem eq_placed_of_placeholder? {cs name rest : List Char}
    (h : placeholder? cs = some (name, rest)) : IsName name ∧ cs = placed name rest := by
  unfold placeholder? at h
  split at h
  · rename_i cs
    split at h
    · cases h
    · rename_i hdrop hne
      cases h
      refine ⟨⟨hne, fun c hc => List.mem_takeWhile_imp hc⟩, ?_⟩
      rw [placed, ← hdrop, List.takeWhile_append_dropWhile]
    · cases h
  · cases h

/-- Placeholders are read exactly where they stand. -/
theorem placeholder?_eq_some_iff {cs name rest : List Char} :
    placeholder? cs = some (name, rest) ↔ IsName name ∧ cs = placed name rest := by
  constructor
  · exact eq_placed_of_placeholder?
  · rintro ⟨hname, rfl⟩
    exact placeholder?_placed hname rest

/-- A placeholder stands at the front or further on. -/
theorem occurs_cons_iff {name : List Char} {c : Char} {cs : List Char} :
    Occurs name (c :: cs) ↔
      (∃ rest, placeholder? (c :: cs) = some (name, rest)) ∨ Occurs name cs := by
  constructor
  · rintro ⟨hname, front, back, heq⟩
    cases front with
    | nil => exact Or.inl ⟨back, placeholder?_eq_some_iff.2 ⟨hname, heq⟩⟩
    | cons x front =>
      obtain ⟨-, hcs⟩ := List.cons.inj heq
      exact Or.inr ⟨hname, front, back, hcs⟩
  · rintro (⟨rest, h⟩ | ⟨hname, front, back, rfl⟩)
    · obtain ⟨hname, heq⟩ := placeholder?_eq_some_iff.1 h
      exact ⟨hname, [], rest, heq⟩
    · exact ⟨hname, c :: front, back, rfl⟩

private theorem occurs_cons_of_ne {name : List Char} {c : Char} {cs : List Char} (hc : c ≠ '{') :
    Occurs name (c :: cs) ↔ Occurs name cs := by
  rw [occurs_cons_iff]
  refine or_iff_right ?_
  rintro ⟨rest, h⟩
  have heq := (placeholder?_eq_some_iff.1 h).2
  exact hc (List.cons.inj heq).1

private theorem occurs_append_of_word {name word cs : List Char}
    (hword : ∀ c ∈ word, Text.isWord c = true) : Occurs name (word ++ cs) ↔ Occurs name cs := by
  induction word with
  | nil => rfl
  | cons c word ih =>
    have hc : c ≠ '{' := by
      rintro rfl
      simpa [isWord_opening] using hword '{' (by simp)
    rw [List.cons_append, occurs_cons_of_ne hc]
    exact ih fun c hmem => hword c (List.mem_cons_of_mem _ hmem)

/-- What follows a placeholder has the occurrences that are not the placeholder itself: none can
begin inside it, since its name holds no brace. -/
theorem occurs_placed_iff {name other : List Char} (h : IsName other) (rest : List Char) :
    Occurs name (placed other rest) ↔ name = other ∨ Occurs name rest := by
  have hfront : (∃ back, placeholder? (placed other rest) = some (name, back)) ↔ name = other := by
    simp [placeholder?_placed h, eq_comm]
  have hinside : Occurs name ('{' :: (other ++ '}' :: '}' :: rest)) ↔ Occurs name rest := by
    obtain ⟨c, word, rfl⟩ := List.exists_cons_of_ne_nil h.1
    have hnone : placeholder? ('{' :: (c :: word ++ '}' :: '}' :: rest)) = none := by
      have hc : c ≠ '{' := by
        rintro rfl
        simpa [isWord_opening] using h.2 '{' (by simp)
      simp [placeholder?, hc]
    rw [occurs_cons_iff, hnone, occurs_append_of_word h.2, occurs_cons_of_ne (by decide),
      occurs_cons_of_ne (by decide)]
    simp
  unfold placed at hfront ⊢
  rw [occurs_cons_iff, hfront, hinside]

/-- A placeholder is a piece exactly if it occurs. -/
theorem mem_pieces_iff {name cs : List Char} :
    Piece.placeholder (String.ofList name) ∈ pieces cs ↔ Occurs name cs := by
  fun_induction pieces cs with
  | case1 =>
    simp [Occurs, placed]
  | case2 c after other rest h _ ih =>
    obtain ⟨hother, heq⟩ := placeholder?_eq_some_iff.1 h
    rw [heq, occurs_placed_iff hother, ← ih]
    simp [String.ofList_inj]
  | case3 c after h ih =>
    rw [occurs_cons_iff, ← ih]
    simp [h]

/-- A name is used exactly if it occurs. -/
theorem mem_names_iff {name text : String} :
    name ∈ names text ↔ Occurs name.toList text.toList := by
  rw [← mem_pieces_iff, String.ofList_toList, names, parse, List.mem_filterMap]
  constructor
  · rintro ⟨piece, hmem, hname⟩
    cases piece with
    | char c => cases hname
    | placeholder other =>
      cases hname
      exact hmem
  · intro hmem
    exact ⟨_, hmem, rfl⟩

/-- Part of a text refers to no names but those of the text. -/
theorem Occurs.of_isInfix {name part cs : List Char} (h : Occurs name part) (hpart : part <:+: cs) :
    Occurs name cs := by
  obtain ⟨hname, front, back, rfl⟩ := h
  obtain ⟨before, after, rfl⟩ := hpart
  exact ⟨hname, before ++ front, back ++ after, by simp [placed]⟩

/-- A placeholder in front is the first piece. -/
theorem pieces_placed {name : List Char} (h : IsName name) (rest : List Char) :
    pieces (placed name rest) = .placeholder (String.ofList name) :: pieces rest := by
  have hfront : placeholder? (placed name rest) = some (name, rest) := placeholder?_placed h rest
  unfold placed at hfront ⊢
  rw [pieces]
  split
  · rename_i found after heq
    rw [hfront] at heq
    cases heq
    rfl
  · rename_i heq
    rw [hfront] at heq
    cases heq

end CallFlow.Template
