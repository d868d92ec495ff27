import Mathlib.Logic.Basic

namespace CallFlow.Fallible

variable {α β ε : Type} {f : α → Except ε β} {l : List α}

/-- What is done with a list depends on what is done with its items. -/
theorem mapM_congr {m : Type → Type} [Monad m] [LawfulMonad m] {f g : α → m β}
    (h : ∀ a ∈ l, f a = g a) : l.mapM f = l.mapM g := by
  induction l with
  | nil => rfl
  | cons a l ih =>
    obtain ⟨ha, hl⟩ := List.forall_mem_cons.1 h
    rw [List.mapM_cons, List.mapM_cons, ha, ih hl]

/-- What is gone on with comes out well exactly if both parts do. -/
theorem bind_eq_ok_iff {x : Except ε α} {f : α → Except ε β} {b : β} :
    x.bind f = .ok b ↔ ∃ a, x = .ok a ∧ f a = .ok b := by
  cases x <;> simp [Except.bind]

/-- What is gone on with fails exactly if one of its parts does. -/
theorem bind_eq_error_iff {x : Except ε α} {f : α → Except ε β} {e : ε} :
    x.bind f = .error e ↔ x = .error e ∨ ∃ a, x = .ok a ∧ f a = .error e := by
  cases x <;> simp [Except.bind]

theorem map_eq_ok_iff {x : Except ε α} {f : α → β} {b : β} :
    x.map f = .ok b ↔ ∃ a, x = .ok a ∧ f a = b := by
  cases x <;> simp [Except.map]

theorem map_eq_error_iff {x : Except ε α} {f : α → β} {e : ε} :
    x.map f = .error e ↔ x = .error e := by
  cases x <;> simp [Except.map]

/-- What does not come out well fails. -/
theorem not_exists_ok_iff {x : Except ε α} : (¬∃ a, x = .ok a) ↔ ∃ e, x = .error e := by
  cases x with
  | ok a => exact iff_of_false (fun h => h ⟨a, rfl⟩) nofun
  | error e => exact iff_of_true nofun ⟨e, rfl⟩

/-- A list is gone through to its end unless there is an item that something goes wrong with. -/
theorem mapM_eq_error_iff : (∃ e, l.mapM f = .error e) ↔ ∃ a ∈ l, ∃ e, f a = .error e := by
  induction l with
  | nil => exact iff_of_false nofun (by simp)
  | cons a l ih =>
    simp only [List.mapM_cons, List.mem_cons, exists_eq_or_imp, ← ih]
    cases f a with
    | error e => exact iff_of_true ⟨e, rfl⟩ (Or.inl ⟨e, rfl⟩)
    | ok b =>
      cases l.mapM f with
      | error e => exact iff_of_true ⟨e, rfl⟩ (Or.inr ⟨e, rfl⟩)
      | ok bs => exact iff_of_false nofun (by simp)

/-- A list is gone through to its end exactly if nothing goes wrong with any item. -/
theorem exists_mapM_iff : (∃ bs, l.mapM f = .ok bs) ↔ ∀ a ∈ l, ∃ b, f a = .ok b := by
  rw [← not_iff_not, not_exists_ok_iff, mapM_eq_error_iff]
  simp only [not_forall, exists_prop, not_exists_ok_iff]

/-- A list is mapped to nothing exactly if some item is. -/
theorem mapM_eq_none_iff {f : α → Option β} : l.mapM f = none ↔ ∃ a ∈ l, f a = none := by
  induction l with
  | nil => exact iff_of_false nofun (by simp)
  | cons a l ih =>
    simp only [List.mapM_cons, List.mem_cons, exists_eq_or_imp, ← ih]
    cases f a with
    | none => exact iff_of_true rfl (Or.inl rfl)
    | some b => cases l.mapM f <;> simp

/-- If only one thing can go wrong with an item, only that can go wrong with a list. -/
theorem eq_of_mapM_eq_error {e : ε} (hf : ∀ a ∈ l, ∀ e', f a = .error e' → e' = e) {e' : ε}
    (h : l.mapM f = .error e') : e' = e := by
  induction l with
  | nil => cases h
  | cons a l ih =>
    obtain ⟨ha, hl⟩ := List.forall_mem_cons.1 hf
    rw [List.mapM_cons] at h
    cases hfa : f a with
    | error e'' =>
      rw [hfa] at h
      cases h
      exact ha _ hfa
    | ok b =>
      rw [hfa] at h
      cases hrest : l.mapM f with
      | error e'' =>
        rw [hrest] at h
        cases h
        exact ih hl hrest
      | ok bs =>
        rw [hrest] at h
        cases h

end CallFlow.Fallible
