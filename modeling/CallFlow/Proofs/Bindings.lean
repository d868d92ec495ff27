import CallFlow.Value
import Mathlib.Data.List.Forall2

namespace CallFlow.Bindings

@[simp] theorem get?_nil (name : String) : get? [] name = none := rfl

/-- A name is looked up entry by entry. -/
theorem get?_cons (entry : String × Value) (rest : Bindings) (name : String) :
    get? (entry :: rest) name = if name = entry.1 then some entry.2 else rest.get? name := by
  obtain ⟨n, v⟩ := entry
  by_cases h : name = n
  · subst name
    simp [get?]
  · have hbeq : (name == n) = false := beq_false_of_ne h
    simp [get?, List.lookup_cons, h, hbeq]

/-- Setting a name changes what is bound to it, and nothing else. -/
theorem get?_set (b : Bindings) (name other : String) (v : Value) :
    (b.set name v).get? other = if other = name then some v else b.get? other := by
  induction b with
  | nil => simp [set, get?_cons]
  | cons entry rest ih =>
    obtain ⟨first, w⟩ := entry
    by_cases hfirst : first = name
    · subst first
      by_cases h : other = name <;> simp [set, get?_cons, h]
    · by_cases h : other = first
      · subst other
        simp [set, get?_cons, hfirst]
      · simp [set, get?_cons, hfirst, h, ih]

/-- Of the values that are set for a name the last counts. -/
theorem get?_update (b new : Bindings) (name : String) :
    (b.update new).get? name = (get? new.reverse name).or (b.get? name) := by
  induction new generalizing b with
  | nil => rfl
  | cons entry rest ih =>
    have hupdate : b.update (entry :: rest) = (b.set entry.1 entry.2).update rest := rfl
    have hlast : get? (rest.reverse ++ [entry]) name =
        (get? rest.reverse name).or (get? [entry] name) := List.lookup_append
    rw [hupdate, ih, get?_set, List.reverse_cons, hlast, get?_cons, get?_nil]
    by_cases hname : name = entry.1 <;> simp [hname]

/-- Looking a name up in a listed map finds the first thing with that key. -/
theorem get?_map {α : Type} (key : α → String) (value : α → Value) (l : List α) (name : String) :
    get? (l.map fun a => (key a, value a)) name =
      (l.find? fun a => key a = name).map value := by
  induction l with
  | nil => rfl
  | cons a rest ih =>
    rw [List.map_cons, get?_cons, ih]
    by_cases hname : name = key a
    · simp [hname]
    · simp [hname, Ne.symm hname]

/-- Both bind the names to the same values, or leave them unbound. -/
def AgreeOn (names : List String) (b other : Bindings) : Prop :=
  ∀ name ∈ names, b.get? name = other.get? name

/-- The same names in the same order, bound to the same values but for one of them. -/
def SameBut (name : String) : Bindings → Bindings → Prop :=
  List.Forall₂ fun p q => p.1 = q.1 ∧ (p.1 ≠ name → p.2 = q.2)

variable {b other : Bindings}

/-- Agreement on some names outlasts setting the same value on both sides. -/
theorem AgreeOn.set {names : List String} (h : AgreeOn names b other) (name : String) (v : Value) :
    AgreeOn names (b.set name v) (other.set name v) := by
  intro n hn
  rw [get?_set, get?_set, h n hn]

theorem SameBut.refl (name : String) (b : Bindings) : SameBut name b b :=
  List.forall₂_same.2 fun _ _ => ⟨rfl, fun _ => rfl⟩

/-- Setting the same value on both sides brings no new difference. -/
theorem SameBut.set {x : String} (h : SameBut x b other) (name : String) (v : Value) :
    SameBut x (b.set name v) (other.set name v) := by
  induction h with
  | nil => exact .cons ⟨rfl, fun _ => rfl⟩ .nil
  | @cons p q rest rest' hpq hrest ih =>
    obtain ⟨n, w⟩ := p
    obtain ⟨n', w'⟩ := q
    obtain ⟨rfl, hvalue⟩ := hpq
    by_cases hn : n = name
    · simp only [Bindings.set, hn, if_true]
      exact .cons ⟨rfl, fun _ => rfl⟩ hrest
    · simp only [Bindings.set, hn, if_false]
      exact .cons ⟨rfl, hvalue⟩ ih

/-- Names other than the one set apart are bound alike. -/
theorem SameBut.get? {x : String} (h : SameBut x b other) {name : String} (hname : name ≠ x) :
    b.get? name = other.get? name := by
  induction h with
  | nil => rfl
  | @cons p q rest rest' hpq _ ih =>
    obtain ⟨n, w⟩ := p
    obtain ⟨n', w'⟩ := q
    obtain ⟨rfl, hvalue⟩ := hpq
    by_cases hn : name = n
    · subst name
      simp [get?_cons, show w = w' from hvalue hname]
    · simpa [get?_cons, hn] using ih

/-- Setting one name to two values. -/
theorem SameBut.of_set (b : Bindings) (name : String) (v w : Value) :
    SameBut name (b.set name v) (b.set name w) := by
  induction b with
  | nil => exact .cons ⟨rfl, fun h => absurd rfl h⟩ .nil
  | cons entry rest ih =>
    obtain ⟨n, u⟩ := entry
    by_cases hn : n = name
    · simp only [Bindings.set, hn, if_true]
      exact .cons ⟨rfl, fun h => absurd rfl h⟩ (SameBut.refl name rest)
    · simp only [Bindings.set, hn, if_false]
      exact .cons ⟨rfl, fun _ => rfl⟩ ih

theorem has_iff_mem_names {name : String} : b.has name ↔ name ∈ b.names := by
  induction b with
  | nil => simp [has, names]
  | cons entry rest ih =>
    have hnames : names (entry :: rest) = entry.1 :: names rest := rfl
    rw [has, get?_cons, hnames, List.mem_cons, ← ih, has]
    by_cases h : name = entry.1 <;> simp [h]

/-- Setting adds at most its own name. -/
theorem mem_names_set {name other : String} {v : Value} :
    other ∈ (b.set name v).names ↔ other = name ∨ other ∈ b.names := by
  rw [← has_iff_mem_names, ← has_iff_mem_names, has, has, get?_set]
  by_cases h : other = name <;> simp [h]

/-- The names of an update are the old and the new ones. -/
theorem mem_names_update {new : Bindings} {name : String} :
    name ∈ (b.update new).names ↔ name ∈ b.names ∨ name ∈ new.names := by
  induction new generalizing b with
  | nil => simp [update, names]
  | cons entry rest ih =>
    have hupdate : b.update (entry :: rest) = (b.set entry.1 entry.2).update rest := rfl
    have hnames : names (entry :: rest) = entry.1 :: names rest := rfl
    rw [hupdate, ih, mem_names_set, hnames, List.mem_cons]
    tauto

/-- A map built from members names just what they name. -/
theorem mem_names_ofMembers {ms : List (String × Value)} {name : String} :
    name ∈ (ofMembers ms).names ↔ name ∈ ms.map Prod.fst := by
  rw [ofMembers, mem_names_update]
  simp [names]

theorem mem_of_get? {name : String} {v : Value} (h : b.get? name = some v) : (name, v) ∈ b := by
  induction b with
  | nil => cases h
  | cons entry rest ih =>
    rw [get?_cons] at h
    split at h
    · rename_i hname
      obtain rfl := Option.some.inj h
      rw [hname]
      exact List.mem_cons_self
    · exact List.mem_cons_of_mem _ (ih h)

/-- No name is bound twice. -/
def IsMap (b : Bindings) : Prop := b.names.Nodup

instance : Decidable b.IsMap := inferInstanceAs (Decidable b.names.Nodup)

namespace IsMap

theorem set (h : b.IsMap) (name : String) (v : Value) : (b.set name v).IsMap := by
  induction b with
  | nil => exact List.nodup_cons.2 ⟨List.not_mem_nil, List.nodup_nil⟩
  | cons entry rest ih =>
    obtain ⟨n, w⟩ := entry
    obtain ⟨hn, hrest⟩ := List.nodup_cons.1 h
    by_cases hname : n = name
    · rw [Bindings.set, if_pos hname]
      exact h
    · rw [Bindings.set, if_neg hname]
      refine List.nodup_cons.2 ⟨fun hmem => ?_, ih hrest⟩
      exact (mem_names_set.1 hmem).elim hname hn

/-- An entry is what its name stands for. -/
theorem getD_of_mem (h : b.IsMap) {m : String × Value} (hm : m ∈ b) : b.getD m.1 = m.2 := by
  induction b with
  | nil => cases hm
  | cons entry rest ih =>
    obtain ⟨hn, hrest⟩ := List.nodup_cons.1 h
    obtain rfl | hm := List.mem_cons.1 hm
    · rw [getD, get?_cons, if_pos rfl]
      rfl
    · have hne : m.1 ≠ entry.1 := fun heq => hn (heq ▸ List.mem_map_of_mem hm)
      rw [getD, get?_cons, if_neg hne]
      exact ih hrest hm

end IsMap

section Entries

variable {front back : Bindings} {name : String} {v : Value}

theorem names_append (front back : Bindings) : names (front ++ back) = front.names ++ back.names :=
  List.map_append

/-- A new name is appended. -/
theorem set_of_not_mem (h : name ∉ b.names) (v : Value) : b.set name v = b ++ [(name, v)] := by
  induction b with
  | nil => rfl
  | cons entry rest ih =>
    obtain ⟨n, w⟩ := entry
    obtain ⟨hn, hrest⟩ := List.ne_and_not_mem_of_not_mem_cons h
    rw [set, if_neg (Ne.symm hn), ih hrest]
    rfl

/-- The first entry of a name is the one that is erased. -/
theorem erase_append (h : name ∉ front.names) :
    erase (front ++ (name, v) :: back) name = front ++ back := by
  have hfront : ∀ p ∈ front, ¬(p.1 == name) = true := by
    intro p hp heq
    exact h (beq_iff_eq.1 heq ▸ List.mem_map_of_mem hp)
  rw [erase, List.eraseP_append_right _ hfront, List.eraseP_cons_of_pos (by simp)]

/-- The first entry of a name is the one that is found. -/
theorem get?_append (h : name ∉ front.names) : get? (front ++ (name, v) :: back) name = some v := by
  refine List.lookup_eq_some_iff.2 ⟨front, back, rfl, fun p hp => ?_⟩
  rw [bne_iff_ne]
  rintro rfl
  exact h (List.mem_map_of_mem hp)

/-- A name that is bound has a first entry. -/
theorem exists_of_mem_names (h : name ∈ b.names) :
    ∃ (front : Bindings) (v : Value) (back : Bindings),
      b = front ++ (name, v) :: back ∧ name ∉ front.names := by
  obtain ⟨v, hv⟩ := Option.isSome_iff_exists.1 (has_iff_mem_names.2 h)
  obtain ⟨front, back, rfl, hfront⟩ := List.lookup_eq_some_iff.1 hv
  refine ⟨front, v, back, rfl, fun hmem => ?_⟩
  obtain ⟨p, hp, rfl⟩ := List.mem_map.1 hmem
  exact bne_iff_ne.1 (hfront p hp) rfl

end Entries

/-- Variables after some were set: those that were bound still are, and only certain ones may be
bound otherwise than before. -/
structure Extends (changes : String → Prop) (b after : Bindings) : Prop where
  kept : ∀ name, b.has name → after.has name
  changed : ∀ name, after.get? name ≠ b.get? name → changes name

namespace Extends

variable {changes changes' : String → Prop} {mid after new : Bindings}

theorem refl (b : Bindings) : Extends changes b b := ⟨fun _ h => h, fun _ h => absurd rfl h⟩

/-- Changes one after the other are changes altogether. -/
theorem trans (h : Extends changes b mid) (h' : Extends changes mid after) :
    Extends changes b after where
  kept name hname := h'.kept name (h.kept name hname)
  changed name hname := by
    by_cases hsame : after.get? name = mid.get? name
    · exact h.changed name (hsame ▸ hname)
    · exact h'.changed name hsame

/-- Allowing more changes allows the old ones. -/
theorem mono (h : Extends changes b after) (himp : ∀ name, changes name → changes' name) :
    Extends changes' b after :=
  ⟨h.kept, fun name hname => himp name (h.changed name hname)⟩

/-- Setting a name that may change is such a change. -/
theorem set {name : String} (hname : changes name) (v : Value) :
    Extends changes b (b.set name v) where
  kept other hother :=
    has_iff_mem_names.2 (mem_names_set.2 (Or.inr (has_iff_mem_names.1 hother)))
  changed other hother := by
    rw [get?_set] at hother
    by_cases h : other = name
    · exact h ▸ hname
    · simp [h] at hother

theorem update (hnew : ∀ name ∈ new.names, changes name) : Extends changes b (b.update new) := by
  induction new generalizing b with
  | nil => exact .refl b
  | cons entry rest ih =>
    obtain ⟨hentry, hrest⟩ := List.forall_mem_cons.1 hnew
    exact (set hentry entry.2).trans (ih hrest)

end Extends

end CallFlow.Bindings
