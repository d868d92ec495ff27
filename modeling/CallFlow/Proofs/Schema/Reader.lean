import CallFlow.Flow.Write
import CallFlow.Proofs.Schema.Checked
import Mathlib.Data.List.Basic

namespace CallFlow.Schema

namespace Checked

variable {α β : Type}

@[simp] theorem map_read (f : α → β) (a : α) : f <$> read a = read (f a) := rfl

@[simp] theorem seq_read (f : α → β) (a : α) : read f <*> read a = read (f a) := rfl

@[simp] theorem under_read (p : Place) (a : α) : (read a).under p = read a := rfl

end Checked

namespace Reader

variable {α β : Type} {read : Reader α}

@[simp] theorem text_text (s : String) : text (.text s) = .read s := rfl

/-- Only a text is read as one. -/
theorem text_eq_read_iff {v : Value} {s : String} : text v = .read s ↔ v = .text s := by
  cases v with
  | text s' => exact ⟨fun h => by cases h; rfl, fun h => by cases h; rfl⟩
  | _ => exact ⟨nofun, nofun⟩

@[simp] theorem boolean_bool (b : Bool) : boolean (.bool b) = .read b := rfl

@[simp] theorem integer_int (i : Int) : integer (.int i) = .read i := rfl

@[simp] theorem number_float (x : Float) : number (.float x) = .read x := rfl

@[simp] theorem any_eq (v : Value) : any v = .read v := rfl

/-- A value that may be lacking is read back, if none of its kind is written as null. -/
theorem nullable_ofOption {write : α → Value} (a? : Option α)
    (h : ∀ a ∈ a?, read (write a) = .read a) (hnull : ∀ a, write a ≠ .null) :
    nullable read (.ofOption write a?) = .read a? := by
  cases a? with
  | none => rfl
  | some a =>
    have hread := h a rfl
    simp only [Value.ofOption, nullable]
    split
    next heq => exact absurd heq (hnull a)
    next => rw [hread, Checked.map]

@[simp] theorem nullable_bool (b? : Option Bool) :
    nullable boolean (.ofOption .bool b?) = .read b? :=
  nullable_ofOption _ (fun _ _ => rfl) nofun

@[simp] theorem nullable_int (i? : Option Int) : nullable integer (.ofOption .int i?) = .read i? :=
  nullable_ofOption _ (fun _ _ => rfl) nofun

@[simp] theorem nullable_float (x? : Option Float) :
    nullable number (.ofOption .float x?) = .read x? :=
  nullable_ofOption _ (fun _ _ => rfl) nofun

@[simp] theorem nullable_ofText? (s? : Option String) : nullable text (.ofText? s?) = .read s? := by
  cases s? <;> rfl

/-- A list that was written item by item is read as it was. -/
theorem list_ofList {write : α → Value} (items : List α)
    (h : ∀ a ∈ items, read (write a) = .read a) :
    list read (.ofList write items) = .read items := by
  rw [Value.ofList, list, Checked.all_eq_read_iff]
  apply List.ext_getElem (by simp)
  intro i hi hi'
  simp only [List.getElem_mapIdx, List.getElem_map]
  rw [h _ (List.getElem_mem _), Checked.under_read]

@[simp] theorem list_text (items : List String) : list text (.ofList .text items) = .read items :=
  list_ofList _ fun _ _ => rfl

/-- A map of texts is read as it was written. -/
@[simp] theorem map_text (members : List (String × String)) :
    map text (.object (members.map fun p => (p.1, .text p.2))) = .read members := by
  rw [map, Checked.all_eq_read_iff, List.map_map]
  rfl

/-- Whatever the reader reads has a property. -/
def Yields (read : Reader α) (P : α → Prop) : Prop := ∀ v a, read v = .read a → P a

namespace Yields

variable {P : α → Prop}

/-- Adapting a value leaves what is known of all that is read. -/
theorem adapted (h : read.Yields P) (adapt : Value → Value) :
    (Reader.adapted adapt read).Yields P :=
  fun v => h (adapt v)

theorem map {Q : β → Prop} (h : read.Yields P) {f : α → β} (hf : ∀ a, P a → Q (f a)) :
    Yields (fun v => f <$> read v) Q := by
  intro v b hread
  obtain ⟨a, ha, rfl⟩ := Checked.map_eq_read_iff.1 hread
  exact hf a (h v a ha)

theorem record {name : String} {fields : Bindings → Checked α}
    (h : ∀ o a, fields o = .read a → P a) : (Reader.record name fields).Yields P := by
  intro v a hread
  cases v with
  | object o => exact h o a hread
  | _ => cases hread

/-- What is known of every item is known of a list. -/
theorem list (h : read.Yields P) : (Reader.list read).Yields fun items => ∀ a ∈ items, P a := by
  intro v as hread a ha
  cases v with
  | list items =>
    rw [Reader.list, Checked.all_eq_read_iff] at hread
    obtain ⟨i, hi, rfl⟩ := List.getElem_of_mem ha
    have hlength : items.length = as.length := by simpa using congrArg List.length hread
    have hitem := List.getElem_of_eq hread (i := i) (by simpa [hlength] using hi)
    simp only [List.getElem_mapIdx, List.getElem_map] at hitem
    exact h _ _ (Checked.under_eq_read_iff.1 hitem)
  | _ => cases hread

/-- What is known of a default and of all that is read is known of an optional field. -/
theorem optional (h : read.Yields P) {default : α} (hdefault : P default) {f : Field} {o : Bindings}
    {a : α} (hread : f.optional default read o = .read a) : P a := by
  unfold Field.optional at hread
  split at hread
  · exact h _ _ (Checked.under_eq_read_iff.1 hread)
  · cases hread
    exact hdefault

end Yields

/-- What was read and is written out is read again as the same. -/
def Stable (read : Reader α) (write : α → Value) : Prop :=
  read.Yields fun a => read (write a) = .read a

/-- A reader that takes back all that is written out is stable. -/
theorem Stable.of_forall {write : α → Value} (h : ∀ a, read (write a) = .read a) :
    read.Stable write := fun _ a _ => h a

end Reader

end CallFlow.Schema
