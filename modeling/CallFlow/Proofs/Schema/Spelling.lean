import CallFlow.Proofs.Bindings
import CallFlow.Proofs.Schema.Checked
import Mathlib.Data.Option.Basic

namespace CallFlow.Schema

/-- The value of a field in whichever spelling it stands. -/
def Field.value? (f : Field) (o : Bindings) : Option Value := o.get? f.camel <|> o.get? f.plain

namespace Field

variable {α : Type} (f : Field) (read : Reader α) (o : Bindings)

theorem find?_snd : (f.find? o).map Prod.snd = f.value? o := by
  unfold find? value?
  cases o.get? f.camel with
  | some v => rfl
  | none => cases o.get? f.plain <;> rfl

/-- A required field is read from the value that it has. -/
theorem toOption_required :
    (f.required read o).toOption = (f.value? o).bind fun v => (read v).toOption := by
  rw [← f.find?_snd, required]
  cases f.find? o with
  | none => rfl
  | some p => exact Checked.toOption_under _ _

/-- An optional field is read from the value that it has, or is the default. -/
theorem toOption_optional (default : α) :
    (f.optional default read o).toOption =
      (f.value? o).elim (some default) fun v => (read v).toOption := by
  rw [← f.find?_snd, optional]
  cases f.find? o with
  | none => rfl
  | some p => exact Checked.toOption_under _ _

variable {f read o} in
/-- A part of a record comes from its member, if there is one. -/
theorem optional_eq_read_iff {v : Value} (h : f.value? o = some v) {default a : α} :
    f.optional default read o = .read a ↔ read v = .read a := by
  rw [← Checked.toOption_eq_some_iff, toOption_optional, h]
  exact Checked.toOption_eq_some_iff

end Field

/-- A part of a record: its field, and when two values of it count as the same. -/
structure Part where
  field : Field
  Same : Value → Value → Prop := Eq
  refl : ∀ v, Same v v := by intro v; constructor

/-- Two objects have the same parts, each in any spelling. Other members may differ. -/
def SameParts (parts : List Part) (o o' : Bindings) : Prop :=
  ∀ p ∈ parts, Option.Rel p.Same (p.field.value? o) (p.field.value? o')

/-- Two values are the same but for the spelling of the parts of a record. -/
inductive Respelled (parts : List Part) : Value → Value → Prop
  | record {o o' : Bindings} (h : SameParts parts o o') : Respelled parts (.object o) (.object o')
  | same (v : Value) : Respelled parts v v

/-- Two values are the same but for differences between the items of a list. -/
inductive SameItems (Same : Value → Value → Prop) : Value → Value → Prop
  | items {vs vs' : List Value} (h : List.Forall₂ Same vs vs') :
    SameItems Same (.list vs) (.list vs')
  | same (v : Value) : SameItems Same v v

namespace Reader

variable {α β : Type}

/-- The reader makes the same of any two values that are related. -/
def Agrees (read : Reader α) (R : Value → Value → Prop) : Prop :=
  ∀ v v', R v v' → (read v).Agree (read v')

namespace Agrees

variable {read : Reader α} {R : Value → Value → Prop}

theorem eq (read : Reader α) : read.Agrees Eq := by
  rintro v _ rfl
  exact .refl _

/-- A record is read alike from objects with the same parts. -/
theorem record {name : String} {parts : List Part} {fields : Bindings → Checked α}
    (h : ∀ o o', SameParts parts o o' → (fields o).Agree (fields o')) :
    (Reader.record name fields).Agrees (Respelled parts) := by
  intro v v' hv
  cases hv with
  | record hparts => exact h _ _ hparts
  | same => exact .refl _

/-- What may be lacking is read alike. -/
theorem nullable {parts : List Part} (h : read.Agrees (Respelled parts)) :
    (Reader.nullable read).Agrees (Respelled parts) := by
  intro v v' hv
  cases hv with
  | record hparts => exact (h _ _ (.record hparts)).map some
  | same => exact .refl _

/-- Lists are read alike item by item. -/
theorem list (h : read.Agrees R) : (Reader.list read).Agrees (SameItems R) := by
  intro v v' hv
  cases hv with
  | same => exact .refl _
  | items hitems =>
    apply Checked.Agree.all
    rw [List.forall₂_iff_get] at hitems ⊢
    refine ⟨by simpa using hitems.1, fun i hi hi' => ?_⟩
    simp only [List.get_eq_getElem, List.getElem_mapIdx]
    exact (h _ _ (hitems.2 i _ _)).under _ _

variable {f : Field} {o o' : Bindings} (h : read.Agrees R)
  (hvalue : Option.Rel R (f.value? o) (f.value? o'))
include h hvalue

/-- A required field is read alike from values that agree. -/
theorem required : (f.required read o).Agree (f.required read o') := by
  rw [Checked.Agree, f.toOption_required, f.toOption_required]
  generalize f.value? o = v, f.value? o' = v' at hvalue
  cases hvalue with
  | none => rfl
  | some hv => exact h _ _ hv

/-- An optional field is read alike from values that agree. -/
theorem optional (default : α) :
    (f.optional default read o).Agree (f.optional default read o') := by
  rw [Checked.Agree, f.toOption_optional, f.toOption_optional]
  generalize f.value? o = v, f.value? o' = v' at hvalue
  cases hvalue with
  | none => rfl
  | some hv => exact h _ _ hv

end Agrees

end Reader

namespace Field

variable {α : Type} {f : Field} {read : Reader α} {o o' : Bindings}

/-- A field of one word has one spelling only. -/
theorem rel_value?_word {name : String} (h : o.get? name = o'.get? name) :
    Option.Rel Eq ((word name).value? o) ((word name).value? o') := by
  simp only [value?, word, h]
  cases o'.get? name with
  | none => exact .none
  | some v => exact .some rfl

variable (h : Option.Rel Eq (f.value? o) (f.value? o'))
include h

theorem required_agree : (f.required read o).Agree (f.required read o') :=
  (Reader.Agrees.eq read).required h

theorem optional_agree {default : α} :
    (f.optional default read o).Agree (f.optional default read o') :=
  (Reader.Agrees.eq read).optional h default

end Field

/-- The object with the members of one name under another. -/
def rename (old new : String) (o : Bindings) : Bindings :=
  o.map fun p => (if p.1 = old then new else p.1, p.2)

/-- Renaming moves what the old name was bound to. -/
theorem get?_rename {old new : String} {o : Bindings} (hnew : o.get? new = none) (name : String) :
    (rename old new o).get? name =
      if name = new then o.get? old else if name = old then none else o.get? name := by
  induction o with
  | nil => simp [rename]
  | cons entry rest ih =>
    have hcons : rename old new (entry :: rest) =
        (if entry.1 = old then new else entry.1, entry.2) :: rename old new rest := rfl
    rw [Bindings.get?_cons] at hnew
    split at hnew
    · cases hnew
    · rw [hcons, Bindings.get?_cons, Bindings.get?_cons, Bindings.get?_cons, ih hnew]
      grind

namespace SameParts

variable {parts : List Part}

theorem refl (o : Bindings) : SameParts parts o o := by
  intro p _
  cases p.field.value? o with
  | none => exact .none
  | some v => exact .some (p.refl v)

/-- A record in which a field is spelled otherwise has the same parts as before, if the field stood
in one spelling only and no other part is spelled like it. -/
theorem rename (old new : String) {o : Bindings} (hnew : o.get? new = none)
    (hparts : ∀ p ∈ parts, p.field = ⟨old, new⟩ ∨ p.field = ⟨new, old⟩ ∨
      (p.field.plain ≠ old ∧ p.field.plain ≠ new ∧ p.field.camel ≠ old ∧ p.field.camel ≠ new)) :
    SameParts parts o (rename old new o) := by
  intro p hp
  have hvalue : p.field.value? (Schema.rename old new o) = p.field.value? o := by
    simp only [Field.value?, get?_rename hnew]
    obtain hfield | hfield | ⟨hplain, hplain', hcamel, hcamel'⟩ := hparts p hp
    · by_cases hword : old = new <;> simp [hfield, hnew, hword]
    · by_cases hword : old = new <;> simp [hfield, hnew, hword]
    · simp [*]
  rw [hvalue]
  exact refl o p hp

end SameParts

end CallFlow.Schema
