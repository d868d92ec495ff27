import CallFlow.Schema.Record
import Mathlib.Data.List.Forall2

namespace CallFlow.Schema

namespace Checked

variable {α β : Type}

/-- What was read, if nothing was refused. -/
def toOption : Checked α → Option α
  | read a => some a
  | refused _ => none

theorem toOption_eq_some_iff {c : Checked α} {a : α} : c.toOption = some a ↔ c = .read a := by
  cases c <;> simp [toOption]

/-- What is mapped was read. -/
theorem map_eq_read_iff {f : α → β} {c : Checked α} {b : β} :
    f <$> c = .read b ↔ ∃ a, c = .read a ∧ f a = b := by
  cases c with
  | read a => exact ⟨fun h => ⟨a, rfl, read.inj h⟩, fun ⟨_, h, hb⟩ => by cases h; exact hb ▸ rfl⟩
  | refused issues => exact ⟨nofun, fun ⟨_, h, _⟩ => nomatch h⟩

/-- Two parts are read together if each of them is. -/
theorem seq_eq_read_iff {f : Checked (α → β)} {c : Checked α} {b : β} :
    f <*> c = .read b ↔ ∃ g a, f = .read g ∧ c = .read a ∧ g a = b := by
  cases f with
  | refused issues => exact ⟨nofun, fun ⟨_, _, h, _⟩ => nomatch h⟩
  | read g =>
    cases c with
    | refused issues => exact ⟨nofun, fun ⟨_, _, _, h, _⟩ => nomatch h⟩
    | read a =>
      refine ⟨fun h => ⟨g, a, rfl, rfl, read.inj h⟩, ?_⟩
      rintro ⟨_, _, hg, ha, rfl⟩
      cases hg
      cases ha
      rfl

/-- Where something stands does not matter to whether it is read. -/
theorem under_eq_read_iff {p : Place} {c : Checked α} {a : α} :
    c.under p = .read a ↔ c = .read a := by
  cases c <;> simp [under]

theorem toOption_under (p : Place) (c : Checked α) : (c.under p).toOption = c.toOption := by
  cases c <;> rfl

/-- What follows is only read after what comes first. -/
theorem followedBy_eq_read_iff {c : Checked α} {next : α → Checked β} {b : β} :
    c.followedBy next = .read b ↔ ∃ a, c = .read a ∧ next a = .read b := by
  cases c <;> simp [followedBy]

/-- All are read if each is. -/
theorem all_eq_read_iff {cs : List (Checked α)} {as : List α} :
    all cs = .read as ↔ cs = as.map .read := by
  induction cs generalizing as with
  | nil => cases as <;> simp [all]
  | cons c cs ih =>
    have hcons : all (c :: cs) = (List.cons <$> c) <*> all cs := rfl
    rw [hcons, seq_eq_read_iff]
    simp only [map_eq_read_iff, ih]
    constructor
    · rintro ⟨_, rest, ⟨a, rfl, rfl⟩, rfl, rfl⟩
      rfl
    · intro h
      cases as with
      | nil => cases h
      | cons a rest =>
        obtain ⟨rfl, rfl⟩ := List.cons.inj h
        exact ⟨List.cons a, rest, ⟨a, rfl, rfl⟩, rfl, rfl⟩

/-- Two outcomes agree: the same was read, or both were refused. -/
def Agree (c c' : Checked α) : Prop := c.toOption = c'.toOption

namespace Agree

variable {c c' : Checked α}

theorem refl (c : Checked α) : Agree c c := rfl

theorem map (f : α → β) (h : Agree c c') : Agree (f <$> c) (f <$> c') := by
  have hmap : ∀ c : Checked α, (f <$> c).toOption = c.toOption.map f := by
    intro c
    cases c <;> rfl
  rw [Agree, hmap, hmap, h]

theorem seq {f f' : Checked (α → β)} (hf : Agree f f') (h : Agree c c') :
    Agree (f <*> c) (f' <*> c') := by
  have hseq : ∀ (f : Checked (α → β)) (c : Checked α),
      (f <*> c).toOption = f.toOption.bind fun g => c.toOption.map g := by
    intro f c
    cases f <;> cases c <;> rfl
  rw [Agree, hseq, hseq, hf, h]

theorem under (h : Agree c c') (p p' : Place) : Agree (c.under p) (c'.under p') := by
  rw [Agree, toOption_under, toOption_under, h]

/-- Outcomes that agree are followed by such. -/
theorem followedBy (h : Agree c c') {next next' : α → Checked β}
    (hnext : ∀ a, c = .read a → Agree (next a) (next' a)) :
    Agree (c.followedBy next) (c'.followedBy next') := by
  cases c with
  | refused issues =>
    cases c' with
    | refused issues' => rfl
    | read a => cases h
  | read a =>
    cases c' with
    | refused issues => cases h
    | read a' =>
      cases h
      exact hnext a rfl

/-- Lists of outcomes agree if they do one by one. -/
theorem all {cs cs' : List (Checked α)} (h : List.Forall₂ Agree cs cs') :
    Agree (all cs) (Checked.all cs') := by
  induction h with
  | nil => exact refl _
  | cons h _ ih => exact (h.map List.cons).seq ih

end Agree

end Checked

end CallFlow.Schema
