import CallFlow.Proofs.Bindings
import CallFlow.Proofs.Json.Nesting
import CallFlow.Proofs.Json.Written

namespace CallFlow

namespace Bindings

variable {b new : Bindings} {name : String} {v : Value} {m : String × Value}

/-- After setting, an entry is the new one or an old one. -/
theorem eq_or_mem_of_mem_set (h : m ∈ b.set name v) : m = (name, v) ∨ m ∈ b := by
  induction b with
  | nil => exact Or.inl (List.mem_singleton.1 h)
  | cons entry rest ih =>
    obtain ⟨n, w⟩ := entry
    unfold set at h
    split at h
    · rename_i hn
      rw [hn] at h
      exact (List.mem_cons.1 h).imp_right (List.mem_cons_of_mem _)
    · obtain rfl | hrest := List.mem_cons.1 h
      · exact Or.inr List.mem_cons_self
      · exact (ih hrest).imp_right (List.mem_cons_of_mem _)

/-- After an update, an entry is a new one or an old one. -/
theorem mem_or_mem_of_mem_update (h : m ∈ b.update new) : m ∈ b ∨ m ∈ new := by
  induction new generalizing b with
  | nil => exact Or.inl h
  | cons entry rest ih =>
    obtain hset | hrest := ih (b := b.set entry.1 entry.2) h
    · obtain rfl | hb := eq_or_mem_of_mem_set hset
      · exact Or.inr List.mem_cons_self
      · exact Or.inl hb
    · exact Or.inr (List.mem_cons_of_mem _ hrest)

/-- The members of an object are among those it is made from. -/
theorem mem_of_mem_ofMembers {ms : List (String × Value)} (h : m ∈ ofMembers ms) : m ∈ ms :=
  (mem_or_mem_of_mem_update h).resolve_left List.not_mem_nil

end Bindings

namespace Json

open Text

/-- Digits stand for a number below the power of ten of their count. -/
theorem digitsNat_lt {cs : List Char} (h : Digits cs) : digitsNat cs < 10 ^ cs.length := by
  induction cs using List.reverseRecOn with
  | nil => exact Nat.one_pos
  | append_singleton cs c ih =>
    have hcs := ih fun d hd => h d (List.mem_append_left _ hd)
    have hc : c.toNat - 48 ≤ 9 := by
      have hdigit := h c (List.mem_append_right _ (List.mem_singleton.2 rfl))
      obtain ⟨hlow, hhigh⟩ := Char.isDigit_iff_toNat.1 hdigit
      exact Nat.sub_le_sub_right hhigh 48
    have hstep : digitsNat (cs ++ [c]) = 10 * digitsNat cs + (c.toNat - 48) := by
      rw [digitsNat, List.foldl_append]
      rfl
    rw [hstep, List.length_append, List.length_singleton, Nat.pow_succ]
    omega

/-- A number that is read can be written, since its digits are no more than are read. -/
theorem isWritable_of_value {room : Nat} {p : Numeral} (hp : p.IsProper) {negative : Bool}
    {v : Value} (h : p.value negative = .ok v) : isWritable room v = true := by
  unfold Numeral.value at h
  split at h
  · split at h
    · cases h
    · rename_i hlength
      cases h
      have hdigits : Decimal.digitCount (digitsNat p.whole) ≤ maxDigits := by
        refine Nat.toDigits_length 10 _ maxDigits (by decide) ?_
        exact (digitsNat_lt hp.whole).trans_le (Nat.pow_le_pow_right (by decide) (not_lt.1 hlength))
      refine decide_eq_true ?_
      cases negative <;> simpa using hdigits
  · cases h
    rfl

/-- What a phrase stands for can be written in the room around it. -/
def Phrase.IsWritable (room : Nat) : Phrase → Prop
  | .value v => isWritable room v = true
  | .items vs | .moreItems vs => ∀ v ∈ vs, isWritable room v = true
  | .members ms | .moreMembers ms => ∀ m ∈ ms, isWritable room m.2 = true

/-- What is spelled in some room can be written in it. -/
theorem Spells.isWritable {room : Nat} {cs : List Char} {phrase : Phrase}
    (h : Spells room cs phrase) : phrase.IsWritable room := by
  induction h with
  | word h =>
    simp only [words, List.mem_cons, Prod.mk.injEq, List.not_mem_nil, or_false] at h
    obtain ⟨-, rfl⟩ | ⟨-, rfl⟩ | ⟨-, rfl⟩ | ⟨-, rfl⟩ | ⟨-, rfl⟩ | ⟨-, rfl⟩ := h <;> rfl
  | number hp h | negative hp h => exact isWritable_of_value hp h
  | text => rfl
  | noItems | noMembers => rfl
  | list _ _ ih =>
    rw [Phrase.IsWritable, Json.isWritable, Nat.add_sub_cancel, areWritable_iff.2 ih]
    simp
  | @object room _ _ ms _ _ ih =>
    have hmembers : membersAreWritable room (Bindings.ofMembers ms) = true :=
      membersAreWritable_iff.2 fun m hm => ih m (Bindings.mem_of_mem_ofMembers hm)
    rw [Phrase.IsWritable, Json.isWritable, Nat.add_sub_cancel, hmembers]
    simp
  | item _ _ _ hv ih => exact List.forall_mem_cons.2 ⟨hv, ih⟩
  | member _ _ _ _ _ _ hv ih => exact List.forall_mem_cons.2 ⟨hv, ih⟩
  | endItems | endMembers => exact List.forall_mem_nil _
  | moreItems _ _ ih | moreMembers _ _ ih => exact ih

/-- Whatever is read can be written again. -/
theorem isWritable_of_read {s : String} {v : Value} (h : read s = .ok v) :
    isWritable maxNesting v = true := by
  obtain ⟨-, used, -, -, hused, -, -⟩ := read_eq_ok_iff.1 h
  exact hused.isWritable

/-- JSON text of a value that can not be written is nested too deep to be read. -/
theorem read_eq_nestedTooDeep {s : String} {room : Nat} {v : Value}
    (h : readChars room s.toList = .ok v) (hv : isWritable maxNesting v = false) :
    read s = .error .nestedTooDeep := by
  refine (read_eq_of_spells h).resolve_left fun hread => ?_
  cases hv.symm.trans (isWritable_of_read hread)

/-- So many lists, each the only item of the one before. -/
def nest : Nat → Value
  | 0 => .list []
  | depth + 1 => .list [nest depth]

/-- Nested lists are writable exactly if there is room for all levels. -/
theorem isWritable_nest {room depth : Nat} :
    isWritable room (nest depth) = decide (depth < room) := by
  induction depth generalizing room with
  | zero => simp [nest, isWritable, areWritable]
  | succ depth ih =>
    simp only [nest, isWritable, areWritable, ih, Bool.and_true, ← Bool.decide_and]
    exact decide_eq_decide.2 (by omega)

theorem mapTexts_nest (f : String → String) (depth : Nat) :
    (nest depth).mapTexts f = nest depth := by
  induction depth with
  | zero => rfl
  | succ depth ih => simp [nest, Value.mapTexts, Value.mapItems, ih]

end Json

end CallFlow
