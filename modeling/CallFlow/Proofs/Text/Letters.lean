import CallFlow.Proofs.Text.Trim
import Mathlib.Data.List.Basic

namespace CallFlow.Text

/-- Only capital letters of ASCII are lowered. -/
theorem toLower_cases (c : Char) :
    c.toLower = c ∨ 65 ≤ c.toNat ∧ c.toNat ≤ 90 ∧ c.toLower.toNat = c.toNat + 32 := by
  unfold Char.toLower
  split
  · rename_i h
    simp only [ge_iff_le, UInt32.le_iff_toNat_le, Char.toNat_val] at h
    refine Or.inr ⟨h.1, h.2, ?_⟩
    have hadd := UInt32.toNat_add c.val ('a'.val - 'A'.val)
    have hle : c.toNat ≤ 90 := h.2
    rw [Char.toNat_val, show ('a'.val - 'A'.val).toNat = 32 from rfl] at hadd
    rw [← Char.toNat_val, hadd]
    omega
  · exact Or.inl rfl

/-- A word of small letters. -/
def Small (word : String) : Prop := ∀ c ∈ word.toList, 97 ≤ c.toNat ∧ c.toNat ≤ 122

instance (word : String) : Decidable (Small word) :=
  decidable_of_iff (word.toList.all (fun c => decide (97 ≤ c.toNat ∧ c.toNat ≤ 122)) = true) (by
    simp only [Small, List.all_eq_true, decide_eq_true_eq])

/-- A word of small letters, each of which may be written as a capital. -/
def Spells (word : String) (cs : List Char) : Prop := cs.map Char.toLower = word.toList

/-- What spells a word are letters. -/
theorem Spells.letter {word : String} {cs : List Char} (h : Spells word cs)
    (hword : Small word) :
    ∀ c ∈ cs, 65 ≤ c.toNat ∧ c.toNat ≤ 122 := by
  intro c hc
  have hmem : c.toLower ∈ word.toList := h ▸ List.mem_map_of_mem hc
  have hlower := hword _ hmem
  rcases toLower_cases c with heq | ⟨hlow, hhigh, -⟩
  · rw [heq] at hlower
    omega
  · omega

/-- What spells a word begins with its first letter. -/
theorem Spells.exists_cons {word : String} {cs : List Char} (h : Spells word cs) (letter : Char)
    (hword : word.toList.head? = some letter) : ∃ c rest, cs = c :: rest ∧ c.toLower = letter := by
  rw [← h] at hword
  cases cs with
  | nil => cases hword
  | cons c rest => exact ⟨c, rest, rfl, Option.some.inj hword⟩

theorem Spells.ne_nil {word : String} {cs : List Char} (h : Spells word cs)
    (hword : word.toList ≠ []) : cs ≠ [] := by
  rintro rfl
  exact hword h.symm

theorem isBlank_of_letter {c : Char} (h : 65 ≤ c.toNat ∧ c.toNat ≤ 122) : isBlank c = false := by
  simp [isBlank, inRanges, blankRanges]
  omega

/-- What spells a word has no blank at either end. -/
theorem Spells.tight {word : String} {cs : List Char} (h : Spells word cs)
    (hword : Small word) : Tight cs :=
  tight_of_forall fun c hc => isBlank_of_letter (h.letter hword c hc)

end CallFlow.Text
