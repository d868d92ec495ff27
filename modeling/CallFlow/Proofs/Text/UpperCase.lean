import CallFlow.Text.Case
import Mathlib

namespace CallFlow.Text

/-- The code points of a list as the bits of a number. -/
def codeSet : List Nat → Nat
  | [] => 0
  | n :: ns => 1 <<< n ||| codeSet ns

/-- A bit of a set of codes tells whether a code is in it. -/
theorem testBit_codeSet (ns : List Nat) (n : Nat) : (codeSet ns).testBit n = decide (n ∈ ns) := by
  induction ns with
  | nil => simp [codeSet]
  | cons m ns ih =>
    have hone : (1 <<< m).testBit n = decide (m = n) := by
      rw [Nat.one_shiftLeft, Nat.testBit_two_pow]
    rw [codeSet, Nat.testBit_or, hone, ih]
    simp [eq_comm]

/-- Sets of codes without a common bit have no common code. -/
theorem not_mem_of_codeSet_and_eq_zero {ns ms : List Nat} (h : codeSet ns &&& codeSet ms = 0)
    {n : Nat} (hn : n ∈ ns) : n ∉ ms := by
  intro hm
  have hbit : (codeSet ns &&& codeSet ms).testBit n = true := by
    simp [Nat.testBit_and, testBit_codeSet, hn, hm]
  simp [h] at hbit

/-- The code points of a run. -/
def CaseRun.members (r : CaseRun) : List Nat :=
  List.range' r.first ((r.last - r.first) / r.stride + 1) r.stride

/-- A code in a run is listed. -/
theorem CaseRun.mem_members_of_has {r : CaseRun} {n : Nat} (h : r.has n) : n ∈ r.members := by
  simp only [has, Bool.and_eq_true, decide_eq_true_eq, beq_iff_eq] at h
  obtain ⟨⟨hfirst, hlast⟩, hstride⟩ := h
  refine List.mem_range'.2 ⟨(n - r.first) / r.stride, ?_, ?_⟩
  · exact Nat.lt_succ_of_le (Nat.div_le_div_right (Nat.sub_le_sub_right hlast _))
  · rw [Nat.mul_div_cancel' (Nat.dvd_of_mod_eq_zero hstride)]
    omega

/-- The code points that upper case changes. -/
def lowerCodes : List Nat := upperRuns.flatMap CaseRun.members ++ upperLists.map Prod.fst

/-- The code points that upper case changes others into. -/
def upperCodes : List Nat :=
  upperRuns.flatMap (fun r => r.members.map fun (n : Nat) => (n + r.shift).toNat) ++
    upperLists.flatMap Prod.snd

/-- No upper case code is a lower case one. -/
theorem not_mem_lowerCodes_of_mem_upperCodes {n : Nat} (h : n ∈ upperCodes) : n ∉ lowerCodes :=
  not_mem_of_codeSet_and_eq_zero (by decide +kernel) h

/-- Of the ASCII characters upper case changes the small letters only. -/
theorem le_of_mem_lowerCodes {n : Nat} (h : n ∈ lowerCodes) : 0x61 ≤ n ∧ n ≤ 0x7A ∨ 128 ≤ n := by
  have hall : lowerCodes.all (fun n => (0x61).ble n && n.ble 0x7A || (128).ble n) := by
    decide +kernel
  have hn := List.all_eq_true.1 hall n h
  simpa using hn

private theorem isLower_iff {c : Char} : c.isLower ↔ 0x61 ≤ c.toNat ∧ c.toNat ≤ 0x7A := by
  simp [Char.isLower, UInt32.le_iff_toNat_le]

private theorem toNat_toUpper_le (c : Char) : c.toUpper.toNat ≤ c.toNat := by
  by_cases hlower : c.isLower
  · rw [Char.toUpper_eq_of_isLower hlower, Char.toNat_ofNat]
    split <;> omega
  · rw [Char.toUpper_eq_of_not_isLower hlower]

private theorem toNat_toUpper_not_mem {c : Char} (h : c.toNat < 128) :
    c.toUpper.toNat ∉ lowerCodes := by
  intro hmem
  have hle := toNat_toUpper_le c
  obtain hsmall | hlarge := le_of_mem_lowerCodes hmem
  · simpa using isLower_iff.2 hsmall
  · omega

private theorem toNat_ofNat_not_mem {n : Nat} (h : n ∈ upperCodes) :
    (Char.ofNat n).toNat ∉ lowerCodes := by
  rw [Char.toNat_ofNat]
  split
  · exact not_mem_lowerCodes_of_mem_upperCodes h
  · intro hzero
    simpa using le_of_mem_lowerCodes hzero

/-- A character that is no lower case one stays. -/
theorem mapCase_of_not_mem {c : Char} (h : c.toNat ∉ lowerCodes) :
    mapCase upperRuns upperLists c = [c] := by
  have hruns : ∀ r ∈ upperRuns, ¬r.has c.toNat := fun r hr hhas =>
    h (List.mem_append_left _ (List.mem_flatMap.2 ⟨r, hr, CaseRun.mem_members_of_has hhas⟩))
  have hlists : upperLists.lookup c.toNat = none := by
    refine List.lookup_eq_none_iff.2 fun p hp => bne_iff_ne.2 fun heq => ?_
    exact h (List.mem_append_right _ (heq ▸ List.mem_map_of_mem hp))
  rw [mapCase, List.find?_eq_none.2 hruns, hlists]

theorem upperChar_of_not_mem {c : Char} (h : c.toNat ∉ lowerCodes) : upperChar c = [c] := by
  unfold upperChar
  split
  · have hlower : ¬c.isLower := by
      intro hc
      refine h (List.mem_append_left _ (List.mem_flatMap.2 ⟨_, List.mem_cons_self, ?_⟩))
      exact CaseRun.mem_members_of_has (by simp [CaseRun.has, isLower_iff.1 hc, Nat.mod_one])
    rw [Char.toUpper_eq_of_not_isLower hlower]
  · exact mapCase_of_not_mem h

/-- What the tables map a character to, they leave as it is. -/
theorem mapCase_or_not_mem {c c' : Char} (h : c' ∈ mapCase upperRuns upperLists c) :
    mapCase upperRuns upperLists c = [c] ∨ c'.toNat ∉ lowerCodes := by
  unfold mapCase at h ⊢
  split at h
  next r hfind =>
    rw [List.mem_singleton] at h
    subst h
    have hhas := List.find?_some hfind
    refine Or.inr (toNat_ofNat_not_mem (List.mem_append_left _ ?_))
    exact List.mem_flatMap.2 ⟨r, List.mem_of_find?_eq_some hfind,
      List.mem_map_of_mem (CaseRun.mem_members_of_has hhas)⟩
  next hnone =>
    split at h
    next ns hlookup =>
      obtain ⟨n, hn, rfl⟩ := List.mem_map.1 h
      obtain ⟨front, rest, hsplit, -⟩ := List.lookup_eq_some_iff.1 hlookup
      refine Or.inr (toNat_ofNat_not_mem (List.mem_append_right _ ?_))
      refine List.mem_flatMap.2 ⟨(c.toNat, ns), ?_, hn⟩
      rw [hsplit]
      exact List.mem_append_right _ List.mem_cons_self
    next => exact Or.inl rfl

/-- A character in upper case is its own upper case. -/
theorem upperChar_of_mem_upperChar {c c' : Char} (h : c' ∈ upperChar c) : upperChar c' = [c'] := by
  by_cases hascii : c.toNat < 128
  · rw [upperChar, if_pos hascii, List.mem_singleton] at h
    exact upperChar_of_not_mem (h ▸ toNat_toUpper_not_mem hascii)
  · rw [upperChar, if_neg hascii] at h
    obtain hself | hnot := mapCase_or_not_mem h
    · rw [hself, List.mem_singleton] at h
      rw [h, upperChar, if_neg hascii, hself]
    · exact upperChar_of_not_mem hnot

/-- Every character has an upper case. -/
theorem upperChar_ne_nil (c : Char) : upperChar c ≠ [] := by
  have hlists : ∀ p ∈ upperLists, p.2 ≠ [] := by decide +kernel
  unfold upperChar mapCase
  split
  · exact List.cons_ne_nil _ _
  split
  · exact List.cons_ne_nil _ _
  split
  next ns hlookup =>
    obtain ⟨front, rest, hsplit, -⟩ := List.lookup_eq_some_iff.1 hlookup
    have hmem : (c.toNat, ns) ∈ upperLists := by simp [hsplit]
    simpa using hlists _ hmem
  · exact List.cons_ne_nil _ _

end CallFlow.Text

namespace CallFlow

/-- Upper case is idempotent. -/
theorem upperText_upperText (s : String) : upperText (upperText s) = upperText s := by
  have hchar : ∀ c, (Text.upperChar c).flatMap Text.upperChar = Text.upperChar c := by
    intro c
    rw [List.flatMap_congr fun _ h => Text.upperChar_of_mem_upperChar h, List.flatMap_singleton']
  simp only [upperText, String.toList_ofList, List.flatMap_assoc, hchar]

/-- Upper case leaves something of a text. -/
theorem upperText_ne_empty {s : String} (h : s ≠ "") : upperText s ≠ "" := by
  intro hempty
  have hnil : s.toList.flatMap Text.upperChar = [] := by
    rw [← String.toList_ofList (l := s.toList.flatMap Text.upperChar)]
    exact congrArg String.toList hempty
  cases hs : s.toList with
  | nil => exact h (String.toList_eq_nil_iff.1 hs)
  | cons c cs =>
    rw [hs, List.flatMap_cons, List.append_eq_nil_iff] at hnil
    exact Text.upperChar_ne_nil c hnil.1

end CallFlow
