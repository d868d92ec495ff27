import CallFlow.Decimal
import Mathlib.Algebra.Order.Field.Power
import Mathlib.Algebra.Order.Floor.Semifield
import Mathlib.Data.Rat.Floor
import Mathlib.Tactic.FieldSimp
import Mathlib.Tactic.Linarith
import Mathlib.Tactic.Positivity
import Mathlib.Tactic.Ring

namespace CallFlow.Decimal

/-- The number that a decimal stands for. -/
def toRat (d : Decimal) : ℚ := d.digits * 10 ^ d.exponent

namespace Ratio

/-- The number that a fraction stands for. -/
def toRat (a : Ratio) : ℚ := a.num / a.den

theorem den_scaled_pos {base : Nat} (hbase : 0 < base) (m : Nat) (e : Int) :
    0 < (scaled m base e).den := by
  unfold scaled
  split
  · exact Nat.one_pos
  · exact Nat.pow_pos hbase

theorem num_scaled_pos {m base : Nat} (hm : 0 < m) (hbase : 0 < base) (e : Int) :
    0 < (scaled m base e).num := by
  unfold scaled
  split
  · exact Nat.mul_pos hm (Nat.pow_pos hbase)
  · exact hm

theorem toRat_scaled {base : Nat} (hbase : 0 < base) (m : Nat) (e : Int) :
    (scaled m base e).toRat = m * (base : ℚ) ^ e := by
  have hne : (base : ℚ) ≠ 0 := by positivity
  unfold scaled toRat
  split
  · rename_i he
    lift e to ℕ using he
    simp
  · rename_i he
    obtain ⟨n, rfl⟩ : ∃ n : ℕ, e = -(n : ℤ) := ⟨(-e).toNat, by omega⟩
    simp [div_eq_mul_inv]

variable {a : Ratio}

theorem mul_den_eq (ha : 0 < a.den) : a.toRat * a.den = a.num := by
  unfold toRat
  have hne : (a.den : ℚ) ≠ 0 := by positivity
  field_simp

/-- Fractions compare as their products crosswise. -/
theorem toRat_lt_toRat_iff {b : Ratio} (ha : 0 < a.den) (hb : 0 < b.den) :
    a.toRat < b.toRat ↔ a.num * b.den < b.num * a.den := by
  unfold toRat
  rw [div_lt_div_iff₀ (by positivity) (by positivity)]
  exact_mod_cast Iff.rfl

/-- Fractions are compared by cross multiplication. -/
theorem toRat_le_toRat_iff {b : Ratio} (ha : 0 < a.den) (hb : 0 < b.den) :
    a.toRat ≤ b.toRat ↔ a.num * b.den ≤ b.num * a.den := by
  rw [← not_lt, toRat_lt_toRat_iff hb ha, not_lt]

theorem toRat_grid (d : Nat) (k : Int) : (scaled d 10 k).toRat = d * 10 ^ k := by
  simpa using toRat_scaled (by decide : 0 < 10) d k

theorem compareGrid_eq_lt_iff (ha : 0 < a.den) {d : Nat} {k : Int} :
    a.compareGrid d k = .lt ↔ a.toRat < d * 10 ^ k := by
  rw [← toRat_grid, toRat_lt_toRat_iff ha (den_scaled_pos (by decide) d k), compareGrid]
  exact Nat.compare_eq_lt

theorem compareGrid_eq_gt_iff (ha : 0 < a.den) {d : Nat} {k : Int} :
    a.compareGrid d k = .gt ↔ d * 10 ^ k < a.toRat := by
  rw [← toRat_grid, toRat_lt_toRat_iff (den_scaled_pos (by decide) d k) ha, compareGrid]
  exact Nat.compare_eq_gt

theorem compareGrid_eq_eq_iff (ha : 0 < a.den) {d : Nat} {k : Int} :
    a.compareGrid d k = .eq ↔ a.toRat = d * 10 ^ k := by
  have hlt := compareGrid_eq_lt_iff ha (d := d) (k := k)
  have hgt := compareGrid_eq_gt_iff ha (d := d) (k := k)
  cases h : a.compareGrid d k with
  | lt => simpa [h] using (hlt.1 h).ne
  | gt => simpa [h] using (hgt.1 h).ne'
  | eq =>
    rw [h] at hlt hgt
    simp only [reduceCtorEq, false_iff, not_lt, true_iff] at hlt hgt ⊢
    exact le_antisymm hgt hlt

/-- The grid point below a fraction is its whole number of steps. -/
theorem floorGrid_eq_floor (ha : 0 < a.den) (k : Int) :
    a.floorGrid k = ⌊a.toRat / 10 ^ k⌋₊ := by
  have hgrid : 0 < (scaled 1 10 k).den := den_scaled_pos (by decide) 1 k
  have hstep : ((scaled 1 10 k).num : ℚ) = 10 ^ k * (scaled 1 10 k).den := by
    rw [← mul_den_eq hgrid, toRat_grid]
    simp
  have hpow : (10 : ℚ) ^ k ≠ 0 := by positivity
  have heq : a.toRat / 10 ^ k =
      ((a.num * (scaled 1 10 k).den : ℕ) : ℚ) / (((scaled 1 10 k).num * a.den : ℕ) : ℚ) := by
    push_cast
    rw [hstep]
    unfold toRat
    field_simp
  rw [heq, Nat.floor_div_eq_div]
  rfl

/-- The grid point below a fraction is no larger than it. -/
theorem floorGrid_mul_le (ha : 0 < a.den) (k : Int) : a.floorGrid k * 10 ^ k ≤ a.toRat := by
  rw [floorGrid_eq_floor ha, ← le_div_iff₀ (by positivity)]
  exact Nat.floor_le (by unfold toRat; positivity)

/-- The next grid point is beyond the fraction. -/
theorem lt_floorGrid_succ_mul (ha : 0 < a.den) (k : Int) :
    a.toRat < ((a.floorGrid k + 1 : ℕ) : ℚ) * 10 ^ k := by
  rw [floorGrid_eq_floor ha, ← div_lt_iff₀ (by positivity)]
  exact_mod_cast Nat.lt_floor_add_one _

end Ratio

/-- A number is less than the power of ten with as many zeros as it has digits. -/
theorem lt_pow_digitCount (n : Nat) : n < 10 ^ digitCount n :=
  (Nat.length_toDigits_le_iff (by decide) Nat.length_toDigits_pos).1 le_rfl

theorem pow_pred_digitCount_le {n : Nat} (hn : 0 < n) : 10 ^ (digitCount n - 1) ≤ n := by
  by_contra hlt
  have hpos : 0 < digitCount n := Nat.length_toDigits_pos
  rcases Nat.eq_zero_or_pos (digitCount n - 1) with hzero | hpred
  · rw [hzero] at hlt
    omega
  · have hle := (Nat.length_toDigits_le_iff (b := 10) (by decide) hpred).2 (not_le.1 hlt)
    have : digitCount n ≤ digitCount n - 1 := hle
    omega

/-- The first digit of a fraction, found after a shift by which it comes to one at least. -/
theorem Ratio.pow_digitCount_le {a : Ratio} (shift : Nat)
    (hsmall : (10 : ℚ) ^ (-shift : Int) ≤ a.toRat) :
    (10 : ℚ) ^ ((digitCount (a.num * Nat.pow 10 shift / a.den) : Int) - (shift + 1)) ≤
      a.toRat := by
  have h : 1 ≤ a.toRat * 10 ^ shift := by
    have hscaled := mul_le_mul_of_nonneg_right hsmall (by positivity : (0 : ℚ) ≤ 10 ^ shift)
    rwa [zpow_neg, zpow_natCast, inv_mul_cancel₀ (by positivity)] at hscaled
  have hshifted : a.toRat * 10 ^ shift = ((a.num * 10 ^ shift : ℕ) : ℚ) / (a.den : ℕ) := by
    unfold toRat
    push_cast
    ring
  obtain ⟨n, hn⟩ : ∃ n, n = a.num * Nat.pow 10 shift / a.den := ⟨_, rfl⟩
  have hfloor : n = ⌊a.toRat * 10 ^ shift⌋₊ := by
    rw [hn, hshifted, Nat.floor_div_eq_div]
    rfl
  have hpos : 0 < n := by
    rw [hfloor]
    exact Nat.floor_pos.2 h
  have hdigits : ((10 ^ (digitCount n - 1) : ℕ) : ℚ) ≤ a.toRat * 10 ^ shift := by
    have hle : (n : ℚ) ≤ a.toRat * 10 ^ shift := by
      rw [hfloor]
      exact Nat.floor_le (zero_le_one.trans h)
    exact (Nat.cast_le.2 (pow_pred_digitCount_le hpos)).trans hle
  have hcount : 0 < digitCount n := Nat.length_toDigits_pos
  have hexponent :
      (digitCount n : Int) - (shift + 1) = ((digitCount n - 1 : ℕ) : Int) - shift := by
    omega
  rw [← hn, hexponent, zpow_sub₀ (by norm_num), zpow_natCast, zpow_natCast,
    div_le_iff₀ (by positivity)]
  exact_mod_cast hdigits

/-- The magnitude of a fraction is a power of ten below it. -/
theorem Ratio.pow_magnitude_le {a : Ratio} (h : (10 : ℚ) ^ (-400 : Int) ≤ a.toRat) :
    (10 : ℚ) ^ a.magnitude ≤ a.toRat := by
  unfold magnitude
  generalize hshift : 400 = shift
  have hsmall : (10 : ℚ) ^ (-shift : Int) ≤ a.toRat := by
    rw [← hshift]
    exact h
  have hcount := pow_digitCount_le shift hsmall
  rwa [show ((shift : Int) + 1) = 401 by omega] at hcount

end CallFlow.Decimal
