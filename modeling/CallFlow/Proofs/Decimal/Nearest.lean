import CallFlow.Proofs.Decimal.Ratio

namespace CallFlow.Decimal

/-- The significand and exponent of a double above zero. The significand has its leading bit unless
the exponent is the least there is. -/
structure IsFinite (m : Nat) (q : Int) : Prop where
  pos : 0 < m
  lt : m < 2 * exponentWeight
  least : -1074 ≤ q
  greatest : q ≤ 971
  normal : q = -1074 ∨ exponentWeight ≤ m

/-- The bits of the double `m · 2 ^ q`, without its sign. -/
def code (m : Nat) (q : Int) : Nat := (q + 1074).toNat * exponentWeight + m

/-- Rounding a number to the nearest whole number, of two to the even one, leads to `m`. -/
def Near (m : Nat) (x : ℚ) : Prop := |x - m| < 1 / 2 ∨ m % 2 = 0 ∧ |x - m| = 1 / 2

/-- Rounding a number leads to the double `m · 2 ^ q`. Below a power of two the doubles are twice as
dense as above. -/
structure RoundsTo (m : Nat) (q : Int) (v : ℚ) : Prop where
  near : Near m (v / 2 ^ q)
  dense : m = exponentWeight → -1074 < q → m - 1 / 4 ≤ v / 2 ^ q

/-- The whole number nearest to `n / d`, of two the even one. -/
def roundEven (n d : Nat) : Nat :=
  if 2 * (n % d) < d || (2 * (n % d) == d && n / d % 2 == 0) then n / d else n / d + 1

/-- Nearness to a fraction, in whole numbers. -/
theorem Near.bounds {n d m : Nat} (hd : 0 < d) (h : Near m (n / d)) :
    2 * (m * d) ≤ 2 * n + d ∧ 2 * n ≤ 2 * (m * d) + d ∧
      (2 * (m * d) = 2 * n + d ∨ 2 * n = 2 * (m * d) + d → m % 2 = 0) := by
  have hpos : (0 : ℚ) < d := by exact_mod_cast hd
  have hscale : ((n : ℚ) / d - m) * d = n - m * d := by
    field_simp
  rcases h with hlt | ⟨heven, heq⟩
  · obtain ⟨hlow, hhigh⟩ := abs_lt.1 hlt
    have hlow' := mul_lt_mul_of_pos_right hlow hpos
    have hhigh' := mul_lt_mul_of_pos_right hhigh hpos
    rw [hscale] at hlow' hhigh'
    have hbelow : 2 * (m * d) < 2 * n + d := by
      have : (2 * (m * d) : ℚ) < 2 * n + d := by linarith
      exact_mod_cast this
    have habove : 2 * n < 2 * (m * d) + d := by
      have : (2 * n : ℚ) < 2 * (m * d) + d := by linarith
      exact_mod_cast this
    omega
  · obtain ⟨hlow, hhigh⟩ := abs_le.1 heq.le
    have hlow' := mul_le_mul_of_nonneg_right hlow hpos.le
    have hhigh' := mul_le_mul_of_nonneg_right hhigh hpos.le
    rw [hscale] at hlow' hhigh'
    have hbelow : 2 * (m * d) ≤ 2 * n + d := by
      have : (2 * (m * d) : ℚ) ≤ 2 * n + d := by linarith
      exact_mod_cast this
    have habove : 2 * n ≤ 2 * (m * d) + d := by
      have : (2 * n : ℚ) ≤ 2 * (m * d) + d := by linarith
      exact_mod_cast this
    omega

/-- The only whole number that is near is the rounded one. -/
theorem roundEven_of_near {n d m : Nat} (hd : 0 < d) (h : Near m (n / d)) : roundEven n d = m := by
  obtain ⟨hlow, hhigh, heven⟩ := h.bounds hd
  have hsplit : d * (n / d) + n % d = n := Nat.div_add_mod n d
  have hrest : n % d < d := Nat.mod_lt n hd
  unfold roundEven
  generalize n / d = whole at hsplit ⊢
  generalize n % d = rest at hsplit hrest ⊢
  subst hsplit
  have hwhole : whole = m ∨ whole + 1 = m := by
    by_contra hne
    rcases Nat.lt_or_ge m whole with habove | hbelow
    · have := Nat.mul_le_mul_left d habove
      rw [Nat.mul_succ, Nat.mul_comm d m] at this
      omega
    · have hle : whole + 2 ≤ m := by omega
      have := Nat.mul_le_mul_left d hle
      rw [Nat.mul_add, Nat.mul_comm d m] at this
      omega
  rcases hwhole with rfl | rfl
  · rw [Nat.mul_comm d whole] at hlow hhigh heven
    have hround : 2 * rest < d ∨ 2 * rest = d ∧ whole % 2 = 0 := by omega
    simp [hround]
  · have hsucc : (whole + 1) * d = whole * d + d := Nat.succ_mul whole d
    rw [Nat.mul_comm d whole, hsucc] at hlow hhigh heven
    have hround : ¬ (2 * rest < d ∨ 2 * rest = d ∧ whole % 2 = 0) := by omega
    simp [hround]

namespace Ratio

/-- The exponent of the leading bit of a fraction. -/
def log2 (r : Ratio) : Int :=
  let a : Int := r.num.log2
  let b : Int := r.den.log2
  let reach := Ratio.scaled r.den 2 (a - b)
  if reach.num ≤ r.num * reach.den then a - b else a - b - 1

/-- The exponent of the last bit of the double nearest to a fraction. -/
def unitExponent (r : Ratio) : Int := max (r.log2 - 52) (-1074)

/-- A fraction rounded to a multiple of `2 ^ q`. -/
def roundTo (r : Ratio) (q : Int) : Nat :=
  roundEven (r.num * (scaled 1 2 q).den) (r.den * (scaled 1 2 q).num)

/-- The binary logarithm of a fraction is the power of two just below it. -/
theorem log2_spec {r : Ratio} (hnum : 0 < r.num) (hden : 0 < r.den) :
    (2 : ℚ) ^ r.log2 ≤ r.toRat ∧ r.toRat < 2 ^ (r.log2 + 1) := by
  have hnumLow : (2 : ℚ) ^ (r.num.log2 : Int) ≤ r.num := by
    exact_mod_cast Nat.log2_self_le hnum.ne'
  have hnumHigh : (r.num : ℚ) < 2 ^ ((r.num.log2 : Int) + 1) := by
    exact_mod_cast Nat.lt_log2_self
  have hdenLow : (2 : ℚ) ^ (r.den.log2 : Int) ≤ r.den := by
    exact_mod_cast Nat.log2_self_le hden.ne'
  have hdenHigh : (r.den : ℚ) < 2 ^ ((r.den.log2 : Int) + 1) := by
    exact_mod_cast Nat.lt_log2_self
  have hpos : (0 : ℚ) < r.den := by exact_mod_cast hden
  have hreach : (r.den : ℚ) * 2 ^ ((r.num.log2 : Int) - r.den.log2) ≤ r.num ↔
      (scaled r.den 2 ((r.num.log2 : Int) - r.den.log2)).num ≤
        r.num * (scaled r.den 2 ((r.num.log2 : Int) - r.den.log2)).den := by
    have hden' := den_scaled_pos (by decide : 0 < 2) r.den ((r.num.log2 : Int) - r.den.log2)
    have hvalue := toRat_scaled (by decide : 0 < 2) r.den ((r.num.log2 : Int) - r.den.log2)
    have hcompare := toRat_le_toRat_iff (b := ⟨r.num, 1⟩) hden' Nat.one_pos
    rw [hvalue] at hcompare
    simpa [toRat] using hcompare
  have htwo : (2 : ℚ) ≠ 0 := two_ne_zero
  unfold log2
  simp only
  split
  · rename_i hle
    constructor
    · rw [toRat, le_div_iff₀ hpos, mul_comm]
      exact hreach.2 hle
    · rw [toRat, div_lt_iff₀ hpos, sub_add_eq_add_sub, zpow_sub₀ htwo, div_mul_eq_mul_div,
        lt_div_iff₀ (by positivity)]
      exact mul_lt_mul hnumHigh hdenLow (by positivity) (by positivity)
  · rename_i hlt
    constructor
    · rw [toRat, le_div_iff₀ hpos, sub_sub, zpow_sub₀ htwo, div_mul_eq_mul_div,
        div_le_iff₀ (by positivity)]
      exact mul_le_mul hnumLow hdenHigh.le (by positivity) (by positivity)
    · rw [toRat, div_lt_iff₀ hpos, sub_add_cancel, mul_comm]
      exact not_le.1 fun hle => hlt (hreach.1 hle)

end Ratio

theorem nearestBits_eq (r : Ratio) :
    nearestBits r =
      min (if r.roundTo r.unitExponent < exponentWeight then r.roundTo r.unitExponent
        else (r.unitExponent + 1074).toNat * exponentWeight + r.roundTo r.unitExponent)
        (2047 * exponentWeight) := rfl

namespace Ratio

variable {r : Ratio}

/-- Rounding to a unit finds the near multiple of it. -/
theorem roundTo_of_near (hden : 0 < r.den) {m : Nat} {q : Int} (h : Near m (r.toRat / 2 ^ q)) :
    r.roundTo q = m := by
  have hunit : 0 < (scaled 1 2 q).num := num_scaled_pos Nat.one_pos (by decide) q
  have hstep : ((scaled 1 2 q).num : ℚ) = 2 ^ q * (scaled 1 2 q).den := by
    have hvalue := toRat_scaled (by decide : 0 < 2) 1 q
    rw [← mul_den_eq (den_scaled_pos (by decide) 1 q), hvalue]
    simp
  have hquotient : r.toRat / 2 ^ q =
      ((r.num * (scaled 1 2 q).den : ℕ) : ℚ) / ((r.den * (scaled 1 2 q).num : ℕ) : ℚ) := by
    have hunitDen : (((scaled 1 2 q).den : ℕ) : ℚ) ≠ 0 := by
      have := den_scaled_pos (by decide : 0 < 2) 1 q
      positivity
    push_cast
    rw [hstep]
    unfold toRat
    field_simp
  rw [hquotient] at h
  exact roundEven_of_near (Nat.mul_pos hden hunit) h

end Ratio

section Rounding

variable {m : Nat} {q : Int} {v : ℚ}

/-- What is near is at most half a unit away. -/
theorem Near.bounds_le (h : Near m v) : m - 1 / 2 ≤ v ∧ v ≤ m + 1 / 2 := by
  have hle : |v - m| ≤ 1 / 2 := h.elim le_of_lt fun heq => heq.2.le
  obtain ⟨hlow, hhigh⟩ := abs_le.1 hle
  constructor <;> linarith

theorem weight_eq : (exponentWeight : ℚ) = 2 ^ (52 : Int) := by norm_num [exponentWeight]

/-- Powers of two on both sides of a number order their exponents. -/
theorem lt_of_zpow_le_lt {a b : Int} (ha : (2 : ℚ) ^ a ≤ v) (hb : v < 2 ^ b) : a < b :=
  (zpow_lt_zpow_iff_right₀ one_lt_two).1 (ha.trans_lt hb)

/-- The last bit of the double that a number is rounded to has the exponent of the last bit of that
number, save for a number just below the power of two that it is rounded to. -/
theorem RoundsTo.unitExponent_eq (h : RoundsTo m q v) (hfinite : IsFinite m q) {r : Ratio}
    (hnum : 0 < r.num) (hden : 0 < r.den) (hr : r.toRat = v) :
    r.unitExponent = q ∧ (q = -1074 ∨ exponentWeight ≤ v / 2 ^ q) ∨
      r.unitExponent = q - 1 ∧ m = exponentWeight ∧ -1074 < q ∧ v / 2 ^ q < exponentWeight := by
  obtain ⟨hlow, hhigh⟩ := Ratio.log2_spec hnum hden
  obtain ⟨hbelow, habove⟩ := h.near.bounds_le
  rw [hr] at hlow hhigh
  have hle : r.log2 - 52 ≤ q := by
    have hm : (m : ℚ) + 1 ≤ 2 * exponentWeight := by exact_mod_cast hfinite.lt
    have hv : v < 2 ^ (53 + q) := by
      rw [zpow_add₀ two_ne_zero, ← div_lt_iff₀ (by positivity), show (53 : Int) = 1 + 52 from rfl,
        zpow_add₀ two_ne_zero, zpow_one, ← weight_eq]
      linarith
    have := lt_of_zpow_le_lt hlow hv
    omega
  have hleast := hfinite.least
  unfold Ratio.unitExponent
  rcases hfinite.normal with rfl | hnormal
  · left
    exact ⟨by omega, Or.inl rfl⟩
  rcases le_or_gt (exponentWeight : ℚ) (v / 2 ^ q) with hge | hlt
  · left
    have hv : (2 : ℚ) ^ (52 + q) ≤ v := by
      rw [zpow_add₀ two_ne_zero, ← le_div_iff₀ (by positivity), ← weight_eq]
      exact hge
    have := lt_of_zpow_le_lt hv hhigh
    exact ⟨by omega, Or.inr hge⟩
  rcases eq_or_lt_of_le hleast with rfl | hq
  · left
    exact ⟨by omega, Or.inl rfl⟩
  · right
    have hm : m = exponentWeight := by
      by_contra hne
      have hsucc : (exponentWeight : ℚ) + 1 ≤ m := by
        exact_mod_cast lt_of_le_of_ne hnormal (Ne.symm hne)
      linarith
    have hdense := h.dense hm hq
    have hv : (2 : ℚ) ^ (51 + q) ≤ v := by
      have hhalf : (2 : ℚ) ^ (51 : Int) = exponentWeight / 2 := by norm_num [exponentWeight]
      have hlarge : (1 : ℚ) ≤ exponentWeight := by exact_mod_cast (by decide : 1 ≤ exponentWeight)
      rw [zpow_add₀ two_ne_zero, ← le_div_iff₀ (by positivity), hhalf]
      rw [hm] at hdense
      linarith
    have hv' : v < 2 ^ (52 + q) := by
      rw [zpow_add₀ two_ne_zero, ← div_lt_iff₀ (by positivity), ← weight_eq]
      exact hlt
    have := lt_of_zpow_le_lt hv hhigh
    have := lt_of_zpow_le_lt hlow hv'
    exact ⟨by omega, hm, hq, hlt⟩

/-- Fractions are rounded to the double that they are nearest to. -/
theorem nearestBits_of_roundsTo (h : RoundsTo m q v) (hfinite : IsFinite m q) {r : Ratio}
    (hnum : 0 < r.num) (hden : 0 < r.den) (hr : r.toRat = v) : nearestBits r = code m q := by
  have hleast := hfinite.least
  have hgreatest := hfinite.greatest
  have hlt := hfinite.lt
  have hbits : (if r.roundTo r.unitExponent < exponentWeight then r.roundTo r.unitExponent
        else (r.unitExponent + 1074).toNat * exponentWeight + r.roundTo r.unitExponent) =
      code m q := by
    rcases h.unitExponent_eq hfinite hnum hden hr with ⟨hunit, -⟩ | ⟨hunit, rfl, hq, hbelow⟩
    · have hround : r.roundTo q = m := Ratio.roundTo_of_near hden (hr ▸ h.near)
      rw [hunit, hround, code]
      split
      · rename_i hsmall
        rcases hfinite.normal with rfl | hnormal
        · simp
        · omega
      · rfl
    · have hround : r.roundTo (q - 1) = 2 * exponentWeight := by
        refine Ratio.roundTo_of_near hden ?_
        have hdense := h.dense rfl hq
        have hdouble : r.toRat / 2 ^ (q - 1) = 2 * (v / 2 ^ q) := by
          rw [hr, zpow_sub_one₀ two_ne_zero]
          field_simp
        have heven : 2 * exponentWeight % 2 = 0 := Nat.mul_mod_right 2 _
        have hclose : |2 * (v / 2 ^ q) - ((2 * exponentWeight : ℕ) : ℚ)| ≤ 1 / 2 := by
          push_cast
          rw [abs_le]
          constructor <;> linarith
        rw [hdouble]
        exact (lt_or_eq_of_le hclose).imp id fun heq => ⟨heven, heq⟩
      rw [hunit, hround, if_neg (by decide), code]
      have hshift : (q + 1074).toNat = (q - 1 + 1074).toNat + 1 := by omega
      rw [hshift, Nat.add_mul, Nat.one_mul]
      omega
  have hmax : code m q ≤ 2047 * exponentWeight := by
    unfold code exponentWeight at *
    omega
  rw [nearestBits_eq, hbits, min_eq_left hmax]

theorem zpow_neg_lt_of_pow_lt (a b : Nat) (h : 2 ^ a < 10 ^ b) :
    (10 : ℚ) ^ (-b : Int) < 2 ^ (-a : Int) := by
  rw [zpow_neg, zpow_neg, zpow_natCast, zpow_natCast, inv_lt_inv₀ (by positivity) (by positivity)]
  exact_mod_cast h

theorem zpow_lt_of_pow_lt (a b : Nat) (h : 2 ^ a < 10 ^ b) :
    (2 : ℚ) ^ (a : Int) < 10 ^ (b : Int) := by
  rw [zpow_natCast, zpow_natCast]
  exact_mod_cast h

/-- A number that is rounded to a double is far from where decimals are taken for zero or for an
infinity. -/
theorem RoundsTo.bounds (h : RoundsTo m q v) (hfinite : IsFinite m q) :
    (10 : ℚ) ^ (-331 : Int) < v ∧ v < 10 ^ (330 : Int) := by
  obtain ⟨hbelow, habove⟩ := h.near.bounds_le
  have hpow : (0 : ℚ) < 2 ^ q := by positivity
  constructor
  · have hsmall : (10 : ℚ) ^ (-331 : Int) < 2 ^ (-1075 : Int) :=
      zpow_neg_lt_of_pow_lt 1075 331 (by decide +kernel)
    have hhalf : (1 : ℚ) / 2 ≤ v / 2 ^ q := by
      have : (1 : ℚ) ≤ m := by exact_mod_cast hfinite.pos
      linarith
    have hleast : (2 : ℚ) ^ (-1074 : Int) ≤ 2 ^ q := zpow_le_zpow_right₀ one_le_two hfinite.least
    rw [le_div_iff₀ hpow] at hhalf
    have hsplit : (2 : ℚ) ^ (-1075 : Int) = 2 ^ (-1074 : Int) / 2 := by
      rw [show (-1075 : Int) = -1074 - 1 from rfl, zpow_sub_one₀ two_ne_zero, div_eq_mul_inv]
    linarith
  · have hlarge : (2 : ℚ) ^ (1024 : Int) < 10 ^ (330 : Int) :=
      zpow_lt_of_pow_lt 1024 330 (by decide +kernel)
    have hm : (m : ℚ) + 1 ≤ 2 * exponentWeight := by exact_mod_cast hfinite.lt
    have hgreatest : (2 : ℚ) ^ q ≤ 2 ^ (971 : Int) :=
      zpow_le_zpow_right₀ one_le_two hfinite.greatest
    rw [div_le_iff₀ hpow] at habove
    have hsplit : (2 : ℚ) ^ (1024 : Int) = 2 * exponentWeight * 2 ^ (971 : Int) := by
      rw [weight_eq, show (1024 : Int) = 1 + 52 + 971 from rfl, zpow_add₀ two_ne_zero,
        zpow_add₀ two_ne_zero, zpow_one]
    calc v ≤ ((m : ℚ) + 1 / 2) * 2 ^ q := habove
      _ ≤ 2 * exponentWeight * 2 ^ (971 : Int) :=
        mul_le_mul (by linarith) hgreatest hpow.le (mul_nonneg zero_le_two (Nat.cast_nonneg _))
      _ = 2 ^ (1024 : Int) := hsplit.symm
      _ < 10 ^ (330 : Int) := hlarge

/-- A decimal lies between the powers of ten that its digits tell. -/
theorem size_bounds {d : Decimal} (hdigits : 0 < d.digits) :
    (10 : ℚ) ^ ((digitCount d.digits : Int) + d.exponent - 1) ≤ d.toRat ∧
      d.toRat < 10 ^ ((digitCount d.digits : Int) + d.exponent) := by
  have hten : (10 : ℚ) ≠ 0 := by norm_num
  have hcount : 0 < digitCount d.digits := Nat.length_toDigits_pos
  constructor
  · have hshift : (digitCount d.digits : Int) + d.exponent - 1 =
        ((digitCount d.digits - 1 : ℕ) : Int) + d.exponent := by omega
    rw [hshift, zpow_add₀ hten, toRat, zpow_natCast]
    have hle : (10 : ℚ) ^ (digitCount d.digits - 1) ≤ d.digits := by
      exact_mod_cast pow_pred_digitCount_le hdigits
    exact mul_le_mul_of_nonneg_right hle (by positivity)
  · rw [zpow_add₀ hten, toRat, zpow_natCast]
    have hlt : (d.digits : ℚ) < 10 ^ digitCount d.digits := by
      exact_mod_cast lt_pow_digitCount d.digits
    exact mul_lt_mul_of_pos_right hlt (by positivity)

/-- A decimal that is rounded to a double reads as that double. -/
theorem nearest_of_roundsTo {d : Decimal} (h : RoundsTo m q d.toRat) (hfinite : IsFinite m q)
    (negative : Bool) :
    nearest negative d =
      Float.ofBits (UInt64.ofNat (code m q + if negative then signWeight else 0)) := by
  obtain ⟨hsmall, hlarge⟩ := h.bounds hfinite
  have hpos : 0 < d.toRat := lt_trans (by positivity) hsmall
  have hdigits : 0 < d.digits := by
    rcases Nat.eq_zero_or_pos d.digits with hzero | hdigits
    · simp [toRat, hzero] at hpos
    · exact hdigits
  obtain ⟨hlow, hhigh⟩ := size_bounds hdigits
  have hlower : ¬ (digitCount d.digits : Int) + d.exponent < -330 := by
    have := (zpow_lt_zpow_iff_right₀ (by norm_num : (1 : ℚ) < 10)).1 (hsmall.trans hhigh)
    omega
  have hupper : ¬ (digitCount d.digits : Int) + d.exponent > 330 := by
    have := (zpow_lt_zpow_iff_right₀ (by norm_num : (1 : ℚ) < 10)).1 (hlow.trans_lt hlarge)
    omega
  have hvalue : (Ratio.scaled d.digits 10 d.exponent).toRat = d.toRat := Ratio.toRat_grid _ _
  have hbits : nearestBits (Ratio.scaled d.digits 10 d.exponent) = code m q :=
    nearestBits_of_roundsTo h hfinite (Ratio.num_scaled_pos hdigits (by decide) _)
      (Ratio.den_scaled_pos (by decide) _ _) hvalue
  simp [nearest, hdigits.ne', hlower, hupper, hbits]

end Rounding

end CallFlow.Decimal
