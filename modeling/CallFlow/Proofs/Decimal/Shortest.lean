import CallFlow.Proofs.Decimal.Nearest

namespace CallFlow.Decimal

/-- Moving zeros from the digits to the exponent leaves the number. -/
theorem toRat_normalize (d : Decimal) : d.normalize.toRat = d.toRat := by
  have hgo : ∀ n (d : Decimal), (normalize.go d n).toRat = d.toRat := by
    intro n
    induction n with
    | zero => exact fun d => rfl
    | succ n ih =>
      intro d
      rw [normalize.go]
      split
      · rename_i hzero
        have hdigits : (d.digits : ℚ) = ((d.digits / 10 : ℕ) : ℚ) * 10 := by
          exact_mod_cast (Nat.div_mul_cancel (Nat.dvd_of_mod_eq_zero hzero)).symm
        rw [ih, toRat, toRat, hdigits, zpow_add_one₀ (by norm_num)]
        ring
      · rfl
  exact hgo _ d

/-- A number between two bounds, which are included or not. -/
def Between (low high : ℚ) (closed : Bool) (v : ℚ) : Prop :=
  low ≤ v ∧ v ≤ high ∧ (closed = true ∨ low < v ∧ v < high)

/-- Whether a point of a grid comes into question. -/
def inside (low high : Ratio) (closed : Bool) (k : Int) (d : Nat) : Bool :=
  match low.compareGrid d k, high.compareGrid d k with
  | .lt, .gt => true
  | .eq, _ => closed
  | _, .eq => closed
  | _, _ => false

theorem gridPoint?_eq (low value high : Ratio) (closed : Bool) (k : Int) :
    gridPoint? low value high closed k =
      match inside low high closed k (value.floorGrid k) && 0 < value.floorGrid k,
        inside low high closed k (value.floorGrid k + 1) with
      | false, false => none
      | true, false => some ⟨value.floorGrid k, k⟩
      | false, true => some ⟨value.floorGrid k + 1, k⟩
      | true, true =>
        match Ratio.compareGrid ⟨2 * value.num, value.den⟩
          (value.floorGrid k + (value.floorGrid k + 1)) k with
        | .lt => some ⟨value.floorGrid k, k⟩
        | .gt => some ⟨value.floorGrid k + 1, k⟩
        | .eq => some
          ⟨if value.floorGrid k % 2 = 0 then value.floorGrid k else value.floorGrid k + 1, k⟩ := rfl

/-- A grid point that is found lies inside. -/
theorem gridPoint?_cases {low value high : Ratio} {closed : Bool} {k : Int} {d : Decimal}
    (h : gridPoint? low value high closed k = some d) :
    ∃ n, d = ⟨n, k⟩ ∧ inside low high closed k n = true := by
  rw [gridPoint?_eq] at h
  split at h
  · cases h
  · rename_i hdown _
    cases h
    exact ⟨_, rfl, (Bool.and_eq_true_iff.1 hdown).1⟩
  · rename_i hup
    cases h
    exact ⟨_, rfl, hup⟩
  · rename_i hdown hup
    have hdown := (Bool.and_eq_true_iff.1 hdown).1
    split at h <;> cases h
    · exact ⟨_, rfl, hdown⟩
    · exact ⟨_, rfl, hup⟩
    · refine ⟨_, rfl, ?_⟩
      split
      · exact hdown
      · exact hup

/-- A grid point is found if one of the two neighbours lies inside. -/
theorem gridPoint?_isSome_of_inside {low value high : Ratio} {closed : Bool} {k : Int}
    (h : 0 < value.floorGrid k ∧ inside low high closed k (value.floorGrid k) = true ∨
      inside low high closed k (value.floorGrid k + 1) = true) :
    (gridPoint? low value high closed k).isSome = true := by
  rw [gridPoint?_eq]
  split
  · rename_i hdown hup
    rcases h with ⟨hpos, hinside⟩ | hinside
    · simp [hpos, hinside] at hdown
    · rw [hinside] at hup
      cases hup
  · rfl
  · rfl
  · split <;> rfl

section Grid

variable {low value high : Ratio} (hlow : 0 < low.den) (hhigh : 0 < high.den) {closed : Bool}
  {k : Int}

include hlow hhigh

/-- What counts as inside lies between the ends. -/
theorem between_of_inside (hlt : low.toRat < high.toRat) {d : Nat}
    (h : inside low high closed k d = true) :
    Between low.toRat high.toRat closed (⟨d, k⟩ : Decimal).toRat := by
  have hvalue : (⟨d, k⟩ : Decimal).toRat = d * 10 ^ k := rfl
  rw [hvalue]
  unfold inside at h
  split at h
  · rename_i hbelow habove
    have hbelow := (Ratio.compareGrid_eq_lt_iff hlow).1 hbelow
    have habove := (Ratio.compareGrid_eq_gt_iff hhigh).1 habove
    exact ⟨hbelow.le, habove.le, Or.inr ⟨hbelow, habove⟩⟩
  · rename_i heq
    have heq := (Ratio.compareGrid_eq_eq_iff hlow).1 heq
    exact ⟨heq.le, heq ▸ hlt.le, Or.inl h⟩
  · rename_i heq _
    have heq := (Ratio.compareGrid_eq_eq_iff hhigh).1 heq
    exact ⟨heq ▸ hlt.le, heq.ge, Or.inl h⟩
  · cases h

/-- What lies strictly between the ends counts as inside, closed or not. -/
theorem inside_of_lt {d : Nat} (hbelow : low.toRat < d * 10 ^ k)
    (habove : d * 10 ^ k < high.toRat) : inside low high closed k d = true := by
  unfold inside
  rw [(Ratio.compareGrid_eq_lt_iff hlow).2 hbelow, (Ratio.compareGrid_eq_gt_iff hhigh).2 habove]

theorem between_of_gridPoint? (hlt : low.toRat < high.toRat) {d : Decimal}
    (h : gridPoint? low value high closed k = some d) :
    Between low.toRat high.toRat closed d.toRat := by
  obtain ⟨n, rfl, hinside⟩ := gridPoint?_cases h
  exact between_of_inside hlow hhigh hlt hinside

end Grid

/-- The distance to the bound below a double, in quarters of its last bit. -/
def gap (m : Nat) (q : Int) : Nat := if m = exponentWeight && q > -1074 then 1 else 2

/-- The bound below which decimals are not rounded to `m · 2 ^ q`. -/
def lowEnd (m : Nat) (q : Int) : Ratio := Ratio.scaled (4 * m - gap m q) 2 (q - 2)

/-- The bound above. -/
def highEnd (m : Nat) (q : Int) : Ratio := Ratio.scaled (4 * m + 2) 2 (q - 2)

/-- A double as a fraction. -/
def fraction (m : Nat) (q : Int) : Ratio := Ratio.scaled (4 * m) 2 (q - 2)

section Double

variable {m : Nat} {q : Int}

theorem toRat_scaled_quarter (n : Nat) :
    (Ratio.scaled n 2 (q - 2)).toRat = (n / 4 : ℚ) * 2 ^ q := by
  have hvalue := Ratio.toRat_scaled (by decide : 0 < 2) n (q - 2)
  rw [hvalue, zpow_sub₀ (by norm_num)]
  push_cast
  ring

theorem toRat_fraction : (fraction m q).toRat = m * 2 ^ q := by
  rw [fraction, toRat_scaled_quarter]
  push_cast
  ring

/-- The upper end is half a unit above. -/
theorem toRat_highEnd : (highEnd m q).toRat = (m + 1 / 2) * 2 ^ q := by
  rw [highEnd, toRat_scaled_quarter]
  push_cast
  ring

/-- The lower end is half a gap below. -/
theorem toRat_lowEnd (hm : 0 < m) : (lowEnd m q).toRat = (m - gap m q / 4) * 2 ^ q := by
  have hle : gap m q ≤ 4 * m := by
    unfold gap
    split <;> omega
  rw [lowEnd, toRat_scaled_quarter]
  push_cast [hle]
  ring

/-- What lies between the bounds is rounded to the double. -/
theorem roundsTo_of_between (hm : 0 < m) {v : ℚ}
    (h : Between (lowEnd m q).toRat (highEnd m q).toRat (m % 2 == 0) v) : RoundsTo m q v := by
  have hpow : (0 : ℚ) < 2 ^ q := by positivity
  obtain ⟨hlow, hhigh, hstrict⟩ := h
  rw [toRat_lowEnd hm] at hlow hstrict
  rw [toRat_highEnd] at hhigh hstrict
  rw [← le_div_iff₀ hpow] at hlow
  rw [← div_le_iff₀ hpow] at hhigh
  rw [← lt_div_iff₀ hpow, ← div_lt_iff₀ hpow] at hstrict
  have hgap : (gap m q : ℚ) ≤ 2 := by
    have : gap m q ≤ 2 := by
      unfold gap
      split <;> omega
    exact_mod_cast this
  constructor
  · rcases hstrict with heven | ⟨hlow', hhigh'⟩
    · have hle : |v / 2 ^ q - m| ≤ 1 / 2 := by
        rw [abs_le]
        constructor <;> linarith
      exact (lt_or_eq_of_le hle).imp id fun heq => ⟨beq_iff_eq.1 heven, heq⟩
    · left
      rw [abs_lt]
      constructor <;> linarith
  · intro hweight hq
    have hone : gap m q = 1 := by simp [gap, hweight, hq]
    rw [hone] at hlow
    simpa using hlow

/-- At seventeen digits a grid step is small against the number. -/
theorem step_mul_le (hfinite : IsFinite m q) :
    (10 : ℚ) ^ ((fraction m q).magnitude - 16) * 10 ^ 16 ≤ m * 2 ^ q := by
  have hsmall : (10 : ℚ) ^ (-400 : Int) ≤ (fraction m q).toRat := by
    have hm : (1 : ℚ) ≤ m := by exact_mod_cast hfinite.pos
    have hleast : (2 : ℚ) ^ (-1074 : Int) ≤ 2 ^ q := zpow_le_zpow_right₀ one_le_two hfinite.least
    have hfar := zpow_neg_lt_of_pow_lt 1074 400 (by decide +kernel)
    rw [toRat_fraction]
    calc (10 : ℚ) ^ (-400 : Int) ≤ 2 ^ (-1074 : Int) := hfar.le
      _ ≤ 2 ^ q := hleast
      _ ≤ m * 2 ^ q := le_mul_of_one_le_left (by positivity) hm
  have hmagnitude := Ratio.pow_magnitude_le hsmall
  rw [toRat_fraction] at hmagnitude
  rw [zpow_sub₀ (by norm_num)]
  norm_num at hmagnitude ⊢
  exact hmagnitude

/-- The step of seventeen digits is less than the last bit of a double. -/
theorem step_lt (hfinite : IsFinite m q) : (10 : ℚ) ^ ((fraction m q).magnitude - 16) < 2 ^ q := by
  have hstep := step_mul_le hfinite
  have hm : (m : ℚ) ≤ 2 * exponentWeight := by exact_mod_cast hfinite.lt.le
  have hmu : m * 2 ^ q ≤ 2 * exponentWeight * (2 : ℚ) ^ q :=
    mul_le_mul_of_nonneg_right hm (by positivity)
  have hu : (0 : ℚ) < 2 ^ q := by positivity
  norm_num [exponentWeight] at hmu
  linarith

/-- Where the bound below is near, the step is less than half the last bit. -/
theorem step_lt_half (hfinite : IsFinite m q) (hgap : gap m q ≠ 2) :
    (10 : ℚ) ^ ((fraction m q).magnitude - 16) < 2 ^ q / 2 := by
  have hstep := step_mul_le hfinite
  have hpower : m = exponentWeight := by
    by_contra hne
    exact hgap (if_neg (by simp [hne]))
  have hm : (m : ℚ) = 4503599627370496 := by rw [hpower]; norm_num [exponentWeight]
  have hu : (0 : ℚ) < 2 ^ q := by positivity
  rw [hm] at hstep
  linarith

/-- With seventeen digits there is a decimal between the bounds. -/
theorem gridPoint?_seventeen (hfinite : IsFinite m q) :
    (gridPoint? (lowEnd m q) (fraction m q) (highEnd m q) (m % 2 == 0)
      ((fraction m q).magnitude - 16)).isSome = true := by
  have hden : 0 < (fraction m q).den := Ratio.den_scaled_pos (by decide) _ _
  have hlowDen : 0 < (lowEnd m q).den := Ratio.den_scaled_pos (by decide) _ _
  have hhighDen : 0 < (highEnd m q).den := Ratio.den_scaled_pos (by decide) _ _
  have hlt := step_lt hfinite
  have hhalf := step_lt_half hfinite
  have hdown := Ratio.floorGrid_mul_le hden ((fraction m q).magnitude - 16)
  have hup := Ratio.lt_floorGrid_succ_mul hden ((fraction m q).magnitude - 16)
  have hlow := toRat_lowEnd (q := q) hfinite.pos
  have hhigh : (highEnd m q).toRat = _ := toRat_highEnd
  rw [toRat_fraction] at hdown hup
  refine gridPoint?_isSome_of_inside ?_
  generalize (fraction m q).magnitude - 16 = k at *
  generalize (fraction m q).floorGrid k = down at *
  have hk : (0 : ℚ) < 10 ^ k := by positivity
  have hu : (0 : ℚ) < 2 ^ q := by positivity
  push_cast at hup ⊢
  have hpos : 0 < down := by
    rcases Nat.eq_zero_or_pos down with rfl | hpos
    · have hone : (1 : ℚ) ≤ m := by exact_mod_cast hfinite.pos
      have hmu : 1 * 2 ^ q ≤ m * (2 : ℚ) ^ q := mul_le_mul_of_nonneg_right hone hu.le
      norm_num at hup
      linarith
    · exact hpos
  have hup' : m * 2 ^ q < down * 10 ^ k + (10 : ℚ) ^ k := by linarith
  have hgap : (lowEnd m q).toRat ≤ m * 2 ^ q := by
    rw [hlow]
    exact mul_le_mul_of_nonneg_right (by linarith [Nat.cast_nonneg (α := ℚ) (gap m q)]) hu.le
  rcases lt_or_ge ((10 : ℚ) ^ k) (2 ^ q / 2) with hnear | hfar
  · right
    refine inside_of_lt hlowDen hhighDen ?_ ?_
    · push_cast
      linarith
    · rw [hhigh]
      push_cast
      linarith
  · have htwo : gap m q = 2 := not_not.1 fun hgap => not_lt.2 hfar (hhalf hgap)
    rw [htwo] at hlow
    push_cast at hlow
    rcases lt_or_ge (lowEnd m q).toRat (down * 10 ^ k) with hinside | hbelow
    · left
      refine ⟨hpos, inside_of_lt hlowDen hhighDen hinside ?_⟩
      rw [hhigh]
      linarith
    · right
      refine inside_of_lt hlowDen hhighDen ?_ ?_
      · push_cast
        linarith
      · rw [hhigh]
        push_cast
        linarith

/-- The decimal that a double is written as is rounded to it. -/
theorem roundsTo_shortest (hfinite : IsFinite m q) : RoundsTo m q (shortest m q).toRat := by
  obtain ⟨found, hfound⟩ : ∃ found, found = (List.range 17).findSome? fun (n : Nat) =>
      gridPoint? (lowEnd m q) (fraction m q) (highEnd m q) (m % 2 == 0)
        ((fraction m q).magnitude - (n : Int)) := ⟨_, rfl⟩
  have hshortest : shortest m q = normalize (found.getD
      ⟨(fraction m q).floorGrid ((fraction m q).magnitude - 17),
        (fraction m q).magnitude - 17⟩) := by
    rw [hfound]
    rfl
  have hsome : found.isSome = true := by
    rw [hfound, List.findSome?_isSome_iff]
    exact ⟨16, by simp, gridPoint?_seventeen hfinite⟩
  obtain ⟨d, hd⟩ := Option.isSome_iff_exists.1 hsome
  obtain ⟨n, -, hpoint⟩ := List.exists_of_findSome?_eq_some (hfound.symm.trans hd)
  have hlt : (lowEnd m q).toRat < (highEnd m q).toRat := by
    rw [toRat_lowEnd hfinite.pos, toRat_highEnd]
    refine mul_lt_mul_of_pos_right ?_ (by positivity)
    have : (0 : ℚ) ≤ gap m q := Nat.cast_nonneg _
    linarith
  rw [hshortest, hd, Option.getD_some, toRat_normalize]
  exact roundsTo_of_between hfinite.pos (between_of_gridPoint?
    (Ratio.den_scaled_pos (by decide) _ _) (Ratio.den_scaled_pos (by decide) _ _) hlt hpoint)

end Double

end CallFlow.Decimal
