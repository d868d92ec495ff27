import CallFlow.Proofs.Decimal.Bits
import Mathlib.Data.Nat.Log

namespace CallFlow.Decimal

open Float.Model Float.Model.UnpackedFloat

section Rounding

variable {m : Nat} {e : Int} {accuracy : Accuracy}

theorem targetExponent_eq (t : Int) :
    Format.binary64.targetExponent t = max (t - 53) (-1074) := rfl

theorem mantissa_shiftRight (em : ExtendedMantissa) (k : Nat) :
    (em >>> k).mantissa = em.mantissa / 2 ^ k := by
  induction k with
  | zero => exact (Nat.div_one _).symm
  | succ k ih =>
    have hstep : (em >>> (k + 1)).mantissa = (em >>> k).mantissa / 2 := rfl
    rw [hstep, ih, Nat.div_div_eq_div_mul, Nat.pow_succ]

/-- Rounding goes up by one at most. -/
theorem roundedMantissa_le (em : ExtendedMantissa) : em.roundedMantissa ≤ em.mantissa + 1 := by
  obtain ⟨m, roundBit, stickyBit⟩ := em
  have hodd : m % 2 < 2 := Nat.mod_lt _ (by decide)
  cases roundBit <;> cases stickyBit <;>
    simp only [ExtendedMantissa.roundedMantissa, ExtendedMantissa.accuracy,
      Accuracy.roundToNearestEven] <;> omega

/-- Shifting drops the low bits of the mantissa. -/
theorem mantissa_shiftToExponent (target : Int) :
    (shiftToExponent m e accuracy target).1.mantissa = m / 2 ^ (target - e).toNat := by
  rw [shiftToExponent, mantissa_shiftRight]
  congr 1
  cases accuracy with
  | exact => rfl
  | inexact order => cases order <;> rfl

/-- Shifting only ever raises the exponent. -/
theorem exponent_shiftToExponent (target : Int) :
    (shiftToExponent m e accuracy target).2 = max e target := by
  rw [shiftToExponent]
  omega

/-- Rounding moves the first digit up by one place at most. -/
theorem totalExponent_rounded_le (target : Int) :
    totalExponent (shiftToExponent m e accuracy target).1.roundedMantissa (max e target) ≤
      max (totalExponent m e) (max e target + 1) + 1 := by
  have hle := roundedMantissa_le (shiftToExponent m e accuracy target).1
  rw [mantissa_shiftToExponent] at hle
  have hlog : (m / 2 ^ (target - e).toNat).log2 = m.log2 - (target - e).toNat := by
    rw [Nat.log2_eq_log_two, Nat.log2_eq_log_two, Nat.log_div_base_pow]
  generalize (shiftToExponent m e accuracy target).1.roundedMantissa = r at hle ⊢
  have hupper : r.log2 ≤ (m / 2 ^ (target - e).toNat).log2 + 1 := by
    rcases Nat.eq_zero_or_pos r with rfl | hr
    · exact Nat.zero_le _
    · rw [← Nat.lt_add_one_iff, Nat.log2_lt hr.ne']
      have hself := Nat.lt_log2_self (n := m / 2 ^ (target - e).toNat)
      rw [Nat.pow_succ]
      omega
  simp only [totalExponent]
  omega

/-- The exponent that a number is rounded to. -/
theorem exponent_roundWithAccuracy {s : Sign} :
    roundWithAccuracy .binary64 s m e accuracy = .zero s ∨
      ∃ m' e' h, roundWithAccuracy .binary64 s m e accuracy = .finite s m' e' h ∧
        e' ≤ max e (max (totalExponent m e - 52) (-1074)) := by
  have hrounded := @totalExponent_rounded_le m e accuracy
    (Format.binary64.targetExponent (totalExponent m e))
  rw [targetExponent_eq] at hrounded
  unfold roundWithAccuracy
  simp only [shiftToTargetExponent, exponent_shiftToExponent, targetExponent_eq]
  split
  · exact Or.inl rfl
  · rename_i hpos
    refine Or.inr ⟨_, _, Nat.pos_of_ne_zero hpos, rfl, ?_⟩
    omega

end Rounding

/-- A quotient has its first digit where those of the two numbers say, or one place below. -/
theorem totalExponent_divCore_le {m₁ m₂ : Nat} {e₁ e₂ : Int} (hm : 0 < m₂) :
    let q := divCore .binary64 m₁ e₁ m₂ e₂
    let t := totalExponent m₁ e₁ - totalExponent m₂ e₂
    q.2.1 ≤ max (t - 53) (-1074) ∧ totalExponent q.1 q.2.1 ≤ max (t + 1) (q.2.1 + 1) := by
  simp only [divCore, targetExponent_eq]
  generalize htarget : min (e₁ - e₂) _ = target
  refine ⟨by omega, ?_⟩
  generalize hshift : (e₁ - e₂ - target).toNat = k
  rcases Nat.eq_zero_or_pos (m₁ <<< k / m₂) with hzero | hpos
  · rw [hzero, totalExponent, Nat.log2_zero]
    omega
  · have hlog : (m₁ <<< k / m₂).log2 + m₂.log2 < m₁.log2 + 1 + k := by
      have hprod : 2 ^ ((m₁ <<< k / m₂).log2 + m₂.log2) ≤ m₁ * 2 ^ k := by
        calc 2 ^ ((m₁ <<< k / m₂).log2 + m₂.log2)
            = 2 ^ (m₁ <<< k / m₂).log2 * 2 ^ m₂.log2 := Nat.pow_add ..
          _ ≤ m₁ <<< k / m₂ * m₂ :=
            Nat.mul_le_mul (Nat.log2_self_le hpos.ne') (Nat.log2_self_le hm.ne')
          _ ≤ m₁ <<< k := Nat.div_mul_le_self _ _
          _ = m₁ * 2 ^ k := Nat.shiftLeft_eq _ _
      have hless : m₁ * 2 ^ k < 2 ^ (m₁.log2 + 1 + k) := by
        rw [Nat.pow_add]
        exact Nat.mul_lt_mul_of_pos_right Nat.lt_log2_self (Nat.two_pow_pos k)
      exact (Nat.pow_lt_pow_iff_right (by decide)).1 (hprod.trans_lt hless)
    simp only [totalExponent]
    omega

/-- The numbers of a sign, zero among them. -/
inductive Signed (s : Sign) : UnpackedFloat → Prop
  | zero : Signed s (.zero s)
  | finite (m : Nat) (e : Int) (h : 0 < m) : Signed s (.finite s m e h)

theorem Signed.isFinite {s : Sign} {u : UnpackedFloat} (h : Signed s u) : u.isFinite = true := by
  cases h <;> rfl

/-- A positive number is zero or above it. -/
theorem Signed.zero_or_pos {u : UnpackedFloat} (h : Signed .positive u) :
    u.beq (.zero .positive) = true ∨ (UnpackedFloat.zero .positive).lt u = true := by
  cases h with
  | zero => exact Or.inl rfl
  | finite => exact Or.inr rfl

theorem unpackSign_packComponents {spec : Format} (s : Sign) (e : BitVec spec.exponentBits)
    (m : BitVec spec.mantissaBitsWithoutImplicit) :
    unpackSign (packComponents spec s e m) = s.toBitVec := by
  refine BitVec.eq_of_getLsbD_eq fun i hi => ?_
  obtain rfl : i = 0 := by omega
  simp [unpackSign, packComponents, BitVec.getLsbD_append, BitVec.getElem_append]

/-- Components that do not stand for an infinity are unpacked to a number of their sign. -/
theorem signed_unpack_packComponents (s : Sign) {e : BitVec 11} (m : BitVec 52) (he : e ≠ -1#11) :
    Signed s (UnpackedFloat.unpack .binary64 (packComponents .binary64 s e m)) := by
  have hsign : Sign.ofBitVec s.toBitVec = s := by cases s <;> rfl
  simp only [UnpackedFloat.unpack, unpackExponent_packComponents, unpackMantissa_packComponents,
    unpackSign_packComponents, hsign, if_neg he]
  split
  · split
    · exact .zero
    · exact .finite ..
  · exact .finite ..

/-- A finite number whose exponent is in range does not become an infinity. -/
theorem signed_unpack_pack (s : Sign) {m : Nat} {e : Int} (h : 0 < m) (he : e ≤ 971) :
    Signed s (Float.Model.pack (.finite s m e h)).unpack := by
  have hfits : ¬2 ^ 11 ≤ (e + 1023 + 52).toNat + 1 := by omega
  have hpack : (Float.Model.pack (.finite s m e h)).unpack =
      UnpackedFloat.unpack .binary64 (UnpackedFloat.pack .binary64 (.finite s m e h)) := rfl
  rw [hpack, UnpackedFloat.pack]
  refine (if_neg hfits).symm ▸ ?_
  split
  · refine signed_unpack_packComponents s _ fun hall => ?_
    have hfield : (e + 1023 + 52).toNat % 2 ^ 11 = 2047 := congrArg BitVec.toNat hall
    omega
  · exact signed_unpack_packComponents s _ (by decide)

/-- The range of the finite numbers. -/
theorem unpack_finite_le {b : BitVec 64} {s : Sign} {m : Nat} {e : Int} {h : 0 < m}
    (hb : UnpackedFloat.unpack .binary64 b = .finite s m e h) : m < 2 ^ 53 ∧ e ≤ 971 := by
  have hbias : Format.binary64.exponentBias = 1023 := rfl
  simp only [UnpackedFloat.unpack, hbias] at hb
  have hfield : (@unpackExponent .binary64 b).toNat < 2 ^ 11 := BitVec.isLt _
  have hfraction : (@unpackMantissa .binary64 b).toNat < 2 ^ 52 := BitVec.isLt _
  split at hb
  · split at hb <;> cases hb
  · rename_i hall
    have hall : (@unpackExponent .binary64 b).toNat ≠ 2047 :=
      fun h => hall (BitVec.eq_of_toNat_eq h)
    split at hb
    · split at hb
      · cases hb
      · rename_i hzero _
        cases hb
        have hzero : (@unpackExponent .binary64 b).toNat = 0 := congrArg BitVec.toNat hzero
        refine ⟨by omega, ?_⟩
        push_cast
        omega
    · cases hb
      refine ⟨(1#1 ++ @unpackMantissa .binary64 b).isLt, ?_⟩
      push_cast
      omega

/-- The exponent of an unpacked number is bounded. -/
theorem totalExponent_unpack_le {b : BitVec 64} {s : Sign} {m : Nat} {e : Int} {h : 0 < m}
    (hb : UnpackedFloat.unpack .binary64 b = .finite s m e h) : totalExponent m e ≤ 1024 := by
  obtain ⟨hm, he⟩ := unpack_finite_le hb
  have hlog : m.log2 < 53 := (Nat.log2_lt h.ne').2 hm
  simp only [totalExponent]
  omega

/-- The quotient of two numbers as a double. -/
def quotient (u v : UnpackedFloat) : UnpackedFloat :=
  (Float.Model.pack (UnpackedFloat.div .binary64 u v)).unpack

/-- What is left of a finite number above zero when it is divided by two or more. -/
theorem signed_quotient {m₁ m₂ : Nat} {e₁ e₂ : Int} (h₁ : 0 < m₁) (h₂ : 0 < m₂)
    (htop : totalExponent m₁ e₁ ≤ 1024) (htwo : 2 ≤ totalExponent m₂ e₂) :
    Signed .positive (quotient (.finite .positive m₁ e₁ h₁) (.finite .positive m₂ e₂ h₂)) := by
  obtain ⟨hexponent, htotal⟩ := @totalExponent_divCore_le m₁ m₂ e₁ e₂ h₂
  have hround : quotient (.finite .positive m₁ e₁ h₁) (.finite .positive m₂ e₂ h₂) =
    (Float.Model.pack (roundWithAccuracy .binary64 .positive (divCore .binary64 m₁ e₁ m₂ e₂).1
      (divCore .binary64 m₁ e₁ m₂ e₂).2.1 (divCore .binary64 m₁ e₁ m₂ e₂).2.2)).unpack := rfl
  rw [hround]
  rcases exponent_roundWithAccuracy with hzero | ⟨m, e, h, hfinite, he⟩
  · rw [hzero]
    exact .zero
  · rw [hfinite]
    exact signed_unpack_pack .positive h (by omega)

variable {x y : Float}

theorem le_iff_unpack : x ≤ y ↔ x.toModel.unpack.le y.toModel.unpack = true := decide_eq_true_iff

theorem lt_iff_unpack : x < y ↔ x.toModel.unpack.lt y.toModel.unpack = true := decide_eq_true_iff

theorem beq_iff_unpack : x == y ↔ x.toModel.unpack.beq y.toModel.unpack = true := Iff.rfl

theorem unpack_zero : (0 : Float).toModel.unpack = .zero .positive := rfl

theorem unpack_thousand :
    (1000 : Float).toModel.unpack = .finite .positive (1000 * 2 ^ 43) (-43) (by decide) := rfl

theorem isFinite_eq_unpack : x.isFinite = x.toModel.unpack.isFinite := rfl

theorem isFinite_iff : x.isFinite = true ↔ x.isNaN = false ∧ x.isInf = false := by
  have hnan : x.isNaN = x.toModel.unpack.isNaN := rfl
  have hinf : x.isInf = x.toModel.unpack.isInf := rfl
  rw [isFinite_eq_unpack, hnan, hinf]
  generalize x.toModel.unpack = u
  cases u with
  | notANumber => exact ⟨nofun, fun h => nomatch h.1⟩
  | infinity => exact ⟨nofun, fun h => nomatch h.2⟩
  | zero => exact iff_of_true rfl ⟨rfl, rfl⟩
  | finite => exact iff_of_true rfl ⟨rfl, rfl⟩

/-- A number that does not come to zero or less. -/
theorem unpack_of_not_le_zero (hx : ¬x ≤ 0) :
    x.toModel.unpack = .notANumber ∨ x.toModel.unpack = .infinity .positive ∨
      ∃ m e h, x.toModel.unpack = .finite .positive m e h := by
  rw [le_iff_unpack, unpack_zero] at hx
  generalize x.toModel.unpack = u at hx
  cases u with
  | notANumber => exact Or.inl rfl
  | infinity s =>
    cases s with
    | positive => exact Or.inr (Or.inl rfl)
    | negative => exact absurd rfl hx
  | zero s => exact absurd rfl hx
  | finite s m e h =>
    cases s with
    | positive => exact Or.inr (Or.inr ⟨m, e, h, rfl⟩)
    | negative => exact absurd rfl hx

/-- What comes of a division by a thousand. -/
theorem unpack_div_thousand (hx : ¬x ≤ 0) :
    x.isFinite = true ∧ Signed .positive (x / 1000).toModel.unpack ∨
      x.isFinite = false ∧ (x / 1000).isFinite = false := by
  have hquotient : (x / 1000).toModel.unpack =
      quotient x.toModel.unpack (1000 : Float).toModel.unpack := rfl
  rw [isFinite_eq_unpack, isFinite_eq_unpack, hquotient, unpack_thousand]
  rcases unpack_of_not_le_zero hx with h | h | ⟨m, e, hm, h⟩
  · rw [h]
    exact Or.inr ⟨rfl, rfl⟩
  · rw [h]
    exact Or.inr ⟨rfl, rfl⟩
  · have htop := totalExponent_unpack_le h
    rw [h]
    exact Or.inl ⟨rfl, signed_quotient hm (by decide) htop (by decide)⟩

/-- A positive number is finite exactly if a thousandth of it is. -/
theorem isFinite_div_thousand (hx : ¬x ≤ 0) : (x / 1000).isFinite = x.isFinite := by
  rcases unpack_div_thousand hx with ⟨h, hsigned⟩ | ⟨h, h'⟩
  · rw [h]
    exact hsigned.isFinite
  · rw [h, h']

/-- A thousandth of a positive number is positive, or too small to be told from zero. -/
theorem div_thousand_pos (hx : ¬x ≤ 0) (hfinite : x.isFinite = true) :
    x / 1000 == 0 ∨ 0 < x / 1000 := by
  rw [beq_iff_unpack, lt_iff_unpack, unpack_zero]
  rcases unpack_div_thousand hx with ⟨-, hsigned⟩ | ⟨h, -⟩
  · exact hsigned.zero_or_pos
  · cases hfinite.symm.trans h

theorem isFinite_of_beq_zero (h : x == 0) : x.isFinite = true := by
  rw [beq_iff_unpack, unpack_zero] at h
  rw [isFinite_eq_unpack]
  generalize x.toModel.unpack = u at h
  cases u with
  | notANumber => cases h
  | infinity s => cases s <;> cases h
  | zero s => rfl
  | finite => rfl

/-- The bits up to those of infinity stand for finite numbers and for infinity. -/
theorem isFinite_or_isInf_ofBits {bits : UInt64}
    (h : bits.toNat % signWeight ≤ 2047 * exponentWeight) :
    (Float.ofBits bits).isFinite = true ∨ (Float.ofBits bits).isInf = true := by
  have hfinite : (Float.ofBits bits).isFinite =
    (Float.Model.pack (UnpackedFloat.unpack .binary64 bits.toBitVec)).unpack.isFinite := rfl
  have hinf : (Float.ofBits bits).isInf =
    (Float.Model.pack (UnpackedFloat.unpack .binary64 bits.toBitVec)).unpack.isInf := rfl
  rw [hfinite, hinf]
  cases hunpack : UnpackedFloat.unpack .binary64 bits.toBitVec with
  | notANumber =>
    simp only [UnpackedFloat.unpack] at hunpack
    split at hunpack
    · rename_i hall
      have hall := congrArg BitVec.toNat hall
      rw [toNat_unpackExponent] at hall
      split at hunpack
      · cases hunpack
      · rename_i hfraction
        have hfraction : bits.toNat % exponentWeight ≠ 0 := fun hzero =>
          hfraction (BitVec.eq_of_toNat_eq ((toNat_unpackMantissa _).trans hzero))
        have hall : bits.toNat / exponentWeight % 2048 = 2047 := hall
        simp only [signWeight, exponentWeight] at h hall hfraction
        omega
    · split at hunpack
      · split at hunpack <;> cases hunpack
      · cases hunpack
  | infinity s => cases s <;> exact Or.inr rfl
  | zero s => exact Or.inl (signed_unpack_packComponents s _ (by decide)).isFinite
  | finite s m e hm => exact Or.inl (signed_unpack_pack s hm (unpack_finite_le hunpack).2).isFinite

/-- A decimal is read as a number or an infinity, never as not-a-number. -/
theorem isFinite_or_isInf_nearest (negative : Bool) (d : Decimal) :
    (nearest negative d).isFinite = true ∨ (nearest negative d).isInf = true := by
  have hsigned : ∀ n ≤ 2047 * exponentWeight,
      (UInt64.ofNat (n + if negative then signWeight else 0)).toNat % signWeight ≤
        2047 * exponentWeight := by
    intro n hn
    rw [UInt64.toNat_ofNat']
    simp only [signWeight, exponentWeight] at hn ⊢
    split <;> omega
  unfold nearest
  refine isFinite_or_isInf_ofBits (hsigned _ ?_)
  split
  · exact Nat.zero_le _
  · split
    · exact Nat.le_refl _
    · exact Nat.min_le_right _ _

theorem isFinite_of_ofInt? {i : Int} (h : ofInt? i = some x) : x.isFinite = true := by
  simp only [ofInt?] at h
  split at h
  · cases h
  · rename_i hinf
    cases h
    exact (isFinite_or_isInf_nearest _ _).resolve_right hinf

end CallFlow.Decimal
