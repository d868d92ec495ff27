import CallFlow.Number
import CallFlow.Proofs.Decimal.Shortest
import Mathlib

namespace CallFlow.Decimal

/-- What the parts of a double say of its bits. -/
theorem toBits_of_decode? {x : Float} {negative : Bool} {m : Nat} {q : Int}
    (h : decode? x = some (negative, m, q)) :
    x.toBits.toNat = code m q + (if negative then signWeight else 0) ∧
      (m = 0 ∧ q = -1074 ∨ IsFinite m q) := by
  have hlt : x.toBits.toNat < 2 * signWeight := x.toBits.toNat_lt
  simp only [decode?] at h
  generalize x.toBits.toNat = bits at h hlt ⊢
  have hsplit : bits = bits / signWeight * signWeight +
      bits / exponentWeight % 2048 * exponentWeight + bits % exponentWeight := by
    simp only [signWeight, exponentWeight] at hlt ⊢
    omega
  have hsign : bits / signWeight * signWeight =
      if (bits / signWeight == 1) = true then signWeight else 0 := by
    have htwo : bits / signWeight < 2 := Nat.div_lt_of_lt_mul (by rwa [Nat.mul_comm])
    generalize bits / signWeight = high at htwo ⊢
    interval_cases high <;> simp
  have hlow : bits % exponentWeight < exponentWeight := Nat.mod_lt _ (by decide)
  have hfield : bits / exponentWeight % 2048 < 2048 := Nat.mod_lt _ (by decide)
  generalize bits / signWeight = high at *
  generalize bits / exponentWeight % 2048 = field at *
  generalize bits % exponentWeight = low at *
  split at h
  · cases h
  · split at h
    · rename_i hzero
      cases h
      refine ⟨?_, ?_⟩
      · rw [hsplit, hsign, hzero, code]
        simp
        omega
      · rcases Nat.eq_zero_or_pos m with hm | hm
        · exact Or.inl ⟨hm, rfl⟩
        · exact Or.inr ⟨hm, by omega, le_rfl, by decide, Or.inl rfl⟩
    · rename_i hinfinite hzero
      cases h
      refine ⟨?_, Or.inr ⟨by omega, by omega, by omega, by omega, Or.inr (by omega)⟩⟩
      rw [hsplit, hsign, code]
      have hshift : ((field : Int) - 1075 + 1074).toNat = field - 1 := by omega
      obtain ⟨n, rfl⟩ : ∃ n, field = n + 1 := ⟨field - 1, by omega⟩
      rw [hshift, Nat.add_sub_cancel, Nat.add_mul, Nat.one_mul]
      omega

/-- A decimal that is rounded to a double reads as it. -/
theorem nearest_eq_of_decode? {x : Float} {negative : Bool} {m : Nat} {q : Int}
    (h : decode? x = some (negative, m, q)) (hm : 0 < m) {d : Decimal}
    (hd : RoundsTo m q d.toRat) : nearest negative d = x := by
  obtain ⟨hbits, hzero | hfinite⟩ := toBits_of_decode? h
  · omega
  · rw [nearest_of_roundsTo hd hfinite, ← hbits, UInt64.ofNat_toNat, Float.ofBits_toBits]

theorem toNat_unpackExponent (b : BitVec 64) :
    (@Float.Model.UnpackedFloat.unpackExponent .binary64 b).toNat =
      b.toNat / exponentWeight % 2048 := by
  rw [Float.Model.UnpackedFloat.unpackExponent_def, BitVec.extractLsb'_toNat,
    Nat.shiftRight_eq_div_pow]
  rfl

theorem toNat_unpackMantissa (b : BitVec 64) :
    (@Float.Model.UnpackedFloat.unpackMantissa .binary64 b).toNat = b.toNat % exponentWeight := by
  rw [Float.Model.UnpackedFloat.unpackMantissa_def, BitVec.extractLsb'_toNat]
  rfl

/-- The numbers without parts are the infinities and what is not a number. -/
theorem decode?_eq_none_iff {x : Float} :
    decode? x = none ↔ x.isInf = true ∨ x.isNaN = true := by
  have hfield : decode? x = none ↔ x.toBits.toNat / exponentWeight % 2048 = 2047 := by
    simp only [decode?]
    split
    · simpa
    · split <;> simpa
  have hexponent : @Float.Model.UnpackedFloat.unpackExponent .binary64
      x.toModel.toBits.toBitVec = -1#11 ↔ x.toBits.toNat / exponentWeight % 2048 = 2047 := by
    rw [← BitVec.toNat_inj, toNat_unpackExponent]
    rfl
  rw [hfield, ← hexponent]
  simp only [Float.isInf, Float.isNaN, Float.Model.isInf, Float.Model.isNaN, Float.Model.unpack,
    Float.Model.UnpackedFloat.unpack]
  split
  · rename_i hall
    simp only [hall, true_iff]
    split
    · exact Or.inl rfl
    · exact Or.inr rfl
  · rename_i hall
    simp only [hall, false_iff, not_or]
    split
    · split <;> exact ⟨nofun, nofun⟩
    · exact ⟨nofun, nofun⟩

/-- An infinity has the greatest exponent and no fraction. -/
theorem bits_of_isInf {x : Float} (h : x.isInf = true) :
    x.toBits.toNat / exponentWeight % 2048 = 2047 ∧ x.toBits.toNat % exponentWeight = 0 := by
  have hexponent := toNat_unpackExponent x.toModel.toBits.toBitVec
  have hmantissa := toNat_unpackMantissa x.toModel.toBits.toBitVec
  simp only [Float.isInf, Float.Model.isInf, Float.Model.unpack,
    Float.Model.UnpackedFloat.unpack] at h
  split at h
  · rename_i hall
    split at h
    · rename_i hzero
      rw [hall] at hexponent
      rw [hzero] at hmantissa
      exact ⟨hexponent.symm, hmantissa.symm⟩
    · cases h
  · split at h
    · split at h <;> cases h
    · cases h

/-- There are two infinities. -/
theorem eq_of_isInf {x : Float} (h : x.isInf = true) : x = 1 / 0 ∨ x = -1 / 0 := by
  obtain ⟨hexponent, hmantissa⟩ := bits_of_isInf h
  have hlt : x.toBits.toNat < 2 * signWeight := x.toBits.toNat_lt
  have hround : x = Float.ofBits (UInt64.ofNat x.toBits.toNat) := by
    rw [UInt64.ofNat_toNat, Float.ofBits_toBits]
  have hbits : x.toBits.toNat = 2047 * exponentWeight ∨
      x.toBits.toNat = 2047 * exponentWeight + signWeight := by
    simp only [exponentWeight, signWeight] at hexponent hmantissa hlt ⊢
    omega
  obtain hpositive | hnegative := hbits
  · left
    rw [hround, hpositive]
    rfl
  · right
    rw [hround, hnegative]
    rfl

/-- What is not a number has one form. -/
theorem eq_of_isNaN {x : Float} (h : x.isNaN = true) : x = Float.nan := by
  rwa [Float.isNaN_eq_decide_eq_nan, decide_eq_true_eq] at h

/-- What can be decoded is a number. -/
theorem isNaN_of_decode? {x : Float} {parts : Bool × Nat × Int} (h : decode? x = some parts) :
    x.isNaN = false := by
  refine Bool.eq_false_iff.2 fun hnan => ?_
  obtain rfl := eq_of_isNaN hnan
  cases h

/-- Two doubles that compare alike with all others. -/
def SameOrder (x y : Float) : Prop :=
  ∀ z, (x < z ↔ y < z) ∧ (z < x ↔ z < y) ∧ (x ≤ z ↔ y ≤ z) ∧ (z ≤ x ↔ z ≤ y)

theorem SameOrder.refl (x : Float) : SameOrder x x :=
  fun _ => ⟨Iff.rfl, Iff.rfl, Iff.rfl, Iff.rfl⟩

open Float.Model in
/-- The sign of zero makes no difference to comparisons. -/
theorem compare_zero (s t : UnpackedFloat.Sign) (y : UnpackedFloat) :
    (UnpackedFloat.zero s).compare y = (UnpackedFloat.zero t).compare y ∧
      y.compare (.zero s) = y.compare (.zero t) := by
  cases y with
  | infinity sign => cases sign <;> exact ⟨rfl, rfl⟩
  | notANumber => exact ⟨rfl, rfl⟩
  | zero sign => exact ⟨rfl, rfl⟩
  | finite sign => cases sign <;> exact ⟨rfl, rfl⟩

/-- Zeros of either sign are ordered alike. -/
theorem sameOrder_of_zero {x y : Float} {s t : Float.Model.UnpackedFloat.Sign}
    (hx : x.toModel.unpack = .zero s) (hy : y.toModel.unpack = .zero t) : SameOrder x y := by
  intro z
  obtain ⟨hleft, hright⟩ := compare_zero s t z.toModel.unpack
  simp only [LT.lt, LE.le, Float.lt, Float.le, Float.Model.lt, Float.Model.le,
    Float.Model.UnpackedFloat.lt, Float.Model.UnpackedFloat.le, hx, hy, hleft, hright]
  simp

/-- What is decoded to zero is a zero. -/
theorem unpack_of_decode?_zero {x : Float} {negative : Bool} {q : Int}
    (h : decode? x = some (negative, 0, q)) : ∃ s, x.toModel.unpack = .zero s := by
  obtain ⟨hbits, ⟨-, rfl⟩ | hfinite⟩ := toBits_of_decode? h
  · have hunpack : x.toModel.unpack = .unpack .binary64 x.toBits.toBitVec := rfl
    have hround : x.toBits = UInt64.ofNat x.toBits.toNat := (UInt64.ofNat_toNat).symm
    rw [hunpack, hround, hbits]
    cases negative with
    | false => exact ⟨.positive, rfl⟩
    | true => exact ⟨.negative, rfl⟩
  · exact absurd hfinite.pos (lt_irrefl 0)

theorem unpack_nearest_zero : (nearest false ⟨0, 0⟩).toModel.unpack = .zero .positive := by
  rfl

end CallFlow.Decimal
