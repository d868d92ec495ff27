import CallFlow.Proofs.Decimal.Bits
import CallFlow.Proofs.Decimal.Written
import CallFlow.Proofs.Display

namespace CallFlow

namespace Decimal

variable {x : Float} {negative : Bool} {m : Nat} {q : Int}

theorem roundsTo_self (m : Nat) (q : Int) : RoundsTo m q (m * 2 ^ q) := by
  have hpow : (2 : ℚ) ^ q ≠ 0 := by positivity
  have hquotient : (m : ℚ) * 2 ^ q / 2 ^ q = m := mul_div_cancel_right₀ _ hpow
  constructor
  · left
    rw [hquotient]
    norm_num
  · intro _ _
    rw [hquotient]
    norm_num

/-- The whole number that a double is has its sign and its value. -/
theorem eq_of_toInt? {i : Int} (h : decode? x = some (negative, m, q)) (hi : toInt? x = some i) :
    ∃ n : ℕ, (n : ℚ) = m * 2 ^ q ∧ i = if negative then -(n : Int) else n := by
  simp only [toInt?, h, Option.ite_none_right_eq_some, Option.some.injEq] at hi
  obtain ⟨hrest, rfl⟩ := hi
  refine ⟨(Ratio.scaled m 2 q).num / (Ratio.scaled m 2 q).den, ?_, rfl⟩
  have hvalue := Ratio.toRat_scaled (by decide : 0 < 2) m q
  rw [Nat.cast_div (Nat.dvd_of_mod_eq_zero hrest)
    (by exact_mod_cast (Ratio.den_scaled_pos (by decide) m q).ne')]
  exact hvalue

/-- A double that is a whole number is read off its digits. -/
theorem nearest_of_toInt? {i : Int} (h : decode? x = some (negative, m, q))
    (hi : toInt? x = some i) : SameOrder x (nearest (i < 0) ⟨i.natAbs, 0⟩) := by
  obtain ⟨n, hn, rfl⟩ := eq_of_toInt? h hi
  rcases Nat.eq_zero_or_pos m with rfl | hm
  · have hzero : n = 0 := by simpa using hn
    obtain ⟨s, hs⟩ := unpack_of_decode?_zero h
    have hnearest : nearest (decide ((if negative then -(n : Int) else n) < 0))
        ⟨(if negative then -(n : Int) else n).natAbs, 0⟩ = nearest false ⟨0, 0⟩ := by
      simp [hzero]
    rw [hnearest]
    exact sameOrder_of_zero hs unpack_nearest_zero
  · have hpos : 0 < n := by
      have : (0 : ℚ) < n := by
        rw [hn]
        positivity
      exact_mod_cast this
    have hround : RoundsTo m q (⟨n, 0⟩ : Decimal).toRat := by
      have hvalue : (⟨n, 0⟩ : Decimal).toRat = m * 2 ^ q := by simp [toRat, hn]
      rw [hvalue]
      exact roundsTo_self m q
    have hnearest := nearest_eq_of_decode? h hm hround
    have hsign : decide ((if negative then -(n : Int) else n) < 0) = negative := by
      cases negative with
      | false => simp
      | true => simp [hpos]
    have hdigits : (if negative then -(n : Int) else n).natAbs = n := by
      cases negative <;> simp
    rw [hsign, hdigits, hnearest]
    exact .refl x

/-- A double that is no whole number is read off its decimal. -/
theorem toNumber?_text (h : decode? x = some (negative, m, q)) (hm : 0 < m) :
    (Value.text (json.text x)).toNumber? = some x := by
  obtain ⟨-, ⟨rfl, -⟩ | hfinite⟩ := toBits_of_decode? h
  · omega
  have hnan : x.isNaN = false := isNaN_of_decode? h
  obtain ⟨d, hwrites, hd⟩ := NumberText.writes_digitsText json (shortest m q)
  have hround : RoundsTo m q d.toRat := by
    rw [hd]
    exact roundsTo_shortest hfinite
  have htext : json.text x = String.ofList
      (if negative then '-' :: (json.digitsText (shortest m q)).toList
        else (json.digitsText (shortest m q)).toList) := by
    refine String.toList_inj.1 ?_
    simp only [Layout.text, hnan, h, hm.ne']
    cases negative <;> simp
  rw [htext, hwrites.toNumber? negative, nearest_eq_of_decode? h hm hround]

/-- A whole number with more digits than the largest double is beyond the doubles. -/
theorem digitCount_le_of_ofInt? {i : Int} (h : (ofInt? i).isSome = true) :
    digitCount i.natAbs ≤ 330 := by
  by_contra hlarge
  have hzero : i.natAbs ≠ 0 := by
    intro hzero
    rw [hzero] at hlarge
    exact hlarge (by decide)
  have hsize : (digitCount i.natAbs : Int) + 0 > 330 := by omega
  have hsmall : ¬(digitCount i.natAbs : Int) + 0 < -330 := by omega
  have hinf : (nearest (i < 0) ⟨i.natAbs, 0⟩).isInf = true := by
    simp only [nearest, hzero, hsize, hsmall, decide_false, Bool.or_self, Bool.false_eq_true,
      if_false, if_true]
    cases decide (i < 0) <;> rfl
  simp [ofInt?, hinf] at h

open Float.Model in
/-- What is not a number compares with nothing. -/
theorem not_lt_nan (x : Float) : ¬x < Float.nan ∧ ¬Float.nan < x ∧ ¬x ≤ Float.nan ∧
    ¬Float.nan ≤ x := by
  have hnan : Float.nan.toModel.unpack = .notANumber := rfl
  simp only [LT.lt, LE.le, Float.lt, Float.le, Float.Model.lt, Float.Model.le,
    UnpackedFloat.lt, UnpackedFloat.le, hnan]
  cases x.toModel.unpack <;> simp [UnpackedFloat.compare]

end Decimal

namespace Value

/-- Values that show the number they count as. -/
def ShowsNumber : Value → Prop
  | .bool _ => False
  | .int i => (Decimal.ofInt? i).isSome = true
  | .float x => x.isInf = false
  | _ => True

/-- A text that begins with neither a sign, a point nor a digit is no number. -/
theorem toNumber?_text_of_opening {c : Char} (hblank : Text.isBlank c = false)
    (hsign : c ≠ '+' ∧ c ≠ '-' ∧ c ≠ '.') (hdigit : Text.isDecimal c = false) (cs : List Char) :
    (text (String.ofList (c :: cs))).toNumber? = some notANumber := by
  obtain ⟨rest, htrim⟩ := Text.exists_trim_cons hblank cs
  have hparse : NumberText.parse? (c :: rest) = none := by
    simp [NumberText.parse?, NumberText.sign, hsign, NumberText.mantissa?, NumberText.digits,
      hdigit]
  simp [toNumber?, htrim, hparse]

/-- A number that is shown and read again is ordered as before. -/
theorem toNumber?_shown_float {x : Float} (hinf : x.isInf = false) :
    ∃ y, (text (float x).shown).toNumber? = some y ∧ Decimal.SameOrder x y := by
  cases hdecode : Decimal.decode? x with
  | none =>
    have hnan : x.isNaN = true := by
      simpa [hinf] using Decimal.decode?_eq_none_iff.1 hdecode
    obtain rfl := Decimal.eq_of_isNaN hnan
    exact ⟨notANumber, rfl, .refl _⟩
  | some parts =>
    obtain ⟨negative, m, q⟩ := parts
    cases hint : Decimal.toInt? x with
    | some i =>
      have hshown : (float x).shown = toString i := by simp [shown, hint]
      rw [hshown]
      exact ⟨_, NumberText.toNumber?_toString i, Decimal.nearest_of_toInt? hdecode hint⟩
    | none =>
      have hshown : (float x).shown = Decimal.json.text x := by simp [shown, hint]
      have hm : 0 < m := by
        refine Nat.pos_of_ne_zero ?_
        rintro rfl
        simp [Decimal.toInt?, hdecode, Decimal.Ratio.scaled] at hint
        split at hint <;> simp at hint
      rw [hshown]
      exact ⟨x, Decimal.toNumber?_text hdecode hm, .refl x⟩

/-- The text of a value that shows the number it counts as compares as that number does. -/
theorem toNumber?_shown {v : Value} (h : v.ShowsNumber) :
    ∃ x y, v.toNumber? = some x ∧ (text v.shown).toNumber? = some y ∧
      Decimal.SameOrder x y := by
  cases v with
  | null => exact ⟨0, 0, rfl, rfl, .refl 0⟩
  | bool b => exact absurd h id
  | int i =>
    have hi : Decimal.ofInt? i = some (Decimal.nearest (i < 0) ⟨i.natAbs, 0⟩) := by
      simp only [ShowsNumber, Decimal.ofInt?] at h ⊢
      split at h
      · cases h
      · rename_i hfinite
        rw [if_neg hfinite]
    exact ⟨_, _, hi, NumberText.toNumber?_toString i, .refl _⟩
  | float x =>
    obtain ⟨y, hy, hsame⟩ := toNumber?_shown_float (x := x) h
    exact ⟨x, y, rfl, hy, hsame⟩
  | text s =>
    obtain ⟨x, hx⟩ : ∃ x, (text s).toNumber? = some x := by
      cases htrim : Text.trim s.toList <;> simp [toNumber?, htrim]
    exact ⟨x, x, hx, hx, .refl x⟩
  | list items =>
    have htext : (list items).shown =
        String.ofList ('[' :: (", ".intercalate (Json.writeItems items) ++ "]").toList) := by
      refine String.toList_inj.1 ?_
      simp [shown, Json.write]
    refine ⟨_, _, rfl, ?_, .refl notANumber⟩
    rw [htext]
    exact toNumber?_text_of_opening (by decide) (by decide) (by decide) _
  | object members =>
    have htext : (object members).shown =
        String.ofList
          ('\x7b' :: (", ".intercalate (Json.writeMembers members) ++ "\x7d").toList) := by
      refine String.toList_inj.1 ?_
      simp [shown, Json.write]
    refine ⟨_, _, rfl, ?_, .refl notANumber⟩
    rw [htext]
    exact toNumber?_text_of_opening (by decide) (by decide) (by decide) _

/-- Of the values that show the number they count as, only lists and objects can be too large to
show, and these count as no number. -/
theorem display_of_showsNumber {v : Value} (h : v.ShowsNumber) :
    v.display = some v.shown ∨ v.toNumber? = some notANumber := by
  cases v with
  | int i =>
    have hdigits : Json.isWritable Json.maxNesting (.int i) = true := by
      have hle := Decimal.digitCount_le_of_ofInt? h
      exact decide_eq_true (hle.trans (by decide))
    exact Or.inl (display_eq_some_iff.2 ⟨hdigits, rfl⟩)
  | list items => exact Or.inr rfl
  | object members => exact Or.inr rfl
  | null => exact Or.inl rfl
  | bool b => exact Or.inl rfl
  | float x => exact Or.inl rfl
  | text s => exact Or.inl rfl

end Value

end CallFlow
