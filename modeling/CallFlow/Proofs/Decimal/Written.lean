import CallFlow.Number
import CallFlow.Proofs.Decimal.Ratio
import CallFlow.Proofs.Text.Trim

namespace CallFlow

namespace Text

/-- Nothing but the digits from 0 to 9. -/
def Digits (cs : List Char) : Prop := ∀ c ∈ cs, c.isDigit = true

/-- The value of an ASCII digit. -/
theorem decimalValue?_of_isDigit {c : Char} (h : c.isDigit = true) :
    decimalValue? c = some (c.toNat - 48) := by
  have hbounds := Char.isDigit_iff_toNat.1 h
  simp only [Char.reduceToNat] at hbounds
  have hfind : (48 ≤ c.toNat && c.toNat < 48 + 10) = true := by
    simp
    omega
  simp [decimalValue?, zeros, hfind]

theorem isDecimal_of_isDigit {c : Char} (h : c.isDigit = true) : isDecimal c = true := by
  simp [isDecimal, decimalValue?_of_isDigit h]

theorem isBlank_of_isDigit {c : Char} (h : c.isDigit = true) : isBlank c = false := by
  have hbounds := Char.isDigit_iff_toNat.1 h
  simp only [Char.reduceToNat] at hbounds
  simp [isBlank, inRanges, blankRanges]
  omega

/-- Digits of ASCII have the value that they have everywhere. -/
theorem decimalNat_of_digits {cs : List Char} (h : Digits cs) :
    decimalNat cs = Nat.ofDigitChars 10 cs 0 := by
  unfold decimalNat
  generalize 0 = n
  induction cs generalizing n with
  | nil => simp
  | cons c cs ih =>
    have hc := decimalValue?_of_isDigit (h c List.mem_cons_self)
    rw [List.foldl_cons, ih (fun d hd => h d (List.mem_cons_of_mem _ hd)), hc,
      Nat.ofDigitChars_cons]
    rfl

theorem digits_toDigits (n : Nat) : Digits (Nat.toDigits 10 n) :=
  fun _ hc => Nat.isDigit_of_mem_toDigits (by decide) (by decide) hc

theorem Digits.append {cs ds : List Char} (hcs : Digits cs) (hds : Digits ds) :
    Digits (cs ++ ds) :=
  fun c hc => (List.mem_append.1 hc).elim (hcs c) (hds c)

theorem digits_zeros (n : Nat) : Digits (List.replicate n '0') := by
  intro c hc
  rw [List.eq_of_mem_replicate hc]
  rfl

end Text

open Text

namespace NumberText

/-- Digits are taken up to the first character that is none. -/
theorem digits_append {ds rest : List Char} (hds : Digits ds)
    (hrest : ∀ c ∈ rest.head?, isDecimal c = false) : digits (ds ++ rest) = (ds, rest) := by
  have hall : ∀ c ∈ ds, isDecimal c = true := fun c hc => isDecimal_of_isDigit (hds c hc)
  cases rest with
  | nil =>
    have htake : ds.takeWhile isDecimal = ds := List.takeWhile_eq_self_iff.2 hall
    have hdrop : ds.dropWhile isDecimal = [] := List.dropWhile_eq_nil_iff.2 hall
    simp [digits, htake, hdrop]
  | cons c rest =>
    have hc : isDecimal c = false := hrest c rfl
    simp [digits, List.takeWhile_append_of_pos hall, List.dropWhile_append_of_pos hall, hc]

/-- A run of digits is a mantissa without a point. -/
theorem mantissa?_whole {whole rest : List Char} (hwhole : Digits whole) (hne : whole ≠ [])
    (hrest : ∀ c ∈ rest.head?, isDecimal c = false ∧ c ≠ '.') :
    mantissa? (whole ++ rest) = some (whole, [], rest) := by
  have hread := digits_append hwhole fun c hc => (hrest c hc).1
  unfold mantissa?
  rw [hread]
  cases rest with
  | nil => simp [hne]
  | cons c rest =>
    have hc : c ≠ '.' := (hrest c rfl).2
    simp [hne, hc]

/-- Digits on both sides of a point are a mantissa. -/
theorem mantissa?_point {whole fraction rest : List Char} (hwhole : Digits whole)
    (hne : whole ≠ []) (hfraction : Digits fraction)
    (hrest : ∀ c ∈ rest.head?, isDecimal c = false) :
    mantissa? (whole ++ '.' :: (fraction ++ rest)) = some (whole, fraction, rest) := by
  have hread : digits (whole ++ '.' :: (fraction ++ rest)) = (whole, '.' :: (fraction ++ rest)) :=
    digits_append hwhole fun c hc => by
      cases hc
      decide
  unfold mantissa?
  rw [hread]
  simp [digits_append hfraction hrest, hne]

/-- Characters that a number without a sign is written with, and the decimal that it is read as. -/
structure Writes (cs : List Char) (d : Decimal) : Prop where
  first : ∃ c rest, cs = c :: rest ∧ c.isDigit = true
  plain : ∀ c ∈ cs, isBlank c = false
  reads : ∃ whole fraction rest e, mantissa? cs = some (whole, fraction, rest) ∧
    exponent? rest = some e ∧ d = ⟨decimalNat (whole ++ fraction), e - fraction.length⟩

namespace Writes

variable {cs : List Char} {d : Decimal}

theorem parse? (h : Writes cs d) :
    NumberText.parse? cs = some (Decimal.nearest false d) ∧
      NumberText.parse? ('-' :: cs) = some (Decimal.nearest true d) := by
  obtain ⟨whole, fraction, rest, e, hmantissa, hexponent, rfl⟩ := h.reads
  have hsign : sign cs = (false, cs) := by
    obtain ⟨c, rest, rfl, hc⟩ := h.first
    have hplus : c ≠ '+' := by rintro rfl; cases hc
    have hminus : c ≠ '-' := by rintro rfl; cases hc
    simp [sign, hplus, hminus]
  constructor
  · simp [NumberText.parse?, hsign, hmantissa, hexponent]
  · simp [NumberText.parse?, sign, hmantissa, hexponent]

/-- What a text counts as that a number is written with, with or without a minus. -/
theorem toNumber? (h : Writes cs d) (negative : Bool) :
    (Value.text (String.ofList (if negative then '-' :: cs else cs))).toNumber? =
      some (Decimal.nearest negative d) := by
  obtain ⟨c, rest, hcons, -⟩ := h.first
  obtain ⟨hparse, hparseMinus⟩ := h.parse?
  cases negative with
  | false =>
    have htrim : trim cs = c :: rest := (trim_of_tight (tight_of_forall h.plain)).trans hcons
    rw [hcons] at hparse
    simp [Value.toNumber?, htrim, hparse]
  | true =>
    have hplain : ∀ c ∈ '-' :: cs, isBlank c = false :=
      List.forall_mem_cons.2 ⟨by decide, h.plain⟩
    have htrim : trim ('-' :: cs) = '-' :: cs := trim_of_tight (tight_of_forall hplain)
    simp [Value.toNumber?, htrim, hparseMinus]

theorem plain_append {cs ds : List Char} (hcs : ∀ c ∈ cs, isBlank c = false)
    (hds : ∀ c ∈ ds, isBlank c = false) : ∀ c ∈ cs ++ ds, isBlank c = false :=
  fun c hc => (List.mem_append.1 hc).elim (hcs c) (hds c)

/-- Digits with an exponent after them. -/
theorem whole {ds rest : List Char} {e : Int} (hds : Digits ds) (hne : ds ≠ [])
    (hrest : ∀ c ∈ rest.head?, isDecimal c = false ∧ c ≠ '.')
    (hplain : ∀ c ∈ rest, isBlank c = false) (he : exponent? rest = some e) :
    Writes (ds ++ rest) ⟨decimalNat ds, e⟩ where
  first := by
    obtain ⟨c, ds, rfl⟩ := List.exists_cons_of_ne_nil hne
    exact ⟨c, _, rfl, hds c List.mem_cons_self⟩
  plain := plain_append (fun c hc => isBlank_of_isDigit (hds c hc)) hplain
  reads := ⟨ds, [], rest, e, mantissa?_whole hds hne hrest, he, by simp⟩

/-- Digits with a point among them and an exponent after them. -/
theorem point {ds fraction rest : List Char} {e : Int} (hds : Digits ds) (hne : ds ≠ [])
    (hfraction : Digits fraction) (hrest : ∀ c ∈ rest.head?, isDecimal c = false)
    (hplain : ∀ c ∈ rest, isBlank c = false) (he : exponent? rest = some e) :
    Writes (ds ++ '.' :: (fraction ++ rest))
      ⟨decimalNat (ds ++ fraction), e - fraction.length⟩ where
  first := by
    obtain ⟨c, ds, rfl⟩ := List.exists_cons_of_ne_nil hne
    exact ⟨c, _, rfl, hds c List.mem_cons_self⟩
  plain := plain_append (fun c hc => isBlank_of_isDigit (hds c hc)) <|
    List.forall_mem_cons.2 ⟨by decide,
      plain_append (fun c hc => isBlank_of_isDigit (hfraction c hc)) hplain⟩
  reads := ⟨ds, fraction, rest, e, mantissa?_point hds hne hfraction hrest, he, rfl⟩

/-- Digits with a point among them and nothing after them. -/
theorem point_end {ds fraction : List Char} (hds : Digits ds) (hne : ds ≠ [])
    (hfraction : Digits fraction) :
    Writes (ds ++ '.' :: fraction) ⟨decimalNat (ds ++ fraction), -fraction.length⟩ := by
  have hrest : ∀ c ∈ ([] : List Char).head?, isDecimal c = false := nofun
  simpa using point hds hne hfraction hrest nofun rfl

end Writes

/-- An exponent is a letter, a sign and digits. -/
theorem toList_exponentText (e : Int) :
    ∃ ds, (Decimal.exponentText e).toList = 'e' :: (if e < 0 then '-' else '+') :: ds ∧
      Digits ds ∧ ds ≠ [] ∧ decimalNat ds = e.natAbs := by
  have hvalue : decimalNat (Nat.toDigits 10 e.natAbs) = e.natAbs := by
    rw [decimalNat_of_digits (digits_toDigits _), Nat.ofDigitChars_ten_toDigits]
  rcases Nat.lt_or_ge (Nat.toDigits 10 e.natAbs).length 2 with hshort | hlong
  · have hzero : Digits ('0' :: Nat.toDigits 10 e.natAbs) :=
      (digits_zeros 1).append (digits_toDigits _)
    refine ⟨'0' :: Nat.toDigits 10 e.natAbs, ?_, hzero, by simp, ?_⟩
    · have hlength : (toString e.natAbs).length < 2 := by
        rw [← String.length_toList, Nat.toString_eq_repr, Nat.toList_repr]
        exact hshort
      simp only [Decimal.exponentText, hlength, if_true]
      split <;> simp
    · rw [decimalNat_of_digits hzero, Nat.ofDigitChars_cons]
      simp
  · refine ⟨Nat.toDigits 10 e.natAbs, ?_, digits_toDigits _, Nat.toDigits_ne_nil, hvalue⟩
    have hlength : ¬ (toString e.natAbs).length < 2 := by
      rw [← String.length_toList, Nat.toString_eq_repr, Nat.toList_repr]
      exact not_lt.2 hlong
    simp only [Decimal.exponentText, hlength, if_false]
    split <;> simp

/-- An exponent is read as it is written. -/
theorem exponent?_exponentText (e : Int) : exponent? (Decimal.exponentText e).toList = some e := by
  obtain ⟨ds, htext, hds, hne, hvalue⟩ := toList_exponentText e
  have hread : digits ds = (ds, []) := by
    have hall : digits (ds ++ []) = (ds, []) := digits_append hds nofun
    rwa [List.append_nil] at hall
  rw [htext]
  by_cases hnegative : e < 0
  · simp [exponent?, sign, hnegative, hread, hvalue, abs_of_neg]
  · simp [exponent?, sign, hnegative, hread, hvalue, abs_of_nonneg (not_lt.1 hnegative)]

/-- The text of an exponent has no blank in it and does not go on with a digit or a point. -/
theorem plain_exponentText (e : Int) :
    (∀ c ∈ (Decimal.exponentText e).toList, isBlank c = false) ∧
      ∀ c ∈ (Decimal.exponentText e).toList.head?, isDecimal c = false ∧ c ≠ '.' := by
  obtain ⟨ds, htext, hds, -, -⟩ := toList_exponentText e
  rw [htext]
  constructor
  · have hsign : isBlank (if e < 0 then '-' else '+') = false := by split <;> decide
    exact List.forall_mem_cons.2 ⟨by decide, List.forall_mem_cons.2
      ⟨hsign, fun c hc => isBlank_of_isDigit (hds c hc)⟩⟩
  · intro c hc
    cases hc
    decide

/-- The digits of a number stand for it. -/
theorem decimalNat_toDigits (n : Nat) : decimalNat (Nat.toDigits 10 n) = n := by
  rw [decimalNat_of_digits (digits_toDigits n), Nat.ofDigitChars_ten_toDigits]

/-- Zeros at the end multiply by ten each. -/
theorem decimalNat_append_zeros {ds : List Char} (hds : Digits ds) (n : Nat) :
    decimalNat (ds ++ List.replicate n '0') = 10 ^ n * decimalNat ds := by
  rw [decimalNat_of_digits (hds.append (digits_zeros n)), Nat.ofDigitChars_append,
    Nat.ofDigitChars_replicate_zero, decimalNat_of_digits hds]

/-- Zeros in front do not count. -/
theorem decimalNat_zeros_append {ds : List Char} (hds : Digits ds) (n : Nat) :
    decimalNat (List.replicate n '0' ++ ds) = decimalNat ds := by
  rw [decimalNat_of_digits ((digits_zeros n).append hds), Nat.ofDigitChars_append,
    Nat.ofDigitChars_replicate_zero, decimalNat_of_digits hds, Nat.mul_zero]

section Layout

variable {ds : List Char} (hds : Digits ds)
include hds

/-- A fraction in full, with zeros after its point. -/
theorem writes_fraction (n : Nat) :
    Writes ('0' :: '.' :: (List.replicate n '0' ++ ds))
      ⟨decimalNat ds, -((n + ds.length : Nat) : Int)⟩ := by
  have hzeros : Digits (List.replicate n '0' ++ ds) := (digits_zeros n).append hds
  have hnat : decimalNat (['0'] ++ (List.replicate n '0' ++ ds)) = decimalNat ds := by
    have hfront : ['0'] ++ (List.replicate n '0' ++ ds) = List.replicate (n + 1) '0' ++ ds := by
      simp [List.replicate_succ]
    rw [hfront, decimalNat_zeros_append hds]
  have hwrites := Writes.point_end (digits_zeros 1) (by simp) hzeros
  rw [List.replicate_one, hnat, List.length_append, List.length_replicate] at hwrites
  exact hwrites

variable (hne : ds ≠ [])
include hne

/-- A whole number in full, with zeros before its point. -/
theorem writes_whole (n : Nat) :
    Writes (ds ++ List.replicate n '0' ++ ['.', '0']) ⟨10 ^ (n + 1) * decimalNat ds, -1⟩ := by
  have hzeros : Digits (ds ++ List.replicate n '0') := hds.append (digits_zeros n)
  have hnat : decimalNat (ds ++ List.replicate n '0' ++ ['0']) = 10 ^ (n + 1) * decimalNat ds := by
    have hback : ds ++ List.replicate n '0' ++ ['0'] = ds ++ List.replicate (n + 1) '0' := by
      simp [List.replicate_succ']
    rw [hback, decimalNat_append_zeros hds]
  have hwrites := Writes.point_end hzeros (by simp [hne]) (digits_zeros 1)
  rw [List.replicate_one, hnat] at hwrites
  exact hwrites

/-- Digits with the point among them. -/
theorem writes_split {n : Nat} (hn : 0 < n) :
    Writes (ds.take n ++ '.' :: ds.drop n) ⟨decimalNat ds, -((ds.length - n : Nat) : Int)⟩ := by
  have htake : Digits (ds.take n) := fun c hc => hds c (List.mem_of_mem_take hc)
  have hdrop : Digits (ds.drop n) := fun c hc => hds c (List.mem_of_mem_drop hc)
  have hfront : ds.take n ≠ [] := by simp [hne, hn.ne']
  have hwrites := Writes.point_end htake hfront hdrop
  rwa [List.take_append_drop, List.length_drop] at hwrites

/-- A digit, the others after a point if there are any, and an exponent. -/
theorem writes_scientific (e : Int) :
    Writes (ds.take 1 ++ (if (ds.drop 1).isEmpty then [] else '.' :: ds.drop 1) ++
      (Decimal.exponentText e).toList) ⟨decimalNat ds, e - ((ds.length : Int) - 1)⟩ := by
  have hread := exponent?_exponentText e
  obtain ⟨hplain, hrest⟩ := plain_exponentText e
  obtain ⟨c, tail, rfl⟩ := List.exists_cons_of_ne_nil hne
  have hfront : Digits [c] := fun _ h => hds _ (List.mem_singleton.1 h ▸ List.mem_cons_self)
  cases tail with
  | nil => simpa using Writes.whole hfront (by simp) hrest hplain hread
  | cons d tail =>
    have htail : Digits (d :: tail) := fun e he => hds e (List.mem_cons_of_mem _ he)
    have hwrites := Writes.point hfront (by simp) htail (fun c hc => (hrest c hc).1) hplain hread
    simpa using hwrites

end Layout

/-- The text of a decimal in a layout is read as a decimal that stands for the same number. -/
theorem writes_digitsText (l : Decimal.Layout) (d : Decimal) :
    ∃ d', Writes (l.digitsText d).toList d' ∧ d'.toRat = d.toRat := by
  obtain ⟨ds, hdigits⟩ : ∃ ds, ds = Nat.toDigits 10 d.digits := ⟨_, rfl⟩
  have hds : Digits ds := hdigits ▸ digits_toDigits _
  have hne : ds ≠ [] := hdigits ▸ Nat.toDigits_ne_nil
  have hvalue : decimalNat ds = d.digits := hdigits ▸ decimalNat_toDigits _
  have htext : (toString d.digits).toList = ds := by simp [hdigits]
  obtain ⟨digits, exponent⟩ := d
  simp only at hvalue htext
  subst hvalue
  simp only [Decimal.Layout.digitsText, htext]
  split
  · split
    · have hexponent : -(((-(ds.length + exponent)).toNat + ds.length : Nat) : Int) = exponent := by
        omega
      have hwrites := writes_fraction hds (-(ds.length + exponent)).toNat
      rw [hexponent] at hwrites
      exact ⟨_, by simpa using hwrites, rfl⟩
    · split
      · have hwrites := writes_whole hds hne ((ds.length + exponent).toNat - ds.length)
        have hexponent : exponent = ((ds.length + exponent).toNat - ds.length : Nat) := by omega
        refine ⟨_, by simpa using hwrites, ?_⟩
        generalize (ds.length + exponent).toNat - ds.length = n at hexponent
        simp only [Decimal.toRat, hexponent]
        push_cast
        rw [pow_succ]
        norm_num
        ring
      · have hexponent : -((ds.length - (ds.length + exponent).toNat : Nat) : Int) = exponent := by
          omega
        have hwrites := writes_split hds hne (n := (ds.length + exponent).toNat) (by omega)
        rw [hexponent] at hwrites
        exact ⟨_, by simpa using hwrites, rfl⟩
  · have hexponent : (ds.length : Int) + exponent - 1 - ((ds.length : Int) - 1) = exponent := by
      omega
    have hwrites := writes_scientific hds hne (ds.length + exponent - 1)
    rw [hexponent] at hwrites
    refine ⟨_, ?_, rfl⟩
    by_cases htail : ds.tail = []
    · simpa [htail] using hwrites
    · simpa [htail] using hwrites

/-- The digits of a number write it without an exponent. -/
theorem writes_toDigits (n : Nat) : Writes (Nat.toDigits 10 n) ⟨n, 0⟩ := by
  have hrest : ∀ c ∈ ([] : List Char).head?, isDecimal c = false ∧ c ≠ '.' := nofun
  have hwrites := Writes.whole (digits_toDigits n) Nat.toDigits_ne_nil hrest nofun rfl
  rwa [List.append_nil, decimalNat_toDigits] at hwrites

/-- A whole number is written as its digits, after a minus if it is negative. -/
theorem toList_toString (i : Int) : (toString i).toList =
    if i < 0 then '-' :: Nat.toDigits 10 i.natAbs else Nat.toDigits 10 i.natAbs := by
  rcases lt_or_ge i 0 with hnegative | hnonneg
  · have habs : (-i).toNat = i.natAbs := by omega
    simp [Int.repr_eq_if, hnegative, not_le.2 hnegative, habs]
  · have habs : i.toNat = i.natAbs := by omega
    simp [Int.repr_eq_if, hnonneg, not_lt.2 hnonneg, habs]

/-- What the text of a whole number counts as. -/
theorem toNumber?_toString (i : Int) :
    (Value.text (toString i)).toNumber? = some (Decimal.nearest (i < 0) ⟨i.natAbs, 0⟩) := by
  have htext : toString i = String.ofList
      (if decide (i < 0) = true then '-' :: Nat.toDigits 10 i.natAbs
        else Nat.toDigits 10 i.natAbs) := by
    rw [← String.toList_inj, toList_toString, String.toList_ofList]
    simp only [decide_eq_true_eq]
  rw [htext]
  exact (writes_toDigits i.natAbs).toNumber? (decide (i < 0))

end NumberText

end CallFlow
