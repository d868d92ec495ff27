import CallFlow.Json.Write
import CallFlow.Proofs.Decimal.Bits
import CallFlow.Proofs.Decimal.Written
import CallFlow.Proofs.Json.Grammar

namespace CallFlow.Json

open Text

theorem digitsNat_eq {cs : List Char} (h : Digits cs) : digitsNat cs = decimalNat cs :=
  (decimalNat_of_digits h).symm

section Whole

/-- Only zero is written with a zero in front. -/
theorem head?_toDigits_ne {n : Nat} (hn : 0 < n) : (Nat.toDigits 10 n).head? ≠ some '0' := by
  induction n using Nat.strongRecOn with
  | ind n ih =>
    rcases Nat.lt_or_ge n 10 with hlt | hge
    · rw [Nat.toDigits_of_lt_base hlt]
      have hall : ∀ k < 10, 0 < k → [Nat.digitChar k].head? ≠ some '0' := by decide
      exact hall n hlt hn
    · have hrest := ih (n / 10) (by omega) (by omega)
      rw [Nat.toDigits_of_base_le (by decide) hge]
      rwa [List.head?_append_of_ne_nil _ Nat.toDigits_ne_nil]

/-- The digits of a number begin with a zero only if it is zero. -/
theorem leading_toDigits (n : Nat) (h : (Nat.toDigits 10 n).head? = some '0') :
    Nat.toDigits 10 n = ['0'] := by
  rcases Nat.eq_zero_or_pos n with rfl | hn
  · rfl
  · exact absurd h (head?_toDigits_ne hn)

/-- A whole number without its sign. -/
def wholeNumeral (n : Nat) : Numeral := { whole := Nat.toDigits 10 n }

theorem isProper_wholeNumeral (n : Nat) : (wholeNumeral n).IsProper where
  whole := digits_toDigits n
  whole_ne := Nat.toDigits_ne_nil
  leading := leading_toDigits n
  fraction := nofun
  exponent := nofun

/-- A whole numeral that is not too long stands for its number. -/
theorem value_wholeNumeral {n : Nat} (h : Decimal.digitCount n ≤ maxDigits) (negative : Bool) :
    (wholeNumeral n).value negative = .ok (.int (if negative then -(n : Int) else n)) := by
  have hvalue : digitsNat (Nat.toDigits 10 n) = n := by
    rw [digitsNat_eq (digits_toDigits n), NumberText.decimalNat_toDigits]
  have hlength : ¬maxDigits < (Nat.toDigits 10 n).length := Nat.not_lt.2 h
  simp [Numeral.value, wholeNumeral, hvalue, hlength]

/-- A whole number that is not too long is read as it is written. -/
theorem spells_int {room : Nat} {i : Int} (h : Decimal.digitCount i.natAbs ≤ maxDigits) :
    Spells room (toString i).toList (.value (.int i)) := by
  have hproper := isProper_wholeNumeral i.natAbs
  have htext : (wholeNumeral i.natAbs).text = Nat.toDigits 10 i.natAbs := by
    simp [wholeNumeral, Numeral.text]
  rw [NumberText.toList_toString, ← htext]
  split
  · have hi : -(i.natAbs : Int) = i := by omega
    refine .negative hproper ?_
    rw [value_wholeNumeral h, if_pos rfl, hi]
  · have hi : (i.natAbs : Int) = i := by omega
    refine .number hproper ?_
    rw [value_wholeNumeral h, if_neg Bool.false_ne_true, hi]

end Whole

section Layout

/-- A text that a numeral with a point or an exponent has, of the same value as a decimal. -/
def WritesDecimal (cs : List Char) (d : Decimal) : Prop :=
  ∃ p : Numeral, p.IsProper ∧ p.text = cs ∧ (p.fraction.isNone && p.exponent.isNone) = false ∧
    p.decimal.toRat = d.toRat

theorem exponent_exponentText (e : Int) : Exponent (Decimal.exponentText e).toList e := by
  obtain ⟨ds, htext, hds, hne, hvalue⟩ := NumberText.toList_exponentText e
  rw [← digitsNat_eq hds] at hvalue
  rw [htext]
  split
  · have he : e = -(digitsNat ds : Int) := by omega
    exact he ▸ .minus (Or.inl rfl) hds hne
  · have he : e = (digitsNat ds : Int) := by omega
    exact he ▸ .plus (Or.inl rfl) hds hne

variable {ds : List Char} (hds : Digits ds)
include hds

/-- A fraction in full, with zeros after its point. -/
theorem writesDecimal_fraction (hne : ds ≠ []) (n : Nat) :
    WritesDecimal ('0' :: '.' :: (List.replicate n '0' ++ ds))
      ⟨decimalNat ds, -((n + ds.length : Nat) : Int)⟩ := by
  have hzeros : Digits (List.replicate n '0' ++ ds) := (digits_zeros n).append hds
  have hvalue : digitsNat ('0' :: (List.replicate n '0' ++ ds)) = decimalNat ds := by
    rw [← List.cons_append, ← List.replicate_succ, digitsNat_eq ((digits_zeros _).append hds),
      NumberText.decimalNat_zeros_append hds]
  refine ⟨⟨['0'], some (List.replicate n '0' ++ ds), none⟩, ⟨digits_zeros 1, by simp, fun _ => rfl,
    ?_, nofun⟩, by simp [Numeral.text], rfl, ?_⟩
  · rintro fs ⟨⟩
    exact ⟨hzeros, by simp [hne]⟩
  · simp [Numeral.decimal, hvalue]

variable (hne : ds ≠ []) (hlead : ds.head? ≠ some '0')
include hne hlead

/-- A whole number in full, with zeros before its point. -/
theorem writesDecimal_whole (n : Nat) :
    WritesDecimal (ds ++ List.replicate n '0' ++ ['.', '0']) ⟨decimalNat ds, n⟩ := by
  have hzeros : Digits (ds ++ List.replicate n '0') := hds.append (digits_zeros n)
  have hvalue : digitsNat (ds ++ List.replicate n '0' ++ ['0']) = 10 ^ (n + 1) * decimalNat ds := by
    rw [List.append_assoc, ← List.replicate_succ', digitsNat_eq (hds.append (digits_zeros _)),
      NumberText.decimalNat_append_zeros hds]
  refine ⟨⟨ds ++ List.replicate n '0', some ['0'], none⟩, ⟨hzeros, by simp [hne], ?_, ?_, nofun⟩,
    by simp [Numeral.text], rfl, ?_⟩
  · rw [List.head?_append_of_ne_nil _ hne]
    exact fun hzero => absurd hzero hlead
  · rintro fs ⟨⟩
    exact ⟨digits_zeros 1, by simp⟩
  · simp only [Numeral.decimal, Option.getD_some, hvalue, Decimal.toRat]
    push_cast
    rw [pow_succ]
    norm_num
    ring

/-- Digits with the point among them. -/
theorem writesDecimal_split {n : Nat} (hn : 0 < n) (hlt : n < ds.length) :
    WritesDecimal (ds.take n ++ '.' :: ds.drop n)
      ⟨decimalNat ds, -((ds.length - n : Nat) : Int)⟩ := by
  have htake : Digits (ds.take n) := fun c hc => hds c (List.mem_of_mem_take hc)
  have hdrop : Digits (ds.drop n) := fun c hc => hds c (List.mem_of_mem_drop hc)
  have hhead : (ds.take n).head? ≠ some '0' := by rwa [List.head?_take, if_neg hn.ne']
  refine ⟨⟨ds.take n, some (ds.drop n), none⟩, ⟨htake, by simp [hne, hn.ne'],
    fun hzero => absurd hzero hhead, ?_, nofun⟩, by simp [Numeral.text], rfl, ?_⟩
  · rintro fs ⟨⟩
    exact ⟨hdrop, by simp [hlt]⟩
  · simp [Numeral.decimal, digitsNat_eq hds]

/-- A digit, the others after a point if there are any, and an exponent. -/
theorem writesDecimal_scientific (e : Int) :
    WritesDecimal (ds.take 1 ++ (if (ds.drop 1).isEmpty then [] else '.' :: ds.drop 1) ++
      (Decimal.exponentText e).toList) ⟨decimalNat ds, e - ((ds.length : Int) - 1)⟩ := by
  obtain ⟨c, tail, rfl⟩ := List.exists_cons_of_ne_nil hne
  have hfront : Digits [c] := fun _ h => hds _ (List.mem_singleton.1 h ▸ List.mem_cons_self)
  have htail : Digits tail := fun d hd => hds d (List.mem_cons_of_mem c hd)
  have hhead : [c].head? = some '0' → [c] = ['0'] := fun hzero => absurd hzero hlead
  have hexponent := exponent_exponentText e
  by_cases hend : tail = []
  · subst hend
    refine ⟨⟨[c], none, some ((Decimal.exponentText e).toList, e)⟩,
      ⟨hfront, by simp, hhead, nofun, ?_⟩, by simp [Numeral.text], rfl, ?_⟩
    · rintro _ ⟨⟩
      exact hexponent
    · simp [Numeral.decimal, digitsNat_eq hds]
  · refine ⟨⟨[c], some tail, some ((Decimal.exponentText e).toList, e)⟩,
      ⟨hfront, by simp, hhead, ?_, ?_⟩, by simp [Numeral.text, hend], rfl, ?_⟩
    · rintro fs ⟨⟩
      exact ⟨htail, hend⟩
    · rintro _ ⟨⟩
      exact hexponent
    · simp [Numeral.decimal, digitsNat_eq hds]

end Layout

/-- The text of a decimal above zero is a numeral of its value, in whatever layout. -/
theorem writesDecimal_digitsText (l : Decimal.Layout) {d : Decimal} (hd : 0 < d.digits) :
    WritesDecimal (l.digitsText d).toList d := by
  obtain ⟨ds, hdigits⟩ : ∃ ds, ds = Nat.toDigits 10 d.digits := ⟨_, rfl⟩
  have hds : Digits ds := hdigits ▸ digits_toDigits _
  have hne : ds ≠ [] := hdigits ▸ Nat.toDigits_ne_nil
  have hlead : ds.head? ≠ some '0' := hdigits ▸ head?_toDigits_ne hd
  have hvalue : decimalNat ds = d.digits := hdigits ▸ NumberText.decimalNat_toDigits _
  have htext : (toString d.digits).toList = ds := by simp [hdigits]
  obtain ⟨digits, exponent⟩ := d
  simp only at hvalue htext
  subst hvalue
  simp only [Decimal.Layout.digitsText, htext]
  split
  · split
    · have hexponent : -(((-(ds.length + exponent)).toNat + ds.length : Nat) : Int) = exponent := by
        omega
      have hwrites := writesDecimal_fraction hds hne (-(ds.length + exponent)).toNat
      rw [hexponent] at hwrites
      simpa using hwrites
    · split
      · have hexponent : (((ds.length + exponent).toNat - ds.length : Nat) : Int) = exponent := by
          omega
        have hwrites := writesDecimal_whole hds hne hlead ((ds.length + exponent).toNat - ds.length)
        rw [hexponent] at hwrites
        simpa using hwrites
      · have hexponent : -((ds.length - (ds.length + exponent).toNat : Nat) : Int) = exponent := by
          omega
        have hwrites := writesDecimal_split hds hne hlead (n := (ds.length + exponent).toNat)
          (by omega) (by omega)
        rw [hexponent] at hwrites
        simpa using hwrites
  · have hexponent : (ds.length : Int) + exponent - 1 - ((ds.length : Int) - 1) = exponent := by
      omega
    have hwrites := writesDecimal_scientific hds hne hlead (ds.length + exponent - 1)
    rw [hexponent] at hwrites
    by_cases htail : ds.tail = []
    · simpa [htail] using hwrites
    · simpa [htail] using hwrites

section Float

variable {x : Float} {negative : Bool} {m : Nat} {q : Int}

/-- A number with a point or an exponent is read as the double nearest to it. -/
theorem value_eq_float {p : Numeral} (hpoint : (p.fraction.isNone && p.exponent.isNone) = false)
    (hnearest : Decimal.nearest negative p.decimal = x) : p.value negative = .ok (.float x) := by
  rw [Numeral.value, hpoint, hnearest]
  rfl

/-- A numeral spells its number, with a minus in front if it is negative. -/
theorem spells_signed {room : Nat} {p : Numeral} (hp : p.IsProper)
    (h : p.value negative = .ok (.float x)) :
    Spells room (if negative then '-' :: p.text else p.text) (.value (.float x)) := by
  cases negative with
  | false => exact .number hp h
  | true => exact .negative hp h

/-- A number is written as its digits, with a minus in front if it is negative. -/
theorem toList_jsonText (h : Decimal.decode? x = some (negative, m, q)) {cs : List Char}
    (hcs : cs = if m = 0 then ['0', '.', '0']
      else (Decimal.json.digitsText (Decimal.shortest m q)).toList) :
    (Decimal.json.text x).toList = if negative then '-' :: cs else cs := by
  have hnan : x.isNaN = false := Decimal.isNaN_of_decode? h
  subst hcs
  simp only [Decimal.Layout.text, hnan, h]
  by_cases hm : m = 0 <;> cases negative <;> simp [hm]

theorem digits_shortest_pos (h : Decimal.IsFinite m q) : 0 < (Decimal.shortest m q).digits := by
  refine Nat.pos_of_ne_zero fun hzero => ?_
  have hsmall := ((Decimal.roundsTo_shortest h).bounds h).1
  rw [Decimal.toRat, hzero, Nat.cast_zero, zero_mul] at hsmall
  exact absurd hsmall (not_lt.2 (by positivity))

/-- What is written for a finite number spells it. -/
theorem spells_finite {room : Nat} (h : Decimal.decode? x = some (negative, m, q)) (hm : 0 < m) :
    Spells room (Decimal.json.text x).toList (.value (.float x)) := by
  obtain ⟨-, ⟨rfl, -⟩ | hfinite⟩ := Decimal.toBits_of_decode? h
  · exact absurd hm (lt_irrefl 0)
  obtain ⟨p, hp, htext, hpoint, hvalue⟩ :=
    writesDecimal_digitsText Decimal.json (digits_shortest_pos hfinite)
  have hround : Decimal.RoundsTo m q p.decimal.toRat := by
    rw [hvalue]
    exact Decimal.roundsTo_shortest hfinite
  rw [toList_jsonText h (htext.trans (if_neg hm.ne').symm)]
  exact spells_signed hp (value_eq_float hpoint (Decimal.nearest_eq_of_decode? h hm hround))

/-- Zero has its sign in front. -/
theorem spells_zero {room : Nat} (h : Decimal.decode? x = some (negative, 0, q)) :
    Spells room (Decimal.json.text x).toList (.value (.float x)) := by
  have hp : (⟨['0'], some ['0'], none⟩ : Numeral).IsProper := by
    refine ⟨digits_zeros 1, by simp, fun _ => rfl, ?_, nofun⟩
    rintro fs ⟨⟩
    exact ⟨digits_zeros 1, by simp⟩
  have hnearest : Decimal.nearest negative (⟨['0'], some ['0'], none⟩ : Numeral).decimal = x := by
    obtain ⟨hbits, ⟨-, rfl⟩ | hfinite⟩ := Decimal.toBits_of_decode? h
    · have hround : x = Float.ofBits (UInt64.ofNat x.toBits.toNat) := by
        rw [UInt64.ofNat_toNat, Float.ofBits_toBits]
      rw [hround, hbits]
      cases negative <;> rfl
    · exact absurd hfinite.pos (lt_irrefl 0)
  rw [toList_jsonText h (if_pos rfl).symm]
  exact spells_signed hp (value_eq_float rfl hnearest)

/-- A floating-point number is read as it is written. -/
theorem spells_float (room : Nat) (x : Float) :
    Spells room (Decimal.json.text x).toList (.value (.float x)) := by
  cases hdecode : Decimal.decode? x with
  | none =>
    obtain hinf | hnan := Decimal.decode?_eq_none_iff.1 hdecode
    · obtain rfl | rfl := Decimal.eq_of_isInf hinf
      · exact .word (w := "Infinity") (by simp [words])
      · exact .word (w := "-Infinity") (by simp [words])
    · obtain rfl := Decimal.eq_of_isNaN hnan
      exact .word (w := "NaN") (by simp [words, Float.nan])
  | some parts =>
    obtain ⟨negative, m, q⟩ := parts
    rcases Nat.eq_zero_or_pos m with rfl | hm
    · exact spells_zero hdecode
    · exact spells_finite hdecode hm

end Float

end CallFlow.Json
