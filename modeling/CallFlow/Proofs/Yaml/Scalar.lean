import CallFlow.Proofs.Json.Numbers
import CallFlow.Proofs.Yaml.Layout

namespace CallFlow.Yaml

open Text (Digits digits_toDigits)

section Digits

variable {c : Char} {cs : List Char}

theorem ne_of_isDigit (h : c.isDigit = true) {d : Char} (hd : d.isDigit = false) : c ≠ d := by
  rintro rfl
  rw [h] at hd
  cases hd

theorem isDigitOf_of_isDigit (h : c.isDigit = true) : isDigitOf 10 c = true := by
  have hbounds := Char.isDigit_iff_toNat.1 h
  simp only [Char.reduceToNat] at hbounds
  simp only [isDigitOf, digitValue, h, Bool.true_or, if_true, Bool.true_and, decide_eq_true_eq,
    Char.reduceToNat]
  omega

/-- Digits stand for their number. -/
theorem numeral?_of_digits (h : Digits cs) (hne : cs ≠ []) :
    numeral? 10 cs = some (Nat.ofDigitChars 10 cs 0) := by
  have hfilter : cs.filter (· ≠ '_') = cs := List.filter_eq_self.2 fun c hc =>
    decide_eq_true (ne_of_isDigit (h c hc) rfl)
  have hall : cs.all (isDigitOf 10) = true :=
    List.all_eq_true.2 fun c hc => isDigitOf_of_isDigit (h c hc)
  have hvalue : cs.foldl (fun n c => 10 * n + digitValue c) 0 = Nat.ofDigitChars 10 cs 0 :=
    List.foldl_ext _ _ _ fun n c hc => by rw [digitValue, if_pos (h c hc)]
  simp only [numeral?, hfilter, List.isEmpty_eq_false_iff.2 hne, hall, Bool.not_true, Bool.or_self,
    Bool.false_eq_true, if_false, hvalue]

/-- A whole number is read from its digits. -/
theorem natural?_toDigits (n : Nat) : natural? (Nat.toDigits 10 n) = some n := by
  rcases Nat.eq_zero_or_pos n with rfl | hn
  · rfl
  · have hhead := Json.head?_toDigits_ne hn
    have hdigits := digits_toDigits n
    have hne : Nat.toDigits 10 n ≠ [] := Nat.toDigits_ne_nil
    have hparts : parts (Nat.toDigits 10 n) = [Nat.toDigits 10 n] :=
      List.splitOn_eq_singleton fun hmem => ne_of_isDigit (hdigits _ hmem) rfl rfl
    have hfiller : (Nat.toDigits 10 n).head? ≠ some '_' := fun hhead =>
      ne_of_isDigit (hdigits _ (List.mem_of_mem_head? hhead)) rfl rfl
    have hvalue : decimal? (Nat.toDigits 10 n) = some n := by
      rw [decimal?, if_neg hfiller, numeral?_of_digits hdigits hne, Nat.ofDigitChars_ten_toDigits]
    unfold natural?
    split
    · rename_i heq
      rw [heq] at hhead
      exact absurd rfl hhead
    · rename_i heq
      rw [heq] at hhead
      exact absurd rfl hhead
    · rename_i heq
      rw [heq] at hhead
      exact absurd rfl hhead
    · rename_i heq
      rw [heq] at hhead
      exact absurd rfl hhead
    · simp only [hparts, hvalue]

theorem sign_of_isDigit (h : c.isDigit = true) (cs : List Char) :
    NumberText.sign (c :: cs) = (false, c :: cs) := by
  unfold NumberText.sign
  split
  · rename_i heq
    cases heq
    cases h
  · rename_i heq
    cases heq
    cases h
  · rfl

/-- A whole number is read from its text. -/
theorem integer?_toString (i : Int) : integer? (toString i).toList = some i := by
  have hvalue := natural?_toDigits i.natAbs
  rw [NumberText.toList_toString]
  split
  · have hsign : NumberText.sign ('-' :: Nat.toDigits 10 i.natAbs) =
        (true, Nat.toDigits 10 i.natAbs) := rfl
    simp only [integer?, hsign, hvalue, Option.bind_eq_bind, Option.bind_some, Option.pure_def,
      Option.map_some, if_true, Option.some.injEq]
    omega
  · have hsign : NumberText.sign (Nat.toDigits 10 i.natAbs) =
        (false, Nat.toDigits 10 i.natAbs) := by
      have hne : Nat.toDigits 10 i.natAbs ≠ [] := Nat.toDigits_ne_nil
      obtain ⟨c, cs, hcs⟩ := List.exists_cons_of_ne_nil hne
      have hc : c.isDigit = true := digits_toDigits _ c (hcs ▸ List.mem_cons_self)
      rw [hcs, sign_of_isDigit hc]
    simp only [integer?, hsign, hvalue, Option.bind_eq_bind, Option.bind_some, Option.pure_def,
      Option.map_some, Bool.false_eq_true, if_false, Option.some.injEq]
    omega

end Digits

/-- None of the words for nothing, yes and no is a number. -/
theorem integer?_of_word :
    ∀ word ∈ nullWords ++ yesWords ++ noWords, integer? word.toList = none := by
  decide

/-- The text of a whole number is read as that number. -/
theorem scalar_toString (i : Int) : scalar (toString i) = .int i := by
  have hnumber := integer?_toString i
  have hword : toString i ∉ nullWords ++ yesWords ++ noWords := fun hmem => by
    rw [integer?_of_word _ hmem] at hnumber
    cases hnumber
  simp only [List.mem_append, not_or] at hword
  obtain ⟨⟨hnull, hyes⟩, hno⟩ := hword
  simp only [scalar, List.contains_iff_mem, hnull, hyes, hno, if_false, hnumber]

theorem isWord_of_digits {cs : List Char} (hne : cs ≠ [])
    (h : ∀ c ∈ cs, c = '-' ∨ c.isDigit = true) : IsWord cs where
  ne_nil := hne
  endsHere_eq_false := fun c hc => by
    obtain rfl | hdigit := h c hc
    · rfl
    · have hne : ∀ {d : Char}, d.isDigit = false → c ≠ d := ne_of_isDigit hdigit
      simp [endsHere, hne]
  getLast?_ne := fun hlast => by
    obtain heq | hdigit := h _ (List.mem_of_getLast? hlast)
    · cases heq
    · cases hdigit

theorem beginsPlain_of_isDigit {c : Char} (h : c.isDigit = true) (cs : List Char) :
    beginsPlain false (c :: cs) = true := by
  have hne : ∀ {d : Char}, d.isDigit = false → c ≠ d := ne_of_isDigit h
  simp [beginsPlain, endsHere, bracketSigns, hne]

/-- A whole number can be written on a line, if it has no more digits than are read. -/
theorem writes_int {i : Int} (h : Decimal.digitCount i.natAbs ≤ Json.maxDigits) :
    Writes (toString i).toList (.int i) := by
  have hne : Nat.toDigits 10 i.natAbs ≠ [] := Nat.toDigits_ne_nil
  have hdigits := digits_toDigits i.natAbs
  have hcount : (Nat.toDigits 10 i.natAbs).countP Char.isDigit ≤ Json.maxDigits :=
    Nat.le_trans List.countP_le_length h
  obtain ⟨c, cs, hcs⟩ := List.exists_cons_of_ne_nil hne
  have hc : c.isDigit = true := hdigits c (hcs ▸ List.mem_cons_self)
  have hchars := NumberText.toList_toString i
  have hwrites : Writes (toString i).toList (scalar (String.ofList (toString i).toList)) := by
    split at hchars <;> rw [hchars]
    · have hword : IsWord ('-' :: Nat.toDigits 10 i.natAbs) :=
        isWord_of_digits (List.cons_ne_nil _ _) fun d hd =>
          (List.mem_cons.1 hd).imp_right (hdigits d)
      have hbegins : beginsPlain false ('-' :: Nat.toDigits 10 i.natAbs) = true := by
        have hdigit := (isWord_of_digits hne fun d hd => Or.inr (hdigits d hd)).endsHere_eq_false c
          (hcs ▸ List.mem_cons_self)
        simp [beginsPlain, hcs, endsHere_cons c, hdigit]
      exact .plain (.word hword) hbegins hcount
    · have hword := isWord_of_digits hne fun d hd => Or.inr (hdigits d hd)
      have hbegins : beginsPlain false (Nat.toDigits 10 i.natAbs) = true := by
        rw [hcs]
        exact beginsPlain_of_isDigit hc cs
      exact .plain (.word hword) hbegins hcount
  rwa [String.ofList_toList, scalar_toString] at hwrites

section Texts

/-- The eight digits of the number of a character. -/
def charDigits (c : Char) : List Char :=
  Json.unitDigits (c.toNat / 0x10000) ++ Json.unitDigits (c.toNat % 0x10000)

theorem hexNat?_charDigits (c : Char) : hexNat? (charDigits c) = some c.toNat := by
  have hdigit : ∀ n, Json.hexValue? (Nat.digitChar (n % 16)) = some (n % 16) :=
    fun n => Json.hexValue?_digitChar (Nat.mod_lt n (by decide))
  have hbounds := Json.toNat_bounds c
  simp only [hexNat?, charDigits, Json.unitDigits, List.map_cons, List.map_nil, List.cons_append,
    List.nil_append, List.mapM_cons, List.mapM_nil, hdigit, Option.pure_def, Option.bind_eq_bind,
    Option.bind_some, Option.map_some, List.foldl_cons, List.foldl_nil, Option.some.injEq]
  omega

theorem isOrdinary_of_mem_charDigits {c d : Char} (h : d ∈ charDigits c) : IsOrdinary d := by
  have hall : ∀ k < 16, IsOrdinary (Nat.digitChar k) := by
    simp only [IsOrdinary]
    decide
  obtain ⟨n, rfl⟩ : ∃ n, d = Nat.digitChar (n % 16) := by
    simp only [charDigits, Json.unitDigits, List.map_cons, List.map_nil, List.cons_append,
      List.nil_append, List.mem_cons, List.not_mem_nil, or_false] at h
    obtain rfl | rfl | rfl | rfl | rfl | rfl | rfl | rfl := h <;> exact ⟨_, rfl⟩
  exact hall _ (Nat.mod_lt n (by decide))

/-- Every text can be written in double quotes on one line, with ordinary characters only. -/
theorem exists_writes_text (s : String) :
    ∃ cs, Writes cs (.text s) ∧ ∀ c ∈ cs, IsOrdinary c := by
  have hquoted : ∀ s : List Char, ∃ cs, IsQuoted cs s ∧ ∀ c ∈ cs, IsOrdinary c := by
    intro s
    induction s with
    | nil => exact ⟨_, .close, by simp [IsOrdinary, isAllowed]⟩
    | cons c s ih =>
      obtain ⟨cs, hcs, hordinary⟩ := ih
      refine ⟨_, .number (e := 'U') rfl (hexNat?_charDigits c) hcs, fun d hd => ?_⟩
      simp only [List.mem_cons, List.mem_append] at hd
      obtain rfl | rfl | hd | hd := hd
      · simp [IsOrdinary, isAllowed]
      · simp [IsOrdinary, isAllowed]
      · exact isOrdinary_of_mem_charDigits hd
      · exact hordinary d hd
  obtain ⟨cs, hcs, hordinary⟩ := hquoted s.toList
  have hwrites := Writes.quoted hcs
  rw [String.ofList_toList] at hwrites
  refine ⟨_, hwrites, fun c hc => ?_⟩
  obtain rfl | hc := List.mem_cons.1 hc
  · simp [IsOrdinary, isAllowed]
  · exact hordinary c hc

end Texts

end CallFlow.Yaml
