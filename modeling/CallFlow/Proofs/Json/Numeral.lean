import CallFlow.Json.Read
import CallFlow.Proofs.Decimal.Written

namespace CallFlow.Json

open Text (Digits)

/-- What follows does not go on with a number. -/
def Ends (rest : List Char) : Prop :=
  ∀ c ∈ rest.head?, c.isDigit = false ∧ c ≠ '.' ∧ c ≠ 'e' ∧ c ≠ 'E'

/-- An exponent with its letter and sign, and what it stands for. -/
inductive Exponent : List Char → Int → Prop where
  | bare {letter : Char} (h : letter = 'e' ∨ letter = 'E') {ds : List Char} (hds : Digits ds)
    (hne : ds ≠ []) : Exponent (letter :: ds) (digitsNat ds)
  | plus {letter : Char} (h : letter = 'e' ∨ letter = 'E') {ds : List Char} (hds : Digits ds)
    (hne : ds ≠ []) : Exponent (letter :: '+' :: ds) (digitsNat ds)
  | minus {letter : Char} (h : letter = 'e' ∨ letter = 'E') {ds : List Char} (hds : Digits ds)
    (hne : ds ≠ []) : Exponent (letter :: '-' :: ds) (-(digitsNat ds : Int))

/-- The parts of a number without its sign. -/
structure Numeral where
  whole : List Char
  fraction : Option (List Char) := none
  /-- As it is written, and what it stands for. -/
  exponent : Option (List Char × Int) := none

namespace Numeral

/-- The characters of a number. -/
def text (p : Numeral) : List Char :=
  p.whole ++ (p.fraction.elim [] ('.' :: ·) ++ p.exponent.elim [] Prod.fst)

/-- Parts that a number can have. Only zero begins with a zero. -/
structure IsProper (p : Numeral) : Prop where
  whole : Digits p.whole
  whole_ne : p.whole ≠ []
  leading : p.whole.head? = some '0' → p.whole = ['0']
  fraction : ∀ fs ∈ p.fraction, Digits fs ∧ fs ≠ []
  exponent : ∀ e ∈ p.exponent, Exponent e.1 e.2

/-- The decimal that the parts make, without the sign. -/
def decimal (p : Numeral) : Decimal :=
  let fs := p.fraction.getD []
  ⟨digitsNat (p.whole ++ fs), (p.exponent.map Prod.snd).getD 0 - (fs.length : Int)⟩

/-- The value of a number. -/
def value (negative : Bool) (p : Numeral) : Except ReadError Value :=
  if p.fraction.isNone && p.exponent.isNone then
    if maxDigits < p.whole.length then .error .numberTooLong
    else .ok (.int (if negative then -(digitsNat p.whole : Int) else digitsNat p.whole))
  else .ok (.float (Decimal.nearest negative p.decimal))

end Numeral

/-- A run of digits is taken as far as it goes. -/
theorem takeWhile_digits {ds rest : List Char} (hds : Digits ds)
    (hrest : ∀ c ∈ rest.head?, c.isDigit = false) :
    (ds ++ rest).takeWhile isAsciiDigit = ds ∧ (ds ++ rest).dropWhile isAsciiDigit = rest := by
  have hall : ∀ c ∈ ds, isAsciiDigit c = true := hds
  rw [List.takeWhile_append_of_pos hall, List.dropWhile_append_of_pos hall]
  cases rest with
  | nil => simp
  | cons c rest =>
    have hc : isAsciiDigit c = false := hrest c rfl
    simp [hc]

theorem digits_takeWhile (cs : List Char) : Digits (cs.takeWhile isAsciiDigit) :=
  fun _ hc => List.mem_takeWhile_imp (p := isAsciiDigit) hc

theorem ne_of_isDigit {c d : Char} (hc : c.isDigit = true) (hd : d.isDigit = false) : c ≠ d := by
  rintro rfl
  cases hc.symm.trans hd

section Parts

variable {cs ds rest : List Char} {e : Int}

/-- The digits before the point, the way `readUnsigned` takes them. -/
private def wholePart (cs : List Char) : Option (List Char × List Char) :=
  match cs with
  | '0' :: rest => some (['0'], rest)
  | _ =>
    match cs.takeWhile isAsciiDigit with
    | [] => none
    | ds => some (ds, cs.dropWhile isAsciiDigit)

private theorem wholePart_of_ne_zero (h : ∀ rest, cs ≠ '0' :: rest) : wholePart cs =
    match cs.takeWhile isAsciiDigit with
    | [] => none
    | ds => some (ds, cs.dropWhile isAsciiDigit) := by
  unfold wholePart
  split
  · exact absurd rfl (h _)
  · rfl

private theorem wholePart_append (hds : Digits ds) (hne : ds ≠ [])
    (hleading : ds.head? = some '0' → ds = ['0'])
    (hrest : ∀ c ∈ rest.head?, c.isDigit = false) : wholePart (ds ++ rest) = some (ds, rest) := by
  obtain ⟨c, ds, rfl⟩ := List.exists_cons_of_ne_nil hne
  by_cases hc : c = '0'
  · subst hc
    cases hleading rfl
    rfl
  · obtain ⟨htake, hdrop⟩ := takeWhile_digits hds hrest
    have hfront : ∀ after, c :: ds ++ rest ≠ '0' :: after :=
      fun after heq => hc (List.cons.inj heq).1
    rw [wholePart_of_ne_zero hfront, htake, hdrop]

private theorem of_wholePart (h : wholePart cs = some (ds, rest)) :
    Digits ds ∧ ds ≠ [] ∧ (ds.head? = some '0' → ds = ['0']) ∧ cs = ds ++ rest := by
  by_cases hzero : ∃ after, cs = '0' :: after
  · obtain ⟨after, rfl⟩ := hzero
    cases h
    exact ⟨Text.digits_zeros 1, nofun, fun _ => rfl, rfl⟩
  · have hne := not_exists.1 hzero
    rw [wholePart_of_ne_zero hne] at h
    split at h
    · cases h
    · rename_i hfull
      cases h
      refine ⟨digits_takeWhile cs, hfull, fun hhead => ?_, List.takeWhile_append_dropWhile.symm⟩
      obtain ⟨tail, htail⟩ := List.head?_eq_some_iff.1 hhead
      refine absurd ?_ (hne (tail ++ cs.dropWhile isAsciiDigit))
      rw [← List.cons_append, ← htail, List.takeWhile_append_dropWhile]

/-- A point and the digits after it are taken. -/
theorem fractionPart_append (hds : Digits ds) (hne : ds ≠ [])
    (hrest : ∀ c ∈ rest.head?, c.isDigit = false) :
    fractionPart ('.' :: (ds ++ rest)) = some (ds, rest) := by
  obtain ⟨htake, hdrop⟩ := takeWhile_digits hds hrest
  simp only [fractionPart, htake, hdrop]

/-- Without a point there is no fraction. -/
theorem fractionPart_eq_none (hrest : ∀ c ∈ rest.head?, c ≠ '.') : fractionPart rest = none := by
  unfold fractionPart
  split
  · exact absurd rfl (hrest '.' rfl)
  · rfl

/-- Characters begin with a fraction or without one. -/
theorem exists_fraction (cs : List Char) : ∃ (fraction : Option (List Char)) (back : List Char),
    fractionPart cs = fraction.map (·, back) ∧ (∀ fs ∈ fraction, Digits fs ∧ fs ≠ []) ∧
      cs = fraction.elim [] ('.' :: ·) ++ back := by
  cases h : fractionPart cs with
  | none => exact ⟨none, cs, rfl, nofun, rfl⟩
  | some part =>
    unfold fractionPart at h
    split at h
    · rename_i after
      split at h
      · cases h
      · rename_i hfull
        cases h
        refine ⟨some _, _, rfl, ?_, ?_⟩
        · rintro _ ⟨⟩
          exact ⟨digits_takeWhile after, hfull⟩
        · exact congrArg ('.' :: ·) List.takeWhile_append_dropWhile.symm
    · cases h

/-- An exponent, after its letter and sign. -/
private def exponentDigits (negative : Bool) (cs : List Char) : Option (Int × List Char) :=
  match cs.takeWhile isAsciiDigit with
  | [] => none
  | ds =>
    let n : Int := digitsNat ds
    some (if negative then -n else n, cs.dropWhile isAsciiDigit)

private theorem exponentDigits_append (negative : Bool) (hds : Digits ds) (hne : ds ≠ [])
    (hrest : ∀ c ∈ rest.head?, c.isDigit = false) : exponentDigits negative (ds ++ rest) =
      some (if negative then -(digitsNat ds : Int) else digitsNat ds, rest) := by
  obtain ⟨htake, hdrop⟩ := takeWhile_digits hds hrest
  simp only [exponentDigits, htake, hdrop]

private theorem of_exponentDigits {negative : Bool}
    (h : exponentDigits negative cs = some (e, rest)) :
    ∃ ds, Digits ds ∧ ds ≠ [] ∧ cs = ds ++ rest ∧
      e = if negative then -(digitsNat ds : Int) else digitsNat ds := by
  unfold exponentDigits at h
  split at h
  · cases h
  · rename_i hfull
    cases h
    exact ⟨_, digits_takeWhile cs, hfull, List.takeWhile_append_dropWhile.symm, rfl⟩

/-- The sign of an exponent, true for minus, and the characters after it. -/
private def exponentSign : List Char → Bool × List Char
  | '-' :: r => (true, r)
  | '+' :: r => (false, r)
  | r => (false, r)

private theorem exponentSign_digits (hds : Digits ds) (rest : List Char) (hne : ds ≠ []) :
    exponentSign (ds ++ rest) = (false, ds ++ rest) := by
  obtain ⟨c, ds, rfl⟩ := List.exists_cons_of_ne_nil hne
  have hc := hds c List.mem_cons_self
  have hminus : c ≠ '-' := ne_of_isDigit hc rfl
  have hplus : c ≠ '+' := ne_of_isDigit hc rfl
  simp [exponentSign, hminus, hplus]

private theorem exponentPart_cons {letter : Char} (h : letter = 'e' ∨ letter = 'E')
    (cs : List Char) : exponentPart (letter :: cs) =
      exponentDigits (exponentSign cs).1 (exponentSign cs).2 := by
  have hletter : (decide (letter = 'e') || decide (letter = 'E')) = true := by simpa using h
  unfold exponentPart
  simp only [hletter, if_true]
  rfl

/-- An exponent is read off the front. -/
theorem exponentPart_append (h : Exponent cs e) (hrest : ∀ c ∈ rest.head?, c.isDigit = false) :
    exponentPart (cs ++ rest) = some (e, rest) := by
  cases h with
  | bare hletter hds hne =>
    rw [List.cons_append, exponentPart_cons hletter, exponentSign_digits hds rest hne]
    exact exponentDigits_append false hds hne hrest
  | plus hletter hds hne =>
    rw [List.cons_append, exponentPart_cons hletter]
    exact exponentDigits_append false hds hne hrest
  | minus hletter hds hne =>
    rw [List.cons_append, exponentPart_cons hletter]
    exact exponentDigits_append true hds hne hrest

/-- Without its letter there is no exponent. -/
theorem exponentPart_eq_none (hrest : ∀ c ∈ rest.head?, c ≠ 'e' ∧ c ≠ 'E') :
    exponentPart rest = none := by
  cases rest with
  | nil => rfl
  | cons c rest =>
    obtain ⟨hsmall, hcapital⟩ := hrest c rfl
    simp [exponentPart, hsmall, hcapital]

/-- Characters begin with an exponent or without one. -/
theorem exists_exponent (cs : List Char) :
    ∃ (exponent : Option (List Char × Int)) (rest : List Char),
      exponentPart cs = exponent.map (fun e => (e.2, rest)) ∧
      (∀ e ∈ exponent, Exponent e.1 e.2) ∧ cs = exponent.elim [] Prod.fst ++ rest := by
  cases h : exponentPart cs with
  | none => exact ⟨none, cs, rfl, nofun, rfl⟩
  | some part =>
    obtain ⟨e, rest⟩ := part
    suffices hused : ∃ used, Exponent used e ∧ cs = used ++ rest by
      obtain ⟨used, hexponent, rfl⟩ := hused
      refine ⟨some (used, e), rest, rfl, ?_, rfl⟩
      rintro _ ⟨⟩
      exact hexponent
    cases cs with
    | nil => cases h
    | cons letter cs =>
      have hletter : letter = 'e' ∨ letter = 'E' := by
        by_contra hno
        obtain ⟨hsmall, hcapital⟩ := not_or.1 hno
        simp [exponentPart, hsmall, hcapital] at h
      rw [exponentPart_cons hletter] at h
      obtain ⟨ds, hds, hne, hsign, rfl⟩ := of_exponentDigits h
      unfold exponentSign at hsign ⊢
      split at hsign
      · cases hsign
        exact ⟨_, .minus hletter hds hne, rfl⟩
      · cases hsign
        exact ⟨_, .plus hletter hds hne, rfl⟩
      · cases hsign
        exact ⟨_, .bare hletter hds hne, rfl⟩

end Parts

/-- A number after its whole part. -/
private def readRest (negative : Bool) (ds rest : List Char) :
    Except ReadError (Value × List Char) :=
  let fraction := fractionPart rest
  let rest := (fraction.map Prod.snd).getD rest
  let exponent := exponentPart rest
  match fraction, exponent with
  | none, none =>
    if maxDigits < ds.length then .error .numberTooLong
    else .ok (.int (if negative then -(digitsNat ds : Int) else digitsNat ds), rest)
  | _, _ =>
    let fs := (fraction.map Prod.fst).getD []
    let e := ((exponent.map Prod.fst).getD 0) - (fs.length : Int)
    let rest := (exponent.map Prod.snd).getD rest
    .ok (.float (Decimal.nearest negative ⟨digitsNat (ds ++ fs), e⟩), rest)

private theorem readUnsigned_eq (negative : Bool) (cs : List Char) : readUnsigned negative cs =
    match wholePart cs with
    | none => .error .malformed
    | some (ds, rest) => readRest negative ds rest := rfl

/-- What a number is read as after its whole part, by the parts that follow. -/
private theorem readRest_eq (negative : Bool) (ds : List Char) {middle back rest : List Char}
    {fraction : Option (List Char)} {exponent : Option (List Char × Int)}
    (hfraction : fractionPart middle = fraction.map (·, back))
    (hmiddle : fraction = none → middle = back)
    (hexponent : exponentPart back = exponent.map fun e => (e.2, rest))
    (hback : exponent = none → back = rest) :
    readRest negative ds middle =
      (Numeral.value negative ⟨ds, fraction, exponent⟩).map fun v => (v, rest) := by
  unfold readRest
  simp only [hfraction]
  cases fraction with
  | none =>
    obtain rfl := hmiddle rfl
    cases exponent with
    | none =>
      obtain rfl := hback rfl
      simp only [Option.map_none, Option.getD_none, hexponent, Numeral.value]
      split <;> rfl
    | some e =>
      simp only [Option.map_none, Option.getD_none, hexponent]
      rfl
  | some fs =>
    cases exponent with
    | none =>
      obtain rfl := hback rfl
      simp only [Option.map_some, Option.getD_some, hexponent]
      rfl
    | some e =>
      simp only [Option.map_some, Option.getD_some, hexponent]
      rfl

namespace Numeral

variable {p : Numeral} {rest : List Char}

/-- Neither a point nor a digit stands where the exponent may. -/
private theorem back_head (hp : p.IsProper) (hrest : Ends rest) :
    ∀ c ∈ (p.exponent.elim [] Prod.fst ++ rest).head?, c.isDigit = false ∧ c ≠ '.' := by
  cases he : p.exponent with
  | none => exact fun c hc => ⟨(hrest c hc).1, (hrest c hc).2.1⟩
  | some e =>
    have hletter : ∀ {letter : Char}, letter = 'e' ∨ letter = 'E' →
        letter.isDigit = false ∧ letter ≠ '.' := by
      rintro _ (rfl | rfl) <;> decide
    intro c hc
    have hexponent := hp.exponent e he
    obtain ⟨cs, n⟩ := e
    cases hexponent <;> cases hc <;> exact hletter ‹_›

/-- A number is read as its value, whatever comes after it. -/
theorem readUnsigned_text (hp : p.IsProper) (negative : Bool) (hrest : Ends rest) :
    readUnsigned negative (p.text ++ rest) = (p.value negative).map fun v => (v, rest) := by
  have hback := back_head hp hrest
  have hexponent : exponentPart (p.exponent.elim [] Prod.fst ++ rest) =
      p.exponent.map fun e => (e.2, rest) := by
    cases he : p.exponent with
    | none => exact exponentPart_eq_none fun c hc => (hrest c hc).2.2
    | some e => exact exponentPart_append (hp.exponent e he) fun c hc => (hrest c hc).1
  generalize hback' : p.exponent.elim [] Prod.fst ++ rest = back at hback hexponent
  have hfraction : fractionPart (p.fraction.elim [] ('.' :: ·) ++ back) =
      p.fraction.map (·, back) := by
    cases hf : p.fraction with
    | none => exact fractionPart_eq_none fun c hc => (hback c hc).2
    | some fs =>
      obtain ⟨hfs, hne⟩ := hp.fraction fs hf
      exact fractionPart_append hfs hne fun c hc => (hback c hc).1
  have hmiddle : ∀ c ∈ (p.fraction.elim [] ('.' :: ·) ++ back).head?, c.isDigit = false := by
    cases hf : p.fraction with
    | none => exact fun c hc => (hback c hc).1
    | some fs =>
      rintro _ ⟨⟩
      rfl
  have htext : p.text ++ rest = p.whole ++ (p.fraction.elim [] ('.' :: ·) ++ back) := by
    rw [← hback']
    simp [text]
  rw [htext, readUnsigned_eq, wholePart_append hp.whole hp.whole_ne hp.leading hmiddle]
  refine readRest_eq negative p.whole hfraction (fun hf => ?_) hexponent fun he => ?_
  · rw [hf]
    rfl
  · rw [← hback', he]
    rfl

/-- What is read as a number are the characters of one. -/
theorem exists_of_readUnsigned {negative : Bool} {cs : List Char} {v : Value}
    (h : readUnsigned negative cs = .ok (v, rest)) :
    ∃ p : Numeral, p.IsProper ∧ p.value negative = .ok v ∧ cs = p.text ++ rest := by
  rw [readUnsigned_eq] at h
  cases hwhole : wholePart cs with
  | none =>
    rw [hwhole] at h
    cases h
  | some parts =>
    obtain ⟨ds, middle⟩ := parts
    obtain ⟨hds, hne, hleading, rfl⟩ := of_wholePart hwhole
    obtain ⟨fraction, back, hfraction, hdigits, hmiddle⟩ := exists_fraction middle
    obtain ⟨exponent, last, hexponent, hproper, hback⟩ := exists_exponent back
    have hread := readRest_eq negative ds hfraction (fun hf => by rw [hmiddle, hf]; rfl) hexponent
      (fun he => by rw [hback, he]; rfl)
    simp only [hwhole] at h
    rw [h] at hread
    cases hvalue : value negative ⟨ds, fraction, exponent⟩ with
    | error e =>
      rw [hvalue] at hread
      cases hread
    | ok w =>
      rw [hvalue] at hread
      cases hread
      refine ⟨⟨ds, fraction, exponent⟩, ⟨hds, hne, hleading, hdigits, hproper⟩, hvalue, ?_⟩
      rw [hmiddle, hback]
      simp [text]

end Numeral

end CallFlow.Json
