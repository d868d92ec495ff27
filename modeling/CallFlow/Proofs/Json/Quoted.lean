import CallFlow.Json.Write
import Mathlib.Data.List.Basic

namespace CallFlow.Json

/-- A character that stands for itself between quotes. -/
def IsPlain (c : Char) : Prop := 32 ≤ c.toNat ∧ c ≠ '"' ∧ c ≠ '\\'

instance : DecidablePred IsPlain := fun c =>
  inferInstanceAs (Decidable (32 ≤ c.toNat ∧ c ≠ '"' ∧ c ≠ '\\'))

/-- What stands between quotes, with the closing one, and the characters that it stands for. -/
inductive Quoted : List Char → List Char → Prop where
  | close : Quoted ['"'] []
  | plain {c : Char} {cs s : List Char} (hc : IsPlain c) (h : Quoted cs s) :
    Quoted (c :: cs) (c :: s)
  | escape {e c : Char} {cs s : List Char} (he : escaped? e = some c) (h : Quoted cs s) :
    Quoted ('\\' :: e :: cs) (c :: s)
  | unit {a b c d x : Char} {u : Nat} {cs rest s : List Char}
    (hu : readUnit? [a, b, c, d] = some (u, [])) (hx : readPair u cs = (x, rest))
    (h : Quoted rest s) : Quoted ('\\' :: 'u' :: a :: b :: c :: d :: cs) (x :: s)

/-- The low half of a surrogate pair, when its escape stands in front. -/
private def lowHalf? : List Char → Option (Nat × List Char)
  | '\\' :: 'u' :: after =>
    match readUnit? after with
    | some (low, rest) =>
      if 0xDC00 ≤ low && low < 0xE000 then some (low, rest) else none
    | none => none
  | _ => none

private theorem lowHalf?_eq_none {cs : List Char} (h : ∀ after, cs ≠ '\\' :: 'u' :: after) :
    lowHalf? cs = none := by
  unfold lowHalf?
  split
  · exact absurd rfl (h _)
  · rfl

private theorem readPair_eq (unit : Nat) (cs : List Char) : readPair unit cs =
    if 0xD800 ≤ unit && unit < 0xDC00 then
      match lowHalf? cs with
      | some (low, rest) =>
        (Char.ofNat (0x10000 + (unit - 0xD800) * 0x400 + (low - 0xDC00)), rest)
      | none => ('\uFFFD', cs)
    else if 0xDC00 ≤ unit && unit < 0xE000 then ('\uFFFD', cs)
    else (Char.ofNat unit, cs) := by
  unfold readPair
  split
  · split
    · rename_i after
      simp only [lowHalf?]
      cases readUnit? after with
      | none => simp only
      | some low =>
        simp only
        split <;> simp only
    · rename_i hne
      rw [lowHalf?_eq_none fun after heq => hne after heq]
  · rfl

/-- Four digits are read whatever follows. -/
theorem readUnit?_cons {a b c d : Char} {u : Nat} (h : readUnit? [a, b, c, d] = some (u, []))
    (rest : List Char) : readUnit? (a :: b :: c :: d :: rest) = some (u, rest) := by
  simp only [readUnit?, Option.bind_eq_bind, Option.bind_eq_some_iff, Option.some.injEq,
    Prod.mk.injEq, and_true] at h ⊢
  exact h

/-- A unit that is read stands in four digits. -/
theorem exists_of_readUnit? {cs rest : List Char} {u : Nat} (h : readUnit? cs = some (u, rest)) :
    ∃ a b c d, cs = a :: b :: c :: d :: rest ∧ readUnit? [a, b, c, d] = some (u, []) := by
  unfold readUnit? at h
  split at h
  · rename_i a b c d after
    simp only [Option.bind_eq_bind, Option.bind_eq_some_iff, Option.some.injEq,
      Prod.mk.injEq] at h
    obtain ⟨w, hw, x, hx, y, hy, z, hz, rfl, rfl⟩ := h
    exact ⟨a, b, c, d, rfl, by simp [readUnit?, hw, hx, hy, hz]⟩
  · cases h

/-- Whether a pair goes on is settled before the closing quote. -/
private theorem lowHalf?_append {cs s : List Char} (h : Quoted cs s) (tail : List Char) :
    lowHalf? (cs ++ tail) = (lowHalf? cs).map fun low => (low.1, low.2 ++ tail) := by
  cases h with
  | close => rfl
  | @plain c cs s hc h =>
    have hfront : ∀ rest after, c :: rest ≠ '\\' :: 'u' :: after :=
      fun _ _ heq => hc.2.2 (List.cons.inj heq).1
    rw [List.cons_append, lowHalf?_eq_none (hfront _), lowHalf?_eq_none (hfront _)]
    rfl
  | @escape e c cs s he h =>
    have hfront : ∀ rest after, '\\' :: e :: rest ≠ '\\' :: 'u' :: after := by
      rintro rest after heq
      cases heq
      cases he
    rw [List.cons_append, List.cons_append, lowHalf?_eq_none (hfront _),
      lowHalf?_eq_none (hfront _)]
    rfl
  | unit hu hx h =>
    simp only [List.cons_append, lowHalf?, readUnit?_cons hu]
    split <;> rfl

/-- What a unit stands for is settled before the closing quote. -/
private theorem readPair_append {cs s : List Char} (h : Quoted cs s) (unit : Nat)
    (tail : List Char) :
    readPair unit (cs ++ tail) = ((readPair unit cs).1, (readPair unit cs).2 ++ tail) := by
  rw [readPair_eq, readPair_eq, lowHalf?_append h]
  split
  · cases lowHalf? cs with
    | none => simp only [Option.map_none]
    | some low => simp only [Option.map_some]
  · split <;> simp only

private theorem readPair_low {unit : Nat} (h : 0xDC00 ≤ unit ∧ unit < 0xE000) (cs : List Char) :
    readPair unit cs = ('\uFFFD', cs) := by
  have hhigh : ¬(0xD800 ≤ unit ∧ unit < 0xDC00) := by omega
  simp only [readPair_eq, Bool.and_eq_true, decide_eq_true_eq, hhigh, h, if_false, and_self,
    if_true]

private theorem readPair_of_append {cs rest s tail : List Char} {unit : Nat} {x : Char}
    (h : Quoted cs s) (hx : readPair unit (cs ++ tail) = (x, rest ++ tail)) :
    readPair unit cs = (x, rest) := by
  rw [readPair_append h] at hx
  exact Prod.ext (Prod.mk.inj hx).1 (List.append_cancel_right (Prod.mk.inj hx).2)

/-- A unit is read alone, or together with the low half of a pair, which could be read alone. -/
private theorem readPair_cases {unit : Nat} {cs rest : List Char} {x : Char}
    (h : readPair unit cs = (x, rest)) : cs = rest ∨
      ∃ a b c d low, cs = '\\' :: 'u' :: a :: b :: c :: d :: rest ∧
        readUnit? [a, b, c, d] = some (low, []) ∧ readPair low rest = ('\uFFFD', rest) := by
  rw [readPair_eq] at h
  split at h
  · split at h
    · rename_i low after hlow
      obtain rfl : after = rest := (Prod.mk.inj h).2
      unfold lowHalf? at hlow
      split at hlow
      · split at hlow
        · rename_i hunit
          split at hlow
          · rename_i hrange
            cases hlow
            obtain ⟨a, b, c, d, rfl, hu⟩ := exists_of_readUnit? hunit
            exact Or.inr ⟨a, b, c, d, low, rfl, hu, readPair_low (by simpa using hrange) _⟩
          · cases hlow
        · cases hlow
      · cases hlow
    · cases h
      exact Or.inl rfl
  · split at h <;> cases h <;> exact Or.inl rfl

/-- A plain character stands for itself. -/
theorem readQuoted_plain {c : Char} (hc : IsPlain c) (n : Nat) (cs : List Char) :
    readQuoted (n + 1) (c :: cs) = (readQuoted n cs).map fun r => (c :: r.1, r.2) := by
  obtain ⟨hprint, hquote, hslash⟩ := hc
  have hlow : ¬ c.toNat < 32 := Nat.not_lt.2 hprint
  rw [readQuoted]
  · simp only [hlow, hslash, decide_false, Bool.or_self, Bool.false_eq_true, if_false]
    cases readQuoted n cs <;> rfl
  · exact fun heq => hquote heq
  · exact fun _ heq _ => hslash heq
  · exact fun _ _ heq _ => hslash heq

/-- A short escape stands for its character. -/
theorem readQuoted_escape {e c : Char} (he : escaped? e = some c) (n : Nat) (cs : List Char) :
    readQuoted (n + 1) ('\\' :: e :: cs) = (readQuoted n cs).map fun r => (c :: r.1, r.2) := by
  rw [readQuoted]
  · rw [he]
    cases readQuoted n cs <;> rfl
  · rintro rfl
    cases he

/-- An escaped unit stands for its character, together with its other half if there is one. -/
theorem readQuoted_unit {a b c d x : Char} {u : Nat} {cs rest : List Char}
    (hu : readUnit? [a, b, c, d] = some (u, [])) (hx : readPair u cs = (x, rest)) (n : Nat) :
    readQuoted (n + 1) ('\\' :: 'u' :: a :: b :: c :: d :: cs) =
      (readQuoted n rest).map fun r => (x :: r.1, r.2) := by
  rw [readQuoted, readUnit?_cons hu]
  simp only [Option.bind_eq_bind, Option.bind_some, hx]
  cases readQuoted n rest <;> rfl

theorem hexValue?_digitChar {k : Nat} (hk : k < 16) : hexValue? (Nat.digitChar k) = some k := by
  revert k
  decide

/-- A unit is read from its four digits. -/
theorem readUnit?_unitDigits {u : Nat} (hu : u < 0x10000) :
    readUnit? (unitDigits u) = some (u, []) := by
  have hdigit : ∀ n, hexValue? (Nat.digitChar (n % 16)) = some (n % 16) :=
    fun n => hexValue?_digitChar (Nat.mod_lt n (by decide))
  have hvalue : ((u / 4096 % 16 * 16 + u / 256 % 16) * 16 + u / 16 % 16) * 16 + u % 16 = u := by
    omega
  simp [unitDigits, readUnit?, hdigit, hvalue]

/-- A character is no half of a surrogate pair. -/
theorem toNat_bounds (c : Char) : c.toNat < 0xD800 ∨ 0xE000 ≤ c.toNat ∧ c.toNat < 0x110000 :=
  c.valid

/-- A character that is read from one unit needs no other. -/
theorem readPair_toNat (c : Char) (cs : List Char) : readPair c.toNat cs = (c, cs) := by
  have hbounds := toNat_bounds c
  have hhigh : ¬(0xD800 ≤ c.toNat ∧ c.toNat < 0xDC00) := by omega
  have hlow : ¬(0xDC00 ≤ c.toNat ∧ c.toNat < 0xE000) := by omega
  simp only [readPair_eq, Bool.and_eq_true, decide_eq_true_eq, hhigh, hlow, if_false,
    Char.ofNat_toNat]

/-- The character that the two halves of a pair make. -/
theorem readPair_escapeUnit {high low : Nat} (hhigh : 0xD800 ≤ high ∧ high < 0xDC00)
    (hlow : 0xDC00 ≤ low ∧ low < 0xE000) (cs : List Char) :
    readPair high (escapeUnit low ++ cs) =
      (Char.ofNat (0x10000 + (high - 0xD800) * 0x400 + (low - 0xDC00)), cs) := by
  have hunit : readUnit? (unitDigits low ++ cs) = some (low, cs) :=
    readUnit?_cons (readUnit?_unitDigits (by omega)) cs
  simp only [readPair, escapeUnit, List.cons_append, hunit, Bool.and_eq_true, decide_eq_true_eq,
    hhigh, hlow, and_self, if_true]

namespace Quoted

variable {cs s : List Char}

/-- If what is left after a unit and its pair is quoted text, so is all that follows the unit. -/
private theorem exists_of_readPair {unit : Nat} {rest : List Char} {x : Char} (h : Quoted rest s)
    (hx : readPair unit cs = (x, rest)) : ∃ s', Quoted cs s' := by
  obtain rfl | ⟨a, b, c, d, low, rfl, hlow, hlone⟩ := readPair_cases hx
  · exact ⟨s, h⟩
  · exact ⟨_, .unit hlow hlone h⟩

/-- A quoted text is read as what it stands for, up to its closing quote. -/
theorem readQuoted (h : Quoted cs s) {n : Nat} (hn : cs.length ≤ n) (tail : List Char) :
    Json.readQuoted n (cs ++ tail) = some (s, tail) := by
  induction h generalizing n with
  | close =>
    obtain ⟨n, rfl⟩ := Nat.exists_eq_add_of_le' hn
    rfl
  | plain hc _ ih =>
    cases n with
    | zero => cases hn
    | succ n =>
      rw [List.cons_append, readQuoted_plain hc, ih (Nat.le_of_succ_le_succ hn)]
      rfl
  | escape he _ ih =>
    cases n with
    | zero => cases hn
    | succ n =>
      rw [List.cons_append, List.cons_append, readQuoted_escape he,
        ih (Nat.le_of_succ_le (Nat.le_of_succ_le_succ hn))]
      rfl
  | @unit a b c d x u cs rest s hu hx h ih =>
    cases n with
    | zero => cases hn
    | succ n =>
      obtain ⟨s', hcs⟩ := exists_of_readPair h hx
      have hpair : readPair u (cs ++ tail) = (x, rest ++ tail) := by
        rw [readPair_append hcs, hx]
      have hlength : rest.length ≤ n := by
        simp only [List.length_cons] at hn
        obtain rfl | ⟨_, _, _, _, _, rfl, -⟩ := readPair_cases hx
        · omega
        · simp only [List.length_cons] at hn
          omega
      simp only [List.cons_append]
      rw [readQuoted_unit hu hpair, ih hlength]
      rfl

/-- What is read between quotes is a quoted text. -/
theorem exists_of_readQuoted {n : Nat} {rest : List Char}
    (h : Json.readQuoted n cs = some (s, rest)) : ∃ used, Quoted used s ∧ cs = used ++ rest := by
  fun_induction Json.readQuoted n cs generalizing s rest with
  | case1 => cases h
  | case2 => cases h
  | case3 =>
    cases h
    exact ⟨_, .close, rfl⟩
  | case4 n cs ih =>
    simp only [Option.bind_eq_bind, Option.bind_eq_some_iff] at h
    obtain ⟨⟨unit, after⟩, hunit, h⟩ := h
    obtain ⟨a, b, c, d, rfl, hu⟩ := exists_of_readUnit? hunit
    obtain ⟨x, back, hx⟩ : ∃ x back, readPair unit after = (x, back) := ⟨_, _, rfl⟩
    simp only [hx] at h
    obtain ⟨⟨s', rest⟩, hback, h⟩ := h
    cases h
    obtain ⟨used, hused, rfl⟩ := ih back hback
    obtain ⟨cs, hcs, rfl⟩ : ∃ cs, (∃ s', Quoted cs s') ∧ after = cs ++ rest := by
      obtain rfl | ⟨a, b, c, d, low, rfl, hlow, hlone⟩ := readPair_cases hx
      · exact ⟨used, ⟨_, hused⟩, rfl⟩
      · exact ⟨_, ⟨_, .unit hlow (readPair_of_append hused hlone) hused⟩, rfl⟩
    obtain ⟨s', hcs⟩ := hcs
    exact ⟨_, .unit hu (readPair_of_append hcs hx) hused, rfl⟩
  | case5 n e cs hne ih =>
    simp only [Option.bind_eq_bind, Option.bind_eq_some_iff] at h
    obtain ⟨c, hc, ⟨s', rest'⟩, hback, h⟩ := h
    cases h
    obtain ⟨used, hused, rfl⟩ := ih hback
    exact ⟨_, .escape hc hused, rfl⟩
  | case6 => cases h
  | case7 n c cs hquote _ _ hplain ih =>
    simp only [Option.bind_eq_bind, Option.bind_eq_some_iff] at h
    obtain ⟨⟨s', rest'⟩, hback, h⟩ := h
    cases h
    obtain ⟨used, hused, rfl⟩ := ih hback
    simp only [Bool.or_eq_true, decide_eq_true_eq, not_or, Nat.not_lt] at hplain
    exact ⟨_, .plain ⟨hplain.1, hquote, hplain.2⟩ hused, rfl⟩

theorem ne_nil (h : Quoted cs s) : cs ≠ [] := by
  cases h <;> exact List.cons_ne_nil _ _

/-- A character stands for itself once it is escaped. -/
theorem escapeChar_append (h : Quoted cs s) (c : Char) : Quoted (escapeChar c ++ cs) (c :: s) := by
  unfold escapeChar
  split_ifs with hquote hslash hline hreturn htab hback hfeed hprint hunit
  · obtain rfl := hquote
    exact .escape rfl h
  · obtain rfl := hslash
    exact .escape rfl h
  · obtain rfl := hline
    exact .escape rfl h
  · obtain rfl := hreturn
    exact .escape rfl h
  · obtain rfl := htab
    exact .escape rfl h
  · obtain rfl : c = '\x08' := Char.toNat_inj.1 hback
    exact .escape rfl h
  · obtain rfl : c = '\x0c' := Char.toNat_inj.1 hfeed
    exact .escape rfl h
  · simp only [Bool.and_eq_true, decide_eq_true_eq] at hprint
    exact .plain ⟨hprint.1, hquote, hslash⟩ h
  · exact .unit (readUnit?_unitDigits hunit) (readPair_toNat c cs) h
  · have hbounds := toNat_bounds c
    obtain ⟨n, hn⟩ : ∃ n, n = c.toNat - 0x10000 := ⟨_, rfl⟩
    have hhigh : 0xD800 ≤ 0xD800 + n / 0x400 ∧ 0xD800 + n / 0x400 < 0xDC00 := by omega
    have hlow : 0xDC00 ≤ 0xDC00 + n % 0x400 ∧ 0xDC00 + n % 0x400 < 0xE000 := by omega
    have hvalue : 0x10000 + (0xD800 + n / 0x400 - 0xD800) * 0x400 +
        (0xDC00 + n % 0x400 - 0xDC00) = c.toNat := by omega
    have hpair := readPair_escapeUnit hhigh hlow cs
    rw [hvalue, Char.ofNat_toNat] at hpair
    rw [← hn, List.append_assoc]
    exact .unit (readUnit?_unitDigits (by omega)) hpair h

/-- An escaped text is read as the text. -/
theorem escape_append (h : Quoted cs s) (t : List Char) :
    Quoted (t.flatMap escapeChar ++ cs) (t ++ s) := by
  induction t with
  | nil => exact h
  | cons c t ih =>
    rw [List.flatMap_cons, List.append_assoc]
    exact ih.escapeChar_append c

/-- A text that needs no escapes is read as it stands. -/
theorem plain_append (h : Quoted cs s) {t : List Char} (ht : ∀ c ∈ t, IsPlain c) :
    Quoted (t ++ cs) (t ++ s) := by
  induction t with
  | nil => exact h
  | cons c t ih =>
    obtain ⟨hc, ht⟩ := List.forall_mem_cons.1 ht
    exact .plain hc (ih ht)

/-- No text is shorter between quotes, and only a text without escapes is as short. -/
theorem length_lt (h : Quoted cs s) :
    s.length < cs.length ∧ (cs.length = s.length + 1 → ∀ c ∈ s, IsPlain c) := by
  induction h with
  | close => exact ⟨Nat.one_pos, fun _ => nofun⟩
  | plain hc h ih =>
    refine ⟨Nat.succ_lt_succ ih.1, fun hlength => ?_⟩
    exact List.forall_mem_cons.2 ⟨hc, ih.2 (Nat.succ.inj hlength)⟩
  | escape he h ih =>
    simp only [List.length_cons]
    exact ⟨by omega, fun hlength => absurd hlength (by omega)⟩
  | unit hu hx h ih =>
    have hrest := ih.1
    simp only [List.length_cons]
    obtain rfl | ⟨_, _, _, _, _, rfl, -⟩ := readPair_cases hx
    · exact ⟨by omega, fun hlength => absurd hlength (by omega)⟩
    · simp only [List.length_cons]
      exact ⟨by omega, fun hlength => absurd hlength (by omega)⟩

end Quoted

/-- A character that is escaped stands as it is or begins with a backslash. -/
theorem escapeChar_cases (c : Char) :
    escapeChar c = [c] ∧ IsPlain c ∧ c.toNat < 127 ∨ ∃ tail, escapeChar c = '\\' :: tail := by
  unfold escapeChar
  split_ifs with hquote hslash _ _ _ _ _ hprint
  any_goals exact Or.inr ⟨_, rfl⟩
  simp only [Bool.and_eq_true, decide_eq_true_eq] at hprint
  exact Or.inl ⟨rfl, ⟨hprint.1, hquote, hslash⟩, hprint.2⟩

end CallFlow.Json
