import CallFlow.Proofs.Condition.Grammar
import CallFlow.Proofs.Text.UpperCase
import Mathlib.Data.List.Forall2

namespace CallFlow

namespace Text

/-- The characters that count as a letter when case does not matter: those with the upper case of
the letter, and for an i also the dotted capital, which begins with an i in lower case. -/
def CountsAs (letter c : Char) : Prop :=
  upperChar c = upperChar letter ∨ letter = 'i' ∧ c = 'İ'

/-- Outside of ASCII, the dotless i and the long s alone have an ASCII character as upper case. -/
theorem mapCase_eq_ascii {c capital : Char} (hc : 128 ≤ c.toNat) (hcapital : capital.toNat < 128)
    (h : mapCase upperRuns upperLists c = [capital]) : c = 'ı' ∨ c = 'ſ' := by
  have hruns : ∀ r ∈ upperRuns, ∀ n ∈ r.members, 128 ≤ n →
      (Char.ofNat (n + r.shift).toNat).toNat < 128 → n = 'ı'.toNat ∨ n = 'ſ'.toNat := by
    decide +kernel
  have hlists : ∀ p ∈ upperLists, p.2.length ≠ 1 := by decide +kernel
  unfold mapCase at h
  split at h
  next r hfind =>
    obtain rfl : _ = capital := List.singleton_inj.1 h
    have hhas := List.find?_some hfind
    have hmem := CaseRun.mem_members_of_has hhas
    exact (hruns r (List.mem_of_find?_eq_some hfind) _ hmem hc hcapital).imp
      Char.toNat_inj.1 Char.toNat_inj.1
  next =>
    split at h
    next ns hlookup =>
      obtain ⟨front, rest, hsplit, -⟩ := List.lookup_eq_some_iff.1 hlookup
      have hmem : (c.toNat, ns) ∈ upperLists := by simp [hsplit]
      have hlength := congrArg List.length h
      rw [List.length_map] at hlength
      exact absurd hlength (hlists _ hmem)
    next =>
      obtain rfl : c = capital := List.singleton_inj.1 h
      omega

section SmallLetters

variable {letter c : Char} (hletter : 97 ≤ letter.toNat ∧ letter.toNat ≤ 122)

include hletter

theorem upperChar_letter : upperChar letter = [letter.toUpper] := by
  rw [upperChar, if_pos (by omega)]

theorem toUpper_letter_lt : letter.toUpper.toNat < 128 := by
  have hall : ∀ n < 123, (Char.ofNat n).toUpper.toNat < 128 := by decide +kernel
  have h := hall letter.toNat (by omega)
  rwa [Char.ofNat_toNat] at h

/-- Among the ASCII characters, a small letter and its capital have one upper case. -/
theorem toUpper_eq_iff_toLower_eq (hc : c.toNat < 128) :
    c.toUpper = letter.toUpper ↔ c.toLower = letter := by
  have hall : ∀ n < 128, ∀ m < 123, 97 ≤ m →
      ((Char.ofNat n).toUpper = (Char.ofNat m).toUpper ↔
        (Char.ofNat n).toLower = Char.ofNat m) := by
    decide +kernel
  have h := hall c.toNat hc letter.toNat (by omega) hletter.1
  rwa [Char.ofNat_toNat, Char.ofNat_toNat] at h

/-- In ASCII only the two cases of a letter count as it. -/
theorem countsAs_iff_of_ascii (hc : c.toNat < 128) : CountsAs letter c ↔ c.toLower = letter := by
  have hdotted : c ≠ 'İ' := by
    rintro rfl
    exact absurd hc (by decide)
  rw [CountsAs, upperChar_letter hletter, upperChar, if_pos hc, List.singleton_inj,
    toUpper_eq_iff_toLower_eq hletter hc]
  simp [hdotted]

/-- Beyond ASCII the long s counts as an s, and the dotless and the dotted capital as an i. -/
theorem countsAs_iff_of_beyond (hc : 128 ≤ c.toNat) : CountsAs letter c ↔
    letter = 's' ∧ c = 'ſ' ∨ letter = 'i' ∧ (c = 'ı' ∨ c = 'İ') := by
  -- the letter is known from its capital
  have hfound : ∀ capital : Char, capital.toNat < 128 → capital.toUpper = capital →
      [capital] = [letter.toUpper] → letter = capital.toLower := by
    intro capital hcapital hupper h
    refine ((toUpper_eq_iff_toLower_eq hletter hcapital).1 ?_).symm
    rw [hupper, List.singleton_inj.1 h]
  constructor
  · rintro (h | ⟨rfl, rfl⟩)
    · rw [upperChar_letter hletter, upperChar, if_neg (by omega)] at h
      rcases mapCase_eq_ascii hc (toUpper_letter_lt hletter) h with rfl | rfl
      · have hupper : mapCase upperRuns upperLists 'ı' = ['I'] := by decide +kernel
        exact Or.inr ⟨hfound 'I' (by decide) rfl (hupper.symm.trans h), Or.inl rfl⟩
      · have hupper : mapCase upperRuns upperLists 'ſ' = ['S'] := by decide +kernel
        exact Or.inl ⟨hfound 'S' (by decide) rfl (hupper.symm.trans h), rfl⟩
    · exact Or.inr ⟨rfl, Or.inr rfl⟩
  · rintro (⟨rfl, rfl⟩ | ⟨rfl, rfl | rfl⟩)
    · exact Or.inl (by decide +kernel)
    · exact Or.inl (by decide +kernel)
    · exact Or.inr ⟨rfl, rfl⟩

end SmallLetters

end Text

open Text

namespace Condition

/-- The letters that a pattern takes for one another are its two cases and those beyond ASCII. -/
theorem matchesLetter_cases {letter c : Char} : matchesLetter letter c = true ↔
    c.toLower = letter ∨ letter = 's' ∧ c = 'ſ' ∨ letter = 'i' ∧ (c = 'ı' ∨ c = 'İ') := by
  simp [matchesLetter, or_assoc]

/-- The letters of the grammar are matched in all the characters that count as them. -/
theorem matchesLetter_iff {letter c : Char} (hletter : 97 ≤ letter.toNat ∧ letter.toNat ≤ 122) :
    matchesLetter letter c = true ↔ CountsAs letter c := by
  rw [matchesLetter_cases]
  rcases lt_or_ge c.toNat 128 with hascii | hbeyond
  · have hne : ∀ d : Char, 128 ≤ d.toNat → c ≠ d := by
      rintro d hd rfl
      omega
    rw [countsAs_iff_of_ascii hletter hascii]
    simp [hne]
  · have hlower : c.toLower ≠ letter := by
      rintro rfl
      rcases toLower_cases c with heq | hcapital
      · rw [heq] at hletter
        omega
      · omega
    rw [countsAs_iff_of_beyond hletter hbeyond]
    simp [hlower]

/-- A word in characters that count as its letters. -/
def Reads (word : String) (cs : List Char) : Prop := List.Forall₂ CountsAs word.toList cs

/-- A word is read exactly if the characters in front count as its letters. -/
theorem word?_eq_some_iff {letters : List Char}
    (hletters : ∀ c ∈ letters, 97 ≤ c.toNat ∧ c.toNat ≤ 122) {cs read rest : List Char} :
    word? letters cs = some (read, rest) ↔
      List.Forall₂ CountsAs letters read ∧ cs = read ++ rest := by
  fun_induction word? letters cs generalizing read with
  | case1 cs =>
    simp only [Option.some.injEq, Prod.mk.injEq, List.forall₂_nil_left_iff]
    constructor
    · rintro ⟨rfl, rfl⟩
      exact ⟨rfl, rfl⟩
    · rintro ⟨rfl, rfl⟩
      exact ⟨rfl, rfl⟩
  | case2 letter letters c cs hmatches ih =>
    obtain ⟨hletter, hletters⟩ := List.forall_mem_cons.1 hletters
    have hcounts : CountsAs letter c := (matchesLetter_iff hletter).1 hmatches
    constructor
    · intro h
      obtain ⟨⟨read, rest⟩, hword, heq⟩ := Option.map_eq_some_iff.1 h
      cases heq
      obtain ⟨hread, rfl⟩ := (ih hletters).1 hword
      exact ⟨.cons hcounts hread, rfl⟩
    · rintro ⟨hread, heq⟩
      cases hread with
      | cons _ hread =>
        obtain ⟨rfl, hcs⟩ := List.cons.inj heq
        rw [(ih hletters).2 ⟨hread, hcs⟩, Option.map_some]
  | case3 letter letters c cs hmatches =>
    obtain ⟨hletter, -⟩ := List.forall_mem_cons.1 hletters
    refine iff_of_false (by simp) ?_
    rintro ⟨hread, heq⟩
    cases hread with
    | cons hcounts _ =>
      obtain ⟨rfl, -⟩ := List.cons.inj heq
      exact hmatches ((matchesLetter_iff hletter).2 hcounts)
  | case4 letter letters =>
    refine iff_of_false (by simp) ?_
    rintro ⟨hread, heq⟩
    cases hread
    cases heq

/-- Reading a gap takes all blanks in front, of which there must be one. -/
theorem blanks?_eq_some_iff {cs rest : List Char} :
    blanks? cs = some rest ↔
      ∃ gap, Blank gap ∧ gap ≠ [] ∧ TightFront rest ∧ cs = gap ++ rest := by
  constructor
  · intro h
    cases cs with
    | nil => cases h
    | cons c cs =>
      simp only [blanks?, Option.ite_none_right_eq_some, Option.some.injEq] at h
      obtain ⟨hc, rfl⟩ := h
      obtain ⟨gap, hgap, hcs⟩ := exists_eq_append_trimFront cs
      refine ⟨c :: gap, List.forall_mem_cons.2 ⟨hc, hgap⟩, by simp, tightFront_trimFront cs, ?_⟩
      rw [List.cons_append, ← hcs]
  · rintro ⟨gap, hgap, hne, hrest, rfl⟩
    exact blanks?_append hgap hne hrest

/-- What counts as a letter is not blank. -/
theorem isBlank_of_countsAs {letter c : Char} (hletter : 97 ≤ letter.toNat ∧ letter.toNat ≤ 122)
    (h : CountsAs letter c) : isBlank c = false := by
  rcases matchesLetter_cases.1 ((matchesLetter_iff hletter).2 h) with
    rfl | ⟨-, rfl⟩ | ⟨-, rfl | rfl⟩
  · refine isBlank_of_letter ?_
    rcases toLower_cases c with heq | hcapital
    · rw [heq] at hletter
      omega
    · omega
  · decide
  · decide
  · decide

theorem Reads.isBlank {word : String} (hword : Small word) {cs : List Char} (h : Reads word cs) :
    ∀ c ∈ cs, isBlank c = false := by
  unfold Reads at h
  unfold Text.Small at hword
  generalize word.toList = letters at h hword
  induction h with
  | nil => simp
  | cons hcounts _ ih =>
    obtain ⟨hletter, hletters⟩ := List.forall_mem_cons.1 hword
    exact List.forall_mem_cons.2 ⟨isBlank_of_countsAs hletter hcounts, ih hletters⟩

theorem Reads.ne_nil {word : String} (hword : word.toList ≠ []) {cs : List Char}
    (h : Reads word cs) : cs ≠ [] := by
  rintro rfl
  exact hword (List.forall₂_nil_right_iff.1 h)

/-- Two words are read exactly if a gap stands between them. -/
theorem words?_eq_some_iff {first second : String} (hfirst : Small first) (hsecond : Small second)
    (hne : second.toList ≠ []) {cs read rest : List Char} :
    words? first.toList second.toList cs = some (read, rest) ↔
      ∃ a gap b, Reads first a ∧ Blank gap ∧ gap ≠ [] ∧ Reads second b ∧
        cs = a ++ (gap ++ (b ++ rest)) ∧ read = a ++ b := by
  simp only [words?, Option.bind_eq_bind, Option.bind_eq_some_iff, Prod.exists,
    word?_eq_some_iff hfirst, word?_eq_some_iff hsecond, blanks?_eq_some_iff, Option.some.injEq,
    Prod.mk.injEq]
  constructor
  · rintro ⟨a, _, ⟨ha, rfl⟩, _, ⟨gap, hgap, hgap_ne, -, rfl⟩, b, rest, ⟨hb, rfl⟩, rfl, rfl⟩
    exact ⟨a, gap, b, ha, hgap, hgap_ne, hb, rfl, rfl⟩
  · rintro ⟨a, gap, b, ha, hgap, hgap_ne, hb, rfl, rfl⟩
    have htight : TightFront (b ++ rest) :=
      (tight_of_forall (hb.isBlank hsecond)).1.append (hb.ne_nil hne) rest
    exact ⟨a, _, ⟨ha, rfl⟩, _, ⟨gap, hgap, hgap_ne, htight, rfl⟩, b, rest, ⟨hb, rfl⟩, rfl, rfl⟩

/-- The operator of a test for presence as it is recognised: by the alternative that asks for
presence or by the one that asks for absence. -/
inductive Alternative : Bool → List Char → Prop where
  | presence {word : List Char} (h : Reads "exists" word) : Alternative true word
  | absence {first gap second : List Char} (hfirst : Reads "not" first) (hgap : Blank gap)
      (hne : gap ≠ []) (hsecond : Reads "exists" second) :
      Alternative false (first ++ (gap ++ second))

/-- No alternative begins with a blank. -/
theorem Alternative.tightFront {presence : Bool} {word : List Char}
    (h : Alternative presence word) : TightFront word := by
  cases h with
  | presence h => exact (tight_of_forall (h.isBlank small_exists)).1
  | absence hfirst =>
    exact (tight_of_forall (hfirst.isBlank small_not)).1.append (hfirst.ne_nil (by decide)) _

/-- What begins with `not` does not begin with `exists`. -/
theorem not_reads_exists_of_reads_not {first : List Char} (h : Reads "not" first)
    (rest : List Char) : ¬ Reads "exists" (first ++ rest) := by
  intro hexists
  have hnot : List.Forall₂ CountsAs ('n' :: "ot".toList) first := h
  cases hnot with
  | cons hn _ =>
    have hexists : List.Forall₂ CountsAs ('e' :: "xists".toList) (_ :: (_ ++ rest)) := hexists
    cases hexists with
    | cons he _ =>
      rcases he with he | ⟨he, -⟩
      · rcases hn with hn | ⟨hn, -⟩
        · exact absurd (he.symm.trans hn) (by decide)
        · exact absurd hn (by decide)
      · exact absurd he (by decide)

/-- The test for presence accepts what the alternatives recognise, and asks for presence only if
the operator is the one of the presence alternative in ASCII letters. -/
theorem parsePresence?_eq_some_iff {name : String} {cs : List Char} {c : Condition} :
    parsePresence? name cs = some c ↔
      ∃ gap presence word, Blank gap ∧ gap ≠ [] ∧ Alternative presence word ∧ cs = gap ++ word ∧
        c = if presence && isPlain word then .present name else .absent name := by
  simp only [parsePresence?, Option.bind_eq_bind, Option.bind_eq_some_iff]
  constructor
  · rintro ⟨word, hblanks, h⟩
    obtain ⟨gap, hgap, hne, -, rfl⟩ := blanks?_eq_some_iff.1 hblanks
    split at h
    next read hword =>
      obtain ⟨hread, rfl⟩ := (word?_eq_some_iff small_exists).1 hword
      rw [List.append_nil]
      exact ⟨gap, true, read, hgap, hne, .presence hread, rfl, by simpa using h.symm⟩
    next =>
      split at h
      next read hwords =>
        obtain ⟨first, between, second, hfirst, hbetween, hbetween_ne, hsecond, rfl, -⟩ :=
          (words?_eq_some_iff small_not small_exists (by decide)).1 hwords
        rw [List.append_nil]
        exact ⟨gap, false, _, hgap, hne, .absence hfirst hbetween hbetween_ne hsecond, rfl,
          by simpa using h.symm⟩
      next => cases h
  · rintro ⟨gap, presence, word, hgap, hne, halternative, rfl, rfl⟩
    refine ⟨word, blanks?_eq_some_iff.2 ⟨gap, hgap, hne, halternative.tightFront, rfl⟩, ?_⟩
    cases halternative with
    | presence h =>
      have hword : word? "exists".toList word = some (word, []) :=
        (word?_eq_some_iff small_exists).2 ⟨h, (List.append_nil word).symm⟩
      simp only [hword, Bool.true_and]
    | absence hfirst hbetween hbetween_ne hsecond =>
      rename_i first between second
      have hwords : words? "not".toList "exists".toList (first ++ (between ++ second)) =
          some (first ++ second, []) :=
        (words?_eq_some_iff small_not small_exists (by decide)).2
          ⟨first, between, second, hfirst, hbetween, hbetween_ne, hsecond, by simp, rfl⟩
      split
      next read hword =>
        obtain ⟨hread, heq⟩ := (word?_eq_some_iff small_exists).1 hword
        rw [List.append_nil] at heq
        exact absurd (heq ▸ hread) (not_reads_exists_of_reads_not hfirst _)
      next => simp only [hwords, Bool.false_and, Bool.false_eq_true, if_false]

/-- What was read as a word is the word in ASCII letters if it has only ASCII letters. -/
theorem isPlain_iff_spells {word : String} (hword : Small word) {cs : List Char}
    (h : Reads word cs) : isPlain cs = true ↔ Spells word cs := by
  refine ⟨fun hplain => ?_, fun hspells => isPlain_of_spells hspells hword⟩
  unfold Reads at h
  unfold Text.Small at hword
  unfold Spells
  generalize word.toList = letters at h hword ⊢
  induction h with
  | nil => rfl
  | @cons letter c letters cs hcounts _ ih =>
    obtain ⟨hletter, hletters⟩ := List.forall_mem_cons.1 hword
    simp only [isPlain, List.all_cons, Bool.and_eq_true, decide_eq_true_eq] at hplain
    rw [List.map_cons, ih hplain.2 hletters]
    rcases matchesLetter_cases.1 ((matchesLetter_iff hletter).2 hcounts) with
      rfl | ⟨-, rfl⟩ | ⟨-, rfl | rfl⟩
    · rfl
    all_goals exact absurd hplain.1 (by decide)

/-- A condition is recognised as a test for the presence of a name: between the blanks around it
stand the name in braces, blanks, and the operator as one of the alternatives has it. -/
structure Recognised (text name : String) (presence : Bool) (word : List Char) : Prop where
  isName : Template.IsName name.toList
  alternative : Alternative presence word
  placed : ∃ gap, Blank gap ∧ gap ≠ [] ∧
    trim text.toList = Template.placed name.toList (gap ++ word)

variable {text name : String} {presence : Bool} {word : List Char}

/-- A recognised test asks for presence exactly if its word is a plain `exists`. -/
theorem Recognised.parse_eq (h : Recognised text name presence word) :
    parse text = if presence && isPlain word then .present name else .absent name := by
  obtain ⟨gap, hgap, hne, htrim⟩ := h.placed
  have hpresence : parsePresence? name (gap ++ word) =
      some (if presence && isPlain word then .present name else .absent name) :=
    parsePresence?_eq_some_iff.2 ⟨gap, presence, word, hgap, hne, h.alternative, rfl, rfl⟩
  simp only [parse, htrim, Template.placeholder?_placed h.isName, Option.bind_eq_bind,
    Option.bind_some, String.ofList_toList, hpresence]
  rfl

/-- A comparison is no presence test. -/
theorem parseComparison?_ne {name : String} {cs : List Char} {c : Condition}
    (h : parseComparison? name cs = some c) (other : String) :
    c ≠ .present other ∧ c ≠ .absent other := by
  simp only [parseComparison?] at h
  obtain ⟨reader, -, h⟩ := List.exists_of_findSome?_eq_some h
  simp only [Option.bind_eq_bind, Option.bind_eq_some_iff] at h
  obtain ⟨⟨o, rest⟩, -, operand, -, h⟩ := h
  cases o <;> cases h <;> simp

/-- The conditions that are recognised are those that are read as tests for presence or absence. -/
theorem exists_recognised_iff : (∃ presence word, Recognised text name presence word) ↔
    parse text = .present name ∨ parse text = .absent name := by
  constructor
  · rintro ⟨presence, word, h⟩
    rw [h.parse_eq]
    split
    · exact Or.inl rfl
    · exact Or.inr rfl
  · intro h
    obtain htemplate | ⟨found, rest, hfront, hpresence | hcomparison⟩ := parse_cases text
    · rw [htemplate] at h
      simp at h
    · obtain ⟨hname, htrim⟩ := Template.placeholder?_eq_some_iff.1 hfront
      obtain ⟨gap, presence, word, hgap, hne, halternative, rfl, hc⟩ :=
        parsePresence?_eq_some_iff.1 hpresence
      obtain rfl : String.ofList found = name := by
        rw [hc] at h
        split at h <;> simpa using h
      have hname : Template.IsName (String.ofList found).toList := by rwa [String.toList_ofList]
      exact ⟨presence, word, hname, halternative, gap, hgap, hne, by rwa [String.toList_ofList]⟩
    · obtain ⟨hpresent, habsent⟩ := parseComparison?_ne hcomparison name
      exact (h.elim hpresent habsent).elim

/-- A test for presence is read as it was recognised unless an `exists` was recognised with a letter
outside of ASCII, which asks for absence. -/
theorem evaluate_recognised_iff (text name : String) :
    ((∃ presence word, Recognised text name presence word) ↔
      parse text = .present name ∨ parse text = .absent name) ∧
    ∀ presence word, Recognised text name presence word → ∀ bindings userInput,
      (evaluate text bindings userInput =
          (((bindings.set userInputName (.text userInput)).getD name).isPresent == presence) ↔
        (presence = true → Spells "exists" word)) := by
  refine ⟨exists_recognised_iff, fun presence word h bindings userInput => ?_⟩
  have hparse := h.parse_eq
  rw [evaluate, hparse]
  cases h.alternative with
  | presence hword =>
    rw [← isPlain_iff_spells small_exists hword]
    cases isPlain word <;> simp [verdict]
  | absence => simp [verdict]

private def bound : Bindings := [("city", .text "Ghent")]

private theorem recognised_city {word : String}
    (h : word? "exists".toList word.toList = some (word.toList, []))
    (htrim : trim ("\x7b\x7bcity\x7d\x7d " ++ word).toList =
      Template.placed "city".toList (' ' :: word.toList)) :
    Recognised ("\x7b\x7bcity\x7d\x7d " ++ word) "city" true word.toList where
  isName := ⟨by decide, List.all_eq_true.1 (by decide)⟩
  alternative := .presence ((word?_eq_some_iff small_exists).1 h).1
  placed := ⟨[' '], by decide, by decide, htrim⟩

theorem evaluate_recognised_capitals :
    Recognised ("\x7b\x7bcity\x7d\x7d " ++ "EXISTS") "city" true "EXISTS".toList ∧
      evaluate ("\x7b\x7bcity\x7d\x7d " ++ "EXISTS") bound "" = true := by
  have hrecognised :
      Recognised ("\x7b\x7bcity\x7d\x7d " ++ "EXISTS") "city" true "EXISTS".toList :=
    recognised_city (by decide) (by decide)
  obtain ⟨-, hevaluate⟩ := evaluate_recognised_iff ("\x7b\x7bcity\x7d\x7d " ++ "EXISTS") "city"
  exact ⟨hrecognised, (hevaluate true _ hrecognised bound "").2 fun _ => rfl⟩

/-- With a long s the operator is still recognised, but a name that is bound is not there. -/
theorem evaluate_recognised_longS :
    Recognised ("\x7b\x7bcity\x7d\x7d " ++ "exiſts") "city" true "exiſts".toList ∧
      ((bound.set userInputName (.text "")).getD "city").isPresent = true ∧
      evaluate ("\x7b\x7bcity\x7d\x7d " ++ "exiſts") bound "" = false :=
  ⟨recognised_city (by decide) (by decide), rfl, by decide +kernel⟩

end Condition

end CallFlow
