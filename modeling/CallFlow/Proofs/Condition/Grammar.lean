import CallFlow.Proofs.Condition.Names
import CallFlow.Proofs.Condition.Operators
import CallFlow.Proofs.Text.Letters
import Mathlib

namespace CallFlow

open Text

/-- The ways to write an operator. -/
inductive Operator.Spelled : Operator → List Char → Prop where
  | equal : Spelled equal "==".toList
  | notEqual : Spelled notEqual "!=".toList
  | greater : Spelled greater ">".toList
  | greaterOrEqual : Spelled greaterOrEqual ">=".toList
  | less : Spelled less "<".toList
  | lessOrEqual : Spelled lessOrEqual "<=".toList
  | contains {word : List Char} (hword : Spells "contains" word) : Spelled contains word
  | notContains {first gap second : List Char} (hfirst : Spells "not" first) (hgap : Blank gap)
      (hne : gap ≠ []) (hsecond : Spells "contains" second) :
      Spelled notContains (first ++ (gap ++ second))

namespace Condition

theorem small_contains : Small "contains" := by decide

theorem small_exists : Small "exists" := by decide

theorem small_not : Small "not" := by decide

/-- A word in any case is read off the front. -/
theorem word?_append {letters cs : List Char} (h : cs.map Char.toLower = letters)
    (rest : List Char) : word? letters (cs ++ rest) = some (cs, rest) := by
  subst h
  induction cs with
  | nil => simp [word?]
  | cons c cs ih => simp [word?, matchesLetter, ih]

/-- A gap is read off up to the first character that is not blank. -/
theorem blanks?_append {gap rest : List Char} (hgap : Blank gap) (hne : gap ≠ [])
    (hrest : TightFront rest) : blanks? (gap ++ rest) = some rest := by
  obtain ⟨c, gap, rfl⟩ := List.exists_cons_of_ne_nil hne
  have hc : isBlank c = true := hgap c List.mem_cons_self
  have htrim : trimFront (gap ++ rest) = rest :=
    trimFront_append (fun c hc => hgap c (List.mem_cons_of_mem _ hc)) hrest
  simp [blanks?, hc, htrim]

/-- A spelling of a word in small letters is plain. -/
theorem isPlain_of_spells {word : String} {cs : List Char} (h : Spells word cs)
    (hword : Small word) : isPlain cs = true := by
  refine List.all_eq_true.2 fun c hc => decide_eq_true ?_
  have hletter := h.letter hword c hc
  omega

/-- A plain word keeps the operator that it names. -/
theorem named_of_isPlain (o : Operator) {read : List Char} (h : isPlain read = true) :
    named o read = some o := by
  have hdotted : 'İ' ∉ read := fun hmem => absurd (List.all_eq_true.1 h _ hmem) (by decide)
  simp [named, hdotted]

/-- A test for presence, or for absence. -/
inductive PresenceTest : Bool → List Char → Prop where
  | presence {word : List Char} (hword : Spells "exists" word) : PresenceTest true word
  | absence {first gap second : List Char} (hfirst : Spells "not" first) (hgap : Blank gap)
      (hne : gap ≠ []) (hsecond : Spells "exists" second) :
      PresenceTest false (first ++ (gap ++ second))

/-- No blank stands at the end of a presence test. -/
theorem PresenceTest.back_tight {present : Bool} {test : List Char} (h : PresenceTest present test)
    (front : List Char) : TightFront (front ++ test).reverse := by
  cases h with
  | presence hword =>
    exact (hword.tight small_exists).append_back (hword.ne_nil (by decide)) front
  | @absence first gap second _ _ _ hsecond =>
    have hback := (hsecond.tight small_exists).append_back (hsecond.ne_nil (by decide))
      (front ++ (first ++ gap))
    simpa only [List.append_assoc] using hback

/-- A presence test after a gap is parsed as what it asks. -/
theorem parsePresence?_test (name : String) {gap : List Char} (hgap : Blank gap) (hne : gap ≠ [])
    {present : Bool} {test : List Char} (h : PresenceTest present test) :
    parsePresence? name (gap ++ test) = some (if present then .present name else .absent name) := by
  cases h with
  | presence hword =>
    have hblanks := blanks?_append hgap hne (hword.tight small_exists).1
    have hread := word?_append hword []
    rw [List.append_nil] at hread
    simp only [parsePresence?, Option.bind_eq_bind, hblanks, Option.bind_some, hread,
      isPlain_of_spells hword small_exists, if_true]
  | @absence first between second hfirst hbetween hbetween_ne hsecond =>
    have hblanks := blanks?_append hgap hne
      ((hfirst.tight small_not).1.append (hfirst.ne_nil (by decide)) (between ++ second))
    have hexists : word? "exists".toList (first ++ (between ++ second)) = none := by
      obtain ⟨c, rest, rfl, hc⟩ := hfirst.exists_cons 'n' rfl
      simp [word?, matchesLetter, hc]
    have hwords : words? "not".toList "exists".toList (first ++ (between ++ second)) =
        some (first ++ second, []) := by
      have hread := word?_append hsecond []
      rw [List.append_nil] at hread
      simp only [words?, Option.bind_eq_bind, word?_append hfirst, Option.bind_some,
        blanks?_append hbetween hbetween_ne (hsecond.tight small_exists).1, hread]
    simp only [parsePresence?, Option.bind_eq_bind, hblanks, Option.bind_some, hexists, hwords,
      Bool.false_eq_true, if_false]

theorem blank_space : Blank [' '] := by simp [Blank, isBlank, inRanges, blankRanges]

/-- Every operator begins with something that is not blank. -/
theorem tightFront_of_spelled {o : Operator} {sign : List Char} (h : o.Spelled sign) :
    TightFront sign ∧ sign ≠ [] := by
  cases h with
  | contains hword => exact ⟨(hword.tight small_contains).1, hword.ne_nil (by decide)⟩
  | notContains hfirst =>
    have hne := hfirst.ne_nil (by decide)
    exact ⟨(hfirst.tight small_not).1.append hne _, by simp [hne]⟩
  | _ => exact ⟨by simp [TightFront, isBlank, inRanges, blankRanges], by simp⟩

/-- A comparison is not taken for a presence test. -/
theorem parsePresence?_spelled (name : String) {o : Operator} {sign : List Char}
    (h : o.Spelled sign) (rest : List Char) :
    parsePresence? name (' ' :: (sign ++ ' ' :: rest)) = none := by
  have hblanks : blanks? (' ' :: (sign ++ ' ' :: rest)) = some (sign ++ ' ' :: rest) := by
    obtain ⟨htight, hne⟩ := tightFront_of_spelled h
    simpa [blanks?, isBlank, inRanges, blankRanges] using
      trimFront_of_tightFront (htight.append hne (' ' :: rest))
  have hexists : word? "exists".toList (sign ++ ' ' :: rest) = none := by
    cases h with
    | contains hword =>
      obtain ⟨c, _, rfl, hc⟩ := hword.exists_cons 'c' rfl
      simp [word?, matchesLetter, hc]
    | notContains hfirst =>
      obtain ⟨c, _, rfl, hc⟩ := hfirst.exists_cons 'n' rfl
      simp [word?, matchesLetter, hc]
    | _ => simp [word?, matchesLetter]
  have hnotExists : words? "not".toList "exists".toList (sign ++ ' ' :: rest) = none := by
    cases h with
    | contains hword =>
      obtain ⟨c, _, rfl, hc⟩ := hword.exists_cons 'c' rfl
      simp [words?, word?, matchesLetter, hc]
    | @notContains first gap second hfirst hgap hne hsecond =>
      obtain ⟨c, after, rfl, hc⟩ := hsecond.exists_cons 'c' rfl
      have htight : TightFront (c :: (after ++ ' ' :: rest)) :=
        (hsecond.tight small_contains).1.append (by simp) (' ' :: rest)
      have hexists : word? "exists".toList (c :: (after ++ ' ' :: rest)) = none := by
        simp [word?, matchesLetter, hc]
      simp only [List.append_assoc, List.cons_append, words?, word?_append hfirst,
        Option.bind_eq_bind, Option.bind_some, blanks?_append hgap hne htight, hexists,
        Option.bind_none]
    | _ => simp [words?, word?, matchesLetter]
  simp only [parsePresence?, Option.bind_eq_bind, hblanks, Option.bind_some, hexists, hnotExists]

/-- Letters are no comparison sign. -/
theorem sign_eq_none {c : Char} (hc : 65 ≤ c.toNat) (cs : List Char) (o : Operator) :
    ∀ signs ∈ ["==", "!=", ">=", "<=", ">", "<"], sign signs o (c :: cs) = none := by
  have hne : ∀ d : Char, d.toNat < 65 → d ≠ c := by
    rintro d hd rfl
    omega
  simp [sign, hne]

/-- Of the operators that are tried, the one that stands there is the first to be read. -/
theorem findSome?_spelled {o : Operator} {sign : List Char} (h : o.Spelled sign)
    (rest : List Char) :
    operatorReaders.findSome? (fun reader => reader (sign ++ ' ' :: rest)) =
      some (some o, ' ' :: rest) := by
  cases h with
  | contains hword =>
    have hread := word?_append hword (' ' :: rest)
    have hnamed := named_of_isPlain .contains (isPlain_of_spells hword small_contains)
    obtain ⟨c, after, rfl, hc⟩ := hword.exists_cons 'c' rfl
    have hsigns := sign_eq_none (hword.letter small_contains c List.mem_cons_self).1
    have hnot : word? "not".toList (c :: (after ++ ' ' :: rest)) = none := by
      simp [word?, matchesLetter, hc]
    rw [List.cons_append] at hread ⊢
    simp only [operatorReaders, List.findSome?, hsigns, List.mem_cons, true_or, or_true, words?,
      hnot, hread, Option.bind_eq_bind, Option.bind_none, Option.map_none, Option.map_some, hnamed]
  | @notContains first gap second hfirst hgap hne hsecond =>
    have hnamed : named .notContains (first ++ second) = some .notContains := by
      refine named_of_isPlain _ ?_
      rw [isPlain, List.all_append]
      exact Bool.and_eq_true_iff.2
        ⟨isPlain_of_spells hfirst small_not, isPlain_of_spells hsecond small_contains⟩
    have htight := (hsecond.tight small_contains).1.append (hsecond.ne_nil (by decide))
      (' ' :: rest)
    have hwords : words? "not".toList "contains".toList
        (first ++ (gap ++ (second ++ ' ' :: rest))) = some (first ++ second, ' ' :: rest) := by
      simp only [words?, Option.bind_eq_bind, word?_append hfirst, Option.bind_some,
        blanks?_append hgap hne htight, word?_append hsecond]
    obtain ⟨c, after, rfl, hc⟩ := hfirst.exists_cons 'n' rfl
    have hsigns := sign_eq_none (hfirst.letter small_not c List.mem_cons_self).1
    rw [List.cons_append] at hwords hnamed
    simp only [List.append_assoc, List.cons_append, operatorReaders, List.findSome?, hsigns,
      List.mem_cons, true_or, or_true, hwords, Option.map_some, hnamed]
  | _ =>
    simp [operatorReaders, Condition.sign]
    rfl

/-- An operator between blanks, with an operand after it, is parsed as a comparison. -/
theorem parseComparison?_spelled (name : String) {o : Operator} {sign : List Char}
    (h : o.Spelled sign) {rest operand : List Char}
    (hoperand : operand? (' ' :: rest) = some operand) :
    parseComparison? name (' ' :: (sign ++ ' ' :: rest)) =
      some (.compare name o (String.ofList (unquote (trim operand)))) := by
  have hfront : trimFront (' ' :: (sign ++ ' ' :: rest)) = sign ++ ' ' :: rest := by
    obtain ⟨htight, hne⟩ := tightFront_of_spelled h
    exact trimFront_append blank_space (htight.append hne (' ' :: rest))
  obtain ⟨before, reader, after, hreaders, hreader, hbefore⟩ :=
    List.findSome?_eq_some_iff.1 (findSome?_spelled h rest)
  simp only [parseComparison?, hfront]
  refine List.findSome?_eq_some_iff.2 ⟨before, reader, after, hreaders, ?_, fun r hr => ?_⟩
  · simp only [hreader, Option.bind_eq_bind, Option.bind_some, hoperand]
  · simp only [hbefore r hr, Option.bind_eq_bind, Option.bind_none]

/-- A placeholder with something tight after it has no blank at either end. -/
theorem tight_placed {name core : List Char} (hcore : TightFront core.reverse) (hne : core ≠ []) :
    Tight (Template.placed name core) := by
  refine ⟨tightFront_cons (by decide) _, ?_⟩
  have hreverse : (Template.placed name core).reverse =
      core.reverse ++ ('{' :: '{' :: (name ++ ['}', '}'])).reverse := by
    simp [Template.placed]
  rw [hreverse]
  exact hcore.append (by simpa using hne) _

/-- A presence test or a comparison that follows a placeholder, whatever the blanks around. -/
theorem parse_of_structured {name core before after : List Char} (hname : Template.IsName name)
    (hbefore : Blank before) (hafter : Blank after) (hcore : TightFront core.reverse)
    (hne : core ≠ []) {c : Condition}
    (h : (parsePresence? (String.ofList name) core <|> parseComparison? (String.ofList name) core) =
      some c) :
    parse (String.ofList (before ++ (Template.placed name core ++ after))) = c := by
  have htrim : trim (String.ofList (before ++ (Template.placed name core ++ after))).toList =
      Template.placed name core := by
    rw [String.toList_ofList]
    exact trim_append hbefore (tight_placed hcore hne) hafter
  simp only [parse, htrim, Template.placeholder?_placed hname, Option.bind_eq_bind,
    Option.bind_some, h, Option.getD_some]

/-- The operand of a comparison is what is left of it without blanks and quotes. -/
theorem parse_comparison {name : List Char} (hname : Template.IsName name) {o : Operator}
    {sign : List Char} (h : o.Spelled sign) {operand : List Char} (hline : '\n' ∉ operand)
    (hblank : ¬ Blank operand) :
    parse (String.ofList (Template.placed name (' ' :: (sign ++ ' ' :: operand)))) =
      .compare (String.ofList name) o (String.ofList (unquote (trim operand))) := by
  obtain ⟨before, after, hbefore, htight, hafter, heq⟩ := exists_eq_append_trim operand
  have hne : trim operand ≠ [] := by
    intro hnil
    rw [hnil, List.nil_append] at heq
    refine hblank fun c hc => ?_
    rw [heq] at hc
    exact (List.mem_append.1 hc).elim (hbefore c) (hafter c)
  have hoperand : operand? (' ' :: (before ++ trim operand)) = some (trim operand) := by
    have hgap : Blank (' ' :: before) := List.forall_mem_cons.2 ⟨by decide, hbefore⟩
    have hfront : trimFront (' ' :: (before ++ trim operand)) = trim operand := by
      rw [← List.cons_append]
      exact trimFront_append hgap htight.1
    have hline' : '\n' ∉ trim operand := fun hmem => hline ((trim_isInfix operand).subset hmem)
    obtain ⟨c, cs, hcons⟩ := List.exists_cons_of_ne_nil hne
    rw [hcons] at hfront hline' ⊢
    simp [operand?, hfront, hline']
  have hstructured :
      (parsePresence? (String.ofList name) (' ' :: (sign ++ ' ' :: (before ++ trim operand))) <|>
        parseComparison? (String.ofList name) (' ' :: (sign ++ ' ' :: (before ++ trim operand)))) =
      some (.compare (String.ofList name) o (String.ofList (unquote (trim operand)))) := by
    rw [parsePresence?_spelled _ h, parseComparison?_spelled _ h hoperand, trim_of_tight htight]
    rfl
  have hback : TightFront (' ' :: (sign ++ ' ' :: (before ++ trim operand))).reverse := by
    simpa using htight.append_back hne (' ' :: (sign ++ ' ' :: before))
  have hparse := parse_of_structured hname blank_nil hafter hback (List.cons_ne_nil _ _) hstructured
  have htext : Template.placed name (' ' :: (sign ++ ' ' :: operand)) =
      [] ++ (Template.placed name (' ' :: (sign ++ ' ' :: (before ++ trim operand))) ++ after) := by
    simp [Template.placed, ← heq]
  rw [htext]
  exact hparse

/-- A text between two equal quotes. -/
def Quoted (cs inner : List Char) : Prop :=
  ∃ q, (q = '"' ∨ q = '\'') ∧ cs = q :: (inner ++ [q])

/-- A quoted operand is unquoted to what stands inside. -/
theorem unquote_quoted {cs inner : List Char} (h : Quoted cs inner) : unquote cs = inner := by
  obtain ⟨q, hq, rfl⟩ := h
  have hcons : ∃ c rest, inner ++ [q] = c :: rest := List.exists_cons_of_ne_nil (by simp)
  obtain ⟨c, rest, hcons⟩ := hcons
  have hlast : (c :: rest).getLast? = some q := by simp [← hcons]
  have hdrop : (c :: rest).dropLast = inner := by simp [← hcons]
  rcases hq with rfl | rfl <;> simp [hcons, unquote, hlast, hdrop]

/-- A quoted operand has no blank at either end. -/
theorem Quoted.tight {cs inner : List Char} (h : Quoted cs inner) : Tight cs := by
  obtain ⟨q, hq, rfl⟩ := h
  have hblank : isBlank q = false := by rcases hq with rfl | rfl <;> decide
  refine ⟨tightFront_cons hblank _, ?_⟩
  rw [List.reverse_cons, List.reverse_append]
  exact tightFront_cons hblank _

/-- A name in braces, an operator and an operand. -/
def comparisonText (name sign operand : String) : String :=
  "\x7b\x7b" ++ name ++ "\x7d\x7d " ++ sign ++ " " ++ operand

/-- What is left of an operand without the blanks and then the quotes around it. -/
def operandText (operand : String) : String := String.ofList (unquote (trim operand.toList))

/-- A text that can stand as an operand: one line, with something on it. -/
def IsOperand (operand : String) : Prop := '\n' ∉ operand.toList ∧ ¬ Blank operand.toList

/-- A quoted text on one line is an operand. -/
theorem Quoted.isOperand {operand : String} {inner : List Char} (h : Quoted operand.toList inner)
    (hline : '\n' ∉ inner) : IsOperand operand := by
  obtain ⟨q, hq, heq⟩ := h
  rw [IsOperand, heq]
  constructor
  · rcases hq with rfl | rfl <;> simpa using hline
  · intro hblank
    have hquote := hblank q List.mem_cons_self
    rcases hq with rfl | rfl <;> simp [isBlank, inRanges, blankRanges] at hquote

/-- A name in braces and a test, with blanks between and around them. -/
def presenceText (before name gap test after : String) : String :=
  before ++ ("\x7b\x7b" ++ name ++ "\x7d\x7d" ++ gap ++ test) ++ after

section Meaning

variable {name : String} (hname : Template.IsName name.toList) (bindings : Bindings)
  (userInput : String)

include hname

/-- A comparison holds when its operand can be rendered and the operator holds for what it is
rendered as. -/
theorem evaluate_comparisonText {o : Operator} {sign operand : String} (h : o.Spelled sign.toList)
    (hoperand : IsOperand operand) :
    evaluate (comparisonText name sign operand) bindings userInput =
      ((Template.render (operandText operand)
          (bindings.set userInputName (.text userInput))).bind fun text =>
        o.verdict ((bindings.set userInputName (.text userInput)).getD name)
          (.text text)).getD false := by
  have htext : comparisonText name sign operand = String.ofList
      (Template.placed name.toList (' ' :: (sign.toList ++ ' ' :: operand.toList))) := by
    refine String.toList_inj.1 ?_
    simp [comparisonText, Template.placed]
  rw [evaluate, htext, parse_comparison hname h hoperand.1 hoperand.2, String.ofList_toList]
  rfl

/-- A comparison holds exactly if its operator says so of the two values. -/
theorem evaluate_comparisonText_iff {o : Operator} {sign operand : String}
    (h : o.Spelled sign.toList) (hoperand : IsOperand operand) :
    evaluate (comparisonText name sign operand) bindings userInput = true ↔
      ∃ text, Template.render (operandText operand)
          (bindings.set userInputName (.text userInput)) = some text ∧
        o.Says ((bindings.set userInputName (.text userInput)).getD name) (.text text) := by
  rw [evaluate_comparisonText hname bindings userInput h hoperand]
  simp [Option.getD_eq_iff, Option.bind_eq_some_iff, Operator.verdict_eq_some_true_iff]

/-- A presence test holds exactly if the variable is bound to something, or is not, as it asks. -/
theorem evaluate_presenceText {present : Bool} {before gap test after : String}
    (h : PresenceTest present test.toList) (hbefore : Blank before.toList)
    (hgap : Blank gap.toList) (hne : gap ≠ "") (hafter : Blank after.toList) :
    evaluate (presenceText before name gap test after) bindings userInput =
      (((bindings.set userInputName (.text userInput)).getD name).isPresent == present) := by
  have htext : presenceText before name gap test after = String.ofList (before.toList ++
      (Template.placed name.toList (gap.toList ++ test.toList) ++ after.toList)) := by
    refine String.toList_inj.1 ?_
    simp [presenceText, Template.placed]
  have hne : gap.toList ≠ [] := by simpa using hne
  rw [evaluate, htext]
  generalize gap.toList = gap at hgap hne ⊢
  generalize test.toList = test at h ⊢
  have hparse : (parsePresence? (String.ofList name.toList) (gap ++ test) <|>
      parseComparison? (String.ofList name.toList) (gap ++ test)) =
      some (if present then .present name else .absent name) := by
    rw [parsePresence?_test _ hgap hne h, String.ofList_toList]
    rfl
  rw [parse_of_structured hname hbefore hafter (h.back_tight gap) (by simp [hne]) hparse]
  cases present <;> simp [verdict]

/-- A negated comparison says the opposite of the other where there is something to compare. Where
there is not, neither holds. -/
theorem evaluate_negated {o o' : Operator} (hpair : (o, o') ∈ Operator.negated)
    {sign sign' operand : String} (h : o.Spelled sign.toList) (h' : o'.Spelled sign'.toList)
    (hoperand : IsOperand operand) :
    let scope := bindings.set userInputName (.text userInput)
    ((scope.getD name).display ≠ none → Template.render (operandText operand) scope ≠ none →
      evaluate (comparisonText name sign' operand) bindings userInput =
        !evaluate (comparisonText name sign operand) bindings userInput) ∧
    ((scope.getD name).display = none ∨ Template.render (operandText operand) scope = none →
      evaluate (comparisonText name sign operand) bindings userInput = false ∧
        evaluate (comparisonText name sign' operand) bindings userInput = false) := by
  dsimp only
  rw [evaluate_comparisonText hname bindings userInput h hoperand,
    evaluate_comparisonText hname bindings userInput h' hoperand]
  generalize bindings.set userInputName (.text userInput) = scope
  cases hrender : Template.render (operandText operand) scope with
  | none => simp
  | some text =>
    have hnone : o.verdict (scope.getD name) (.text text) = none ↔
        (scope.getD name).display = none := by
      simp [Operator.verdict_eq_none_iff hpair]
    simp only [Option.bind_some, Operator.verdict_negated hpair, ne_eq, ← hnone]
    cases hverdict : o.verdict (scope.getD name) (.text text) <;> simp

end Meaning

private def noted : Bindings := [("note", .text "A >= B")]

end Condition

end CallFlow
