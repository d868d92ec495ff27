import CallFlow.Condition
import CallFlow.Proofs.Template.Filled

namespace CallFlow

namespace Text

theorem trimFront_suffix (cs : List Char) : trimFront cs <:+ cs := List.dropWhile_suffix _

theorem trim_isInfix (cs : List Char) : trim cs <:+: cs := by
  have hfront : trimFront cs <:+: cs := (trimFront_suffix cs).isInfix
  have hback : trim cs <+: trimFront cs := by
    have h := trimFront_suffix (trimFront cs).reverse
    simpa [trim] using List.reverse_prefix.2 h
  exact hback.isInfix.trans hfront

end Text

namespace Condition

/-- The names that a condition looks up. -/
def names : Condition → List String
  | .present name | .absent name => [name]
  | .compare name _ operand => name :: Template.names operand
  | .meaningless => []
  | .template text => Template.names text

/-- The verdict of a condition is the same in two scopes that agree on the names it looks up. -/
theorem verdict_congr {c : Condition} {scope other : Bindings}
    (h : ∀ name ∈ c.names, scope.getD name = other.getD name) :
    c.verdict scope = c.verdict other := by
  cases c with
  | present name => simp only [verdict, h name (by simp [names])]
  | absent name => simp only [verdict, h name (by simp [names])]
  | compare name o operand =>
    have hoperand : Template.render operand scope = Template.render operand other :=
      Template.render_congr fun n hn => h n (by simp [names, hn])
    simp only [verdict, h name (by simp [names]), hoperand]
  | meaningless => rfl
  | template text => simp only [verdict, Template.render_congr h]

/-- What is left after a word is an end of the text. -/
theorem word?_suffix {letters cs read rest : List Char} (h : word? letters cs = some (read, rest)) :
    rest <:+ cs := by
  fun_induction word? letters cs generalizing read with
  | case1 cs =>
    cases h
    exact List.suffix_refl _
  | case2 letter letters c cs hmatches ih =>
    obtain ⟨⟨read', rest'⟩, hword, heq⟩ := Option.map_eq_some_iff.1 h
    cases heq
    exact (ih hword).trans (List.suffix_cons c cs)
  | case3 => cases h
  | case4 => cases h

/-- What is left after a gap is an end of the text. -/
theorem blanks?_suffix {cs rest : List Char} (h : blanks? cs = some rest) : rest <:+ cs := by
  cases cs with
  | nil => cases h
  | cons c cs =>
    simp only [blanks?, Option.ite_none_right_eq_some, Option.some.injEq] at h
    rw [← h.2]
    exact (Text.trimFront_suffix cs).trans (List.suffix_cons c cs)

theorem words?_suffix {first second cs read rest : List Char}
    (h : words? first second cs = some (read, rest)) : rest <:+ cs := by
  simp only [words?, Option.bind_eq_bind, Option.bind_eq_some_iff] at h
  obtain ⟨⟨a, afterFirst⟩, hfirst, between, hblanks, ⟨b, afterSecond⟩, hsecond, heq⟩ := h
  cases heq
  exact (word?_suffix hsecond).trans ((blanks?_suffix hblanks).trans (word?_suffix hfirst))

/-- An operator is read off the front of the characters. -/
theorem operatorReaders_suffix {reader : OperatorReader} (hmem : reader ∈ operatorReaders)
    {cs rest : List Char} {o : Option Operator} (h : reader cs = some (o, rest)) : rest <:+ cs := by
  have hsign : ∀ signs operator, sign signs operator cs = some (o, rest) → rest <:+ cs := by
    intro signs operator h
    simp only [sign, Option.ite_none_right_eq_some, Option.some.injEq, Prod.mk.injEq] at h
    rw [← h.2.2]
    exact List.drop_suffix _ _
  simp only [operatorReaders, List.mem_cons, List.not_mem_nil, or_false] at hmem
  rcases hmem with rfl | rfl | rfl | rfl | rfl | rfl | rfl | rfl
  iterate 6 exact hsign _ _ h
  · obtain ⟨⟨read, rest'⟩, hwords, heq⟩ := Option.map_eq_some_iff.1 h
    cases heq
    exact words?_suffix hwords
  · obtain ⟨⟨read, rest'⟩, hword, heq⟩ := Option.map_eq_some_iff.1 h
    cases heq
    exact word?_suffix hword

/-- An operand is an end of the text. -/
theorem operand?_suffix {cs operand : List Char} (h : operand? cs = some operand) :
    operand <:+ cs := by
  unfold operand? at h
  split at h
  · cases h
  · simp only [Option.ite_none_left_eq_some, Option.some.injEq] at h
    rw [← h.2]
    exact Text.trimFront_suffix cs

/-- Unquoting leaves a part of the text. -/
theorem unquote_isInfix (cs : List Char) : unquote cs <:+: cs := by
  unfold unquote
  split
  · rename_i q c rest
    split
    · exact (List.dropLast_prefix (c :: rest)).isInfix.trans (List.suffix_cons q _).isInfix
    · exact List.infix_refl _
  · exact List.infix_refl _

/-- A presence test names the one variable that it asks for. -/
theorem names_parsePresence? {name : String} {cs : List Char} {c : Condition}
    (h : parsePresence? name cs = some c) : c.names = [name] := by
  simp only [parsePresence?, Option.bind_eq_bind, Option.bind_eq_some_iff] at h
  obtain ⟨rest, -, h⟩ := h
  split at h
  · split at h <;> cases h <;> rfl
  · split at h
    · cases h
      rfl
    · cases h

/-- A comparison looks up the name in front and the names of its operand, which is part of what
follows the name. -/
theorem mem_names_parseComparison? {name other : String} {cs : List Char} {c : Condition}
    (h : parseComparison? name cs = some c) (hmem : other ∈ c.names) :
    other = name ∨ Template.Occurs other.toList cs := by
  simp only [parseComparison?] at h
  obtain ⟨reader, hreader, h⟩ := List.exists_of_findSome?_eq_some h
  simp only [Option.bind_eq_bind, Option.bind_eq_some_iff] at h
  obtain ⟨⟨o, rest⟩, hread, operand, hoperand, h⟩ := h
  cases o with
  | none =>
    cases h
    cases hmem
  | some o =>
    cases h
    refine (List.mem_cons.1 hmem).imp_right fun hnames => ?_
    have hpart : unquote (Text.trim operand) <:+: cs :=
      ((unquote_isInfix _).trans (Text.trim_isInfix _)).trans <|
        ((operand?_suffix hoperand).trans
          ((operatorReaders_suffix hreader hread).trans (Text.trimFront_suffix cs))).isInfix
    have hoccurs := Template.mem_names_iff.1 hnames
    rw [String.toList_ofList] at hoccurs
    exact hoccurs.of_isInfix hpart

/-- What stands before the template that any other text is read as. -/
theorem parse_cases (text : String) :
    parse text = .template (String.ofList (Text.trim text.toList)) ∨
      ∃ name rest, Template.placeholder? (Text.trim text.toList) = some (name, rest) ∧
        (parsePresence? (String.ofList name) rest = some (parse text) ∨
          parseComparison? (String.ofList name) rest = some (parse text)) := by
  cases hfront : Template.placeholder? (Text.trim text.toList) with
  | none =>
    left
    simp [parse, hfront]
  | some found =>
    obtain ⟨name, rest⟩ := found
    cases hpresence : parsePresence? (String.ofList name) rest with
    | some c =>
      refine Or.inr ⟨name, rest, rfl, Or.inl ?_⟩
      simp [parse, hfront, hpresence]
    | none =>
      cases hcomparison : parseComparison? (String.ofList name) rest with
      | some c =>
        refine Or.inr ⟨name, rest, rfl, Or.inr ?_⟩
        simp [parse, hfront, hpresence, hcomparison]
      | none =>
        left
        simp [parse, hfront, hpresence, hcomparison]

/-- A condition looks up no names but those its text refers to. -/
theorem names_parse_subset (text : String) : (parse text).names ⊆ Template.names text := by
  intro other hmem
  rw [Template.mem_names_iff]
  refine Template.Occurs.of_isInfix ?_ (Text.trim_isInfix text.toList)
  obtain htemplate | ⟨name, rest, hfront, hparse⟩ := parse_cases text
  · rw [htemplate] at hmem
    have hoccurs := Template.mem_names_iff.1 hmem
    rwa [String.toList_ofList] at hoccurs
  · obtain ⟨hname, heq⟩ := Template.placeholder?_eq_some_iff.1 hfront
    rw [heq, Template.occurs_placed_iff hname]
    rcases hparse with hpresence | hcomparison
    · rw [names_parsePresence? hpresence, List.mem_singleton] at hmem
      exact Or.inl (by rw [hmem, String.toList_ofList])
    · refine (mem_names_parseComparison? hcomparison hmem).imp_left fun hother => ?_
      rw [hother, String.toList_ofList]

/-- A condition evaluates alike among variables that agree on the names its text refers to, for
what the caller said is the same on both sides. -/
theorem evaluate_congr {text : String} {bindings other : Bindings} (userInput : String)
    (h : ∀ name ∈ Template.names text,
      (bindings.set userInputName (.text userInput)).getD name =
        (other.set userInputName (.text userInput)).getD name) :
    evaluate text bindings userInput = evaluate text other userInput :=
  congrArg (Option.getD · false) <|
    verdict_congr fun name hname => h name (names_parse_subset text hname)

end Condition

end CallFlow
