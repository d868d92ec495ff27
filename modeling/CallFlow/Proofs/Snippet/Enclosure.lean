import CallFlow.Proofs.Snippet.Blocks
import CallFlow.Proofs.Snippet.Layout
import CallFlow.Snippet.Check

namespace CallFlow.Snippet

open Lexer

/-- The characters of a snippet, or those of a body that does nothing. -/
def bodyText (source : String) : List Char :=
  match Text.trim source.toList with
  | [] => emptyBody.toList
  | cs => cs

theorem toList_wrap (source : String) :
    (wrap source).toList = head.toList ++ indented (bodyText source) := by
  rw [wrap, String.toList_append, String.toList_ofList]
  rfl

/-- The function begins with its head, on a line of its own. -/
theorem physicalLines_wrap (source : String) : physicalLines (wrap source).toList =
    "def __flow_function__(inputs):".toList :: physicalLines (indented (bodyText source)) := by
  have hhead : head.toList = "def __flow_function__(inputs):".toList ++ ['\n'] := by decide +kernel
  have hstop : physicalLines (['\n'] ++ indented (bodyText source)) =
      [] :: physicalLines (indented (bodyText source)) :=
    (LineEnd.feed _).physicalLines_append
  rw [toList_wrap, hhead, List.append_assoc,
    physicalLines_append (by decide +kernel) (by decide +kernel), hstop, List.modifyHead_cons,
    List.append_nil]

/-- The tokens of the head of a function around a snippet. -/
def headTokens : List Token :=
  [.word "def", .word "__flow_function__", .sign "(", .word "inputs", .sign ")", .sign ":",
   .newline]

theorem push_eq_map (t : Token) (ts : Option (List Token)) :
    (do return t :: (← ts)) = ts.map (t :: ·) := by
  cases ts <;> rfl

/-- A word is scanned as one token. -/
theorem scan_word {c : Char} {cs rest : List Char} {t : Token} (hc : isWordStart c = true)
    (h : lexeme? (c :: cs) = some (t, rest)) (fuel : Nat) (brackets : List Char) :
    scan (fuel + 1) false brackets [] (c :: cs) =
      (scan fuel false brackets [] rest).map (t :: ·) := by
  rw [← push_eq_map, scan.eq_def]
  dsimp only
  split
  case h_1 heq => cases heq
  case h_9 heq =>
    cases heq
    rw [hc, Bool.true_or, Bool.true_or, Bool.true_or, if_pos rfl, h]
    rfl
  all_goals
    rename_i heq
    cases heq
    cases hc

/-- The head is scanned as its tokens. -/
theorem scan_head (fuel : Nat) (cs : List Char) :
    scan (fuel + 9) true [] [] (head.toList ++ cs) =
      (scan fuel true [] [] cs).map (headTokens ++ ·) := by
  have hhead : head.toList ++ cs = "def".toList ++ ' ' :: ("__flow_function__".toList ++
      '(' :: ("inputs".toList ++ ')' :: ':' :: '\n' :: cs)) := rfl
  have hline (fuel : Nat) (cs : List Char) :
      scan (fuel + 1) true [] [] ('d' :: cs) = scan fuel false [] [] ('d' :: cs) := by
    change (do return [] ++ (← scan fuel false [] [] ('d' :: cs))) = _
    cases scan fuel false [] [] ('d' :: cs) <;> rfl
  have hdef (fuel : Nat) (cs : List Char) :
      scan (fuel + 1) false [] [] ("def".toList ++ ' ' :: cs) =
        (scan fuel false [] [] (' ' :: cs)).map (Token.word "def" :: ·) :=
    scan_word rfl rfl ..
  have hspace (fuel : Nat) (cs : List Char) :
      scan (fuel + 1) false [] [] (' ' :: cs) = scan fuel false [] [] cs := rfl
  have hname (fuel : Nat) (cs : List Char) :
      scan (fuel + 1) false [] [] ("__flow_function__".toList ++ '(' :: cs) =
        (scan fuel false [] [] ('(' :: cs)).map (Token.word "__flow_function__" :: ·) :=
    scan_word rfl rfl ..
  have hopen (fuel : Nat) (cs : List Char) :
      scan (fuel + 1) false [] [] ('(' :: cs) =
        (scan fuel false ['('] [] cs).map (Token.sign "(" :: ·) :=
    push_eq_map ..
  have hinputs (fuel : Nat) (cs : List Char) :
      scan (fuel + 1) false ['('] [] ("inputs".toList ++ ')' :: cs) =
        (scan fuel false ['('] [] (')' :: cs)).map (Token.word "inputs" :: ·) :=
    scan_word rfl rfl ..
  have hclose (fuel : Nat) (cs : List Char) :
      scan (fuel + 1) false ['('] [] (')' :: cs) =
        (scan fuel false [] [] cs).map (Token.sign ")" :: ·) :=
    push_eq_map ..
  have hcolon (fuel : Nat) (cs : List Char) :
      scan (fuel + 1) false [] [] (':' :: '\n' :: cs) =
        (scan fuel false [] [] ('\n' :: cs)).map (Token.sign ":" :: ·) :=
    push_eq_map ..
  have hend (fuel : Nat) (cs : List Char) :
      scan (fuel + 1) false [] [] ('\n' :: cs) =
        (scan fuel true [] [] cs).map (Token.newline :: ·) :=
    push_eq_map ..
  rw [hhead]
  change scan (fuel + 8 + 1) true [] [] ('d' :: _) = _
  rw [hline]
  change scan (fuel + 7 + 1) false [] [] ("def".toList ++ _) = _
  rw [hdef, hspace, hname, hopen, hinputs, hclose, hcolon, hend]
  simp only [Option.map_map]
  rfl

theorem splitOn_concat (cs : List Char) :
    (cs ++ ['\n']).splitOn '\n' = cs.splitOn '\n' ++ [[]] := by
  induction cs with
  | nil => rfl
  | cons c cs ih =>
    rw [List.cons_append, splitOn_cons, splitOn_cons, ih]
    split
    · rfl
    · obtain ⟨line, more, hcs⟩ := List.exists_cons_of_ne_nil (List.splitOn_ne_nil '\n' cs)
      rw [hcs]
      rfl

/-- The tokens of a wrapped snippet are those of the head and, unless the snippet is blank, of one
block up to the end. -/
theorem exists_of_tokens?_wrap {source : String} {ts : List Token}
    (h : tokens? (wrap source).toList = some ts) :
    ∃ more, ts = headTokens ++ more ∧
      (more = [] ∨ ∃ inner, more = .indent :: inner ∧ Ends 1 inner) := by
  have hindented : AllIndented (unifyLineEnds (indented (bodyText source))) :=
    isIndented_of_mem_physicalLines _
  have hcut : ∃ cs, withLastLineEnd (unifyLineEnds (wrap source).toList) = head.toList ++ cs ∧
      AllIndented cs := by
    rw [toList_wrap, unifyLineEnds_append (by decide +kernel), withLastLineEnd]
    split
    · exact ⟨_, rfl, hindented⟩
    · refine ⟨_, List.append_assoc .., fun line hline => ?_⟩
      rw [splitOn_concat] at hline
      rcases List.mem_append.1 hline with hline | hline
      · exact hindented line hline
      · exact allIndented_nil line hline
  obtain ⟨cs, heq, hcs⟩ := hcut
  have hfuel : ∃ fuel, 2 * (head.toList ++ cs).length + 2 = fuel + 9 := by
    have hlength : head.toList.length = 31 := by decide +kernel
    refine ⟨2 * cs.length + 55, ?_⟩
    rw [List.length_append, hlength]
    omega
  obtain ⟨fuel, hfuel⟩ := hfuel
  rw [tokens?, heq, hfuel, scan_head] at h
  obtain ⟨more, hmore, rfl⟩ := Option.map_eq_some_iff.1 h
  exact ⟨more, rfl, ends_scan_lines hcs hmore⟩

/-- The function around a snippet, with the statements of its body. -/
def flowFunction (body : List Node) : Node :=
  .named .functionDefinition ["__flow_function__"]
    (.of .parameters [.named .parameter ["inputs"]] :: body)

section Statements

variable {rules : Rules} {ts rest : List Token}

theorem run_statements_nil : (statements rules).run [] = none := rfl

/-- The head is followed by a block, and by nothing else. -/
theorem run_statements_head :
    (statements rules).run (headTokens ++ ts) =
      ((rules .block).run (.newline :: ts)).map fun (body, rest) =>
        ([flowFunction body], rest) := by
  have hsimple : (simpleStatements rules).run (headTokens ++ ts) = none := rfl
  have hcompound : (compoundStatement rules).run (headTokens ++ ts) = (do
      let body ← rules .block
      return .named .functionDefinition ["__flow_function__"]
        (.of .parameters [.named .parameter ["inputs"]] :: body ++ [] ++
          (none : Option Node).toList) : Parser Node).run (.newline :: ts) := rfl
  rw [statements, run_orElse, hsimple, StateT.run_bind, hcompound, StateT.run_bind]
  cases (rules .block).run (.newline :: ts) with
  | none => rfl
  | some result =>
    obtain ⟨body, rest⟩ := result
    change some ([_], rest) = some ([_], rest)
    rw [flowFunction, Option.toList_none, List.append_nil, List.append_nil]

/-- A block that ends with its text leaves nothing. -/
theorem rest_eq_nil_of_block [∀ r, IsBalanced (rules r)] {body : List Node} (hends : Ends 1 ts)
    (h : (block rules).run (.newline :: .indent :: ts) = some (body, rest)) : rest = [] := by
  have hblock : (block rules).run (.newline :: .indent :: ts) = (do
      let ns ← Parser.oneOrMore (statements rules)
      Parser.token .dedent
      return ns.flatten : Parser (List Node)).run ts := rfl
  rw [hblock] at h
  simp only [StateT.run_bind] at h
  obtain ⟨⟨ns, inside⟩, hinner, h⟩ := Option.bind_eq_some_iff.1 h
  obtain ⟨⟨_, closed⟩, hdedent, hafter⟩ := Option.bind_eq_some_iff.1 h
  obtain rfl := run_token.1 hdedent
  obtain ⟨front, rfl, hfront⟩ := IsBalanced.exists_front hinner
  have hclosed : closed = [] := ends_zero.1 (ends_dedent.1 (hends.of_balanced hfront))
  cases hafter
  exact hclosed

end Statements

/-- After the head comes the block of the function, and nothing after it. -/
theorem run_many_head {rules : Rules} {ts rest : List Token} {groups : List (List Node)}
    (h : (Parser.many (statements rules)).run (headTokens ++ ts) = some (groups, rest)) :
    rest = headTokens ++ ts ∨
      ∃ body after, (rules .block).run (.newline :: ts) = some (body, after) ∧
        (after = [] → groups = [[flowFunction body]]) := by
  have hlength : (headTokens ++ ts).length = ts.length + 6 + 1 := by
    rw [List.length_append]
    exact Nat.add_comm _ _
  rw [run_many, hlength] at h
  cases hblock : (rules .block).run (.newline :: ts) with
  | none =>
    have hnone : (statements rules).run (headTokens ++ ts) = none := by
      rw [run_statements_head, hblock]
      rfl
    rw [run_manyUpTo_of_none hnone] at h
    cases h
    exact Or.inl rfl
  | some result =>
    obtain ⟨body, after⟩ := result
    refine Or.inr ⟨body, after, rfl, ?_⟩
    rintro rfl
    have hsome : (statements rules).run (headTokens ++ ts) = some ([flowFunction body], []) := by
      rw [run_statements_head, hblock]
      rfl
    rw [run_manyUpTo_of_some hsome, run_manyUpTo_of_none run_statements_nil] at h
    cases h
    rfl

/-- The text around a snippet is one statement: the function. -/
theorem exists_of_parse?_wrap {source : String} {ns : List Node}
    (h : parse? (wrap source).toList = some ns) : ∃ body, ns = [flowFunction body] := by
  rw [parse?] at h
  split at h
  · cases h
  obtain ⟨ts, htokens, hread⟩ := Option.bind_eq_some_iff.1 h
  obtain ⟨⟨groups, rest⟩, hmany, hresult⟩ := Option.bind_eq_some_iff.1 hread
  obtain ⟨more, rfl, hmore⟩ := exists_of_tokens?_wrap htokens
  dsimp only at hresult
  split at hresult
  swap
  · cases hresult
  rename_i hrest
  obtain rfl := List.isEmpty_iff.1 hrest
  cases hresult
  obtain hnone | ⟨body, after, hblock, hgroups⟩ := run_many_head hmany
  · cases hnone
  have hafter : after = [] := by
    obtain rfl | ⟨inner, rfl, hends⟩ := hmore
    · cases hblock
    · exact rest_eq_nil_of_block hends hblock
  rw [hgroups hafter]
  exact ⟨body, rfl⟩

/-- A snippet stays inside of the function that is written around it. In every line after the
first four blanks stand in front of the first sign, so no sign is at the beginning of a line, and
a text that can be read is the function alone, so the check has all of it before it. -/
theorem wrap_encloses (source : String) :
    (∀ line ∈ (physicalLines (wrap source).toList).tail,
      IsIndented line ∧ ∀ c, line.head? = some c → Text.isBlank c = true) ∧
    ∀ ns, parse? (wrap source).toList = some ns →
      ∃ body, ns = [flowFunction body] ∧ tree? source = some (flowFunction body) := by
  refine ⟨fun line hline => ?_, fun ns hparse => ?_⟩
  · rw [physicalLines_wrap, List.tail_cons] at hline
    have hindented := isIndented_of_mem_physicalLines (bodyText source) line hline
    exact ⟨hindented, fun c => hindented.isBlank_head⟩
  · obtain ⟨body, rfl⟩ := exists_of_parse?_wrap hparse
    refine ⟨body, rfl, ?_⟩
    rw [tree?, hparse]
    rfl

/-- Statements with form feeds behind and in front of them. -/
private def feeds : String := "a = 1\x0c\nb = [a,\n2]\x0c\n\x0creturn b"

theorem wrap_encloses_feeds :
    (physicalLines (wrap feeds).toList).length = 5 ∧
      ∃ body, parse? (wrap feeds).toList = some [flowFunction body] := by
  refine ⟨by decide +kernel, ?_⟩
  have hparse : (parse? (wrap feeds).toList).isSome = true := by decide +kernel
  obtain ⟨ns, hns⟩ := Option.isSome_iff_exists.1 hparse
  obtain ⟨body, rfl, -⟩ := (wrap_encloses feeds).2 ns hns
  exact ⟨body, hns⟩

end CallFlow.Snippet
