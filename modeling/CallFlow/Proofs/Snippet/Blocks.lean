import CallFlow.Proofs.Snippet.Consumption
import CallFlow.Snippet.Grammar

namespace CallFlow.Snippet

open CallFlow.Snippet.Parser

set_option synthInstance.maxSize 2000

section Grammar

variable (rules : Rules) [∀ r, IsBalanced (rules r)]

instance isBalanced_quotedToken : IsBalanced quotedToken := by
  refine .take_bind rfl rfl fun t => ?_
  split <;> infer_instance

instance isBalanced_quotedTexts : IsBalanced (quotedTexts rules) := by
  unfold quotedTexts
  infer_instance

instance isBalanced_atNamed : IsBalanced atNamed := by
  unfold atNamed
  infer_instance

instance isBalanced_namedExpression : IsBalanced (namedExpression rules) := by
  unfold namedExpression
  infer_instance

instance isBalanced_listItem : IsBalanced (listItem rules) := by
  unfold listItem
  infer_instance

instance isBalanced_starTarget : IsBalanced (starTarget rules) := by
  unfold starTarget
  infer_instance

instance isBalanced_starTargets : IsBalanced (starTargets rules) := by
  unfold starTargets
  infer_instance

instance isBalanced_comprehensionClause : IsBalanced (comprehensionClause rules) := by
  unfold comprehensionClause
  infer_instance

instance isBalanced_comprehensionClauses : IsBalanced (comprehensionClauses rules) := by
  unfold comprehensionClauses
  infer_instance

instance isBalanced_atClauses : IsBalanced atClauses := by
  unfold atClauses
  infer_instance

instance isBalanced_moreItems (first : Node) : IsBalanced (moreItems rules first) := by
  unfold moreItems
  infer_instance

instance isBalanced_yieldExpression : IsBalanced (yieldExpression rules) := by
  unfold yieldExpression
  refine .bind fun _ => .bind fun _ => .ite inferInstance (.bind fun given => ?_)
  cases given <;> infer_instance

instance isBalanced_parenthesized : IsBalanced (parenthesized rules) := by
  unfold parenthesized
  infer_instance

instance isBalanced_bracketed : IsBalanced (bracketed rules) := by
  unfold bracketed
  infer_instance

instance isBalanced_dictionaryEntry : IsBalanced (dictionaryEntry rules) := by
  unfold dictionaryEntry
  infer_instance

instance isBalanced_dictionaryEntries (first : Option Node × Node) :
    IsBalanced (dictionaryEntries rules first) := by
  unfold dictionaryEntries
  infer_instance

instance isBalanced_setItems (first : Node) : IsBalanced (setItems rules first) := by
  unfold setItems
  infer_instance

instance isBalanced_braced : IsBalanced (braced rules) := by
  unfold braced
  infer_instance

instance isBalanced_argument : IsBalanced (argument rules) := by
  unfold argument
  infer_instance

instance isBalanced_moreArguments (first : Argument) : IsBalanced (moreArguments rules first) := by
  unfold moreArguments
  infer_instance

instance isBalanced_classArguments : IsBalanced (classArguments rules) := by
  unfold classArguments
  infer_instance

instance isBalanced_callArguments : IsBalanced (callArguments rules) := by
  unfold callArguments
  refine .bind fun _ => .ite inferInstance (.bind fun first => .bind fun _ => .ite ?_ inferInstance)
  cases first <;> infer_instance

instance isBalanced_sliceFrom (lower : List Node) : IsBalanced (sliceFrom rules lower) := by
  unfold sliceFrom
  infer_instance

instance isBalanced_slice : IsBalanced (slice rules) := by
  unfold slice
  infer_instance

instance isBalanced_subscript : IsBalanced (subscript rules) := by
  unfold subscript
  refine .bind fun items => .bind fun _ => ?_
  split <;> infer_instance

instance isBalanced_atom : IsBalanced (atom rules) := by
  unfold atom
  refine .bind fun next => ?_
  split
  · infer_instance
  · refine .take_bind rfl rfl fun t => ?_
    split <;> infer_instance

instance isBalanced_trailers (fuel : Nat) (n : Node) : IsBalanced (trailers rules fuel n) := by
  induction fuel generalizing n with
  | zero => exact isBalanced_pure n
  | succ fuel ih =>
    unfold trailers
    infer_instance

instance isBalanced_primary : IsBalanced (primary rules) := by
  unfold primary
  infer_instance

instance isBalanced_awaited : IsBalanced (awaited rules) := by
  unfold awaited
  infer_instance

instance isBalanced_power : IsBalanced (power rules) := by
  unfold power
  infer_instance

instance isBalanced_factor : IsBalanced (factor rules) := by
  unfold factor
  refine .bind fun given => ?_
  cases given <;> infer_instance

instance isBalanced_leftGrouped (operand : Parser Node) [IsBalanced operand]
    (operators : List String) : IsBalanced (leftGrouped operand operators) := by
  unfold leftGrouped
  infer_instance

instance isBalanced_bitwiseOr : IsBalanced (bitwiseOr rules) := by
  unfold bitwiseOr operatorLevels
  simp only [List.foldl]
  infer_instance

instance isBalanced_comparisonOperator : IsBalanced comparisonOperator := by
  unfold comparisonOperator
  infer_instance

instance isBalanced_comparison : IsBalanced (comparison rules) := by
  unfold comparison
  refine .bind fun first => .bind fun rest => ?_
  cases rest <;> infer_instance

instance isBalanced_inversion : IsBalanced (inversion rules) := by
  unfold inversion
  infer_instance

instance isBalanced_joined (word : String) (operand : Parser Node) [IsBalanced operand] :
    IsBalanced (joined word operand) := by
  unfold joined
  refine .bind fun first => .bind fun rest => ?_
  cases rest <;> infer_instance

instance isBalanced_disjunction : IsBalanced (disjunction rules) := by
  unfold disjunction
  infer_instance

instance isBalanced_annotation (annotated : Bool) : IsBalanced ( annotation rules annotated) := by
  unfold annotation
  infer_instance

instance isBalanced_restAnnotation (annotated : Bool) :
    IsBalanced ( restAnnotation rules annotated) := by
  unfold restAnnotation
  infer_instance

instance isBalanced_parameter (annotated : Bool) : IsBalanced (parameter rules annotated) := by
  unfold parameter
  infer_instance

instance isBalanced_parameters (annotated : Bool) (last : String) :
    IsBalanced (parameters rules annotated last) := by
  unfold parameters
  infer_instance

instance isBalanced_lambda : IsBalanced (lambda rules) := by
  unfold lambda
  infer_instance

instance isBalanced_expression : IsBalanced (expression rules) := by
  unfold expression
  infer_instance

instance isBalanced_starExpression : IsBalanced (starExpression rules) := by
  unfold starExpression
  infer_instance

instance isBalanced_starExpressions : IsBalanced (starExpressions rules) := by
  unfold starExpressions
  infer_instance

namespace Pattern

instance isBalanced_nameGoesOn : IsBalanced nameGoesOn := by
  unfold nameGoesOn
  infer_instance

instance isBalanced_capture : IsBalanced capture := by
  unfold capture
  infer_instance

instance isBalanced_captureOrWildcard : IsBalanced captureOrWildcard := by
  unfold captureOrWildcard
  infer_instance

instance isBalanced_number (imaginary : Option Bool) : IsBalanced (number imaginary) := by
  refine .take_bind rfl rfl fun t => ?_
  split <;> infer_instance

instance isBalanced_signedNumber (imaginary : Option Bool) :
    IsBalanced (signedNumber imaginary) := by
  unfold signedNumber
  infer_instance

instance isBalanced_anyNumber : IsBalanced anyNumber := by
  unfold anyNumber
  infer_instance

instance isBalanced_members (fuel : Nat) (n : Node) : IsBalanced (members fuel n) := by
  induction fuel generalizing n with
  | zero => exact isBalanced_pure n
  | succ fuel ih =>
    unfold members
    infer_instance

instance isBalanced_nameOrMember : IsBalanced nameOrMember := by
  unfold nameOrMember
  infer_instance

instance isBalanced_member : IsBalanced member := by
  unfold member
  infer_instance

instance isBalanced_keyValue : IsBalanced (keyValue rules) := by
  unfold keyValue
  refine .peek_bind inferInstance fun t => ?_
  cases t with
  | word w => exact isBalancedAt_ite ..
  | _ => infer_instance

instance isBalanced_starred : IsBalanced starred := by
  unfold starred
  infer_instance

instance isBalanced_item : IsBalanced (item rules) := by
  unfold item
  infer_instance

instance isBalanced_entry : IsBalanced (entry rules) := by
  unfold entry
  infer_instance

instance isBalanced_mapping : IsBalanced (mapping rules) := by
  unfold mapping
  infer_instance

instance isBalanced_argument : IsBalanced (argument rules) := by
  unfold argument
  infer_instance

instance isBalanced_ofClass (cls : Node) : IsBalanced (ofClass rules cls) := by
  unfold ofClass
  infer_instance

instance isBalanced_ofName : IsBalanced (ofName rules) := by
  unfold ofName
  refine .bind fun _ => .ite inferInstance (.bind fun n => .bind fun _ => .ite inferInstance ?_)
  refine .bind fun _ => .ite inferInstance ?_
  split <;> infer_instance

instance isBalanced_closed : IsBalanced (closed rules) := by
  unfold closed
  refine .peek_bind inferInstance fun t => ?_
  cases t with
  | word w => exact isBalancedAt_ite ..
  | sign s =>
    dsimp only
    split
    case h_2 =>
      refine @isBalancedAt_sign _ s _ (.bind fun _ => .ite inferInstance ?_)
      refine .bind fun items => .bind fun _ => ?_
      split <;> infer_instance
    all_goals infer_instance
  | _ => infer_instance

instance isBalanced_alternatives : IsBalanced (alternatives rules) := by
  unfold alternatives
  refine .bind fun ns => ?_
  split <;> infer_instance

instance isBalanced_pattern : IsBalanced (pattern rules) := by
  unfold pattern
  infer_instance

instance isBalanced_openPattern : IsBalanced (openPattern rules) := by
  unfold openPattern
  refine .bind fun items => ?_
  split <;> infer_instance

end Pattern

instance isBalanced_assignedValue : IsBalanced (assignedValue rules) := by
  unfold assignedValue
  infer_instance

instance isBalanced_assignment (fuel : Nat) (targets : List Node) :
    IsBalanced (assignment rules fuel targets) := by
  induction fuel generalizing targets with
  | zero => exact isBalanced_failure
  | succ fuel ih =>
    unfold assignment
    infer_instance

instance isBalanced_expressionStatement : IsBalanced (expressionStatement rules) := by
  unfold expressionStatement
  refine .bind fun first => .peek_bind inferInstance fun t => ?_
  cases t with
  | sign s =>
    dsimp only
    split <;> infer_instance
  | _ => infer_instance

instance isBalanced_dottedName : IsBalanced dottedName := by
  unfold dottedName
  infer_instance

instance isBalanced_importAlias (what : Parser String) [IsBalanced what] :
    IsBalanced (importAlias what) := by
  unfold importAlias
  infer_instance

instance isBalanced_importStatement : IsBalanced importStatement := by
  unfold importStatement
  infer_instance

instance isBalanced_importFrom : IsBalanced importFrom := by
  unfold importFrom
  infer_instance

instance isBalanced_deleteStatement : IsBalanced (deleteStatement rules) := by
  unfold deleteStatement
  infer_instance

instance isBalanced_raiseStatement : IsBalanced (raiseStatement rules) := by
  unfold raiseStatement
  refine .bind fun _ => .bind fun given => ?_
  cases given <;> infer_instance

instance isBalanced_simpleStatement : IsBalanced (simpleStatement rules) := by
  unfold simpleStatement
  refine .peek_bind inferInstance fun t => ?_
  cases t with
  | word w => split <;> infer_instance
  | _ => infer_instance

instance isBalanced_simpleStatements : IsBalanced (simpleStatements rules) := by
  unfold simpleStatements
  infer_instance

instance isBalanced_colonBlock : IsBalanced (colonBlock rules) := by
  unfold colonBlock
  infer_instance

instance isBalanced_optionalBlock (word : String) : IsBalanced (optionalBlock rules word) := by
  unfold optionalBlock
  infer_instance

instance isBalanced_ifStatement : IsBalanced (ifStatement rules) := by
  unfold ifStatement
  infer_instance

instance isBalanced_whileLoop : IsBalanced (whileLoop rules) := by
  unfold whileLoop
  infer_instance

instance isBalanced_forLoop : IsBalanced (forLoop rules) := by
  unfold forLoop
  infer_instance

instance isBalanced_handler (starred : Bool) : IsBalanced (handler rules starred) := by
  unfold handler
  infer_instance

instance isBalanced_tryStatement : IsBalanced (tryStatement rules) := by
  unfold tryStatement
  infer_instance

instance isBalanced_withItem : IsBalanced (withItem rules) := by
  unfold withItem
  infer_instance

instance isBalanced_withStatement : IsBalanced (withStatement rules) := by
  unfold withStatement
  infer_instance

instance isBalanced_functionDefinition (decorators : List Node) :
    IsBalanced (functionDefinition rules decorators) := by
  unfold functionDefinition
  infer_instance

instance isBalanced_classDefinition (decorators : List Node) :
    IsBalanced (classDefinition rules decorators) := by
  unfold classDefinition
  infer_instance

instance isBalanced_decorated : IsBalanced (decorated rules) := by
  unfold decorated
  refine .bind fun decorators => .take_bind rfl rfl fun t => ?_
  split <;> infer_instance

instance isBalanced_matchCase : IsBalanced (matchCase rules) := by
  unfold matchCase
  infer_instance

instance isBalanced_matchStatement : IsBalanced (matchStatement rules) := by
  unfold matchStatement
  infer_instance

instance isBalanced_compoundStatement : IsBalanced (compoundStatement rules) := by
  unfold compoundStatement
  refine .peek_bind inferInstance fun t => ?_
  split
  case h_10 heq =>
    cases heq
    refine @isBalancedAt_word _ _ _ (.take_bind rfl rfl fun t => ?_)
    split <;> infer_instance
  case h_11 => infer_instance
  all_goals
    rename_i heq
    cases heq
    infer_instance

instance isBalanced_statements : IsBalanced (statements rules) := by
  unfold statements
  infer_instance

instance isBalanced_block : IsBalanced (block rules) := by
  unfold block
  have : IsBalanced (accept .newline) := .accept nofun nofun
  infer_instance

/-- Every rule takes as many dedents as indents. -/
theorem isBalanced_ruleParser (r : Rule) : IsBalanced (ruleParser rules r) := by
  cases r <;> unfold ruleParser <;> infer_instance

end Grammar

instance isBalanced_grammar (depth : Nat) (r : Rule) : IsBalanced (grammar depth r) := by
  induction depth generalizing r with
  | zero => exact isBalanced_failure
  | succ depth ih => exact isBalanced_ruleParser (grammar depth) r

end CallFlow.Snippet
