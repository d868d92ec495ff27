import CallFlow.Number
import CallFlow.Template
import CallFlow.Text.Case
import CallFlow.Text.Search

namespace CallFlow

/-- The name under which a condition and the templates in it see what the caller said last. -/
def userInputName : String := "user_input"

/-- How the two sides of an equation are compared. -/
inductive Operator where
  | equal
  | notEqual
  | greaterOrEqual
  | lessOrEqual
  | greater
  | less
  | contains
  | notContains
  deriving Repr, DecidableEq

/-- What an equation asks: that two sides compare, or that a variable is bound or not bound. -/
inductive Condition where
  /-- A value is present. -/
  | present (name : String)
  /-- A value is absent. -/
  | absent (name : String)
  | compare (name : String) (operator : Operator) (operand : String)
  /-- A comparison whose operator is recognised but means nothing; it never holds. -/
  | meaningless
  /-- A template that holds when it renders to `true`. -/
  | template (text : String)
  deriving Repr, DecidableEq

namespace Condition

/-- Whether a character reads as a lower case letter of a word of the grammar. -/
def matchesLetter (letter c : Char) : Bool :=
  c.toLower = letter
    || (letter = 's' && c = 'ſ')
    || (letter = 'i' && (c = 'ı' || c = 'İ'))

/-- The characters that a word of the grammar is read from, and the characters after it. -/
def word? : List Char → List Char → Option (List Char × List Char)
  | [], cs => some ([], cs)
  | letter :: letters, c :: cs =>
    if matchesLetter letter c then
      (word? letters cs).map fun (read, rest) => (c :: read, rest)
    else none
  | _ :: _, [] => none

/-- The characters after at least one blank. -/
def blanks? : List Char → Option (List Char)
  | [] => none
  | c :: cs => if Text.isBlank c then some (Text.trimFront cs) else none

/-- Two words with blanks between them. -/
def words? (first second : List Char) (cs : List Char) : Option (List Char × List Char) := do
  let (a, rest) ← word? first cs
  let rest ← blanks? rest
  let (b, rest) ← word? second rest
  some (a ++ b, rest)

/-- Whether the word read is spelled in ASCII letters. The case of other letters does not lead
back to the words of the grammar. -/
def isPlain (read : List Char) : Bool := read.all fun c => c.toNat < 128

/-- The presence test after a name, which takes up all of the characters. Only a plainly spelled
`exists` asks for presence; every other reading asks for absence. -/
def parsePresence? (name : String) (cs : List Char) : Option Condition := do
  let rest ← blanks? cs
  match word? "exists".toList rest with
  | some (read, []) => some (if isPlain read then .present name else .absent name)
  | _ =>
    match words? "not".toList "exists".toList rest with
    | some (_, []) => some (.absent name)
    | _ => none

/-- Reads an operator. -/
abbrev OperatorReader := List Char → Option (Option Operator × List Char)

/-- An operator made of signs. -/
def sign (signs : String) (operator : Operator) : OperatorReader := fun cs =>
  if signs.toList.isPrefixOf cs then some (some operator, cs.drop signs.length) else none

/-- An operator that is named once its letters are in upper case, which the dotted capital i
does not become. -/
def named (operator : Operator) (read : List Char) : Option Operator :=
  if read.contains 'İ' then none else some operator

/-- The operators in the order in which they are tried: a longer one before its beginning. -/
def operatorReaders : List OperatorReader :=
  [sign "==" .equal, sign "!=" .notEqual, sign ">=" .greaterOrEqual, sign "<=" .lessOrEqual,
   sign ">" .greater, sign "<" .less,
   fun cs => (words? "not".toList "contains".toList cs).map fun (read, rest) =>
     (named .notContains read, rest),
   fun cs => (word? "contains".toList cs).map fun (read, rest) => (named .contains read, rest)]

/-- The operand after an operator: the rest of the line, not empty, with no line after it. -/
def operand? (cs : List Char) : Option (List Char) :=
  match Text.trimFront cs with
  | [] => none
  | rest => if rest.contains '\n' then none else some rest

/-- A text without the pair of equal quotes around it. -/
def unquote (cs : List Char) : List Char :=
  match cs with
  | q :: c :: rest =>
    if (q = '"' || q = '\'') && (c :: rest).getLast? = some q then (c :: rest).dropLast else cs
  | _ => cs

/-- The comparison after a name. -/
def parseComparison? (name : String) (cs : List Char) : Option Condition :=
  let rest := Text.trimFront cs
  operatorReaders.findSome? fun reader => do
    let (operator, rest) ← reader rest
    let operand ← operand? rest
    match operator with
    | some o => some (.compare name o (String.ofList (unquote (Text.trim operand))))
    | none => some .meaningless

/-- The condition that a text states. -/
def parse (text : String) : Condition :=
  let cs := Text.trim text.toList
  let structured := do
    let (name, rest) ← Template.placeholder? cs
    let name := String.ofList name
    parsePresence? name rest <|> parseComparison? name rest
  structured.getD (.template (String.ofList cs))

/-- The text that a value is compared by, none when it can not be shown. -/
def folded (v : Value) : Option String := v.display.map foldText

/-- A comparison of two values by their texts. -/
def compareTexts (a b : Value) (holds : String → String → Bool) : Option Bool := do
  let s ← folded a
  let t ← folded b
  return holds s t

/-- A comparison of two values as numbers, none when a number is too large to compare with. -/
def compareNumbers (a b : Value) (holds : Float → Float → Bool) : Option Bool := do
  let x ← a.toNumber?
  let y ← b.toNumber?
  return holds x y

end Condition

open Condition in
/-- The verdict of an operator on two values, none when one of them can not be turned into what it
compares. -/
def Operator.verdict (o : Operator) (a b : Value) : Option Bool :=
  match o with
  | .equal => compareTexts a b (· == ·)
  | .notEqual => compareTexts a b (· != ·)
  | .greater => compareNumbers a b (· > ·)
  | .greaterOrEqual => compareNumbers a b (· ≥ ·)
  | .less => compareNumbers a b (· < ·)
  | .lessOrEqual => compareNumbers a b (· ≤ ·)
  | .contains => compareTexts a b fun s t => Text.occursIn t.toList s.toList
  | .notContains => compareTexts a b fun s t => !Text.occursIn t.toList s.toList

namespace Condition

/-- Whether a condition holds among bindings, none when a value can not be turned into what it
asks for. -/
def verdict (scope : Bindings) : Condition → Option Bool
  | .present name => some (scope.getD name).isPresent
  | .absent name => some !(scope.getD name).isPresent
  | .compare name o operand => do
    let text ← Template.render operand scope
    o.verdict (scope.getD name) (.text text)
  | .meaningless => some false
  | .template text =>
    (Template.render text scope).map fun s => lowerAscii (trimText s) == "true"

/-- Whether the condition stated by a text holds among bindings, given what the caller said. A
condition that nothing can be said about does not hold. -/
def evaluate (text : String) (bindings : Bindings) (userInput : String) : Bool :=
  ((parse text).verdict (bindings.set userInputName (.text userInput))).getD false

end Condition

end CallFlow
