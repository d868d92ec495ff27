import CallFlow.Snippet.Token
import CallFlow.Snippet.Tree

namespace CallFlow.Snippet

/-- A parser over the tokens of a snippet takes tokens from the front or fails; `<|>` tries a second
one from the same place. -/
abbrev Parser := StateT (List Token) Option

/-- The rules that the grammar comes back to, as it is recursive. -/
inductive Rule where
  | expression
  | disjunction
  | inversion
  | bitwiseOr
  | factor
  | primary
  | namedExpression
  | starExpressions
  | block
  | elseIf
  | pattern
  | openPattern
  deriving Repr, DecidableEq

/-- A parser for each rule, which gives nodes. The parsers of the grammar take one as an argument,
which is tied into a knot at the end. -/
abbrev Rules := Rule → Parser (List Node)

/-- The one node of a rule. -/
def Rules.one (rules : Rules) (r : Rule) : Parser Node := do
  match ← rules r with
  | [n] => return n
  | _ => failure

namespace Parser

variable {α : Type}

/-- The next token, which stays. -/
def peek : Parser (Option Token) := return (← get).head?

/-- The token after the next, which stays too. -/
def peekSecond : Parser (Option Token) := return (← get)[1]?

/-- Takes a token. -/
def take : Parser Token := do
  match ← get with
  | t :: rest => do
    set rest
    return t
  | [] => failure

/-- Takes a given token. -/
def token (t : Token) : Parser Unit := do
  if (← take) = t then return () else failure

/-- Takes a given token if it is there, and says so. -/
def accept (t : Token) : Parser Bool := do
  if (← peek) = some t then do
    discard take
    return true
  else return false

/-- Takes a sign. -/
def sign (s : String) : Parser Unit := token (.sign s)

/-- Takes a sign if it is there, and says so. -/
def acceptSign (s : String) : Parser Bool := accept (.sign s)

/-- Takes a keyword. -/
def keyword (w : String) : Parser Unit := token (.word w)

/-- Takes a keyword if it is there, and says so. -/
def acceptKeyword (w : String) : Parser Bool := accept (.word w)

/-- Whether a given sign is next. -/
def atSign (s : String) : Parser Bool := return (← peek) = some (.sign s)

/-- Whether a given keyword is next. -/
def atKeyword (w : String) : Parser Bool := return (← peek) = some (.word w)

/-- Takes one of several signs. -/
def oneOf (signs : List String) : Parser Unit := do
  match ← take with
  | .sign s => if signs.contains s then return () else failure
  | _ => failure

/-- Takes a name. -/
def name : Parser String := do
  match ← take with
  | .word w => if Token.keywords.contains w then failure else return w
  | .name w => return w
  | _ => failure

/-- Whether a token is a name. -/
def isName : Option Token → Bool
  | some (.word w) => !Token.keywords.contains w
  | some (.name _) => true
  | _ => false

/-- Tries a parser. -/
def optional? (p : Parser α) : Parser (Option α) := (some <$> p) <|> pure none

/-- The results of a parser, taken as often as it succeeds, so many times at most. -/
def manyUpTo : Nat → Parser α → Parser (List α)
  | 0, _ => return []
  | n + 1, p => do
    match ← optional? p with
    | some a => return a :: (← manyUpTo n p)
    | none => return []

/-- The results of a parser that takes some token, as often as it succeeds. -/
def many (p : Parser α) : Parser (List α) := do manyUpTo (← get).length p

/-- One result and more. -/
def oneOrMore (p : Parser α) : Parser (List α) := do return (← p) :: (← many p)

/-- Results with a sign between them. -/
def separated (s : String) (p : Parser α) : Parser (List α) := do
  return (← p) :: (← many (do sign s; p))

/-- Results with commas between them, and whether the last comma has nothing after it. -/
def commaList (p : Parser α) : Parser (List α × Bool) := do
  let items ← separated "," p
  return (items, ← acceptSign ",")

/-- The nodes of a rule if a test succeeds. -/
def whenTaken (taken : Parser Bool) (p : Parser α) : Parser (Option α) := do
  if ← taken then return some (← p) else return none

end Parser

end CallFlow.Snippet
