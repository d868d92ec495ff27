import CallFlow.Snippet.Expression

namespace CallFlow.Snippet.Pattern

open CallFlow.Snippet.Parser

/-- Whether the next token rules out that the name before it stands alone. -/
def nameGoesOn : Parser Bool := do
  return (← atSign ".") || (← atSign "(") || (← atSign "=")

/-- Takes a name to bind. -/
def capture : Parser String := do
  let n ← name
  if n = "_" || (← nameGoesOn) then failure else return n

/-- Takes a name to bind, or the mark for none. -/
def captureOrWildcard : Parser (List String) := do
  let n ← name
  if ← nameGoesOn then failure else return if n = "_" then [] else [n]

/-- Takes a number. -/
def number (imaginary : Option Bool) : Parser Node := do
  match ← take with
  | .number i => if imaginary.all (· = i) then return .of .constant else failure
  | _ => failure

/-- Takes a number with or without a minus. -/
def signedNumber (imaginary : Option Bool) : Parser Node := do
  if ← acceptSign "-" then return .of .unaryOperation [← number imaginary]
  else number imaginary

/-- Takes a number: a real one, an imaginary one, or the sum or difference of such. -/
def anyNumber : Parser Node :=
  (do
    let real ← signedNumber (some false)
    oneOf ["+", "-"]
    return .of .binaryOperation [real, ← number (some true)])
  <|> do
    let n ← signedNumber none
    if (← atSign "+") || (← atSign "-") then failure else return n

/-- Members after a value, so many at most. -/
def members : (fuel : Nat) → Node → Parser Node
  | 0, n => return n
  | fuel + 1, n => do
    if ← acceptSign "." then members fuel (.named .member [← name] [n]) else return n

/-- A name, or a member of one. -/
def nameOrMember : Parser Node := do
  let n ← name
  members (← get).length (.named .name [n])

/-- A member of something, which stands for its value. -/
def member : Parser Node := do
  let n ← nameOrMember
  if n.kind = .name || (← nameGoesOn) then failure else return n

/-- A value that a key can be. -/
def keyValue (rules : Rules) : Parser Node := do
  match ← peek with
  | some (.quoted _ _) => quotedTexts rules
  | some (.word w) =>
    if constantWords.contains w then do
      discard take
      return .of .constant
    else member
  | some (.name _) => member
  | _ => anyNumber

/-- A starred pattern. -/
def starred : Parser Node := do
  sign "*"
  return .named .starPattern (← captureOrWildcard)

/-- A pattern in a sequence. -/
def item (rules : Rules) : Parser Node := starred <|> rules.one .pattern

/-- The pairs of a mapping pattern, and what the rest is bound to. -/
def entry (rules : Rules) : Parser (Node × Node) := do
  let key ← keyValue rules
  sign ":"
  return (key, ← rules.one .pattern)

/-- After an opening brace: a mapping. -/
def mapping (rules : Rules) : Parser Node := do
  let rest : Parser String := do
    sign "**"
    capture
  if ← acceptSign "\x7d" then return .of .mappingPattern
  let entries ← optional? (separated "," (entry rules))
  let entries := entries.getD []
  let rest ←
    if entries.isEmpty then some <$> rest else optional? (do sign ","; rest)
  discard (acceptSign ",")
  sign "\x7d"
  return .named .mappingPattern rest.toList (entries.map Prod.fst ++ entries.map Prod.snd)

/-- An argument of a class pattern. -/
def argument (rules : Rules) : Parser (Option String × Node) := do
  if isName (← peek) && (← peekSecond) = some (.sign "=") then do
    let key ← name
    sign "="
    return (some key, ← rules.one .pattern)
  else return (none, ← rules.one .pattern)

/-- After a class and an opening parenthesis: a class pattern. -/
def ofClass (rules : Rules) (cls : Node) : Parser Node := do
  if ← acceptSign ")" then return .of .classPattern [cls]
  let (args, _) ← commaList (argument rules)
  sign ")"
  let keyed := args.dropWhile fun a => a.1.isNone
  -- After arguments by position a lone underscore is one of them, so no sign can follow it.
  let ambiguous := keyed.length < args.length && keyed.head?.any fun a => a.1 = some "_"
  if !ambiguous && keyed.all fun a => a.1.isSome then
    return .named .classPattern (args.filterMap Prod.fst) (cls :: args.map Prod.snd)
  else failure

/-- Patterns with commas between them; a lone one without a comma as itself, unless it is
starred. -/
def sequence (items : List Node × Bool) : Option Node :=
  match items with
  | ([n], false) => if n.kind = .starPattern then none else some n
  | (ns, _) => some (.of .sequencePattern ns)

/-- A pattern that begins with a name. An underscore is no name here. -/
def ofName (rules : Rules) : Parser Node := do
  if ← acceptKeyword "_" then return .of .asPattern
  let n ← nameOrMember
  if ← acceptSign "(" then ofClass rules n
  else if ← atSign "=" then failure
  else match n with
    | .mk .name [w] _ _ => return .named .asPattern [w]
    | _ => return .of .valuePattern [n]

/-- A pattern without alternatives. -/
def closed (rules : Rules) : Parser Node := do
  match ← peek with
  | some (.quoted _ _) => return .of .valuePattern [← quotedTexts rules]
  | some (.sign "(") => do
    discard take
    if ← acceptSign ")" then return .of .sequencePattern
    let items ← commaList (item rules)
    sign ")"
    match sequence items with
    | some n => return n
    | none => failure
  | some (.sign "[") => do
    discard take
    if ← acceptSign "]" then return .of .sequencePattern
    let (items, _) ← commaList (item rules)
    sign "]"
    return .of .sequencePattern items
  | some (.sign "\x7b") => do
    discard take
    mapping rules
  | some (.word w) =>
    if constantWords.contains w then do
      discard take
      return .of .singletonPattern
    else ofName rules
  | some (.name _) => ofName rules
  | _ => return .of .valuePattern [← anyNumber]

/-- Alternatives. -/
def alternatives (rules : Rules) : Parser Node := do
  match ← separated "|" (closed rules) with
  | [n] => return n
  | ns => return .of .orPattern ns

/-- A pattern, perhaps with a name for what it matches. -/
def pattern (rules : Rules) : Parser Node := do
  let n ← alternatives rules
  if ← acceptKeyword "as" then return .named .asPattern [← capture] [n] else return n

/-- The pattern of a case: a pattern, or several with commas. -/
def openPattern (rules : Rules) : Parser Node := do
  match sequence (← commaList (item rules)) with
  | some n => return n
  | none => failure

end CallFlow.Snippet.Pattern
