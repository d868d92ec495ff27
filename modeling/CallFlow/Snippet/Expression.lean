import CallFlow.Snippet.Lexer
import CallFlow.Snippet.Parser
import CallFlow.Snippet.Quoted

namespace CallFlow.Snippet

open CallFlow.Snippet.Parser

namespace Interpolation

/-- A piece of a quoted text. -/
inductive Piece where
  | text (s : String)
  | node (n : Node)

/-- The literal characters up to the next brace, and the rest. The name of a named character
stands in braces that do not count. -/
def literal (raw : Bool) : (fuel : Nat) → List Char → List Char × List Char
  | fuel + 1, '\\' :: 'N' :: '{' :: cs =>
    if raw then
      let (out, rest) := literal raw fuel ('{' :: cs)
      ('\\' :: 'N' :: out, rest)
    else
      let inside := cs.takeWhile (· ≠ '}')
      let after := cs.drop inside.length
      let (out, rest) := literal raw fuel (after.drop 1)
      ('\\' :: 'N' :: '{' :: inside ++ after.take 1 ++ out, rest)
  | fuel + 1, '\\' :: c :: cs =>
    if raw || c = '{' || c = '}' then
      let (out, rest) := literal raw fuel (c :: cs)
      ('\\' :: out, rest)
    else
      let (out, rest) := literal raw fuel cs
      ('\\' :: c :: out, rest)
  | fuel + 1, c :: cs =>
    if c = '{' || c = '}' then ([], c :: cs)
    else
      let (out, rest) := literal raw fuel cs
      (c :: out, rest)
  | _, cs => ([], cs)

/-- The characters of an expression up to the sign that ends it, and the rest. `quote` is the
quote around the place, `brackets` are those around it, the innermost first. -/
def expressionText (quote : List Char) (brackets : List Char) :
    (fuel : Nat) → List Char → Option (List Char × List Char)
  | 0, _ => none
  | _ + 1, [] => none
  | fuel + 1, c :: cs =>
    let goOn (quote brackets : List Char) (taken rest : List Char) :=
      (expressionText quote brackets fuel rest).map fun (out, rest) => (taken ++ out, rest)
    if c = '\\' then none
    else if !quote.isEmpty then
      if quote.isPrefixOf (c :: cs) then goOn [] brackets quote (cs.drop (quote.length - 1))
      else goOn quote brackets [c] cs
    else if c = '\'' || c = '"' then
      if cs.take 2 = [c, c] then goOn [c, c, c] brackets [c, c, c] (cs.drop 2)
      else goOn [c] brackets [c] cs
    else if c = '#' then none
    else if c = '(' || c = '[' || c = '{' then goOn [] (c :: brackets) [c] cs
    else if brackets.isEmpty then
      if (c = '!' || c = '=' || c = '<' || c = '>') && cs.head? = some '=' then
        goOn [] [] [c, '='] (cs.drop 1)
      else if c = '!' || c = ':' || c = '=' || c = '}' then some ([], c :: cs)
      else if c = ')' || c = ']' then none
      else goOn [] [] [c] cs
    else if c = ')' || c = ']' || c = '}' then
      match brackets with
      | o :: outer => if Lexer.closing o = c then goOn [] outer [c] cs else none
      | [] => none
    else goOn [] brackets [c] cs

/-- Whether a character is a blank inside of an expression. -/
def isInnerBlank (c : Char) : Bool := c = ' ' || c = '\t' || c = '\n' || c = '\x0c'

/-- Whether a character is an ASCII blank. -/
def isAsciiBlank (c : Char) : Bool := isInnerBlank c || c = '\r' || c = '\x0b'

/-- The node of the expression that characters hold. -/
def expression (rules : Rules) (cs : List Char) : Option Node := do
  if cs.all isInnerBlank then none
  else
    let ts ← tokens? ('(' :: cs ++ [')'])
    let (nodes, rest) ← (rules .starExpressions).run ts
    match nodes, rest with
    | [n], [.newline] => some n
    | _, _ => none

/-- Pieces with neighbouring texts joined and empty ones left out, as nodes. -/
def nodes : List Piece → List Node
  | [] => []
  | .node n :: rest => n :: nodes rest
  | .text s :: rest =>
    match nodes rest with
    | .mk .constant is (some t) cs :: more => .mk .constant is (some (s ++ t)) cs :: more
    | more => if s = "" then more else .mk .constant [] (some s) [] :: more

mutual

/-- The pieces of a text. At level zero the text goes on to its end and doubled braces stand for
single ones; at the levels below, the format of an expression, it ends before a closing brace. -/
def pieces (rules : Rules) (raw : Bool) (level : Nat) :
    (fuel : Nat) → List Char → Option (List Piece × List Char)
  | 0, _ => none
  | _ + 1, [] => some ([], [])
  | fuel + 1, c :: cs =>
    if c = '}' then
      if level > 0 then some ([], c :: cs)
      else if cs.head? = some '}' then
        (pieces rules raw level fuel (cs.drop 1)).map fun (ps, rest) => (.text "\x7d" :: ps, rest)
      else none
    else if c = '{' then
      if level = 0 && cs.head? = some '{' then
        (pieces rules raw level fuel (cs.drop 1)).map fun (ps, rest) => (.text "\x7b" :: ps, rest)
      else do
        let (first, rest) ← replacement rules raw level fuel cs
        let (ps, rest) ← pieces rules raw level fuel rest
        return (first ++ ps, rest)
    else do
      let (body, rest) := literal raw (cs.length + 1) (c :: cs)
      let text ← Quoted.decode false raw body
      let (ps, rest) ← pieces rules raw level fuel rest
      return (.text text :: ps, rest)

/-- The pieces of an expression whose opening brace was read: the text of one that shows itself,
and its node. -/
def replacement (rules : Rules) (raw : Bool) (level : Nat) :
    (fuel : Nat) → List Char → Option (List Piece × List Char)
  | 0, _ => none
  | fuel + 1, cs => do
    if level ≥ 2 then none
    else
      let (source, rest) ← expressionText [] [] (cs.length + 1) cs
      let value ← expression rules source
      let (shown, rest) : List Char × List Char :=
        match rest with
        | '=' :: after =>
          let blanks := after.takeWhile isAsciiBlank
          (source ++ '=' :: blanks, after.drop blanks.length)
        | _ => ([], rest)
      let rest ←
        match rest with
        | '!' :: c :: after => if c = 's' || c = 'r' || c = 'a' then some after else none
        | '!' :: [] => none
        | _ => some rest
      let (format, rest) ←
        match rest with
        | ':' :: after =>
          (pieces rules raw (level + 1) fuel after).map fun (ps, rest) =>
            ([Node.of .interpolated (nodes ps)], rest)
        | _ => some ([], rest)
      match rest with
      | '}' :: rest =>
        some ([.text (String.ofList shown), .node (.of .formatted (value :: format))], rest)
      | _ => none

end

/-- The pieces of a quoted text. -/
def ofQuoted (rules : Rules) (q : Quoting) (body : List Char) : Option (List Piece) :=
  if q.interpolated then
    match pieces rules q.raw 0 (2 * body.length + 2) body with
    | some (ps, []) => some ps
    | _ => none
  else (Quoted.decode q.bytes q.raw body).map fun s => [.text s]

end Interpolation

/-- Takes a quoted text. -/
def quotedToken : Parser (Quoting × List Char) := do
  match ← take with
  | .quoted q body => return (q, body)
  | _ => failure

/-- Quoted texts side by side are one. Bytes do not mix with characters. -/
def quotedTexts (rules : Rules) : Parser Node := do
  let parts ← oneOrMore quotedToken
  let bytes := parts.any fun p => p.1.bytes
  if bytes && !parts.all fun p => p.1.bytes then failure
  let pieces ← (parts.mapM fun (q, body) => Interpolation.ofQuoted rules q body : Option _)
  let pieces := pieces.flatten
  if parts.any fun p => p.1.interpolated then
    return .of .interpolated (Interpolation.nodes pieces)
  else if bytes then return .of .constant
  else
    let texts := pieces.filterMap fun | .text s => some s | .node _ => none
    return .mk .constant [] (some (String.join texts)) []

/-- Whether the name of a new variable and the sign before its value are next. -/
def atNamed : Parser Bool := return isName (← peek) && (← peekSecond) = some (.sign ":=")

/-- An expression, or the name of a new variable with its value. -/
def namedExpression (rules : Rules) : Parser Node := do
  if ← atNamed then do
    let target ← name
    sign ":="
    let value ← rules.one .expression
    return .of .namedExpression [.named .name [target], value]
  else rules.one .expression

/-- What can stand in a list: a named expression, or a starred one. -/
def listItem (rules : Rules) : Parser Node := do
  if ← acceptSign "*" then return .of .starred [← rules.one .bitwiseOr]
  else namedExpression rules

/-- The kinds that a value can be given to. -/
def isTarget : Node → Bool
  | .mk .name _ _ _ | .mk .member _ _ _ | .mk .subscript _ _ _ => true
  | _ => false

mutual

/-- Whether values can be given to a node, and to its parts when it is a list. -/
def isTargets : Node → Bool
  | .mk .name _ _ _ | .mk .member _ _ _ | .mk .subscript _ _ _ => true
  | .mk .starred _ _ parts | .mk .tuple _ _ parts | .mk .list _ _ parts => areTargets parts
  | _ => false

/-- Whether values can be given to all nodes. -/
def areTargets : List Node → Bool
  | [] => true
  | n :: rest => isTargets n && areTargets rest

end

mutual

/-- Whether a node can be deleted, and its parts when it is a list. -/
def isDeletable : Node → Bool
  | .mk .name _ _ _ | .mk .member _ _ _ | .mk .subscript _ _ _ => true
  | .mk .tuple _ _ parts | .mk .list _ _ parts => areDeletable parts
  | _ => false

/-- Whether all nodes can be deleted. -/
def areDeletable : List Node → Bool
  | [] => true
  | n :: rest => isDeletable n && areDeletable rest

end

/-- Items with commas as a tuple; one without a comma as itself. -/
def tupleOf (items : List Node × Bool) : Node :=
  match items with
  | ([n], false) => n
  | (ns, _) => .of .tuple ns

/-- A single target, perhaps starred. -/
def starTarget (rules : Rules) : Parser Node := do
  let n ← if ← acceptSign "*" then do pure (.of .starred [← rules.one .bitwiseOr])
    else rules.one .bitwiseOr
  if isTargets n then return n else failure

/-- The targets of a loop. -/
def starTargets (rules : Rules) : Parser Node := do
  return tupleOf (← commaList (starTarget rules))

/-- One clause of a comprehension. -/
def comprehensionClause (rules : Rules) : Parser Node := do
  discard (acceptKeyword "async")
  keyword "for"
  let target ← starTargets rules
  keyword "in"
  let source ← rules.one .disjunction
  let tests ← many (do keyword "if"; rules.one .disjunction)
  return .of .comprehension (target :: source :: tests)

/-- The clauses of a comprehension. -/
def comprehensionClauses (rules : Rules) : Parser (List Node) :=
  oneOrMore (comprehensionClause rules)

/-- Whether the clauses of a comprehension begin here. -/
def atClauses : Parser Bool := do
  return (← atKeyword "for") ||
    ((← atKeyword "async") && (← peekSecond) = some (.word "for"))

/-- Whether a node is starred. -/
def isStarred (n : Node) : Bool := n.kind = .starred

/-- More items after the first, if a comma is next. -/
def moreItems (rules : Rules) (first : Node) : Parser (List Node × Bool) := do
  let rest ← many (do sign ","; listItem rules)
  return (first :: rest, ← acceptSign ",")

/-- What a `yield` gives. -/
def yieldExpression (rules : Rules) : Parser Node := do
  keyword "yield"
  if ← acceptKeyword "from" then return .of .yieldFrom [← rules.one .expression]
  else
    match ← optional? (rules.one .starExpressions) with
    | some n => return .of .yield [n]
    | none => return .of .yield

/-- After an opening parenthesis: a tuple, a generator, or a group. -/
def parenthesized (rules : Rules) : Parser Node := do
  if ← acceptSign ")" then return .of .tuple
  if ← atKeyword "yield" then do
    let n ← yieldExpression rules
    sign ")"
    return n
  let first ← listItem rules
  if ← atClauses then do
    if isStarred first then failure
    let clauses ← comprehensionClauses rules
    sign ")"
    return .of .generator (first :: clauses)
  let items ← moreItems rules first
  sign ")"
  if isStarred first && items.1.length = 1 && !items.2 then failure
  return tupleOf items

/-- After an opening bracket: a list or a comprehension. -/
def bracketed (rules : Rules) : Parser Node := do
  if ← acceptSign "]" then return .of .list
  let first ← listItem rules
  if ← atClauses then do
    if isStarred first then failure
    let clauses ← comprehensionClauses rules
    sign "]"
    return .of .listComprehension (first :: clauses)
  let (items, _) ← moreItems rules first
  sign "]"
  return .of .list items

/-- An entry of a dictionary: a key and a value, or a whole dictionary. -/
def dictionaryEntry (rules : Rules) : Parser (Option Node × Node) := do
  if ← acceptSign "**" then return (none, ← rules.one .bitwiseOr)
  let key ← rules.one .expression
  sign ":"
  return (some key, ← rules.one .expression)

/-- More entries of a dictionary after the first. -/
def dictionaryEntries (rules : Rules) (first : Option Node × Node) : Parser Node := do
  let rest ← many (do sign ","; dictionaryEntry rules)
  discard (acceptSign ",")
  sign "\x7d"
  let entries := first :: rest
  return .of .dictionary (entries.filterMap Prod.fst ++ entries.map Prod.snd)

/-- More items of a set after the first. -/
def setItems (rules : Rules) (first : Node) : Parser Node := do
  let (items, _) ← moreItems rules first
  sign "\x7d"
  return .of .set items

/-- After an opening brace: a dictionary, a set, or a comprehension of either. -/
def braced (rules : Rules) : Parser Node := do
  if ← acceptSign "\x7d" then return .of .dictionary
  if ← atSign "**" then return ← dictionaryEntries rules (← dictionaryEntry rules)
  let isKey := !(← atNamed) && !(← atSign "*")
  let first ← listItem rules
  if isKey && (← atSign ":") then do
    sign ":"
    let value ← rules.one .expression
    if ← atClauses then do
      let clauses ← comprehensionClauses rules
      sign "\x7d"
      return .of .dictionaryComprehension (first :: value :: clauses)
    else dictionaryEntries rules (some first, value)
  else if ← atClauses then do
    if isStarred first then failure
    let clauses ← comprehensionClauses rules
    sign "\x7d"
    return .of .setComprehension (first :: clauses)
  else setItems rules first

/-- An argument of a call. -/
inductive Argument where
  | plain (n : Node)
  | starred (n : Node)
  | keyword (n : Node)
  | doubleStarred (n : Node)

namespace Argument

/-- The node of an argument that is none of a keyword. -/
def positional? : Argument → Option Node
  | plain n | starred n => some n
  | keyword _ | doubleStarred _ => none

/-- The node of an argument of a keyword. -/
def keyword? : Argument → Option Node
  | keyword n | doubleStarred n => some n
  | plain _ | starred _ => none

/-- Whether arguments are in order: no plain ones after keywords, and no starred ones after
doubly starred ones. -/
def inOrder : List Argument → Bool
  | [] => true
  | plain _ :: rest | starred _ :: rest => inOrder rest
  | keyword _ :: rest => rest.all (fun | plain _ => false | _ => true) && inOrder rest
  | doubleStarred _ :: rest =>
    rest.all (fun | plain _ | starred _ => false | _ => true) && inOrder rest

end Argument

/-- One argument of a call. -/
def argument (rules : Rules) : Parser Argument := do
  if ← acceptSign "*" then return .starred (.of .starred [← rules.one .expression])
  if ← acceptSign "**" then return .doubleStarred (.of .keyword [← rules.one .expression])
  if isName (← peek) && (← peekSecond) = some (.sign "=") then do
    let key ← name
    sign "="
    return .keyword (.named .keyword [key] [← rules.one .expression])
  return .plain (← namedExpression rules)

/-- More arguments after the first up to the closing parenthesis, those without a keyword first. -/
def moreArguments (rules : Rules) (first : Argument) : Parser (List Node) := do
  let rest ← many (do sign ","; argument rules)
  discard (acceptSign ",")
  sign ")"
  let args := first :: rest
  if Argument.inOrder args then
    return args.filterMap Argument.positional? ++ args.filterMap Argument.keyword?
  else failure

/-- The arguments of a class up to the closing parenthesis. -/
def classArguments (rules : Rules) : Parser (List Node) := do
  if ← acceptSign ")" then return []
  else moreArguments rules (← argument rules)

/-- The arguments of a call up to the closing parenthesis, or a generator as the only one. -/
def callArguments (rules : Rules) : Parser (List Node) := do
  if ← acceptSign ")" then return []
  let first ← argument rules
  if ← atClauses then
    match first with
    | .plain n =>
      let clauses ← comprehensionClauses rules
      sign ")"
      return [.of .generator (n :: clauses)]
    | _ => failure
  else moreArguments rules first

/-- The bounds of a range, from the colon on. -/
def sliceFrom (rules : Rules) (lower : List Node) : Parser Node := do
  let part : Parser (Option Node) := do
    if (← atSign ":") || (← atSign "]") || (← atSign ",") then return none
    else return some (← rules.one .expression)
  sign ":"
  let upper ← part
  let step ← if ← acceptSign ":" then part else pure none
  return .of .slice (lower ++ upper.toList ++ step.toList)

/-- One index or range of a subscript. -/
def slice (rules : Rules) : Parser Node := do
  if ← acceptSign "*" then return .of .starred [← rules.one .expression]
  if ← atNamed then return ← namedExpression rules
  if ← atSign ":" then return ← sliceFrom rules []
  let n ← rules.one .expression
  if ← atSign ":" then sliceFrom rules [n] else return n

/-- The index of a subscript. -/
def subscript (rules : Rules) : Parser Node := do
  let items ← commaList (slice rules)
  sign "]"
  match items with
  | ([n], false) => return if isStarred n then .of .tuple [n] else n
  | (ns, _) => return .of .tuple ns

/-- The words that are values. -/
def constantWords : List String := ["True", "False", "None"]

/-- The smallest expressions. -/
def atom (rules : Rules) : Parser Node := do
  match ← peek with
  | some (.quoted _ _) => quotedTexts rules
  | _ =>
    match ← take with
    | .word w =>
      if constantWords.contains w then return .of .constant
      else if Token.keywords.contains w then failure
      else return .named .name [w]
    | .name w => return .named .name [w]
    | .number _ => return .of .constant
    | .sign "..." => return .of .constant
    | .sign "(" => parenthesized rules
    | .sign "[" => bracketed rules
    | .sign "\x7b" => braced rules
    | _ => failure

/-- What follows an atom: a member, a call or a subscript. -/
def trailers (rules : Rules) : (fuel : Nat) → Node → Parser Node
  | 0, n => return n
  | fuel + 1, n => do
    if ← acceptSign "." then trailers rules fuel (.named .member [← name] [n])
    else if ← acceptSign "(" then
      trailers rules fuel (.of .call (n :: (← callArguments rules)))
    else if ← acceptSign "[" then
      trailers rules fuel (.of .subscript [n, ← subscript rules])
    else return n

/-- An atom with what follows it. -/
def primary (rules : Rules) : Parser Node := do
  let n ← atom rules
  trailers rules (← get).length n

/-- A primary expression, perhaps one to wait for. -/
def awaited (rules : Rules) : Parser Node := do
  if ← acceptKeyword "await" then return .of .await [← primary rules]
  else primary rules

/-- A power. -/
def power (rules : Rules) : Parser Node := do
  let base ← awaited rules
  if ← acceptSign "**" then return .of .binaryOperation [base, ← rules.one .factor]
  else return base

/-- A power with signs in front. -/
def factor (rules : Rules) : Parser Node := do
  match ← optional? (oneOf ["+", "-", "~"]) with
  | some _ => return .of .unaryOperation [← rules.one .factor]
  | none => power rules

/-- Operands with operators between them, grouped from the left. -/
def leftGrouped (operand : Parser Node) (operators : List String) : Parser Node := do
  let first ← operand
  let rest ← many (do oneOf operators; operand)
  return rest.foldl (fun acc n => .of .binaryOperation [acc, n]) first

/-- The levels of operators on numbers and bits, the tightest first. -/
def operatorLevels : List (List String) :=
  [["*", "/", "//", "%", "@"], ["+", "-"], ["<<", ">>"], ["&"], ["^"], ["|"]]

/-- An expression of operators on numbers and bits. -/
def bitwiseOr (rules : Rules) : Parser Node := operatorLevels.foldl leftGrouped (factor rules)

/-- Takes an operator of comparison. -/
def comparisonOperator : Parser Unit :=
  oneOf ["==", "!=", "<", "<=", ">", ">="] <|> keyword "in"
    <|> (do keyword "not"; keyword "in")
    <|> (do keyword "is"; discard (acceptKeyword "not"))

/-- A chain of comparisons. -/
def comparison (rules : Rules) : Parser Node := do
  let first ← bitwiseOr rules
  match ← many (do comparisonOperator; bitwiseOr rules) with
  | [] => return first
  | rest => return .of .comparison (first :: rest)

/-- A comparison with negations in front. -/
def inversion (rules : Rules) : Parser Node := do
  if ← acceptKeyword "not" then return .of .unaryOperation [← rules.one .inversion]
  else comparison rules

/-- Operands with a word between them. -/
def joined (word : String) (operand : Parser Node) : Parser Node := do
  let first ← operand
  match ← many (do keyword word; operand) with
  | [] => return first
  | rest => return .of .booleanOperation (first :: rest)

/-- A disjunction of conjunctions. -/
def disjunction (rules : Rules) : Parser Node := joined "or" (joined "and" (inversion rules))

/-- A parameter. -/
inductive Parameter where
  | plain (n : Node) (default : Option Node)
  /-- All before are given by position only. -/
  | slash
  /-- All after are given by keyword only. -/
  | star
  | rest (n : Node)
  | keywords (n : Node)

/-- The annotation of a parameter, where there can be one. -/
def annotation (rules : Rules) (annotated : Bool) : Parser (List Node) := do
  if !annotated then return []
  return (← whenTaken (acceptSign ":") (rules.one .expression)).toList

/-- The annotation of the rest of the arguments, which may be starred. -/
def restAnnotation (rules : Rules) (annotated : Bool) : Parser (List Node) := do
  if !annotated then return []
  if ← acceptSign ":" then
    if ← acceptSign "*" then return [.of .starred [← rules.one .bitwiseOr]]
    else return [← rules.one .expression]
  else return []

/-- One parameter. -/
def parameter (rules : Rules) (annotated : Bool) : Parser Parameter := do
  if ← acceptSign "/" then return .slash
  if ← acceptSign "**" then
    let key ← name
    return .keywords (.named .parameter [key] (← annotation rules annotated))
  if ← acceptSign "*" then
    if isName (← peek) then
      let key ← name
      return .rest (.named .parameter [key] (← restAnnotation rules annotated))
    else return .star
  let key ← name
  let note ← annotation rules annotated
  let default ← whenTaken (acceptSign "=") (rules.one .expression)
  return .plain (.named .parameter [key] note) default

namespace Parameter

/-- The parameters before and after the mark that all after are given by keyword only. -/
def split : List Parameter → List Parameter × List Parameter
  | [] => ([], [])
  | star :: after => ([], star :: after)
  | rest n :: after => ([], rest n :: after)
  | keywords n :: after => ([], keywords n :: after)
  | p :: after =>
    let (front, back) := split after
    (p :: front, back)

/-- Whether a parameter is a plain one. -/
def isPlain : Parameter → Bool
  | plain _ _ => true
  | _ => false

/-- Whether a parameter has a default. -/
def hasDefault : Parameter → Bool
  | plain _ (some _) => true
  | _ => false

/-- Whether no parameter without a default comes after one with a default. -/
def defaultsLast (front : List Parameter) : Bool :=
  ((front.filter isPlain).dropWhile fun p => !p.hasDefault).all hasDefault

/-- Whether a slash comes once at most, and after some parameter. -/
def slashInPlace (front : List Parameter) : Bool :=
  match front.span isPlain with
  | (_, []) => true
  | (before, _ :: after) => !before.isEmpty && after.all isPlain

/-- Whether the end of the parameters is in order: a star or the rest, plain ones, and the
keywords. -/
def endInOrder : List Parameter → Bool
  | [] | [keywords _] => true
  | star :: after | rest _ :: after =>
    match after.dropWhile isPlain with
    | [] | [keywords _] => true
    | _ => false
  | _ => false

/-- Whether a lone star has a plain parameter after it. -/
def starFollowed : List Parameter → Bool
  | star :: p :: _ => p.isPlain
  | [star] => false
  | _ => true

def node? : Parameter → Option Node
  | plain n _ | rest n | keywords n => some n
  | slash | star => none

def default? : Parameter → Option Node
  | plain _ d => d
  | _ => none

/-- The node of parameters: those by position, the rest, those by keyword with their defaults, the
keywords, and the defaults of those by position. -/
def node (front back : List Parameter) : Node :=
  let isRest : Parameter → Bool := fun | rest _ => true | _ => false
  let isKeywords : Parameter → Bool := fun | keywords _ => true | _ => false
  .of .parameters
    (front.filterMap node? ++ (back.filter isRest).filterMap node?
      ++ (back.filter isPlain).filterMap node? ++ (back.filter isPlain).filterMap default?
      ++ (back.filter isKeywords).filterMap node? ++ front.filterMap default?)

end Parameter

/-- Parameters up to a sign, which is taken too. -/
def parameters (rules : Rules) (annotated : Bool) (last : String) : Parser Node := do
  if ← acceptSign last then return .of .parameters
  let (ps, trailing) ← commaList (parameter rules annotated)
  sign last
  let (front, back) := Parameter.split ps
  let bareStar := trailing && (match ps.getLast? with | some .star => true | _ => false)
  if Parameter.defaultsLast front && Parameter.slashInPlace front && Parameter.endInOrder back
      && Parameter.starFollowed back && !bareStar then
    return Parameter.node front back
  else failure

/-- A function without a name. -/
def lambda (rules : Rules) : Parser Node := do
  keyword "lambda"
  let ps ← parameters rules false ":"
  return .of .lambda [ps, ← rules.one .expression]

/-- An expression. -/
def expression (rules : Rules) : Parser Node := do
  if ← atKeyword "lambda" then return ← lambda rules
  let body ← disjunction rules
  if ← acceptKeyword "if" then
    let test ← disjunction rules
    keyword "else"
    return .of .conditional [test, body, ← rules.one .expression]
  else return body

/-- An expression, perhaps starred. -/
def starExpression (rules : Rules) : Parser Node := do
  if ← acceptSign "*" then return .of .starred [← bitwiseOr rules] else expression rules

/-- Expressions with commas between them. -/
def starExpressions (rules : Rules) : Parser Node := do
  return tupleOf (← commaList (starExpression rules))

end CallFlow.Snippet
