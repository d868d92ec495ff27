import CallFlow.Snippet.Token
import CallFlow.Text.Identifier

namespace CallFlow.Snippet

namespace Lexer

/-- Text with one character for every line end, and one at its end. -/
def unifyLineEnds : List Char → List Char
  | [] => []
  | '\r' :: '\n' :: rest => '\n' :: unifyLineEnds rest
  | '\r' :: rest => '\n' :: unifyLineEnds rest
  | c :: rest => c :: unifyLineEnds rest

/-- A text that ends with its last line. -/
def withLastLineEnd (cs : List Char) : List Char :=
  if cs.getLast? = some '\n' then cs else cs ++ ['\n']

/-- A width with wide tabs, and with narrow ones. -/
structure Indentation where
  wide : Nat := 0
  narrow : Nat := 0
  deriving Repr, DecidableEq

/-- The indentation of a line and the characters after it. Tabs reach to the next multiple of eight
with wide tabs. When a line is continued inside its
indentation, the blanks before the first continuation are what counts, if there are any. -/
def indentation (here : Indentation) (first : Nat) : List Char → Option (Indentation × List Char)
  | ' ' :: rest => indentation ⟨here.wide + 1, here.narrow + 1⟩ first rest
  | '\t' :: rest => indentation ⟨(here.wide / 8 + 1) * 8, here.narrow + 1⟩ first rest
  | '\x0c' :: rest => indentation {} first rest
  | '\\' :: '\n' :: c :: rest =>
    indentation here (if first = 0 then here.wide else first) (c :: rest)
  | '\\' :: _ => none
  | rest => some (if first = 0 then here else ⟨first, first⟩, rest)

/-- The tokens by which a line of an indentation begins, and the blocks that are open then, the
innermost first. A layout that would be another one with narrow tabs is refused. -/
def layout (i : Indentation) : List Indentation → Option (List Token × List Indentation)
  | [] => if i.wide = 0 then some ([], []) else some ([.indent], [i])
  | top :: outer =>
    if i.wide = top.wide then
      if i.narrow = top.narrow then some ([], top :: outer) else none
    else if i.wide > top.wide then
      if i.narrow > top.narrow && outer.length < 98 then some ([.indent], i :: top :: outer)
      else none
    else if (outer.headD {}).wide < i.wide then none
    else (layout i outer).map fun (ts, blocks) => (.dedent :: ts, blocks)

/-- Whether a character may stand in a word, as far as the first look goes. -/
def isWordChar (c : Char) : Bool := c.isAlphanum || c = '_' || c.toNat ≥ 128

/-- Whether a character may begin a word, as far as the first look goes. -/
def isWordStart (c : Char) : Bool := c.isAlpha || c = '_' || c.toNat ≥ 128

/-- The quoting that letters in front of a quote stand for. -/
def quoting? (letters : List Char) : Option Quoting :=
  match letters.map Char.toLower with
  | [] | ['u'] => some {}
  | ['b'] => some { bytes := true }
  | ['r'] => some { raw := true }
  | ['f'] => some { interpolated := true }
  | ['b', 'r'] | ['r', 'b'] => some { bytes := true, raw := true }
  | ['f', 'r'] | ['r', 'f'] => some { raw := true, interpolated := true }
  | _ => none

/-- The body of a text in single quotes, and the characters after it. -/
def shortBody (q : Char) : List Char → Option (List Char × List Char)
  | [] => none
  | '\\' :: c :: rest => (shortBody q rest).map fun (body, rest) => ('\\' :: c :: body, rest)
  | c :: rest =>
    if c = q then some ([], rest)
    else if c = '\n' then none
    else (shortBody q rest).map fun (body, rest) => (c :: body, rest)

/-- The body of a text in triple quotes, and the characters after it. -/
def longBody (q : Char) : List Char → Option (List Char × List Char)
  | [] => none
  | '\\' :: c :: rest => (longBody q rest).map fun (body, rest) => ('\\' :: c :: body, rest)
  | c :: rest =>
    if c = q && rest.take 2 = [q, q] then some ([], rest.drop 2)
    else (longBody q rest).map fun (body, rest) => (c :: body, rest)

/-- A quoted text that begins with its quote. -/
def quoted? (quoting : Quoting) (cs : List Char) : Option (Token × List Char) :=
  match cs with
  | q :: rest =>
    let body := if rest.take 2 = [q, q] then longBody q (rest.drop 2) else shortBody q rest
    body.map fun (body, rest) => (.quoted quoting body, rest)
  | [] => none

/-- Whether a character is a quote. -/
def isQuote (c : Char) : Bool := c = '\'' || c = '"'

/-- The digits of a class with single underscores between them, as a count, and the characters
after them. An underscore must have a digit after it. -/
def digitRun (isDigit : Char → Bool) : List Char → Option (Nat × List Char)
  | [] => some (0, [])
  | '_' :: c :: rest =>
    if isDigit c then (digitRun isDigit rest).map fun (n, rest) => (n + 1, rest) else none
  | ['_'] => none
  | c :: rest =>
    if isDigit c then (digitRun isDigit rest).map fun (n, rest) => (n + 1, rest)
    else some (0, c :: rest)

/-- Digits that begin with a digit. -/
def decimalRun (cs : List Char) : Option (List Char) :=
  match cs with
  | c :: _ => if c.isDigit then (digitRun Char.isDigit cs).map Prod.snd else some cs
  | [] => some cs

/-- The words that may follow a number without a blank. -/
def wordsAfterNumber : List String := ["and", "else", "for", "if", "in", "is", "or", "not"]

/-- Whether a number may end where these characters follow. -/
def canEndNumber (rest : List Char) : Bool :=
  match rest with
  | [] => true
  | c :: _ =>
    !isWordChar c || wordsAfterNumber.any fun w => w.toList.isPrefixOf rest

/-- A number that ends here, unless a `j` follows. -/
def endNumber (rest : List Char) : Option (Token × List Char) :=
  match rest with
  | 'j' :: rest | 'J' :: rest => if canEndNumber rest then some (.number true, rest) else none
  | _ => if canEndNumber rest then some (.number false, rest) else none

/-- The end of a number from its exponent on. -/
def exponent (cs : List Char) : Option (Token × List Char) :=
  match cs with
  | e :: rest =>
    if e = 'e' || e = 'E' then
      match rest with
      | s :: c :: more =>
        if s = '+' || s = '-' then
          if c.isDigit then (decimalRun (c :: more)).bind endNumber else none
        else if s.isDigit then (decimalRun rest).bind endNumber
        else if canEndNumber cs then some (.number false, cs) else none
      | [s] => if s.isDigit then endNumber []
        else if s = '+' || s = '-' then none
        else if canEndNumber cs then some (.number false, cs) else none
      | [] => none
    else endNumber cs
  | [] => endNumber cs

/-- The end of a number from its point on. -/
def fraction (cs : List Char) : Option (Token × List Char) :=
  match cs with
  | '.' :: rest => (decimalRun rest).bind exponent
  | _ => exponent cs

/-- Whether a character is a digit in base sixteen. -/
def isHexDigit (c : Char) : Bool :=
  c.isDigit || ('a' ≤ c && c ≤ 'f') || ('A' ≤ c && c ≤ 'F')

/-- Digits in a base that is not ten, after the letter of the base. -/
def basedNumber (isDigit : Char → Bool) (cs : List Char) : Option (Token × List Char) := do
  let (count, rest) ← digitRun isDigit cs
  if count = 0 || rest.head?.any Char.isDigit || !canEndNumber rest then none
  else some (.number false, rest)

/-- Whether a number goes on after its first digits. -/
def goesOn (rest : List Char) : Bool := rest.head?.any fun c => ".eEjJ".toList.contains c

/-- The most decimal digits of a whole number. -/
def maxDigits : Nat := 4300

/-- A number that begins with a digit. A whole number other than zero does not begin with one, and
has not too many digits. -/
def number? (cs : List Char) : Option (Token × List Char) := do
  match cs with
  | '0' :: c :: rest =>
    match c.toLower with
    | 'x' => basedNumber isHexDigit rest
    | 'o' => basedNumber (fun c => '0' ≤ c && c ≤ '7') rest
    | 'b' => basedNumber (fun c => c = '0' || c = '1') rest
    | _ =>
      let after ← decimalRun cs
      let digits := cs.take (cs.length - after.length)
      if !goesOn after && !digits.all fun c => c = '0' || c = '_' then none else fraction after
  | _ =>
    let after ← decimalRun cs
    let digits := (cs.take (cs.length - after.length)).filter (· ≠ '_')
    if !goesOn after && maxDigits < digits.length then none else fraction after

/-- The bracket that closes another. -/
def closing : Char → Char
  | '(' => ')'
  | '[' => ']'
  | _ => '}'

/-- The brackets that are open after a sign, the innermost first. -/
def brackets? (sign : String) (outer : List Char) : Option (List Char) :=
  match sign.toList with
  | [c] =>
    if c = '(' || c = '[' || c = '{' then
      if outer.length < 200 then some (c :: outer) else none
    else if c = ')' || c = ']' || c = '}' then
      match outer with
      | o :: rest => if closing o = c then some rest else none
      | [] => none
    else some outer
  | _ => some outer

/-- A word or a quoted text that letters introduce. -/
def word? (cs : List Char) : Option (Token × List Char) :=
  let letters := cs.takeWhile fun c => "bBrRuUfF".toList.contains c
  let rest := cs.drop letters.length
  let introduced :=
    if rest.head?.any isQuote then (quoting? letters).map fun q => quoted? q rest else none
  match introduced with
  | some token => token
  | none =>
    let text := cs.takeWhile isWordChar
    if text.all (·.toNat < 128) then some (.word (String.ofList text), cs.drop text.length)
    else if Text.isIdentifier text then
      some (.name (String.ofList (Text.plainIdentifier text)), cs.drop text.length)
    else none

/-- The sign at the front. -/
def sign? (cs : List Char) : Option (String × List Char) :=
  (Token.signs.find? fun s => s.toList.isPrefixOf cs).map fun s => (s, cs.drop s.length)

/-- A token that is no sign and no layout. -/
def lexeme? (cs : List Char) : Option (Token × List Char) :=
  match cs with
  | c :: d :: _ =>
    if c.isDigit then number? cs
    else if c = '.' && d.isDigit then fraction cs
    else if isQuote c then quoted? {} cs
    else word? cs
  | _ => word? cs

/-- Cuts a text into tokens. `atStart` says whether a line begins here; `brackets` and `blocks`
are open. Inside of brackets line ends do not count; elsewhere the indentation of each line that
is not blank is compared with those of the blocks around it. -/
def scan : (fuel : Nat) → (atStart : Bool) → (brackets : List Char) →
    (blocks : List Indentation) → List Char → Option (List Token)
  | 0, _, _, _, _ => none
  | fuel + 1, true, brackets, blocks, cs => do
    let (i, rest) ← indentation {} 0 cs
    match rest with
    | [] => if brackets.isEmpty then some (blocks.map fun _ => .dedent) else none
    | '\n' :: rest => scan fuel true brackets blocks rest
    | '#' :: rest => scan fuel true brackets blocks ((rest.dropWhile (· ≠ '\n')).drop 1)
    | _ =>
      if brackets.isEmpty then do
        let (ts, blocks) ← layout i blocks
        return ts ++ (← scan fuel false brackets blocks rest)
      else scan fuel false brackets blocks rest
  | fuel + 1, false, brackets, blocks, cs =>
    match cs with
    | [] => none
    | ' ' :: rest | '\t' :: rest | '\x0c' :: rest => scan fuel false brackets blocks rest
    | '#' :: rest => scan fuel false brackets blocks (rest.dropWhile (· ≠ '\n'))
    | '\n' :: rest =>
      if brackets.isEmpty then do return .newline :: (← scan fuel true brackets blocks rest)
      else scan fuel true brackets blocks rest
    | '\\' :: '\n' :: c :: rest => scan fuel false brackets blocks (c :: rest)
    | '\\' :: _ => none
    | c :: after =>
      let startsLexeme :=
        isWordStart c || c.isDigit || isQuote c || (c = '.' && after.head?.any Char.isDigit)
      if startsLexeme then do
        let (t, rest) ← lexeme? cs
        return t :: (← scan fuel false brackets blocks rest)
      else do
        let (s, rest) ← sign? cs
        let brackets ← brackets? s brackets
        return .sign s :: (← scan fuel false brackets blocks rest)

end Lexer

/-- The tokens of a text, none when it can not be cut. -/
def tokens? (text : List Char) : Option (List Token) :=
  let cs := Lexer.withLastLineEnd (Lexer.unifyLineEnds text)
  Lexer.scan (2 * cs.length + 2) true [] [] cs

end CallFlow.Snippet
