import CallFlow.Json.Read

namespace CallFlow.Yaml

/-- A place in a YAML text: the characters that are left, the line and the column. Scalars may go
over several lines; the line ends inside are folded into a blank, or into one line end less than
there are. -/
structure Cursor where
  rest : List Char
  line : Nat := 0
  column : Nat := 0
  deriving Repr, DecidableEq

/-- Whether a scalar ends before these characters: at a blank, a line end, or nothing. -/
def endsHere (cs : List Char) : Bool := cs.head?.all fun c => c = ' ' || c = '\t' || c = '\n'

namespace Cursor

/-- The place after one character. -/
def next : Cursor → Cursor
  | ⟨[], line, column⟩ => ⟨[], line, column⟩
  | ⟨'\n' :: rest, line, _⟩ => ⟨rest, line + 1, 0⟩
  | ⟨_ :: rest, line, column⟩ => ⟨rest, line, column + 1⟩

/-- The place after so many characters. -/
def drop (c : Cursor) : Nat → Cursor
  | 0 => c
  | n + 1 => c.next.drop n

/-- The place after blanks, comments and line ends, from within a comment or not. -/
def skipFrom (comment : Bool) : List Char → (line column : Nat) → Cursor
  | [], line, column => ⟨[], line, column⟩
  | '\n' :: rest, line, _ => skipFrom false rest (line + 1) 0
  | c :: rest, line, column =>
    if comment || c = '#' then skipFrom true rest line (column + 1)
    else if c = ' ' then skipFrom false rest line (column + 1)
    else ⟨c :: rest, line, column⟩

/-- The place after blanks, comments and line ends. -/
def skip (c : Cursor) : Cursor := skipFrom false c.rest c.line c.column

/-- The place after blanks. -/
def skipBlanks (c : Cursor) : Cursor := c.drop (c.rest.takeWhile (· = ' ')).length

def atEnd (c : Cursor) : Bool := c.rest.isEmpty

/-- Whether an item of a list begins here. -/
def atDash (c : Cursor) : Bool :=
  match c.rest with
  | '-' :: rest => endsHere rest
  | _ => false

/-- Whether a colon stands here that ends a name. -/
def atColon (c : Cursor) : Bool :=
  match c.rest with
  | ':' :: rest => endsHere rest
  | _ => false

/-- The blanks and line ends at a cursor as they are folded, and the place after them. -/
def fold (isBlank : Char → Bool) (c : Cursor) : List Char × Cursor :=
  let gap := c.rest.takeWhile fun ch => isBlank ch || ch = '\n'
  let text :=
    match gap.count '\n' with
    | 0 => gap
    | 1 => [' ']
    | n + 2 => List.replicate (n + 1) '\n'
  (text, c.drop gap.length)

end Cursor

/-- The characters that structure lists and objects in brackets. -/
def bracketSigns : List Char := [',', '[', ']', '{', '}']

/-- Whether a plain scalar can begin with these characters. -/
def beginsPlain (inBrackets : Bool) : List Char → Bool
  | [] => false
  | c :: rest =>
    if c = '-' then !endsHere rest
    else if c = '?' || c = ':' then !endsHere rest && !inBrackets
    else !(endsHere [c] || bracketSigns.contains c
      || ['#', '&', '*', '!', '|', '>', '\x27', '"', '%', '@', '\x60'].contains c)

/-- Whether a plain scalar stops before a character and what follows. -/
def stopsPlain (inBrackets : Bool) (c : Char) (rest : List Char) : Bool :=
  endsHere [c]
    || (c = ':' && (endsHere rest || (inBrackets && rest.head?.any bracketSigns.contains)))
    || (inBrackets && (c = '?' || bracketSigns.contains c))

/-- The characters of a plain scalar up to the next blank. -/
def plainRun (inBrackets : Bool) : List Char → List Char
  | [] => []
  | c :: rest => if stopsPlain inBrackets c rest then [] else c :: plainRun inBrackets rest

/-- The rest of a plain scalar after a run of it. Lines that go on with it are indented deeper than
`indent`, unless it stands in brackets. The first argument bounds the number of runs. -/
def plainTail (inBrackets : Bool) (indent : Int) : Nat → Cursor → List Char × Cursor
  | 0, c => ([], c)
  | n + 1, c =>
    let (gap, after) := c.fold (· = ' ')
    let run := plainRun inBrackets after.rest
    if gap.isEmpty || run.isEmpty || after.rest.head? = some '#'
        || (!inBrackets && (after.column : Int) ≤ indent) then ([], c)
    else
      let (more, last) := plainTail inBrackets indent n (after.drop run.length)
      (gap ++ run ++ more, last)

/-- A plain scalar. -/
def plain (inBrackets : Bool) (indent : Int) (c : Cursor) : List Char × Cursor :=
  let run := plainRun inBrackets c.rest
  let (more, last) := plainTail inBrackets indent c.rest.length (c.drop run.length)
  (run ++ more, last)

/-- Whether a character is a blank inside quotes. -/
def isQuotedBlank (c : Char) : Bool := c = ' ' || c = '\t'

/-- The characters up to the closing single quote, in which two of them stand for one. The first
argument bounds the steps. -/
def singleQuoted : Nat → Cursor → Option (List Char × Cursor)
  | 0, _ => none
  | n + 1, c =>
    match c.rest with
    | [] => none
    | '\x27' :: '\x27' :: _ =>
      (singleQuoted n (c.drop 2)).map fun (cs, last) => ('\x27' :: cs, last)
    | '\x27' :: _ => some ([], c.next)
    | ch :: _ =>
      if isQuotedBlank ch || ch = '\n' then
        let (gap, after) := c.fold isQuotedBlank
        (singleQuoted n after).map fun (cs, last) => (gap ++ cs, last)
      else (singleQuoted n c.next).map fun (cs, last) => (ch :: cs, last)

/-- The characters that an escape of one letter can stand for. -/
def escapes : List (Char × Char) :=
  [('0', '\x00'), ('a', '\x07'), ('b', '\x08'), ('t', '\t'), ('\t', '\t'), ('n', '\n'),
   ('v', '\x0b'), ('f', '\x0c'), ('r', '\r'), ('e', '\x1b'), (' ', ' '), ('"', '"'),
   ('\\', '\\'), ('/', '/'), ('N', '\u0085'), ('_', '\u00a0'), ('L', '\u2028'), ('P', '\u2029')]

/-- The number of digits of an escape that gives the number of a character. -/
def escapeWidth? : Char → Option Nat
  | 'x' => some 2
  | 'u' => some 4
  | 'U' => some 8
  | _ => none

/-- The number that hexadecimal digits stand for. -/
def hexNat? (cs : List Char) : Option Nat :=
  (cs.mapM Json.hexValue?).map fun ds => ds.foldl (fun n d => 16 * n + d) 0

/-- The character of an escape, after the backslash, and the place after it. Two halves of a
surrogate pair are one character. -/
def escape? (c : Cursor) : Option (Char × Cursor) :=
  match c.rest with
  | [] => none
  | letter :: rest =>
    match escapeWidth? letter with
    | none => (escapes.lookup letter).map fun ch => (ch, c.next)
    | some width =>
      if rest.length < width then none
      else do
        let unit ← hexNat? (rest.take width)
        if 0x110000 ≤ unit then none
        else
          let (ch, after) := Json.readPair unit (rest.drop width)
          some (ch, c.next.drop (rest.length - after.length))

/-- The characters up to the closing double quote. A backslash at the end of a line joins the line
to the next. The first argument bounds the steps. -/
def doubleQuoted : Nat → Cursor → Option (List Char × Cursor)
  | 0, _ => none
  | n + 1, c =>
    match c.rest with
    | [] => none
    | '"' :: _ => some ([], c.next)
    | '\\' :: '\n' :: rest =>
      let gap := rest.takeWhile fun ch => isQuotedBlank ch || ch = '\n'
      let breaks := List.replicate (gap.count '\n') '\n'
      (doubleQuoted n (c.drop (2 + gap.length))).map fun (cs, last) => (breaks ++ cs, last)
    | '\\' :: _ => do
      let (ch, after) ← escape? c.next
      let (cs, last) ← doubleQuoted n after
      some (ch :: cs, last)
    | ch :: _ =>
      if isQuotedBlank ch || ch = '\n' then
        let (gap, after) := c.fold isQuotedBlank
        (doubleQuoted n after).map fun (cs, last) => (gap ++ cs, last)
      else (doubleQuoted n c.next).map fun (cs, last) => (ch :: cs, last)

end CallFlow.Yaml
