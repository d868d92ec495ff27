import CallFlow.Yaml.Cursor
import CallFlow.Yaml.Scalar

namespace CallFlow.Yaml

/-- The name that a value is as the name of a member. Lists and objects are none. -/
def name? : Value → Option String
  | .text s => some s
  | .null => some "null"
  | .bool b => some (if b then "true" else "false")
  | .int i => some (toString i)
  | .float x => some (Decimal.json.text x)
  | .list _ | .object _ => none

/-- A scalar. -/
def scalarAt (inBrackets : Bool) (indent : Int) (c : Cursor) : Option (Value × Cursor) :=
  match c.rest with
  | '"' :: rest =>
    (doubleQuoted (rest.length + 1) c.next).map fun (cs, last) => (.text (String.ofList cs), last)
  | '\x27' :: rest =>
    (singleQuoted (rest.length + 1) c.next).map fun (cs, last) => (.text (String.ofList cs), last)
  | cs =>
    if beginsPlain inBrackets cs then
      let (run, last) := plain inBrackets indent c
      some (scalar (String.ofList run), last)
    else none

mutual

/-- A value in brackets or a scalar among such values. -/
def bracketed : Nat → Cursor → Option (Value × Cursor)
  | 0, _ => none
  | n + 1, c =>
    match c.rest with
    | '[' :: _ => (bracketedItems n c.next).map fun (vs, last) => (.list vs, last)
    | '{' :: _ =>
      (bracketedMembers n c.next).map fun (ms, last) => (.object (Bindings.ofMembers ms), last)
    | _ => scalarAt true 0 c

/-- A value in brackets, and if a colon follows on the line where it begins, the value after
that. -/
def bracketedPair : Nat → Cursor → Option (Value × Option Value × Cursor)
  | 0, _ => none
  | n + 1, c => do
    let (key, last) ← bracketed n c
    let colon := last.skip
    if colon.rest.head? = some ':' then
      if colon.line ≠ c.line then none
      else
        let start := colon.next.skip
        if start.rest.head?.any [',', ']', '}'].contains then some (key, some .null, start)
        else
          let (v, last) ← bracketed n start
          some (key, some v, last)
    else some (key, none, last)

/-- The items of a list in brackets, after the opening one. -/
def bracketedItems : Nat → Cursor → Option (List Value × Cursor)
  | 0, _ => none
  | n + 1, c =>
    let c := c.skip
    if c.rest.head? = some ']' then some ([], c.next)
    else do
      let (key, v, last) ← bracketedPair n c
      let item ←
        match v with
        | none => some key
        | some v => (name? key).map fun name => .object [(name, v)]
      let last := last.skip
      match last.rest with
      | ',' :: _ => (bracketedItems n last.next).map fun (vs, last) => (item :: vs, last)
      | ']' :: _ => some ([item], last.next)
      | _ => none

/-- The members of an object in braces, after the opening one. -/
def bracketedMembers : Nat → Cursor → Option (List (String × Value) × Cursor)
  | 0, _ => none
  | n + 1, c =>
    let c := c.skip
    if c.rest.head? = some '}' then some ([], c.next)
    else do
      let (key, v, last) ← bracketedPair n c
      let name ← name? key
      let m := (name, v.getD .null)
      let last := last.skip
      match last.rest with
      | ',' :: _ => (bracketedMembers n last.next).map fun (ms, last) => (m :: ms, last)
      | '}' :: _ => some ([m], last.next)
      | _ => none

end

/-- A scalar or a value in brackets. -/
def leaf (indent : Int) (c : Cursor) : Option (Value × Cursor) :=
  match c.rest with
  | '[' :: _ | '{' :: _ => bracketed (3 * c.rest.length + 3) c
  | _ => scalarAt false indent c

/-- The place of what comes next, which must not be on the same line. -/
def nextLine (last : Cursor) : Option Cursor :=
  let c := last.skip
  if c.atEnd || last.line < c.line then some c else none

/-- The name of a member and the place after its colon, all on one line. -/
def memberName (column : Nat) (c : Cursor) : Option (String × Cursor) := do
  let (key, last) ← leaf column c
  let colon := last.skipBlanks
  if colon.atColon && colon.line = c.line then
    let name ← name? key
    some (name, colon.next)
  else none

mutual

/-- A value that begins at a place, inside a block indented by `indent`. After a colon on the same
line only a leaf can stand. -/
def block (indent : Int) (afterColon : Bool) : Nat → Cursor → Option (Value × Cursor)
  | 0, _ => none
  | n + 1, c =>
    if c.atDash then
      if afterColon then none
      else (blockItems c.column n c).map fun (vs, last) => (.list vs, last)
    else do
      let (v, last) ← leaf indent c
      if last.skipBlanks.atColon then
        if afterColon then none
        else
          let (ms, last) ← blockMembers c.column n c
          some (.object (Bindings.ofMembers ms), last)
      else some (v, ← nextLine last)

/-- The items of a list whose dashes stand in a column. -/
def blockItems (column : Nat) : Nat → Cursor → Option (List Value × Cursor)
  | 0, _ => none
  | n + 1, c => do
    let start := c.next.skip
    let (v, last) ←
      if start.atEnd || (start.line ≠ c.line && start.column ≤ column) then some (.null, start)
      else block column false n start
    if last.atEnd || last.column < column then some ([v], last)
    else if last.column ≠ column then none
    else if last.atDash then
      (blockItems column n last).map fun (vs, last) => (v :: vs, last)
    else some ([v], last)

/-- The members of an object whose names stand in a column. The dashes of a list that is the value
of a member may stand in that column too. -/
def blockMembers (column : Nat) : Nat → Cursor → Option (List (String × Value) × Cursor)
  | 0, _ => none
  | n + 1, c => do
    let (name, colon) ← memberName column c
    let start := colon.skip
    let (v, last) ←
      if start.atEnd then some (.null, start)
      else if start.line = c.line then block column true n start
      else if column < start.column then block column false n start
      else if start.column = column && start.atDash then
        (blockItems column n start).map fun (vs, last) => (.list vs, last)
      else some (.null, start)
    if last.atEnd || last.column < column then some ([(name, v)], last)
    else if last.column ≠ column || last.atDash then none
    else (blockMembers column n last).map fun (ms, last) => ((name, v) :: ms, last)

end

/-- Whether a line has nothing but blanks and a comment. -/
def isIdle (line : List Char) : Bool := (line.dropWhile (· = ' ')).head?.all (· = '#')

/-- Whether a line begins with three characters that mark the bounds of a document. -/
def isMark (mark : Char) (line : List Char) : Bool :=
  line.take 3 = [mark, mark, mark] && endsHere (line.drop 3)

/-- The lines of the only document. The mark in front of it is blanked out. -/
def document? (lines : List (List Char)) : Option (List (List Char)) :=
  let body :=
    match lines.dropWhile isIdle with
    | line :: rest => if isMark '-' line then (' ' :: ' ' :: ' ' :: line.drop 3) :: rest else lines
    | [] => []
  let isEnd (line : List Char) : Bool := isMark '-' line || isMark '.' line
  match body.dropWhile fun line => !isEnd line with
  | [] => some body
  | mark :: rest =>
    if isMark '.' mark && isIdle (mark.drop 3) && rest.all isIdle then
      some (body.takeWhile fun line => !isEnd line)
    else none

/-- Whether a character may stand in a YAML text. -/
def isAllowed (c : Char) : Bool :=
  let n := c.toNat
  n = 0x9 || n = 0xA || (0x20 ≤ n && n ≤ 0x7E) || n = 0x85 || (0xA0 ≤ n && n ≤ 0xD7FF)
    || (0xE000 ≤ n && n ≤ 0xFFFD) || 0x10000 ≤ n

/-- The characters with every line end written in one way. -/
def plainLineEnds : List Char → List Char
  | [] => []
  | '\r' :: '\n' :: rest => '\n' :: plainLineEnds rest
  | c :: rest => (if c = '\r' || c = '\u0085' then '\n' else c) :: plainLineEnds rest

/-- The value of a YAML text. None when it can not be read. -/
def read (s : String) : Option Value := do
  let cs := plainLineEnds s.toList
  let cs := if cs.head? = some '\ufeff' then cs.tail else cs
  if cs.all isAllowed then
    let lines ← document? (cs.splitOn '\n')
    let start := (Cursor.mk (['\n'].intercalate lines) 0 0).skip
    if start.atEnd then some .null
    else
      let (v, last) ← block (-1) false (start.rest.length + 1) start
      if last.atEnd then some v else none
  else none

end CallFlow.Yaml
