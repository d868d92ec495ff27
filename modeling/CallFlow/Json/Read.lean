import CallFlow.Decimal
import CallFlow.Value

namespace CallFlow.Json

/-- Why a text is not read as JSON. -/
inductive ReadError where
  /-- The text is not JSON. -/
  | malformed
  /-- A whole number has more digits than are read. -/
  | numberTooLong
  /-- A list or an object stands inside too many others. -/
  | nestedTooDeep
  deriving Repr, DecidableEq

/-- The most digits of a whole number. -/
def maxDigits : Nat := 4300

/-- How many lists and objects can be open at once while a text is read or written: the calls
that can be nested, a thousand of them, less those around the reader or writer. -/
def maxNesting : Nat := 970

/-- The four blanks of JSON. -/
def isSpace (c : Char) : Bool := c = ' ' || c = '\t' || c = '\n' || c = '\r'

def skipSpace : List Char → List Char := List.dropWhile isSpace

def isAsciiDigit (c : Char) : Bool := '0' ≤ c && c ≤ '9'

/-- The value of a hexadecimal digit. -/
def hexValue? (c : Char) : Option Nat :=
  if isAsciiDigit c then some (c.toNat - 48)
  else if 'a' ≤ c && c ≤ 'f' then some (c.toNat - 87)
  else if 'A' ≤ c && c ≤ 'F' then some (c.toNat - 55)
  else none

/-- The unit that four hexadecimal digits in front stand for. -/
def readUnit? : List Char → Option (Nat × List Char)
  | a :: b :: c :: d :: rest => do
    let w ← hexValue? a
    let x ← hexValue? b
    let y ← hexValue? c
    let z ← hexValue? d
    some (((w * 16 + x) * 16 + y) * 16 + z, rest)
  | _ => none

/-- The character of an escape that is one letter long. -/
def escaped? : Char → Option Char
  | '"' => some '"'
  | '\\' => some '\\'
  | '/' => some '/'
  | 'b' => some '\x08'
  | 'f' => some '\x0c'
  | 'n' => some '\n'
  | 'r' => some '\r'
  | 't' => some '\t'
  | _ => none

/-- The character of the unit read first, together with the low half of a pair when one
follows. -/
def readPair (unit : Nat) (cs : List Char) : Char × List Char :=
  if 0xD800 ≤ unit && unit < 0xDC00 then
    match cs with
    | '\\' :: 'u' :: after =>
      match readUnit? after with
      | some (low, rest) =>
        if 0xDC00 ≤ low && low < 0xE000 then
          (Char.ofNat (0x10000 + (unit - 0xD800) * 0x400 + (low - 0xDC00)), rest)
        else ('\uFFFD', cs)
      | none => ('\uFFFD', cs)
    | _ => ('\uFFFD', cs)
  else if 0xDC00 ≤ unit && unit < 0xE000 then ('\uFFFD', cs)
  else (Char.ofNat unit, cs)

/-- The characters up to the closing quote, after the opening one. -/
def readQuoted : Nat → List Char → Option (List Char × List Char)
  | 0, _ => none
  | _ + 1, [] => none
  | _ + 1, '"' :: rest => some ([], rest)
  | n + 1, '\\' :: 'u' :: rest => do
    let (unit, rest) ← readUnit? rest
    let (c, rest) := readPair unit rest
    let (cs, rest) ← readQuoted n rest
    some (c :: cs, rest)
  | n + 1, '\\' :: e :: rest => do
    let c ← escaped? e
    let (cs, rest) ← readQuoted n rest
    some (c :: cs, rest)
  | n + 1, c :: rest =>
    if c.toNat < 32 || c = '\\' then none
    else do
      let (cs, rest) ← readQuoted n rest
      some (c :: cs, rest)

/-- A quoted text, after the opening quote. -/
def readText (cs : List Char) : Except ReadError (String × List Char) :=
  match readQuoted (cs.length + 1) cs with
  | some (s, rest) => .ok (String.ofList s, rest)
  | none => .error .malformed

/-- The number that ASCII digits stand for. -/
def digitsNat (cs : List Char) : Nat := cs.foldl (fun n c => 10 * n + (c.toNat - 48)) 0

/-- The digits of the part after the point, if a point and a digit follow. -/
def fractionPart : List Char → Option (List Char × List Char)
  | '.' :: rest =>
    match rest.takeWhile isAsciiDigit with
    | [] => none
    | ds => some (ds, rest.dropWhile isAsciiDigit)
  | _ => none

/-- The exponent, if its letter and a digit follow. -/
def exponentPart (cs : List Char) : Option (Int × List Char) :=
  match cs with
  | e :: rest =>
    if e = 'e' || e = 'E' then
      let (negative, rest) :=
        match rest with
        | '-' :: r => (true, r)
        | '+' :: r => (false, r)
        | r => (false, r)
      match rest.takeWhile isAsciiDigit with
      | [] => none
      | ds =>
        let n : Int := digitsNat ds
        some (if negative then -n else n, rest.dropWhile isAsciiDigit)
    else none
  | [] => none

/-- A number, after its sign. -/
def readUnsigned (negative : Bool) (cs : List Char) : Except ReadError (Value × List Char) :=
  let whole :=
    match cs with
    | '0' :: rest => some (['0'], rest)
    | _ =>
      match cs.takeWhile isAsciiDigit with
      | [] => none
      | ds => some (ds, cs.dropWhile isAsciiDigit)
  match whole with
  | none => .error .malformed
  | some (ds, rest) =>
    let fraction := fractionPart rest
    let rest := (fraction.map Prod.snd).getD rest
    let exponent := exponentPart rest
    match fraction, exponent with
    | none, none =>
      if maxDigits < ds.length then .error .numberTooLong
      else .ok (.int (if negative then -(digitsNat ds : Int) else digitsNat ds), rest)
    | _, _ =>
      let fs := (fraction.map Prod.fst).getD []
      let e := ((exponent.map Prod.fst).getD 0) - (fs.length : Int)
      let rest := (exponent.map Prod.snd).getD rest
      .ok (.float (Decimal.nearest negative ⟨digitsNat (ds ++ fs), e⟩), rest)

/-- The rest of a text that starts with a given word. -/
def afterWord? : List Char → List Char → Option (List Char)
  | [], cs => some cs
  | w :: ws, c :: cs => if w = c then afterWord? ws cs else none
  | _ :: _, [] => none

/-- The words that stand for values. -/
def words : List (String × Value) :=
  [("null", .null), ("true", .bool true), ("false", .bool false),
   ("NaN", .float (0 / 0)), ("Infinity", .float (1 / 0)), ("-Infinity", .float (-1 / 0))]

/-- A value that is neither text, list nor object. -/
def readScalar (cs : List Char) : Except ReadError (Value × List Char) :=
  match words.findSome? fun (w, v) => (afterWord? w.toList cs).map fun rest => (v, rest) with
  | some r => .ok r
  | none =>
    match cs with
    | '-' :: rest => readUnsigned true rest
    | _ => readUnsigned false cs

mutual

/-- A value, at the very front of the characters, and the characters after it. The first number
is fuel, which a text never runs out of; the second is the room that is left for nesting. -/
def readValue : Nat → Nat → List Char → Except ReadError (Value × List Char)
  | 0, _, _ => .error .malformed
  | n + 1, room, cs =>
    match cs with
    | '"' :: rest => do
      let (s, rest) ← readText rest
      .ok (.text s, rest)
    | '[' :: rest =>
      match room with
      | 0 => .error .nestedTooDeep
      | room + 1 =>
        match skipSpace rest with
        | ']' :: rest => .ok (.list [], rest)
        | rest => do
          let (items, rest) ← readItems n room rest
          .ok (.list items, rest)
    | '{' :: rest =>
      match room with
      | 0 => .error .nestedTooDeep
      | room + 1 =>
        match skipSpace rest with
        | '}' :: rest => .ok (.object [], rest)
        | rest => do
          let (members, rest) ← readMembers n room rest
          .ok (.object (Bindings.ofMembers members), rest)
    | cs => readScalar cs

/-- The items of a list up to its end, the list not being empty. -/
def readItems : Nat → Nat → List Char → Except ReadError (List Value × List Char)
  | 0, _, _ => .error .malformed
  | n + 1, room, cs => do
    let (v, rest) ← readValue n room cs
    match skipSpace rest with
    | ']' :: rest => .ok ([v], rest)
    | ',' :: rest =>
      let (vs, rest) ← readItems n room (skipSpace rest)
      .ok (v :: vs, rest)
    | _ => .error .malformed

/-- The members of an object up to its end, the object not being empty. -/
def readMembers : Nat → Nat → List Char → Except ReadError (List (String × Value) × List Char)
  | 0, _, _ => .error .malformed
  | n + 1, room, cs =>
    match cs with
    | '"' :: rest => do
      let (name, rest) ← readText rest
      match skipSpace rest with
      | ':' :: rest =>
        let (v, rest) ← readValue n room (skipSpace rest)
        match skipSpace rest with
        | '}' :: rest => .ok ([(name, v)], rest)
        | ',' :: rest =>
          let (ms, rest) ← readMembers n room (skipSpace rest)
          .ok ((name, v) :: ms, rest)
        | _ => .error .malformed
      | _ => .error .malformed
    | _ => .error .malformed

end

/-- The value of a JSON text, blanks around it allowed, with so much room for nesting. -/
def readChars (room : Nat) (cs : List Char) : Except ReadError Value := do
  let (v, rest) ← readValue (2 * cs.length + 2) room (skipSpace cs)
  if (skipSpace rest).isEmpty then .ok v else .error .malformed

/-- The value of a JSON text. Beside the standard the names `NaN`, `Infinity` and `-Infinity` are
known. A number with a point or an exponent is a floating-point number, infinite beyond their
range; any other is a whole number. Of members with one name the last value counts. Half of a
surrogate pair that stands alone reads as the replacement character. -/
def read (s : String) : Except ReadError Value := readChars maxNesting s.toList

end CallFlow.Json
