import CallFlow.Text.Encoding

namespace CallFlow.Snippet.Quoted

/-- The value of a digit in base sixteen. -/
def hexValue? (c : Char) : Option Nat :=
  if c.isDigit then some (c.toNat - '0'.toNat)
  else if 'a' ≤ c && c ≤ 'f' then some (c.toNat - 'a'.toNat + 10)
  else if 'A' ≤ c && c ≤ 'F' then some (c.toNat - 'A'.toNat + 10)
  else none

/-- The number of so many digits in base sixteen, and the characters after them. -/
def hexNumber (acc : Nat) : Nat → List Char → Option (Nat × List Char)
  | 0, cs => some (acc, cs)
  | _ + 1, [] => none
  | k + 1, c :: cs => (hexValue? c).bind fun d => hexNumber (acc * 16 + d) k cs

/-- The number of so many digits in base eight at most, and the characters after them. -/
def octalNumber (acc : Nat) : Nat → List Char → Nat × List Char
  | k + 1, c :: cs =>
    if '0' ≤ c && c ≤ '7' then octalNumber (acc * 8 + (c.toNat - '0'.toNat)) k cs
    else (acc, c :: cs)
  | _, cs => (acc, cs)

/-- The character of a number; half of a surrogate pair is shown as a replacement. -/
def character (n : Nat) : Option Char :=
  if n < 0x110000 then some ((Text.charOf? none n).getD '\uFFFD') else none

/-- A character by its name. Of the names only that of the underscore matters here. -/
def namedCharacter (name : List Char) : Option Char :=
  if name.map Char.toUpper = "LOW LINE".toList then some '_'
  else if name.isEmpty || !name.all fun c => c.isAlphanum || c = ' ' || c = '-' then none
  else some '\uFFFD'

/-- The escapes of one letter. -/
def simpleEscapes : List (Char × Char) :=
  [('\\', '\\'), ('\'', '\''), ('"', '"'), ('a', '\x07'), ('b', '\x08'), ('f', '\x0c'),
   ('n', '\n'), ('r', '\r'), ('t', '\t'), ('v', '\x0b')]

/-- What stands for an escape whose backslash was read, and the characters after it. -/
def escape (bytes : Bool) (c : Char) (cs : List Char) : Option (List Char × List Char) :=
  match simpleEscapes.lookup c with
  | some e => some ([e], cs)
  | none =>
    if c = '\n' then some ([], cs)
    else if '0' ≤ c && c ≤ '7' then
      let (n, rest) := octalNumber 0 3 (c :: cs)
      (character n).map fun e => ([e], rest)
    else if c = 'x' then do
      let (n, rest) ← hexNumber 0 2 cs
      return ([← character n], rest)
    else if bytes then some (['\\', c], cs)
    else if c = 'u' then do
      let (n, rest) ← hexNumber 0 4 cs
      return ([← character n], rest)
    else if c = 'U' then do
      let (n, rest) ← hexNumber 0 8 cs
      return ([← character n], rest)
    else if c = 'N' then
      match cs with
      | '{' :: rest =>
        match rest.dropWhile (· ≠ '}') with
        | _ :: after => (namedCharacter (rest.takeWhile (· ≠ '}'))).map fun e => ([e], after)
        | [] => none
      | _ => none
    else some (['\\', c], cs)

/-- The characters that a body stands for. -/
def unescape (bytes : Bool) : (fuel : Nat) → List Char → Option (List Char)
  | 0, _ => some []
  | _ + 1, [] => some []
  | fuel + 1, '\\' :: c :: cs => do
    let (out, rest) ← escape bytes c cs
    return out ++ (← unescape bytes fuel rest)
  | fuel + 1, c :: cs => (unescape bytes fuel cs).map (c :: ·)

/-- The text of a body. -/
def decode (bytes raw : Bool) (body : List Char) : Option String :=
  if bytes && !body.all (·.toNat < 128) then none
  else if raw then some (String.ofList body)
  else (unescape bytes (body.length + 1) body).map String.ofList

end CallFlow.Snippet.Quoted
