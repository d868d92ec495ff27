import CallFlow.Json.Write
import CallFlow.Text.Printed

namespace CallFlow.Literal

/-- The last digits of a number in base sixteen, so many of them. -/
def hexDigits : Nat → Nat → List Char
  | 0, _ => []
  | k + 1, n => hexDigits k (n / 16) ++ [Nat.digitChar (n % 16)]

/-- A character inside quotes. What would not be seen becomes an escape. -/
def escape (quote c : Char) : List Char :=
  if c = quote || c = '\\' then ['\\', c]
  else if c = '\n' then ['\\', 'n']
  else if c = '\r' then ['\\', 'r']
  else if c = '\t' then ['\\', 't']
  else if Text.isPrinted c then [c]
  else if c.toNat < 0x100 then '\\' :: 'x' :: hexDigits 2 c.toNat
  else if c.toNat < 0x10000 then '\\' :: 'u' :: hexDigits 4 c.toNat
  else '\\' :: 'U' :: hexDigits 8 c.toNat

/-- A text in quotes, single ones unless it holds some and no double ones. -/
def quote (s : String) : String :=
  let cs := s.toList
  let q := if cs.contains '\'' && !cs.contains '"' then '"' else '\''
  String.ofList (q :: cs.flatMap (escape q) ++ [q])

mutual

/-- The literal of a value: how a value that is no text is shown where a text is expected. -/
def write : Value → String
  | .null => "None"
  | .bool true => "True"
  | .bool false => "False"
  | .int i => toString i
  | .float x => Decimal.floatText x
  | .text s => quote s
  | .list items => "[" ++ ", ".intercalate (writeItems items) ++ "]"
  | .object members => "\x7b" ++ ", ".intercalate (writeMembers members) ++ "\x7d"

/-- The literals of values. -/
def writeItems : List Value → List String
  | [] => []
  | v :: rest => write v :: writeItems rest

/-- The literals of members, name and value. -/
def writeMembers : List (String × Value) → List String
  | [] => []
  | (name, v) :: rest => (quote name ++ ": " ++ write v) :: writeMembers rest

end

/-- A value in running text: a text as it is, any other value as its literal. -/
def inText : Value → String
  | .text s => s
  | v => write v

/-- A value in running text, none when it can not be written. -/
def inText? (v : Value) : Option String :=
  if Json.isWritable Json.maxNesting v then some (inText v) else none

end CallFlow.Literal
