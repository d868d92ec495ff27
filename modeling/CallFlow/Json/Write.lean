import CallFlow.Json.Read

namespace CallFlow.Json

/-- The four hexadecimal digits of a UTF-16 unit. -/
def unitDigits (n : Nat) : List Char :=
  [n / 4096 % 16, n / 256 % 16, n / 16 % 16, n % 16].map Nat.digitChar

/-- A UTF-16 unit as an escape. -/
def escapeUnit (n : Nat) : List Char := '\\' :: 'u' :: unitDigits n

/-- A character inside a quoted text. Characters that are not printable ASCII become escapes,
those beyond sixteen bits a pair of them. -/
def escapeChar (c : Char) : List Char :=
  if c = '"' then ['\\', '"']
  else if c = '\\' then ['\\', '\\']
  else if c = '\n' then ['\\', 'n']
  else if c = '\r' then ['\\', 'r']
  else if c = '\t' then ['\\', 't']
  else if c.toNat = 8 then ['\\', 'b']
  else if c.toNat = 12 then ['\\', 'f']
  else if 32 ≤ c.toNat && c.toNat < 127 then [c]
  else if c.toNat < 0x10000 then escapeUnit c.toNat
  else
    let n := c.toNat - 0x10000
    escapeUnit (0xD800 + n / 0x400) ++ escapeUnit (0xDC00 + n % 0x400)

/-- A text in quotes. -/
def quote (s : String) : String :=
  "\"" ++ String.ofList (s.toList.flatMap escapeChar) ++ "\""

mutual

/-- The JSON text of a value: a blank after each comma and colon, members in their order, ASCII
characters only, and the names `NaN`, `Infinity` and `-Infinity` for the numbers without digits.
Whether the text can be written at all is left to `isWritable`. -/
def write : Value → String
  | .null => "null"
  | .bool true => "true"
  | .bool false => "false"
  | .int i => toString i
  | .float x => Decimal.json.text x
  | .text s => quote s
  | .list items => "[" ++ ", ".intercalate (writeItems items) ++ "]"
  | .object members => "\x7b" ++ ", ".intercalate (writeMembers members) ++ "\x7d"

/-- The JSON texts of values. -/
def writeItems : List Value → List String
  | [] => []
  | v :: rest => write v :: writeItems rest

/-- The JSON texts of members, name and value. -/
def writeMembers : List (String × Value) → List String
  | [] => []
  | (name, v) :: rest => (quote name ++ ": " ++ write v) :: writeMembers rest

end

mutual

/-- Whether a value can be written where there is so much room for nesting: it is no deeper, and
no whole number in it has more digits than are read. -/
def isWritable (room : Nat) : Value → Bool
  | .int i => Decimal.digitCount i.natAbs ≤ maxDigits
  | .list items => 0 < room && areWritable (room - 1) items
  | .object members => 0 < room && membersAreWritable (room - 1) members
  | .null | .bool _ | .float _ | .text _ => true

/-- Whether all of some values can be written. -/
def areWritable (room : Nat) : List Value → Bool
  | [] => true
  | v :: rest => isWritable room v && areWritable room rest

/-- Whether the values of all members can be written. -/
def membersAreWritable (room : Nat) : List (String × Value) → Bool
  | [] => true
  | (_, v) :: rest => isWritable room v && membersAreWritable room rest

end

mutual

/-- Whether all numbers of a value have digits, as the standard wants them to. -/
def isStandard : Value → Bool
  | .float x => x.isFinite
  | .list items => areStandard items
  | .object members => membersAreStandard members
  | .null | .bool _ | .int _ | .text _ => true

/-- Whether all numbers of some values have digits. -/
def areStandard : List Value → Bool
  | [] => true
  | v :: rest => isStandard v && areStandard rest

/-- Whether all numbers of the values of members have digits. -/
def membersAreStandard : List (String × Value) → Bool
  | [] => true
  | (_, v) :: rest => isStandard v && membersAreStandard rest

end

/-- The JSON text of a value, none when it can not be written. -/
def write? (v : Value) : Option String := if isWritable maxNesting v then some (write v) else none

end CallFlow.Json
