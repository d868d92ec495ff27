namespace CallFlow.Text

/-- What a decoder makes of bytes: characters, and none for each malformed spot. -/
abbrev Decoded := List (Option Char)

/-- Whether a number is half of a surrogate pair. -/
def isSurrogate (n : Nat) : Bool := 0xD800 ≤ n && n < 0xE000

/-- The character of a number. Half of a surrogate pair is none, but some decoders let it pass as
another character. -/
def charOf? (half : Option Char) (n : Nat) : Option Char :=
  if n.isValidChar then some (Char.ofNat n) else if isSurrogate n then half else none

namespace Utf8

/-- A decoder between two characters or inside of one: the bytes still to come, the bits so far,
and the range in which the next byte must lie. -/
inductive State where
  | idle
  | inside (missing bits low high : Nat)

/-- What the first byte of a character leads to. -/
def begin (half : Option Char) (b : Nat) : Decoded × State :=
  if b < 0x80 then ([charOf? half b], .idle)
  else if 0xC2 ≤ b && b ≤ 0xDF then ([], .inside 1 (b % 0x20) 0x80 0xBF)
  else if b = 0xE0 then ([], .inside 2 0 0xA0 0xBF)
  else if b = 0xED then ([], .inside 2 0xD 0x80 (if half.isSome then 0xBF else 0x9F))
  else if 0xE1 ≤ b && b ≤ 0xEF then ([], .inside 2 (b % 0x10) 0x80 0xBF)
  else if b = 0xF0 then ([], .inside 3 0 0x90 0xBF)
  else if 0xF1 ≤ b && b ≤ 0xF3 then ([], .inside 3 (b % 8) 0x80 0xBF)
  else if b = 0xF4 then ([], .inside 3 4 0x80 0x8F)
  else ([none], .idle)

/-- What one more byte leads to. A byte that can not go on with a character begins a new one. -/
def step (half : Option Char) (s : State) (b : Nat) : Decoded × State :=
  match s with
  | .idle => begin half b
  | .inside missing bits low high =>
    if low ≤ b && b ≤ high then
      let bits := bits * 0x40 + b % 0x40
      if missing = 1 then ([charOf? half bits], .idle)
      else ([], .inside (missing - 1) bits 0x80 0xBF)
    else
      let (out, s) := begin half b
      (none :: out, s)

/-- Decodes on from a state. -/
def decodeFrom (half : Option Char) : State → List UInt8 → Decoded
  | .idle, [] => []
  | .inside .., [] => [none]
  | s, b :: rest =>
    let (out, s) := step half s b.toNat
    out ++ decodeFrom half s rest

/-- The characters of bytes in UTF-8. -/
def decode (bytes : List UInt8) (half : Option Char := none) : Decoded :=
  decodeFrom half .idle bytes

end Utf8

/-- The order of the bytes of a unit. -/
inductive ByteOrder where
  | little
  | big
  deriving Repr, DecidableEq

namespace Utf16

/-- The unit of two bytes. -/
def unit (order : ByteOrder) (a b : UInt8) : Nat :=
  match order with
  | .little => a.toNat + 0x100 * b.toNat
  | .big => 0x100 * a.toNat + b.toNat

/-- The units of bytes, and whether a byte is left over. -/
def units (order : ByteOrder) : List UInt8 → List Nat × Bool
  | a :: b :: rest =>
    let (us, leftover) := units order rest
    (unit order a b :: us, leftover)
  | [_] => ([], true)
  | [] => ([], false)

/-- The characters of units. Two surrogates in their order make one character. -/
def join (half : Option Char) : List Nat → Decoded
  | [] => []
  | [u] => [charOf? half u]
  | u :: v :: rest =>
    if 0xD800 ≤ u && u ≤ 0xDBFF && 0xDC00 ≤ v && v ≤ 0xDFFF then
      charOf? half (0x10000 + (u - 0xD800) * 0x400 + (v - 0xDC00)) :: join half rest
    else charOf? half u :: join half (v :: rest)

/-- The characters of bytes in UTF-16. -/
def decode (order : ByteOrder) (bytes : List UInt8) (half : Option Char := none) : Decoded :=
  let (us, leftover) := units order bytes
  join half us ++ if leftover then [none] else []

end Utf16

namespace Utf32

/-- The characters of bytes in UTF-32. -/
def decode (order : ByteOrder) (half : Option Char := none) : List UInt8 → Decoded
  | a :: b :: c :: d :: rest =>
    let n :=
      match order with
      | .little => Utf16.unit .little a b + 0x10000 * Utf16.unit .little c d
      | .big => 0x10000 * Utf16.unit .big a b + Utf16.unit .big c d
    charOf? half n :: decode order half rest
  | [] => []
  | _ => [none]

end Utf32

/-- The text, leniently read: with a replacement character for each malformed spot. -/
def lenient (d : Decoded) : String := String.ofList (d.map (Option.getD · '\uFFFD'))

/-- The text, strictly read: none if there is a malformed spot. -/
def strict? (d : Decoded) : Option String := (d.mapM id).map String.ofList

end CallFlow.Text
