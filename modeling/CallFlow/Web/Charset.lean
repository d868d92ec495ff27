import CallFlow.Text.Encoding

namespace CallFlow

/-- The encodings of JSON in bytes. -/
inductive Charset where
  | utf8
  /-- UTF-8 after a byte order mark. -/
  | utf8Marked
  /-- UTF-16 after a byte order mark. -/
  | utf16
  | utf16In (order : Text.ByteOrder)
  /-- UTF-32 after a byte order mark. -/
  | utf32
  | utf32In (order : Text.ByteOrder)
  deriving Repr, DecidableEq

namespace Charset

/-- The encoding of bytes that hold JSON, whose first characters are ASCII. -/
def ofJson (bytes : List UInt8) : Charset :=
  match bytes with
  | 0 :: 0 :: 0xFE :: 0xFF :: _ => utf32
  | 0xFF :: 0xFE :: 0 :: 0 :: _ => utf32
  | 0xFE :: 0xFF :: _ => utf16
  | 0xFF :: 0xFE :: _ => utf16
  | 0xEF :: 0xBB :: 0xBF :: _ => utf8Marked
  | a :: b :: c :: d :: _ =>
    if a = 0 then if b = 0 then utf32In .big else utf16In .big
    else if b = 0 then if c = 0 && d = 0 then utf32In .little else utf16In .little
    else utf8
  | [a, b] => if a = 0 then utf16In .big else if b = 0 then utf16In .little else utf8
  | _ => utf8

/-- What half of a surrogate pair is read as, which JSON lets pass. -/
def loneHalf : Option Char := some '\uFFFD'

/-- The characters of bytes. A mark that the encoding has is no character. -/
def decode (cs : Charset) (bytes : List UInt8) : Text.Decoded :=
  match cs with
  | utf8 => Text.Utf8.decode bytes loneHalf
  | utf8Marked => Text.Utf8.decode (bytes.drop 3) loneHalf
  | utf16 =>
    let order := if bytes.take 2 = [0xFE, 0xFF] then .big else .little
    Text.Utf16.decode order (bytes.drop 2) loneHalf
  | utf16In order => Text.Utf16.decode order bytes loneHalf
  | utf32 =>
    let order := if bytes.take 4 = [0, 0, 0xFE, 0xFF] then .big else .little
    Text.Utf32.decode order loneHalf (bytes.drop 4)
  | utf32In order => Text.Utf32.decode order loneHalf bytes

end Charset

end CallFlow
