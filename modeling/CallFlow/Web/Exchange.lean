import CallFlow.Amount

namespace CallFlow

/-- Names and values of headers in order. -/
abbrev Headers := List (String × String)

/-- A request over HTTP. -/
structure HttpRequest where
  method : String
  url : String
  headers : Headers
  content : Option String
  /-- Seconds. -/
  timeout : Amount
  deriving Repr, DecidableEq

/-- A response over HTTP. -/
structure HttpResponse where
  status : Int := 200
  headers : Headers := []
  body : List UInt8 := []
  /-- The text that the client makes of the body, by the character set that the content type
  names. None when it has no way to: the name may be one of a codec for something else than text,
  and bytes in UTF-16 or UTF-32 may lack the mark that tells their order. -/
  text : Option String := some ""
  deriving Repr, DecidableEq

/-- What comes of an attempt. -/
inductive HttpReply where
  /-- The connection could not be made. -/
  | unconnected (message : String)
  /-- The time was over before a response came. A request without a time limit that is never
  answered has no reply, not this one. -/
  | timedOut
  | failed (message : String)
  | response (r : HttpResponse)
  deriving Repr, DecidableEq

namespace Headers

/-- The values of the headers of a name, which is written in small letters; the case in which
they are written does not matter. -/
def valuesOf (hs : Headers) (name : String) : List String :=
  (hs.filter fun h => h.1.toList.map Char.toLower = name.toList).map Prod.snd

/-- Whether there is a header of a name. -/
def names (hs : Headers) (name : String) : Bool := !(hs.valuesOf name).isEmpty

end Headers

end CallFlow
