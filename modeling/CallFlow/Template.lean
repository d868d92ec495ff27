import CallFlow.Display
import CallFlow.Text.Word

namespace CallFlow

namespace Template

/-- A piece of a template. -/
inductive Piece where
  | char (c : Char)
  | placeholder (name : String)
  deriving Repr, DecidableEq

/-- The name and the characters after it, when a placeholder stands in front: a name of word
characters between two pairs of braces. -/
def placeholder? : List Char → Option (List Char × List Char)
  | '{' :: '{' :: cs =>
    match cs.takeWhile Text.isWord, cs.dropWhile Text.isWord with
    | [], _ => none
    | name, '}' :: '}' :: rest => some (name, rest)
    | _, _ => none
  | _ => none

/-- A placeholder takes characters away. -/
theorem length_lt_of_placeholder? {cs name rest : List Char}
    (h : placeholder? cs = some (name, rest)) : rest.length < cs.length := by
  unfold placeholder? at h
  split at h
  · rename_i cs
    have hle : (cs.dropWhile Text.isWord).length ≤ cs.length :=
      (List.dropWhile_sublist _).length_le
    split at h
    · cases h
    · rename_i hdrop _
      cases h
      rw [hdrop] at hle
      simp only [List.length_cons] at hle ⊢
      omega
    · cases h
  · cases h

/-- The pieces of a text, cut from left to right. -/
def pieces (cs : List Char) : List Piece :=
  match cs with
  | [] => []
  | c :: after =>
    match h : placeholder? (c :: after) with
    | some (name, rest) =>
      have : rest.length < after.length + 1 := length_lt_of_placeholder? h
      .placeholder (String.ofList name) :: pieces rest
    | none => .char c :: pieces after
termination_by cs.length

/-- The pieces of a template. -/
def parse (text : String) : List Piece := pieces text.toList

/-- The name of a placeholder. -/
def Piece.name? : Piece → Option String
  | .placeholder name => some name
  | .char _ => none

/-- The names a template refers to, in the order of its placeholders. -/
def names (text : String) : List String := (parse text).filterMap Piece.name?

/-- The characters that a piece is rendered as. A name that is not bound leaves nothing; there
are none for a value that can not be shown. -/
def Piece.render (scope : Bindings) : Piece → Option (List Char)
  | .char c => some [c]
  | .placeholder name => (scope.getD name).display.map String.toList

/-- A template with its placeholders replaced by the values bound to their names. Inserted values
are not looked at again. None when one of the values can not be shown. -/
def render (text : String) (scope : Bindings) : Option String :=
  ((parse text).mapM (Piece.render scope)).map fun parts => String.ofList parts.flatten

end Template

end CallFlow
