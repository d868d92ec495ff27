import CallFlow.Text.Word
import CallFlow.Value

namespace CallFlow

/-- Names of variables and their values. -/
abbrev Environment := List (String × String)

namespace Environment

/-- The value of a variable. -/
def get? (env : Environment) (name : String) : Option String := List.lookup name env

/-- What begins a reference. -/
def opening : List Char := ['$', '{']

/-- The name and the characters after it, when a reference stands in front. -/
def reference? : List Char → Option (List Char × List Char)
  | '$' :: '{' :: cs =>
    match cs.takeWhile Text.isWord, cs.dropWhile Text.isWord with
    | [], _ => none
    | name, '}' :: rest => some (name, rest)
    | _, _ => none
  | _ => none

/-- A reference takes characters away. -/
theorem length_lt_of_reference? {cs name rest : List Char}
    (h : reference? cs = some (name, rest)) : rest.length < cs.length := by
  unfold reference? at h
  split at h
  · rename_i cs
    have hle : (cs.dropWhile Text.isWord).length ≤ cs.length :=
      (List.dropWhile_sublist _).length_le
    split at h
    · cases h
    · rename_i hdrop _
      cases h
      rw [hdrop] at hle
      simp only [List.length_cons] at hle ⊢
      omega
    · cases h
  · cases h

/-- What a reference stands for. -/
def expansion (env : Environment) (name : List Char) : List Char :=
  match env.get? (String.ofList name) with
  | some v => v.toList
  | none => opening ++ name ++ ['}']

/-- Characters with the references among them replaced. A reference to a variable that is not there
stays as it is, and what is put in place of one is not looked at again. -/
def expandChars (env : Environment) (cs : List Char) : List Char :=
  match cs with
  | [] => []
  | c :: after =>
    match h : reference? (c :: after) with
    | some (name, rest) =>
      have : rest.length < after.length + 1 := length_lt_of_reference? h
      env.expansion name ++ expandChars env rest
    | none => c :: expandChars env after
termination_by cs.length

/-- A text with its references replaced. -/
def expandText (env : Environment) (s : String) : String :=
  String.ofList (env.expandChars s.toList)

mutual

/-- A value with the references in all of its texts replaced. The names of members stay. -/
def expand (env : Environment) : Value → Value
  | .text s => .text (env.expandText s)
  | .list items => .list (expandItems env items)
  | .object members => .object (expandMembers env members)
  | v => v

@[inherit_doc expand]
def expandItems (env : Environment) : List Value → List Value
  | [] => []
  | v :: rest => expand env v :: expandItems env rest

@[inherit_doc expand]
def expandMembers (env : Environment) : List (String × Value) → List (String × Value)
  | [] => []
  | (name, v) :: rest => (name, expand env v) :: expandMembers env rest

end

end Environment

end CallFlow
