namespace CallFlow.Text

/-- Whether some characters occur one after the other in others. -/
def occursIn (part : List Char) : List Char → Bool
  | [] => part.isEmpty
  | c :: cs => part.isPrefixOf (c :: cs) || occursIn part cs

end CallFlow.Text
