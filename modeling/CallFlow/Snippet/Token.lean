namespace CallFlow.Snippet

/-- How the body of a quoted text is to be read. -/
structure Quoting where
  bytes : Bool := false
  raw : Bool := false
  /-- Expressions stand between braces. -/
  interpolated : Bool := false
  deriving Repr, DecidableEq

/-- The tokens of snippets. A snippet is laid out in lines; the beginning and the end of an
indented block are tokens of their own. -/
inductive Token where
  /-- A name or a keyword. -/
  | word (text : String)
  /-- A name that is spelled with letters of other alphabets, in plain letters. It is no keyword,
  even if it looks like one then. -/
  | name (text : String)
  | number (imaginary : Bool)
  | quoted (quoting : Quoting) (body : List Char)
  | sign (text : String)
  | newline
  | indent
  | dedent
  deriving Repr, DecidableEq

namespace Token

/-- The words that are no names. -/
def keywords : List String :=
  ["False", "None", "True", "and", "as", "assert", "async", "await", "break", "class", "continue",
   "def", "del", "elif", "else", "except", "finally", "for", "from", "global", "if", "import",
   "in", "is", "lambda", "nonlocal", "not", "or", "pass", "raise", "return", "try", "while",
   "with", "yield"]

/-- The signs, a longer one before its beginning. -/
def signs : List String :=
  ["**=", "//=", "<<=", ">>=", "...", "**", "//", "<<", ">>", "<=", ">=", "==", "!=", "->", "+=",
   "-=", "*=", "/=", "%=", "&=", "|=", "^=", "@=", ":=", "(", ")", "[", "]", "\x7b", "\x7d", ",",
   ":", ";", ".", "+", "-", "*", "/", "%", "&", "|", "^", "~", "<", ">", "=", "@"]

end Token

end CallFlow.Snippet
