namespace CallFlow.Snippet

/-- The kinds of the nodes of a syntax tree. Operators and the uses of a name (read, set, delete)
are not recorded. -/
inductive Kind where
  | functionDefinition
  | classDefinition
  | returnStatement
  | deleteStatement
  | assignment
  | augmentedAssignment
  | annotatedAssignment
  | forLoop
  | whileLoop
  | ifStatement
  | withStatement
  | withItem
  | matchStatement
  | matchCase
  | raiseStatement
  | tryStatement
  | handler
  | assertStatement
  | importStatement
  | importFrom
  | alias
  | global
  | nonlocal
  | expressionStatement
  | passStatement
  | breakStatement
  | continueStatement
  | booleanOperation
  | namedExpression
  | binaryOperation
  | unaryOperation
  | lambda
  | conditional
  | dictionary
  | set
  | listComprehension
  | setComprehension
  | dictionaryComprehension
  | generator
  | comprehension
  | await
  | yield
  | yieldFrom
  | comparison
  | call
  | keyword
  | formatted
  | interpolated
  | constant
  | member
  | subscript
  | starred
  | name
  | list
  | tuple
  | slice
  | parameters
  | parameter
  | valuePattern
  | singletonPattern
  | sequencePattern
  | mappingPattern
  | classPattern
  | starPattern
  | asPattern
  | orPattern
  deriving Repr, DecidableEq

/-- A node of a syntax tree: its kind, the identifiers that it carries itself, the text of a quoted
constant, and its parts in a fixed order for each kind. -/
inductive Node where
  | mk (kind : Kind) (identifiers : List String) (text : Option String) (children : List Node)
  deriving Repr

namespace Node

def kind : Node → Kind
  | mk k _ _ _ => k

/-- The identifiers that the node carries itself. -/
def identifiers : Node → List String
  | mk _ is _ _ => is

/-- The text of a quoted constant. -/
def text : Node → Option String
  | mk _ _ t _ => t

def children : Node → List Node
  | mk _ _ _ cs => cs

/-- A node without identifiers. -/
def of (kind : Kind) (children : List Node := []) : Node := mk kind [] none children

/-- A node that carries identifiers. -/
def named (kind : Kind) (identifiers : List String) (children : List Node := []) : Node :=
  mk kind identifiers none children

mutual

/-- The number of nodes of a tree. -/
def size : Node → Nat
  | mk _ _ _ cs => 1 + sizes cs

/-- The number of nodes of several trees. -/
def sizes : List Node → Nat
  | [] => 0
  | n :: rest => size n + sizes rest

end

/-- A tree has one node more than its parts. -/
theorem size_eq (n : Node) : n.size = 1 + sizes n.children := by
  cases n with
  | mk _ _ _ cs => rw [size, children]

/-- Trees are counted one after the other. -/
theorem sizes_append (a b : List Node) : sizes (a ++ b) = sizes a + sizes b := by
  induction a with
  | nil => simp [sizes]
  | cons n rest ih => simp [sizes, ih, Nat.add_assoc]

/-- The parts of trees are all their nodes but the roots. -/
theorem sizes_children (ns : List Node) : sizes (ns.flatMap children) + ns.length = sizes ns := by
  induction ns with
  | nil => simp [sizes]
  | cons n rest ih =>
    simp only [List.flatMap_cons, sizes_append, sizes, size_eq, List.length_cons]
    omega

/-- The nodes of trees, all of one level before those of the next. -/
def breadthFirst (ns : List Node) : List Node :=
  match ns with
  | [] => []
  | n :: rest => (n :: rest) ++ breadthFirst ((n :: rest).flatMap children)
termination_by sizes ns
decreasing_by
  have := sizes_children (n :: rest)
  simp only [List.length_cons] at this
  omega

end Node

end CallFlow.Snippet
