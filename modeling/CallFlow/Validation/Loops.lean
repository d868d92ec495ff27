import CallFlow.Validation.Problem

namespace CallFlow

namespace Flow

/-- A node of the path and those of its successors that are still to be looked at. -/
abbrev Frame := String × List String

/-- The work left on a stack. -/
def work (stack : List Frame) : Nat := stack.foldr (fun f n => f.2.length + 1 + n) 0

/-- Searches on from a stack. It gives the nodes that are still fresh in the end, and those found
to close a loop, the latest first. -/
def searchLoops (next : String → List String) (fresh : List String) (stack : List Frame)
    (found : List String) : List String × List String :=
  match stack with
  | [] => (fresh, found)
  | (_, []) :: rest => searchLoops next fresh rest found
  | (id, child :: children) :: rest =>
    if ((id, children) :: rest).any fun f => f.1 = child then
      searchLoops next fresh ((id, children) :: rest)
        (if found.contains child then found else child :: found)
    else if child ∈ fresh then
      searchLoops next (fresh.erase child) ((child, next child) :: (id, children) :: rest) found
    else searchLoops next fresh ((id, children) :: rest) found
termination_by (fresh.length, work stack)
decreasing_by
  · exact Prod.Lex.right _ (by simp [work])
  · exact Prod.Lex.right _ (by simp [work])
  · apply Prod.Lex.left
    rw [List.length_erase_of_mem ‹_›]
    exact Nat.sub_lt (List.length_pos_of_mem ‹_›) Nat.one_pos
  · exact Prod.Lex.right _ (by simp [work])

/-- Searches from each root that is still fresh. -/
def searchFrom (next : String → List String) :
    List String → List String → List String → List String
  | [], _, found => found.reverse
  | root :: roots, fresh, found =>
    if fresh.contains root then
      let (fresh, found) := searchLoops next (fresh.erase root) [(root, next root)] found
      searchFrom next roots fresh found
    else searchFrom next roots fresh found

variable (flow : Flow)

/-- The ids of silent nodes, each once. -/
def silentIds : List String :=
  ((flow.nodes.filter fun n => n.config.isSilent).map Node.id).eraseDups

/-- The silent nodes that follow a silent node. -/
def silentNext (id : String) : List String :=
  ((flow.outgoing id).map Edge.target).filter fun t => flow.silentIds.contains t

/-- The nodes found to close a loop of silent nodes when the search begins at the silent nodes in
the given order. -/
def silentLoops (order : List String) : List String :=
  searchFrom flow.silentNext order order []

/-- The warnings about loops when the search begins at the silent nodes in the given order. -/
def checkLoopsIn (order : List String) : Report :=
  { warnings := (flow.silentLoops order).map .silentLoop }

end Flow

end CallFlow
