import CallFlow.Proofs.Condition.Operators
import CallFlow.Proofs.Snippet.Enclosure
import CallFlow.Sandbox.Run

namespace CallFlow.Snippet

namespace Node

/-- A node is one of the parts of another, or a part of such a part, and so on. -/
def Below : Node → Node → Prop := Relation.TransGen fun part whole => part ∈ whole.children

/-- What a snippet must not do. -/
inductive Offends (n : Node) : Prop where
  /-- Import something, or reach for the names of another scope. -/
  | statement (h : n.kind = .importStatement ∨ n.kind = .importFrom ∨ n.kind = .global ∨
      n.kind = .nonlocal)
  /-- Ask for a member through which frames and code are reached. -/
  | member (h : n.kind = .member) {name : String} (hname : name ∈ n.identifiers)
      (hforbidden : name ∈ forbiddenMembers)
  /-- Carry an identifier that begins with an underscore. -/
  | identifier {name : String} (hname : name ∈ n.identifiers) (h : ['_'] <+: name.toList)
  /-- Be a text with two underscores side by side. -/
  | dunder {text : String} (htext : n.text = some text) (h : ['_', '_'] <:+: text.toList)

/-- The nodes listed are those below the roots. -/
theorem mem_breadthFirst {n : Node} {ns : List Node} : n ∈ breadthFirst ns ↔
    ∃ m ∈ ns, Relation.ReflTransGen (fun part whole => part ∈ whole.children) n m := by
  fun_induction breadthFirst ns with
  | case1 => simp
  | case2 m rest ih =>
    rw [List.mem_append, ih]
    constructor
    · rintro (hmem | ⟨part, hpart, hreach⟩)
      · exact ⟨n, hmem, .refl⟩
      · obtain ⟨whole, hwhole, hchild⟩ := List.mem_flatMap.1 hpart
        exact ⟨whole, hwhole, hreach.tail hchild⟩
    · rintro ⟨whole, hwhole, hreach⟩
      obtain rfl | ⟨part, hreach, hchild⟩ := hreach.cases_tail
      · exact Or.inl hwhole
      · exact Or.inr ⟨part, List.mem_flatMap.2 ⟨whole, hwhole, hchild⟩, hreach⟩

/-- The nodes that are looked at are those below the function. -/
theorem mem_descendants {n whole : Node} : n ∈ whole.descendants ↔ n.Below whole := by
  rw [descendants, mem_breadthFirst, Below, Relation.TransGen.tail'_iff]
  exact exists_congr fun m => and_comm

theorem forbidden?_eq_none_iff {k : Kind} : k.forbidden? = none ↔
    ¬(k = .importStatement ∨ k = .importFrom ∨ k = .global ∨ k = .nonlocal) := by
  cases k <;> simp [Kind.forbidden?]

theorem forbiddenMember?_eq_none_iff {n : Node} : n.forbiddenMember? = none ↔
    ∀ name ∈ n.identifiers, ¬(n.kind = .member ∧ name ∈ forbiddenMembers) := by
  rw [forbiddenMember?]
  split
  · rename_i hkind
    simp [hkind]
  · rename_i hkind
    simp [hkind]

theorem hiddenName?_eq_none_iff {n : Node} : n.hiddenName? = none ↔
    ∀ name ∈ n.identifiers, ¬['_'] <+: name.toList := by
  rw [hiddenName?, List.find?_eq_none]
  refine forall₂_congr fun name _ => ?_
  rw [decide_eq_true_eq]
  cases name.toList with
  | nil => simp
  | cons c cs => simp [List.cons_prefix_cons, eq_comm]

theorem hasDunder_iff {n : Node} : n.hasDunder = true ↔
    ∃ text, n.text = some text ∧ ['_', '_'] <:+: text.toList := by
  rw [hasDunder]
  cases n.text <;> simp [Text.occursIn_iff]

/-- A node has no offence exactly when it does nothing of what it must not do. -/
theorem offence?_eq_none_iff {n : Node} : n.offence? = none ↔ ¬n.Offends := by
  have hcases : n.offence? = none ↔ n.kind.forbidden? = none ∧ n.forbiddenMember? = none ∧
      n.hiddenName? = none ∧ ¬n.hasDunder = true := by
    rw [offence?]
    cases n.kind.forbidden? <;> cases n.forbiddenMember? <;> cases n.hiddenName? <;> simp
  rw [hcases, forbidden?_eq_none_iff, forbiddenMember?_eq_none_iff, hiddenName?_eq_none_iff,
    hasDunder_iff]
  constructor
  · rintro ⟨hstatement, hmember, hidentifier, htext⟩ hoffends
    cases hoffends with
    | statement h => exact hstatement h
    | member h hname hforbidden => exact hmember _ hname ⟨h, hforbidden⟩
    | identifier hname h => exact hidentifier _ hname h
    | dunder h hdunder => exact htext ⟨_, h, hdunder⟩
  · intro h
    refine ⟨fun hstatement => h (.statement hstatement), ?_, ?_, ?_⟩
    · exact fun name hname hmember => h (.member hmember.1 hname hmember.2)
    · exact fun name hname hidentifier => h (.identifier hname hidentifier)
    · exact fun ⟨_, htext, hdunder⟩ => h (.dunder htext hdunder)

end Node

/-- A snippet passes exactly if no node below its function offends. -/
theorem check_eq_ok_iff {source : String} {reader : Reader} {function : Node}
    (h : tree? source reader = some function) :
    check source reader = .ok () ↔ ∀ n : Node, n.Below function → ¬n.Offends := by
  have hnone : function.descendants.findSome? Node.offence? = none ↔
      ∀ n : Node, n.Below function → ¬n.Offends := by
    simp only [List.findSome?_eq_none_iff, Node.mem_descendants, Node.offence?_eq_none_iff]
  rw [← hnone, check, h]
  dsimp only
  cases function.descendants.findSome? Node.offence? <;> simp

/-- The check inspects everything, whatever reads the snippet. One that can be read passes exactly
when no node below its function does what a snippet must not do, and for one that does not pass no
child is started, nor anything else asked of the world. Read by the grammar, a snippet is its
function and nothing besides. -/
theorem check_inspects (source : String) (reader : Reader) :
    (∀ function more, reader (wrap source).toList = some (function :: more) →
      (check source reader = .ok () ↔ ∀ n : Node, n.Below function → ¬n.Offends)) ∧
    (∀ refusal, check source reader = .error refusal → ∀ s inputs timeout,
      Sandbox.run s source inputs timeout reader = .done .null) ∧
    ∀ ns, parse? (wrap source).toList = some ns → ∃ body, ns = [flowFunction body] := by
  refine ⟨fun function more hread => check_eq_ok_iff ?_, fun refusal hcheck s inputs timeout => ?_,
    fun ns hparse => exists_of_parse?_wrap hparse⟩
  · rw [tree?, hread]
    rfl
  · delta Sandbox.run Sandbox.execute Sandbox.prepare
    rw [hcheck]
    rfl

/-- A snippet that reaches for a frame inside of an interpolated text. -/
private def frames : String := "return [f\"\x7bx.f_back\x7d\" for x in inputs]"

theorem check_inspects_frames :
    (∃ body, parse? (wrap frames).toList = some [flowFunction body] ∧
      ∃ n : Node, n.Below (flowFunction body) ∧ n.Offends) ∧
    ∀ s inputs timeout, Sandbox.run s frames inputs timeout = .done .null := by
  have hcheck : check frames = .error (.offence (.member "f_back")) := by decide +kernel
  have hparse : (parse? (wrap frames).toList).isSome = true := by decide +kernel
  obtain ⟨haccepts, hrefused, hread⟩ := check_inspects frames parse?
  obtain ⟨ns, hns⟩ := Option.isSome_iff_exists.1 hparse
  obtain ⟨body, rfl⟩ := hread ns hns
  refine ⟨⟨body, hns, ?_⟩, hrefused _ hcheck⟩
  by_contra hnone
  rw [(haccepts _ _ hns).2 fun n hbelow hoffends => hnone ⟨n, hbelow, hoffends⟩] at hcheck
  cases hcheck

end CallFlow.Snippet
