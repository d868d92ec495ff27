import CallFlow.Validation.Loops
import Mathlib.Data.List.Chain
import Mathlib.Data.List.Nodup
import Mathlib.Logic.Relation

namespace CallFlow

namespace Flow

open Relation

variable {next : String → List String} {fresh found : List String} {stack : List Frame}
  {id child : String} {children : List String} {rest : List Frame}

/-- An edge leads from the first node to the second. -/
def Follows (next : String → List String) (a b : String) : Prop := b ∈ next a

/-- Edges, at least one, lead from a node back to it. -/
def OnLoop (next : String → List String) (id : String) : Prop :=
  TransGen (Follows next) id id

/-- Every way that leads on from a node comes to an end. -/
def Finished (next : String → List String) (id : String) : Prop :=
  Acc (fun b a => Follows next a b) id

/-- What is finished is on no loop. -/
theorem Finished.not_onLoop (h : Finished next id) : ¬OnLoop next id := by
  induction h with
  | intro id _ ih =>
    intro hloop
    obtain ⟨succ, hedge, hback⟩ := TransGen.head'_iff.1 hloop
    exact ih succ hedge (TransGen.tail' hback hedge)

/-- Every node on a stack follows the one below it, and the children that wait in a frame follow
its node. -/
structure IsPath (next : String → List String) (stack : List Frame) : Prop where
  links : stack.IsChain fun f below => Follows next below.1 f.1
  children : ∀ f ∈ stack, ∀ c ∈ f.2, Follows next f.1 c

namespace IsPath

theorem root (id : String) : IsPath next [(id, next id)] where
  links := .singleton _
  children := by
    intro f hf c hc
    cases List.mem_singleton.1 hf
    exact hc

theorem pop {f : Frame} (h : IsPath next (f :: rest)) : IsPath next rest where
  links := h.links.tail
  children g hg := h.children g (List.mem_cons_of_mem f hg)

theorem follows_child (h : IsPath next ((id, child :: children) :: rest)) :
    Follows next id child :=
  h.children _ List.mem_cons_self child List.mem_cons_self

theorem skip (h : IsPath next ((id, child :: children) :: rest)) :
    IsPath next ((id, children) :: rest) where
  links := List.isChain_cons.2 (List.isChain_cons.1 h.links)
  children := by
    intro f hf c hc
    cases List.mem_cons.1 hf with
    | inl heq =>
      subst heq
      exact h.children _ List.mem_cons_self c (List.mem_cons_of_mem child hc)
    | inr hmem => exact h.children f (List.mem_cons_of_mem _ hmem) c hc

theorem push (h : IsPath next ((id, child :: children) :: rest)) :
    IsPath next ((child, next child) :: (id, children) :: rest) where
  links := List.isChain_cons_cons.2 ⟨h.follows_child, h.skip.links⟩
  children := by
    intro f hf c hc
    cases List.mem_cons.1 hf with
    | inl heq =>
      subst heq
      exact hc
    | inr hmem => exact h.skip.children f hmem c hc

/-- The node on top is reached from every node on the stack. -/
theorem reaches_top {top : Frame} (h : IsPath next (top :: rest)) :
    ∀ f ∈ top :: rest, ReflTransGen (Follows next) f.1 top.1 := by
  induction rest generalizing top with
  | nil =>
    intro f hf
    cases List.mem_singleton.1 hf
    exact .refl
  | cons below rest ih =>
    intro f hf
    cases List.mem_cons.1 hf with
    | inl heq => exact heq ▸ .refl
    | inr hmem => exact (ih h.pop f hmem).tail (List.isChain_cons_cons.1 h.links).1

/-- An edge back to a node on the stack closes a loop. -/
theorem onLoop (h : IsPath next ((id, child :: children) :: rest))
    (hgrey : ((id, children) :: rest).any (fun f => f.1 = child)) : OnLoop next child := by
  simp only [List.any_eq_true, decide_eq_true_eq] at hgrey
  obtain ⟨f, hf, rfl⟩ := hgrey
  exact TransGen.tail' (h.skip.reaches_top f hf) h.follows_child

end IsPath

/-- What the search finds is on a loop. -/
theorem searchLoops_onLoop (hpath : IsPath next stack) (hfound : ∀ x ∈ found, OnLoop next x) :
    ∀ x ∈ (searchLoops next fresh stack found).2, OnLoop next x := by
  fun_induction searchLoops next fresh stack found with
  | case1 fresh found => exact hfound
  | case2 fresh found id rest ih => exact ih hpath.pop hfound
  | case3 fresh found id child children rest hgrey ih =>
    refine ih hpath.skip fun x hx => ?_
    split at hx
    · exact hfound x hx
    · cases List.mem_cons.1 hx with
      | inl heq => exact heq ▸ hpath.onLoop hgrey
      | inr hmem => exact hfound x hmem
  | case4 fresh found id child children rest _ _ ih => exact ih hpath.push hfound
  | case5 fresh found id child children rest _ _ ih => exact ih hpath.skip hfound

/-- What the searches find is on a loop. -/
theorem searchFrom_onLoop {roots : List String} (hfound : ∀ x ∈ found, OnLoop next x) :
    ∀ x ∈ searchFrom next roots fresh found, OnLoop next x := by
  induction roots generalizing fresh found with
  | nil => simpa [searchFrom] using hfound
  | cons root roots ih =>
    unfold searchFrom
    split
    · exact ih (searchLoops_onLoop (.root root) hfound)
    · exact ih hfound

/-- The search forgets nothing that was found. -/
theorem subset_searchLoops : found ⊆ (searchLoops next fresh stack found).2 := by
  fun_induction searchLoops next fresh stack found with
  | case1 fresh found => exact fun _ hx => hx
  | case2 fresh found id rest ih => exact ih
  | case3 fresh found id child children rest _ ih =>
    intro x hx
    apply ih
    split
    · exact hx
    · exact List.mem_cons_of_mem child hx
  | case4 fresh found id child children rest _ _ ih => exact ih
  | case5 fresh found id child children rest _ _ ih => exact ih

/-- The searches forget nothing that was found. -/
theorem subset_searchFrom {roots : List String} : found ⊆ searchFrom next roots fresh found := by
  induction roots generalizing fresh found with
  | nil => exact fun x hx => List.mem_reverse.2 hx
  | cons root roots ih =>
    unfold searchFrom
    split
    · exact fun x hx => ih (subset_searchLoops hx)
    · exact ih

/-- The search makes nothing fresh. -/
theorem searchLoops_sublist : (searchLoops next fresh stack found).1.Sublist fresh := by
  fun_induction searchLoops next fresh stack found with
  | case1 fresh found => exact List.Sublist.refl fresh
  | case2 fresh found id rest ih => exact ih
  | case3 fresh found id child children rest _ ih => exact ih
  | case4 fresh found id child children rest _ _ ih => exact ih.trans List.erase_sublist
  | case5 fresh found id child children rest _ _ ih => exact ih

/-- Every successor of a node on the stack is waiting in its frame, or finished, or the node of a
frame above it. The nodes `above` stand over the whole stack. -/
def Pending (next : String → List String) : List String → List Frame → Prop
  | _, [] => True
  | above, (id, children) :: rest =>
    (∀ c, Follows next id c → c ∈ children ∨ Finished next c ∨ c ∈ above) ∧
      Pending next (id :: above) rest

/-- What is pending stays so when more is on the way. -/
theorem Pending.mono {above above' : List String} (h : Pending next above stack)
    (habove : ∀ x ∈ above, Finished next x ∨ x ∈ above') : Pending next above' stack := by
  induction stack generalizing above above' with
  | nil => trivial
  | cons f rest ih =>
    obtain ⟨hsucc, hrest⟩ := h
    refine ⟨fun c hc => ?_, ih hrest fun x hx => ?_⟩
    · obtain hwaits | hdone | hover := hsucc c hc
      · exact Or.inl hwaits
      · exact Or.inr (Or.inl hdone)
      · exact Or.inr (habove c hover)
    · cases List.mem_cons.1 hx with
      | inl heq => exact Or.inr (heq ▸ List.mem_cons_self)
      | inr hmem => exact (habove x hmem).imp_right (List.mem_cons_of_mem f.1)

/-- What holds as long as a search has found nothing: of the nodes of a graph, those that are
neither fresh nor on the stack are finished. -/
structure Clear (next : String → List String) (nodes fresh : List String)
    (stack : List Frame) : Prop where
  pending : Pending next [] stack
  finished : ∀ x ∈ nodes, x ∈ fresh ∨ x ∈ stack.map Prod.fst ∨ Finished next x

namespace Clear

variable {nodes : List String}

private theorem finished_erase {path : List String}
    (h : ∀ x ∈ nodes, x ∈ fresh ∨ x ∈ path ∨ Finished next x) (id : String) :
    ∀ x ∈ nodes, x ∈ fresh.erase id ∨ x ∈ id :: path ∨ Finished next x := by
  intro x hx
  obtain hfresh | hpath | hdone := h x hx
  · by_cases heq : x = id
    · exact Or.inr (Or.inl (heq ▸ List.mem_cons_self))
    · exact Or.inl ((List.mem_erase_of_ne heq).2 hfresh)
  · exact Or.inr (Or.inl (List.mem_cons_of_mem id hpath))
  · exact Or.inr (Or.inr hdone)

/-- A search from a root begins with it alone on the stack. -/
theorem root {root : String} (h : Clear next nodes fresh []) :
    Clear next nodes (fresh.erase root) [(root, next root)] where
  pending := ⟨fun _ hc => Or.inl hc, trivial⟩
  finished := finished_erase h.finished root

/-- A frame without children is taken off once all successors of its node are finished, which
finishes the node. -/
theorem pop (h : Clear next nodes fresh ((id, []) :: rest)) : Clear next nodes fresh rest := by
  obtain ⟨hsucc, hrest⟩ := h.pending
  have hid : Finished next id := by
    refine Acc.intro id fun c hc => ?_
    obtain hwaits | hdone | hover := hsucc c hc
    · cases hwaits
    · exact hdone
    · cases hover
  refine ⟨hrest.mono fun x hx => Or.inl ?_, fun x hx => ?_⟩
  · exact List.mem_singleton.1 hx ▸ hid
  · obtain hfresh | hpath | hdone := h.finished x hx
    · exact Or.inl hfresh
    · cases List.mem_cons.1 hpath with
      | inl heq => exact Or.inr (Or.inr (heq ▸ hid))
      | inr hmem => exact Or.inr (Or.inl hmem)
    · exact Or.inr (Or.inr hdone)

/-- The child in front is looked at: it is finished, or it comes to stand above its frame. -/
private theorem pending_child {above : List String}
    (h : Pending next [] ((id, child :: children) :: rest))
    (hchild : Finished next child ∨ child ∈ above) :
    ∀ c, Follows next id c → c ∈ children ∨ Finished next c ∨ c ∈ above := by
  intro c hc
  obtain hwaits | hdone | hover := h.1 c hc
  · cases List.mem_cons.1 hwaits with
    | inl heq => exact Or.inr (heq ▸ hchild)
    | inr hmem => exact Or.inl hmem
  · exact Or.inr (Or.inl hdone)
  · cases hover

theorem skip (h : Clear next nodes fresh ((id, child :: children) :: rest))
    (hchild : Finished next child) : Clear next nodes fresh ((id, children) :: rest) where
  pending := ⟨pending_child h.pending (Or.inl hchild), h.pending.2⟩
  finished := h.finished

theorem push (h : Clear next nodes fresh ((id, child :: children) :: rest)) :
    Clear next nodes (fresh.erase child) ((child, next child) :: (id, children) :: rest) where
  pending := by
    refine ⟨fun _ hc => Or.inl hc, pending_child h.pending (Or.inr List.mem_cons_self), ?_⟩
    exact h.pending.2.mono fun x hx => Or.inr (List.mem_singleton.1 hx ▸ List.mem_cons_self)
  finished := finished_erase h.finished child

/-- A node that is neither fresh nor on the stack is finished. -/
theorem finished_of_old (h : Clear next nodes fresh ((id, child :: children) :: rest))
    (hmem : child ∈ nodes) (hgrey : ¬(((id, children) :: rest).any fun f => f.1 = child))
    (hold : child ∉ fresh) : Finished next child := by
  obtain hfresh | hpath | hdone := h.finished child hmem
  · exact absurd hfresh hold
  · have hids : child ∈ ((id, children) :: rest).map Prod.fst := hpath
    obtain ⟨f, hf, heq⟩ := List.mem_map.1 hids
    exact absurd (List.any_eq_true.2 ⟨f, hf, decide_eq_true heq⟩) hgrey
  · exact hdone

/-- A search that finds nothing empties the stack in good order. -/
theorem after_searchLoops (hclosed : ∀ a c, Follows next a c → c ∈ nodes)
    (h : Clear next nodes fresh stack) (hpath : IsPath next stack)
    (hnone : (searchLoops next fresh stack found).2 = []) :
    Clear next nodes (searchLoops next fresh stack found).1 [] := by
  fun_induction searchLoops next fresh stack found with
  | case1 fresh found => exact h
  | case2 fresh found id rest ih => exact ih h.pop hpath.pop hnone
  | case3 fresh found id child children rest hgrey ih =>
    -- What is found stays found, so a search that ends with nothing never comes here.
    have hchild : child ∈ if found.contains child then found else child :: found := by
      split
      · exact List.contains_iff_mem.1 ‹_›
      · exact List.mem_cons_self
    exact absurd (subset_searchLoops hchild) (hnone ▸ List.not_mem_nil)
  | case4 fresh found id child children rest _ _ ih => exact ih h.push hpath.push hnone
  | case5 fresh found id child children rest hgrey hold ih =>
    have hdone := h.finished_of_old (hclosed id child hpath.follows_child) hgrey hold
    exact ih (h.skip hdone) hpath.skip hnone

end Clear

/-- A search from every node of a graph that finds nothing finishes all of them. Each node may
come up once only, so that none is fresh again after the search from it. -/
theorem finished_of_searchFrom {nodes roots : List String}
    (hclosed : ∀ a c, Follows next a c → c ∈ nodes) (hfresh : fresh.Nodup)
    (hclear : Clear next nodes fresh []) (hroots : fresh ⊆ roots)
    (hnone : searchFrom next roots fresh found = []) : ∀ x ∈ nodes, Finished next x := by
  induction roots generalizing fresh found with
  | nil =>
    intro x hx
    obtain hmem | hpath | hdone := hclear.finished x hx
    · cases hroots hmem
    · cases hpath
    · exact hdone
  | cons root roots ih =>
    unfold searchFrom at hnone
    split at hnone
    · change searchFrom next roots (searchLoops next _ _ found).1
        (searchLoops next _ _ found).2 = [] at hnone
      have hfound : (searchLoops next (fresh.erase root) [(root, next root)] found).2 = [] :=
        List.subset_nil.1 fun x hx => hnone ▸ subset_searchFrom hx
      -- The root is not fresh after the search from it, so the other roots cover what still is.
      have hsub : (searchLoops next (fresh.erase root) [(root, next root)] found).1.Sublist
          (fresh.erase root) := searchLoops_sublist
      refine ih ((hfresh.erase root).sublist hsub)
        (hclear.root.after_searchLoops hclosed (.root root) hfound) (fun x hx => ?_) hnone
      obtain ⟨hne, hmem⟩ := hfresh.mem_erase_iff.1 (hsub.subset hx)
      exact (List.mem_cons.1 (hroots hmem)).resolve_left hne
    · rename_i hroot
      refine ih hfresh hclear (fun x hx => ?_) hnone
      cases List.mem_cons.1 (hroots hx) with
      | inl heq => exact absurd (List.contains_iff_mem.2 (heq ▸ hx)) hroot
      | inr hmem => exact hmem

end Flow

end CallFlow
