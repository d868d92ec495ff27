import CallFlow.Proofs.Turn.Walk
import CallFlow.Script

namespace CallFlow

/-- A walk with nodes run before it. -/
def Walk.afterAll (nodes : List String) (w : Walk) : Walk :=
  { w with visited := nodes ++ w.visited }

namespace Turn

variable {t : Turn}

/-- Where a walk stands before it runs a node: the node's id, the variables and the world. -/
structure Place where
  node : String
  bindings : Bindings
  world : Script

/-- The walk comes from one place to another by running nodes that hop. Their ids are listed in
order. -/
inductive Trail (t : Turn) : List String → Place → Place → Prop where
  | here (p : Place) : Trail t [] p p
  | hop {p q : Place} {n : Node} {next : String} {b : Bindings} {s : Script} {ids : List String}
      (hnode : t.flow.node? p.node = some n)
      (hrun : (t.runNode n p.bindings).run p.world = ((.hop next, b), s))
      (htrail : Trail t ids ⟨next, b, s⟩ q) : Trail t (n.id :: ids) p q

/-- The walk comes to its end at a place: there is no such node, or it replies, or it fails. -/
inductive Halts (t : Turn) : Place → Walk → Script → Prop where
  | missing {p : Place} (hnode : t.flow.node? p.node = none) :
      Halts t p ⟨t.apology p.bindings, [], .missing⟩ p.world
  | replied {p : Place} {n : Node} {response : String} {move : Move} {b : Bindings} {s : Script}
      (hnode : t.flow.node? p.node = some n)
      (hrun : (t.runNode n p.bindings).run p.world = ((.reply response move, b), s)) :
      Halts t p ⟨⟨response, move, b⟩, [n.id], .replied⟩ s
  | failed {p : Place} {n : Node} {b : Bindings} {s : Script}
      (hnode : t.flow.node? p.node = some n)
      (hrun : (t.runNode n p.bindings).run p.world = ((.failed, b), s)) :
      Halts t p ⟨t.retry n.id b, [n.id], .failed⟩ s

variable {p q : Place} {hops : Nat} {ids : List String} {w : Walk} {s' : Script}

/-- A walk with no hops left is cut off at a node that hops. -/
theorem run_walk_zero {n : Node} {next : String} {b : Bindings} {s : Script}
    (hnode : t.flow.node? p.node = some n)
    (hrun : (t.runNode n p.bindings).run p.world = ((.hop next, b), s)) :
    (t.walk 0 p.node p.bindings).run p.world = (⟨t.apology b, [n.id], .cut⟩, s) := by
  rw [walk_node t hnode, Dialogue.run_bind, hrun]
  rfl

/-- A walk with hops left goes on where a node hops. -/
theorem run_walk_succ {n : Node} {next : String} {b : Bindings} {s : Script}
    (hnode : t.flow.node? p.node = some n)
    (hrun : (t.runNode n p.bindings).run p.world = ((.hop next, b), s)) :
    (t.walk (hops + 1) p.node p.bindings).run p.world =
      (((t.walk hops next b).run s).1.after n.id, ((t.walk hops next b).run s).2) := by
  rw [walk_node t hnode, Dialogue.run_bind, hrun]
  simp only [onward, Dialogue.run_bind, Dialogue.run_done]

/-- A walk that halts within its hops goes as it does without a bound. -/
theorem Halts.run_walk (h : t.Halts p w s') (hops : Nat) :
    (t.walk hops p.node p.bindings).run p.world = (w, s') := by
  cases h with
  | missing hnode => rw [walk_missing t hnode, Dialogue.run_done]
  | replied hnode hrun =>
    rw [walk_node t hnode, Dialogue.run_bind, hrun]
    rfl
  | failed hnode hrun =>
    rw [walk_node t hnode, Dialogue.run_bind, hrun]
    rfl

namespace Trail

/-- A walk with enough hops follows a trail to where it halts. -/
theorem run_walk_of_halts (h : t.Trail ids p q) (hhalts : t.Halts q w s')
    (hlength : ids.length ≤ hops) :
    (t.walk hops p.node p.bindings).run p.world = (w.afterAll ids, s') := by
  induction h generalizing hops with
  | here p => exact hhalts.run_walk hops
  | @hop p q n next b s ids hnode hrun htrail ih =>
    obtain ⟨hops, rfl⟩ : ∃ rest, hops = rest + 1 := ⟨hops - 1, by simp at hlength; omega⟩
    rw [run_walk_succ hnode hrun, ih hhalts (Nat.le_of_succ_le_succ hlength)]
    rfl

/-- A walk is cut off at the end of a trail with one node more than it has hops. -/
theorem run_walk_cut (h : t.Trail ids p q) (hlength : ids.length = hops + 1) :
    (t.walk hops p.node p.bindings).run p.world =
      (⟨t.apology q.bindings, ids, .cut⟩, q.world) := by
  induction h generalizing hops with
  | here p => cases hlength
  | @hop p q n next b s ids hnode hrun htrail ih =>
    cases hops with
    | zero =>
      obtain rfl := List.eq_nil_of_length_eq_zero (Nat.succ.inj hlength)
      cases htrail
      exact run_walk_zero hnode hrun
    | succ hops =>
      rw [run_walk_succ hnode hrun, ih (Nat.succ.inj hlength)]
      rfl

end Trail

/-- From any place there is a trail that halts within some number of hops, or one that is longer by
one. -/
theorem halts_or_trail (t : Turn) (hops : Nat) (p : Place) :
    (∃ ids q w s', t.Trail ids p q ∧ t.Halts q w s' ∧ ids.length ≤ hops) ∨
      ∃ ids q, t.Trail ids p q ∧ ids.length = hops + 1 := by
  induction hops using Nat.strongRecOn generalizing p with
  | ind hops ih =>
    cases hnode : t.flow.node? p.node with
    | none => exact Or.inl ⟨[], p, _, _, .here p, .missing hnode, Nat.zero_le hops⟩
    | some n =>
      rcases hrun : (t.runNode n p.bindings).run p.world with ⟨⟨step, b⟩, s⟩
      cases step with
      | reply response move =>
        exact Or.inl ⟨[], p, _, _, .here p, .replied hnode hrun, Nat.zero_le hops⟩
      | failed => exact Or.inl ⟨[], p, _, _, .here p, .failed hnode hrun, Nat.zero_le hops⟩
      | hop next =>
        cases hops with
        | zero => exact Or.inr ⟨[n.id], _, .hop hnode hrun (.here _), rfl⟩
        | succ hops =>
          obtain ⟨ids, q, w, s', htrail, hhalts, hlength⟩ | ⟨ids, q, htrail, hlength⟩ :=
            ih hops (Nat.lt_succ_self hops) ⟨next, b, s⟩
          · exact Or.inl ⟨n.id :: ids, q, w, s', .hop hnode hrun htrail, hhalts,
              Nat.succ_le_succ hlength⟩
          · exact Or.inr ⟨n.id :: ids, q, .hop hnode hrun htrail, congrArg (· + 1) hlength⟩

def withMaxHops (t : Turn) (maxHops : Int) : Turn :=
  { t with settings := { t.settings with engine := { t.settings.engine with maxHops } } }

/-- No node looks at the setting. -/
theorem runNode_withMaxHops (m : Int) (n : Node) (b : Bindings) :
    (t.withMaxHops m).runNode n b = t.runNode n b := rfl

/-- The bound of the settings does not matter to a walk with its own. -/
theorem walk_withMaxHops (m : Int) (hops : Nat) (id : String) (b : Bindings) :
    (t.withMaxHops m).walk hops id b = t.walk hops id b := by
  apply walk_congr
  · rfl
  · rfl
  · exact fun _ => rfl
  · exact fun _ n _ b => runNode_withMaxHops m n b

/-- A walk that was not cut off is the same with more hops. -/
theorem run_walk_mono {more : Nat} (hmore : hops ≤ more)
    (huncut : ((t.walk hops p.node p.bindings).run p.world).1.ending ≠ .cut) :
    (t.walk more p.node p.bindings).run p.world =
      (t.walk hops p.node p.bindings).run p.world := by
  obtain ⟨ids, q, w, s', htrail, hhalts, hlength⟩ | ⟨ids, q, htrail, hlength⟩ :=
    halts_or_trail t hops p
  · rw [htrail.run_walk_of_halts hhalts hlength,
      htrail.run_walk_of_halts hhalts (Nat.le_trans hlength hmore)]
  · rw [htrail.run_walk_cut hlength] at huncut
    exact absurd rfl huncut

/-- A turn does what the walk without a bound does. If that halts within the number of hops
allowed, at whatever node or missing node, the turn ends there with the same result and the same
world. If not, the turn runs one node more than it has hops and ends with an apology and the
variables as they are then. So a higher bound changes nothing for a turn that was not cut off. -/
theorem run_refines_unbounded (t : Turn) (id : String) (b : Bindings) (s : Script) :
    (∀ ids q w s', t.Trail ids ⟨id, b, s⟩ q → t.Halts q w s' →
      ids.length ≤ t.settings.engine.hops → (t.run id b).run s = (w.afterAll ids, s')) ∧
    ((∀ ids q w s', t.Trail ids ⟨id, b, s⟩ q → t.Halts q w s' →
        t.settings.engine.hops < ids.length) →
      ∃ ids q, t.Trail ids ⟨id, b, s⟩ q ∧ ids.length = t.settings.engine.hops + 1 ∧
        (t.run id b).run s =
          (⟨⟨t.settings.engine.errorMessage, .finish, q.bindings⟩, ids, .cut⟩, q.world)) ∧
    ∀ m, t.settings.engine.maxHops ≤ m → ((t.run id b).run s).1.ending ≠ .cut →
      ((t.withMaxHops m).run id b).run s = (t.run id b).run s := by
  refine ⟨fun ids q w s' htrail hhalts hlength => ?_, fun hlong => ?_, fun m hm huncut => ?_⟩
  · exact htrail.run_walk_of_halts hhalts hlength
  · obtain ⟨ids, q, w, s', htrail, hhalts, hlength⟩ | ⟨ids, q, htrail, hlength⟩ :=
      halts_or_trail t t.settings.engine.hops ⟨id, b, s⟩
    · exact absurd (hlong ids q w s' htrail hhalts) (Nat.not_lt.2 hlength)
    · exact ⟨ids, q, htrail, hlength, htrail.run_walk_cut hlength⟩
  · have hmore : t.settings.engine.hops ≤ (t.withMaxHops m).settings.engine.hops :=
      Int.toNat_le_toNat hm
    rw [run, run, walk_withMaxHops]
    exact run_walk_mono (p := ⟨id, b, s⟩) hmore huncut

/-- A flow of two nodes, the first of which hops to the second. -/
private def relayFlow : Flow where
  nodes := [{ id := "begin", config := .start {} }, { id := "end", config := .finish {} }]
  edges := [{ source := "begin", target := "end" }]

theorem run_relayFlow :
    let t (maxHops : Int) : Turn := ⟨{ engine := { maxHops } }, relayFlow, "", []⟩
    let first : Place := ⟨"begin", [], {}⟩
    let last : Place := ⟨"end", [], {}⟩
    let reply : Walk := ⟨⟨"", .finish, []⟩, ["end"], .replied⟩
    ((t 1).Trail ["begin"] first last ∧ (t 1).Halts last reply {} ∧
      ((t 1).run "begin" []).run {} = (reply.afterAll ["begin"], {})) ∧
    ((∀ ids q w s', (t 0).Trail ids first q → (t 0).Halts q w s' → 0 < ids.length) ∧
      ∃ ids q, (t 0).Trail ids first q ∧ ids.length = 1 ∧ ((t 0).run "begin" []).run {} =
        (⟨⟨(t 0).settings.engine.errorMessage, .finish, q.bindings⟩, ids, .cut⟩, q.world)) ∧
    (((t 1).run "begin" []).run {}).1.ending ≠ .cut ∧
      (((t 1).withMaxHops 5).run "begin" []).run {} = ((t 1).run "begin" []).run {} := by
  intro t first last reply
  have hhop : ∀ m, ((t m).runNode { id := "begin", config := .start {} } []).run {} =
      ((.hop "end", []), {}) := fun _ => rfl
  have htrail : (t 1).Trail ["begin"] first last :=
    .hop (n := { id := "begin", config := .start {} }) rfl (hhop 1) (.here last)
  have hhalts : (t 1).Halts last reply {} :=
    .replied (n := { id := "end", config := .finish {} }) rfl rfl
  have hlong : ∀ ids q w s', (t 0).Trail ids first q → (t 0).Halts q w s' → 0 < ids.length := by
    intro ids q w s' hthere hstops
    cases hthere with
    | here =>
      have hnode : (t 0).flow.node? first.node = some { id := "begin", config := .start {} } := rfl
      cases hstops with
      | missing hnone => cases hnode.symm.trans hnone
      | replied hsome hrun =>
        cases hnode.symm.trans hsome
        cases (hhop 0).symm.trans hrun
      | failed hsome hrun =>
        cases hnode.symm.trans hsome
        cases (hhop 0).symm.trans hrun
    | hop => exact Nat.succ_pos _
  obtain ⟨hshort, -, hmore⟩ := run_refines_unbounded (t 1) "begin" [] {}
  have hrun := hshort ["begin"] last reply {} htrail hhalts (Nat.le_refl 1)
  have huncut : (((t 1).run "begin" []).run {}).1.ending ≠ .cut := by
    rw [hrun]
    decide
  exact ⟨⟨htrail, hhalts, hrun⟩, ⟨hlong, (run_refines_unbounded (t 0) "begin" [] {}).2.1 hlong⟩,
    huncut, hmore 5 (by decide) huncut⟩

end Turn

end CallFlow
