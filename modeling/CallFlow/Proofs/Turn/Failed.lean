import CallFlow.Proofs.Turn.Unbounded
import CallFlow.Proofs.Turn.Writes
import CallFlow.Proofs.Web.Failure

namespace CallFlow

namespace Value

/-- Only a whole number can be too large to count with. -/
theorem toNumber?_eq_none_iff {v : Value} :
    v.toNumber? = none ↔ ∃ i, v = .int i ∧ Decimal.ofInt? i = none := by
  cases v with
  | int i => simp [toNumber?]
  | text s =>
    refine iff_of_false ?_ (by simp)
    rw [toNumber?]
    split <;> simp
  | _ => simp [toNumber?]

/-- A value that can not be shown is not an empty one. -/
theorem isTruthy_of_display_eq_none {v : Value} (h : v.display = none) : v.isTruthy = true := by
  have hunwritable := display_eq_none_iff.1 h
  cases v with
  | list items =>
    cases items with
    | nil => cases hunwritable
    | cons item rest => rfl
  | object members =>
    cases members with
    | nil => cases hunwritable
    | cons m rest => rfl
  | int i =>
    by_cases hi : i = 0
    · rw [hi] at hunwritable
      cases hunwritable
    · simpa [isTruthy] using hi
  | _ => cases hunwritable

end Value

/-- An assignment can not be carried out: a value in its template can not be shown, or what it is to
append to can not be, or it is to count from a whole number that lies beyond the doubles. -/
structure Assignment.Stalls (a : Assignment) (b : Bindings) : Prop where
  target_ne : a.target ≠ ""
  reason : Template.render a.value b = none ∨
    a.operation = .append ∧ (b.getD a.target).display = none ∨
      (a.operation = .increment ∨ a.operation = .decrement) ∧
        ∃ i, b.getD a.target = .int i ∧ Decimal.ofInt? i = none

namespace Turn

/-- Counting from nothing is no difficulty. -/
theorem toNumber?_counter_eq_none_iff {v : Value} :
    (counter v).toNumber? = none ↔ v.toNumber? = none := by
  unfold counter
  split
  · rfl
  · rename_i hfalse
    have hzero : Decimal.ofInt? 0 ≠ none := by decide +kernel
    refine iff_of_false hzero fun hnone => ?_
    obtain ⟨i, rfl, hi⟩ := Value.toNumber?_eq_none_iff.1 hnone
    have hi0 : i = 0 := by simpa [Value.isTruthy] using hfalse
    exact hzero (hi0 ▸ hi)

/-- Only what can not be shown can not be appended to. -/
theorem appendable_eq_none_iff {current : Value} :
    appendable current = none ↔ current.display = none := by
  unfold appendable
  split
  · rfl
  · rename_i hfalse
    exact iff_of_false nofun fun h => hfalse (Value.isTruthy_of_display_eq_none h)

/-- Of what an assignment does with its operand only appending and counting can fail. -/
theorem assigned_eq_none_iff (operation : AssignmentOperation) (current : Value)
    (operand : String) : assigned operation current operand = none ↔
      operation = .append ∧ current.display = none ∨
        (operation = .increment ∨ operation = .decrement) ∧
          ∃ i, current = .int i ∧ Decimal.ofInt? i = none := by
  obtain ⟨y, hy⟩ : ∃ y, (Value.text operand).toNumber? = some y := by
    refine Option.ne_none_iff_exists'.1 fun hnone => ?_
    obtain ⟨i, hi, -⟩ := Value.toNumber?_eq_none_iff.1 hnone
    cases hi
  rw [← Value.toNumber?_eq_none_iff, ← toNumber?_counter_eq_none_iff, ← appendable_eq_none_iff]
  unfold assigned
  rw [hy]
  cases operation <;> cases (counter current).toNumber? <;> simp

/-- An assignment fails exactly if it stalls. -/
theorem assignment?_eq_none_iff {a : Assignment} {b : Bindings} (h : a.target ≠ "") :
    assignment? a b = none ↔ a.Stalls b := by
  have hstalls : a.Stalls b ↔ Template.render a.value b = none ∨
      a.operation = .append ∧ (b.getD a.target).display = none ∨
        (a.operation = .increment ∨ a.operation = .decrement) ∧
          ∃ i, b.getD a.target = .int i ∧ Decimal.ofInt? i = none :=
    ⟨fun hstalls => hstalls.reason, fun hreason => ⟨h, hreason⟩⟩
  rw [hstalls, assignment?]
  cases Template.render a.value b with
  | none => exact iff_of_true rfl (Or.inl rfl)
  | some operand =>
    rw [or_iff_right nofun, ← assigned_eq_none_iff _ _ operand]
    rfl

variable {as front back : List Assignment} {a : Assignment} {b after : Bindings}

/-- Assignments that are carried out are followed by the rest. -/
theorem assignAll_append (h : assignAll front b = (true, after)) :
    assignAll (front ++ back) b = assignAll back after := by
  induction front generalizing b with
  | nil =>
    cases h
    rfl
  | cons first rest ih =>
    rw [assignAll] at h
    rw [List.cons_append, assignAll]
    split at h
    · rename_i hempty
      rw [if_pos hempty]
      exact ih h
    · rename_i hnamed
      rw [if_neg hnamed]
      split at h
      · exact ih h
      · cases h

/-- Assignments that fail have been carried out up to the first that stalls. -/
theorem assignAll_eq_false_iff : assignAll as b = (false, after) ↔
    ∃ front a back, as = front ++ a :: back ∧ assignAll front b = (true, after) ∧
      a.Stalls after := by
  constructor
  · intro h
    induction as generalizing b with
    | nil => cases h
    | cons first rest ih =>
      unfold assignAll at h
      split at h
      · rename_i hempty
        obtain ⟨front, a, back, rfl, hfront, ha⟩ := ih h
        refine ⟨first :: front, a, back, rfl, ?_, ha⟩
        rw [assignAll, if_pos hempty]
        exact hfront
      · rename_i hnamed
        split at h
        · rename_i v hassigned
          obtain ⟨front, a, back, rfl, hfront, ha⟩ := ih h
          refine ⟨first :: front, a, back, rfl, ?_, ha⟩
          rw [assignAll, if_neg hnamed, hassigned]
          exact hfront
        · rename_i hfails
          cases h
          exact ⟨[], first, rest, rfl, rfl, (assignment?_eq_none_iff hnamed).1 hfails⟩
  · rintro ⟨front, a, back, rfl, hfront, ha⟩
    rw [assignAll_append hfront, assignAll, if_neg ha.target_ne,
      (assignment?_eq_none_iff ha.target_ne).2 ha]

end Turn

/-- What a node that was entered with some variables has left by the time that it fails: it has
assigned up to an assignment that stalls, or has called a function after which there is something to
say that can not be rendered. -/
inductive NodeConfig.Leaves (t : Turn) (b : Bindings) : NodeConfig → Bindings → Prop where
  | assigned {c : SetVariableConfig} {front back : List Assignment} {a : Assignment}
    {after : Bindings} (hsplit : c.assignments = front ++ a :: back)
    (hfront : Turn.assignAll front b = (true, after)) (hstalls : a.Stalls after) :
    Leaves t b (.setVariable c) after
  | called {c : FunctionConfig} {es : List Exchange} {after : Bindings}
    (hcall : (t.call c b).Transcript es (some after))
    (hspeech : Turn.Unspeakable c.speech after) : Leaves t b (.function c) after

theorem NodeConfig.Leaves.elim {t : Turn} {b after : Bindings} {config : NodeConfig}
    (h : config.Leaves t b after) (hassign : ∀ c, config ≠ .setVariable c)
    (hcall : ∀ c, config ≠ .function c) : False := by
  cases h with
  | assigned => exact hassign _ rfl
  | called => exact hcall _ rfl

/-- A node has changed the variables by the time that it fails. -/
def NodeConfig.HalfDone (t : Turn) (config : NodeConfig) (b after : Bindings) : Prop :=
  config.Leaves t b after ∧ after ≠ b

namespace Turn

/-- What may be said of the outcome of a node that was entered with some variables: if it failed, it
has left them as they were, or was half done; and one that assigns is never left otherwise than at
an assignment. -/
structure KeepsOrLeaves (t : Turn) (config : NodeConfig) (b : Bindings) (o : Outcome) : Prop where
  kept : o.1 = .failed → o.2 = b ∨ config.Leaves t b o.2
  assigned : o.1 = .failed → ∀ c, config = .setVariable c → config.Leaves t b o.2

variable {t : Turn} {n : Node} {node : String}

theorem KeepsOrLeaves.of_kept {config : NodeConfig} {o : Outcome} (h : o.2 = b)
    (hother : ∀ c, config ≠ .setVariable c) : KeepsOrLeaves t config b o :=
  ⟨fun _ => Or.inl h, fun _ c hc => absurd hc (hother c)⟩

/-- A generated sentence that fails leaves the variables alone. -/
theorem runGenerated_keeps {c : ConversationConfig} :
    (t.runGenerated node c b).Always fun o => o.1 = .failed → o.2 = b := by
  refine Dialogue.always_bind.2 (.of_forall fun reply => ?_)
  cases reply with
  | error e => exact fun _ => rfl
  | ok u =>
    dsimp only
    split
    · exact nofun
    · exact Dialogue.always_bind.2 (.of_forall fun handle => nofun)

/-- A function that fails leaves the variables alone, or as the call left them. -/
theorem runFunction_leaves {c : FunctionConfig} : (t.runFunction node c b).Ensures fun _ o =>
    o.1 = .failed → o.2 = b ∨ (NodeConfig.function c).Leaves t b o.2 := by
  have hcall : (t.call c b).Ensures (t.call c b).Transcript := fun _ _ h => h
  refine hcall.bind fun es after hes => ?_
  cases after with
  | none => exact Dialogue.ensures_done fun _ => Or.inl rfl
  | some after =>
    refine Dialogue.Always.ensures ?_
    exact Dialogue.always_bind.2 (.of_forall fun handle hfailed =>
      Or.inr (.called hes (onTheWay_eq_failed_iff.1 hfailed)))

/-- Whatever a node is and the world replies, it leaves the variables as they were if it fails,
unless it assigns, or speaks after a function. -/
theorem runNode_keepsOrLeaves :
    (t.runNode n b).Ensures fun _ o => KeepsOrLeaves t n.config b o := by
  unfold runNode
  cases n.config with
  | start c => exact Dialogue.ensures_done (.of_kept rfl nofun)
  | conversation c =>
    dsimp only
    unfold runConversation
    split
    · exact (runFixed_bindings n.id c).ensures.mono fun _ o h => .of_kept h nofun
    · exact runGenerated_keeps.ensures.mono fun _ o h =>
        ⟨fun hfailed => Or.inl (h hfailed), fun _ _ => nofun⟩
  | function c => exact runFunction_leaves.mono fun _ o h => ⟨h, fun _ _ => nofun⟩
  | setVariable c =>
    have hleaves : (t.runSetVariable n.id c b).1 = .failed →
        (NodeConfig.setVariable c).Leaves t b (t.runSetVariable n.id c b).2 := by
      intro hfailed
      unfold runSetVariable at hfailed ⊢
      rcases hassign : assignAll c.assignments b with ⟨_ | _, after⟩
      · obtain ⟨front, a, back, hsplit, hfront, ha⟩ := assignAll_eq_false_iff.1 hassign
        exact .assigned hsplit hfront ha
      · rw [hassign] at hfailed
        exact absurd hfailed (silently_ne_failed _)
    exact Dialogue.ensures_done ⟨fun h => Or.inr (hleaves h), fun h _ _ => hleaves h⟩
  | transfer c => exact Dialogue.ensures_done (.of_kept rfl nofun)
  | finish c => exact Dialogue.ensures_done (.of_kept rfl nofun)
  | unknown _ _ => exact Dialogue.ensures_done (.of_kept rfl nofun)

/-- A node that failed has kept the variables if and only if it is not half done. -/
theorem KeepsOrLeaves.eq_iff {config : NodeConfig} {after : Bindings}
    (h : KeepsOrLeaves t config b (.failed, after)) :
    after = b ↔ ¬config.HalfDone t b after := by
  constructor
  · rintro rfl ⟨-, hne⟩
    exact hne rfl
  · intro hnot
    obtain hkept | hleaves := h.kept rfl
    · exact hkept
    · by_contra hne
      exact hnot ⟨hleaves, hne⟩

/-- A turn whose node fails asks to be told again there, with the variables that the node was
entered with, unless the node assigns or is a function. Of a node that assigns, the assignments in
front of the first that stalls have been carried out. A function has set its variables if it fails
only because what is to be said after it can not be rendered. If that has changed anything, it is
done once more when the node is run again. -/
theorem run_failed_keeps_iff (t : Turn) (id : String) (b : Bindings) (s : Script)
    (h : ((t.run id b).run s).1.ending = .failed) :
    ∃ ids q n after, t.Trail ids ⟨id, b, s⟩ q ∧ t.flow.node? q.node = some n ∧
      ((t.run id b).run s).1.visited = ids ++ [n.id] ∧
      ((t.run id b).run s).1.result = t.retry n.id after ∧
      ((∀ c, n.config ≠ .setVariable c) → (∀ c, n.config ≠ .function c) → after = q.bindings) ∧
      (∀ c, n.config = .setVariable c → ∃ front a back, c.assignments = front ++ a :: back ∧
        assignAll front q.bindings = (true, after) ∧ a.Stalls after) ∧
      (∀ c, n.config = .function c → after = q.bindings ∨ Unspeakable c.speech after ∧
        ∃ es, (t.call c q.bindings).Transcript es (some after)) ∧
      (after = q.bindings ↔ ¬n.config.HalfDone t q.bindings after) := by
  obtain ⟨ids, q, w, s', htrail, hhalts, hlength⟩ | ⟨ids, q, htrail, hlength⟩ :=
    halts_or_trail t t.settings.engine.hops ⟨id, b, s⟩
  · have hrun : (t.run id b).run s = (w.afterAll ids, s') :=
      htrail.run_walk_of_halts hhalts hlength
    rw [hrun] at h ⊢
    cases hhalts with
    | missing hnode => cases h
    | replied hnode hreply => cases h
    | @failed n after _ hnode hfailed =>
      have houtcome : KeepsOrLeaves t n.config q.bindings (.failed, after) := by
        have hkeeps : KeepsOrLeaves t n.config q.bindings
            ((t.runNode n q.bindings).run q.world).1 := runNode_keepsOrLeaves.always.run q.world
        rw [hfailed] at hkeeps
        exact hkeeps
      refine ⟨ids, q, n, after, htrail, hnode, rfl, rfl, fun hassign hcall => ?_, fun c hc => ?_,
        fun c hc => ?_, houtcome.eq_iff⟩
      · exact (houtcome.kept rfl).resolve_right fun hleaves => hleaves.elim hassign hcall
      · have hleaves := houtcome.assigned rfl c hc
        rw [hc] at hleaves
        obtain ⟨hsplit, hfront, ha⟩ := hleaves
        exact ⟨_, _, _, hsplit, hfront, ha⟩
      · refine (houtcome.kept rfl).imp_right fun hleaves => ?_
        rw [hc] at hleaves
        obtain _ | ⟨hcall, hspeech⟩ := hleaves
        exact ⟨hspeech, _, hcall⟩
  · have hrun := htrail.run_walk_cut hlength
    rw [run, hrun] at h
    cases h

private def noteCall : Assignment :=
  { target := "note", value := "called;", operation := .append }

private def lookUp : FunctionConfig where
  url := "https://rooms.example"
  responseMapping := [{ target := "room", path := "²" }]

/-- Makes a note, and then looks something up. -/
private def deskTurn : Turn where
  settings := { functions := { httpTimeout := .whole 10 } }
  flow :=
    { nodes :=
        [{ id := "jot", config := .setVariable { assignments := [noteCall] } },
         { id := "look", config := .function lookUp }]
      edges := [{ source := "jot", target := "look" }] }
  userInput := ""
  history := []

/-- The response is a list, on which the path of the mapping misleads. -/
private def deskWorld : Script where
  http :=
    [⟨.response { headers := [("content-type", "application/json")]
                  body := [91, 49, 48, 49, 93] }, false⟩]

/-- The note that was made on the way is kept, and nothing of what was looked up. -/
theorem run_failed_keeps_desk :
    ((deskTurn.run "jot" []).run deskWorld).1.ending = .failed ∧
      ∃ ids q, deskTurn.Trail ids ⟨"jot", [], deskWorld⟩ q ∧ q.node = "look" ∧
        ((deskTurn.run "jot" []).run deskWorld).1.result = deskTurn.retry "look" q.bindings := by
  have hfailed : ((deskTurn.run "jot" []).run deskWorld).1.ending = .failed := by decide +kernel
  have hlast : ((deskTurn.run "jot" []).run deskWorld).1.visited.getLast? = some "look" := by
    decide +kernel
  obtain ⟨ids, q, n, after, htrail, hnode, hvisited, hresult, -, -, hcalled, -⟩ :=
    run_failed_keeps_iff deskTurn "jot" [] deskWorld hfailed
  obtain ⟨-, hid, -⟩ := Flow.mem_nodes_of_node? hnode
  rw [hvisited, List.getLast?_concat] at hlast
  have hlook : n.id = "look" := Option.some.inj hlast
  rw [← hid, hlook] at hnode
  obtain rfl := Option.some.inj hnode
  refine ⟨hfailed, ids, q, htrail, hid.symm, ?_⟩
  have hkept : after = q.bindings :=
    (hcalled lookUp rfl).resolve_right fun ⟨⟨_, hspeech, _⟩, _⟩ => nomatch hspeech
  rw [hresult, hkept]

private def countCall : Assignment :=
  { target := "calls", value := "1", operation := .increment }

private def tallyTurn : Turn where
  settings := {}
  flow :=
    { nodes :=
        [{ id := "tally", config := .setVariable { assignments := [noteCall, countCall] } }] }
  userInput := ""
  history := []

/-- More calls than a double can count. -/
private def manyCalls : Bindings := [("note", .text ""), ("calls", .int (Nat.pow 10 400))]

/-- The note is made although the calls can not be counted, and it is made again when the node is
run again. -/
theorem run_failed_doubles_note :
    let first := ((tallyTurn.run "tally" manyCalls).run {}).1
    let second := ((tallyTurn.run "tally" first.result.bindings).run {}).1
    first.ending = .failed ∧ first.result.move = .gather "tally" ∧
      (first.result.bindings.getD "note").text? = some "called;" ∧
      second.ending = .failed ∧ (second.result.bindings.getD "note").text? =
        some "called;called;" := by
  decide +kernel

end Turn

end CallFlow
