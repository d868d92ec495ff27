import CallFlow.Proofs.Session.Invariants
import CallFlow.Proofs.Turn.Writes

namespace CallFlow

namespace Session

open Moment Bindings

variable {settings : Settings} {flow : Flow} {name : String}

/-- A session begins with all declared variables. -/
theorem has_new (id : String) (bindings : Bindings) (h : name ∈ flow.declared) :
    (Session.new id flow bindings).bindings.has name := by
  have hinitial : name ∈ flow.initialVariables.names := by
    rw [Flow.initialVariables, mem_names_ofMembers, List.map_map]
    exact h
  exact has_iff_mem_names.2 (mem_names_update.2 (Or.inl hinitial))

/-- A bound variable is bound in the turn. -/
theorem has_turnVariables {s : Session} (h : s.bindings.has name) (utterance : Option String) :
    (s.turnVariables utterance).has name := by
  cases utterance with
  | none => exact h
  | some text => exact has_iff_mem_names.2 (mem_names_set.2 (Or.inr (has_iff_mem_names.1 h)))

/-- Walks keep the declared variables bound. -/
theorem maintains_declared : Maintains settings flow
    (fun memory => ∀ name ∈ flow.declared, memory.bindings.has name)
    (fun w => ∀ name ∈ flow.declared, w.result.bindings.has name) where
  walk s utterance _ hbound := by
    have hextends := (s.turn settings utterance).walk_extends settings.engine.hops
      (s.node.getD "") (s.turnVariables utterance)
    refine (hextends.mono fun es w hw name hname => ?_).always
    exact hw.kept name (has_turnVariables (hbound name hname) utterance)
  commit s utterance w _ hw := by
    rw [memory, bindings_commit]
    exact hw

/-- A turn leaves all variables bound that were bound before it. A variable that is new or changed
is set by one of the nodes that were run, as its settings tell, is one of those that functions set,
or was extracted by the language model in the course of the turn. So in every state of a call each
variable that its flow declares is bound. -/
theorem variables_stay_bound (settings : Settings) (flow : Flow) :
    (∀ (t : Turn) id b es w, (t.run id b).Transcript es w →
      (∀ name, b.has name → w.result.bindings.has name) ∧
      ∀ name, w.result.bindings.get? name ≠ b.get? name →
        ∃ node ∈ w.visited, ∃ n, t.flow.node? node = some n ∧
          (name ∈ n.config.writes ∨
            name ∈ ["_http_response", "_function_success", "_function_status"] ∨
            ∃ u, t.Generates n es u ∧ u.extractedVariables.has name)) ∧
    (∀ (t : Turn) id b (script : Script),
      ∃ es, (t.run id b).Transcript es ((t.run id b).run script).1) ∧
    (∀ s, (start settings s).Always fun o => Run settings ⟨s, none⟩ ⟨o.2, none⟩) ∧
    (∀ s text, (input settings s text).Always fun o => Run settings ⟨s, none⟩ ⟨o.2, none⟩) ∧
    ∀ id bindings m, Run settings ⟨Session.new id flow bindings, none⟩ m →
      ∀ name ∈ flow.declared, m.session.bindings.has name := by
  refine ⟨fun t id b es w hes => ?_, fun t id b script => Dialogue.exists_transcript_run _ script,
    start_run, input_run, fun id bindings m hm => ?_⟩
  · obtain ⟨hkept, hchanged⟩ := t.walk_extends t.settings.engine.hops id b es w hes
    exact ⟨hkept, hchanged⟩
  · exact (hm.keeps_of_new maintains_declared fun name hname => has_new id bindings hname).memory

private def greetNode : Node where
  id := "greet"
  config := .setVariable { assignments := [{ target := "greeted", value := "yes" }] }

private def cityNode : Node where
  id := "ask"
  config := .conversation { content := { text := "Ask where the caller lives." } }

/-- Notes that the caller was greeted, and asks for a city. -/
private def cityFlow : Flow where
  nodes := [{ id := "begin", config := .start { speaksFirst := false } }, greetNode, cityNode]
  edges := [{ source := "begin", target := "greet" }, { source := "greet", target := "ask" }]
  declarations := [{ name := "greeted" }, { name := "city" }, { name := "name" }]

private def citySettings : Settings :=
  { model := { provider := "anthropic", timeout := .whole 15 } }

private def cityTurn : Turn := ⟨citySettings, cityFlow, "Ghent", []⟩

/-- A model that understands the caller. -/
private def cityScript : Script where
  model := [⟨Engine.proposing "process_conversation" "" [("city", .text "Ghent")], false⟩]

theorem cityFlow_variables_stay_bound :
    let w := ((cityTurn.run "begin" [("name", .text "Ann")]).run cityScript).1
    w.visited = ["begin", "greet", "ask"] ∧
      (w.result.bindings.get? "greeted").isSome ∧ (w.result.bindings.get? "city").isSome ∧
      w.result.bindings.has "name" ∧
      (∃ node ∈ w.visited, ∃ n, cityFlow.node? node = some n ∧ ("city" ∈ n.config.writes ∨
        "city" ∈ ["_http_response", "_function_success", "_function_status"] ∨
        ∃ es u, cityTurn.Generates n es u ∧ u.extractedVariables.has "city")) ∧
      let s := (((Session.new "call" cityFlow []).start citySettings).run {}).1.2
      ∀ name ∈ ["greeted", "city", "name"], s.bindings.has name := by
  intro w
  obtain ⟨hturns, hscripts, hstart, -, hruns⟩ := variables_stay_bound citySettings cityFlow
  obtain ⟨es, hes⟩ := hscripts cityTurn "begin" [("name", .text "Ann")] cityScript
  obtain ⟨hkept, hchanged⟩ := hturns cityTurn "begin" _ es w hes
  have hcity : (w.result.bindings.get? "city").isSome := by decide +kernel
  refine ⟨by decide +kernel, by decide +kernel, hcity, hkept "name" rfl, ?_, ?_⟩
  · have hnew : w.result.bindings.get? "city" ≠ get? [("name", .text "Ann")] "city" := by
      intro hsame
      rw [hsame] at hcity
      cases hcity
    obtain ⟨node, hnode, n, hn, hset⟩ := hchanged "city" hnew
    refine ⟨node, hnode, n, hn, hset.imp_right (Or.imp_right ?_)⟩
    rintro ⟨u, hu, hname⟩
    exact ⟨es, u, hu, hname⟩
  · exact hruns "call" [] _ ((hstart (Session.new "call" cityFlow [])).run {})

end Session

end CallFlow
