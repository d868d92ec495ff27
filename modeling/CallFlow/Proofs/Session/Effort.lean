import CallFlow.Proofs.Session.Moments
import CallFlow.Proofs.Turn.Effort

namespace CallFlow

open Dialogue

/-- The ids of the nodes that were run in walks. -/
def visitedIn (ws : List Walk) : List String := ws.flatMap Walk.visited

/-- The ids of the nodes that were run in answer to a call, none if it was refused. -/
def nodesRun : Except Closed Passage → List String
  | .ok p => visitedIn p.walks
  | .error _ => []

/-- The most nodes that one call to a session runs. -/
def Settings.mostNodes (s : Settings) : Nat := (s.engine.hops + 1) * (s.engine.hops + 1)

namespace Session

variable {settings : Settings}

/-- A walk of a session makes a moderate effort. -/
theorem walk_moderate (s : Session) (utterance : Option String) :
    (s.walk settings utterance).Ensures fun es w =>
      Moderate settings (settings.engine.hops + 1) es w.visited :=
  Turn.walk_moderate (t := s.turn settings utterance) settings.engine.hops _ _

theorem execute_moderate (s : Session) (utterance : Option String) :
    (s.execute settings utterance).Ensures fun es o =>
      Moderate settings (settings.engine.hops + 1) es o.1.visited := by
  rw [execute_eq]
  refine (s.walk_moderate utterance).bind fun es w hw => ?_
  have hgone : (query .hungUp).AsksAtMost fun _ => 0 := asksAtMost_free rfl
  refine Ensures.map hgone fun es' gone hfree => ?_
  simpa using hw.append (.free (m := 0) hfree)

/-- Following up makes a moderate effort for each turn that may follow. -/
theorem followUp_moderate (n : Nat) (w : Walk) (s : Session) :
    (followUp settings n (w, s)).Ensures fun es o => o.1.first = w ∧
      Moderate settings (n * (settings.engine.hops + 1)) es (visitedIn o.1.more) := by
  -- over the walks that may still follow, each of which has its own number of nodes
  induction n generalizing w s with
  | zero => exact ensures_done ⟨rfl, .nil⟩
  | succ n ih =>
    unfold followUp
    split
    · refine (s.execute_moderate none).bind ?_
      rintro es ⟨next, after⟩ hnext
      refine (ih next after).map ?_
      rintro es' ⟨⟨first, more⟩, last⟩ ⟨rfl, hmore⟩
      refine ⟨rfl, ?_⟩
      rw [Nat.succ_mul, Nat.add_comm]
      exact hnext.append hmore
    · exact ensures_done ⟨rfl, .nil⟩

/-- Advancing a session makes a moderate effort. -/
theorem advance_moderate (s : Session) (utterance : Option String) :
    (s.advance settings utterance).Ensures fun es o =>
      Moderate settings settings.mostNodes es (visitedIn o.1.walks) := by
  refine (s.execute_moderate utterance).bind ?_
  rintro es ⟨w, after⟩ hw
  refine (followUp_moderate settings.engine.hops w after).mono ?_
  rintro es' ⟨⟨first, more⟩, last⟩ ⟨rfl, hmore⟩
  rw [Settings.mostNodes, Nat.succ_mul, Nat.add_comm]
  exact hw.append hmore

theorem start_moderate (s : Session) : (s.start settings).Ensures fun es o =>
    Moderate settings settings.mostNodes es (nodesRun o.1) := by
  unfold start
  split
  · exact ensures_done .nil
  · exact (advance_moderate { s with status := .active } none).map fun es o ho => ho

/-- Input makes a moderate effort. -/
theorem input_moderate (s : Session) (text : String) :
    (s.input settings text).Ensures fun es o =>
      Moderate settings settings.mostNodes es (nodesRun o.1) := by
  unfold input
  split
  · exact ensures_done .nil
  · exact (advance_moderate { s with status := .active } (some text)).map fun es o ho => ho

end Session

/-- What one call to a session comes to keeps to the bounds: on the nodes that are run and, for each
effort, on how often it is asked for. -/
structure Bounded (settings : Settings) (requests : Effort → Nat)
    (answer : Except Closed Passage) : Prop where
  nodes : (nodesRun answer).length ≤ settings.mostNodes
  model : requests .model ≤ 2 * settings.mostNodes
  http : requests .http ≤ settings.functions.attempts * settings.mostNodes
  code : requests .code ≤ settings.mostNodes

/-- A moderate effort is bounded by the settings. -/
theorem Moderate.bounded {settings : Settings} {es : List Exchange}
    {answer : Except Closed Passage}
    (h : Moderate settings settings.mostNodes es (nodesRun answer)) :
    Bounded settings (fun k => asked k es) answer := by
  have hasked : ∀ k, asked k es ≤ settings.share k * settings.mostNodes :=
    fun k => Nat.le_trans (h.share k) (Nat.mul_le_mul_left _ h.nodes)
  refine ⟨h.nodes, hasked .model, hasked .http, ?_⟩
  exact Nat.le_trans (hasked .code) (Nat.le_of_eq (Nat.one_mul _))

namespace Session

/-- No call to a session spins. Whatever the flow, the state of the session and the replies, it
comes to an end within the bounds. In the world of a script, where it ends in any case, the log
tells what was asked for. -/
theorem calls_bounded (settings : Settings) (s : Session) :
    (∀ es o, (s.start settings).Transcript es o → Bounded settings (fun k => asked k es) o.1) ∧
    (∀ text es o, (s.input settings text).Transcript es o →
      Bounded settings (fun k => asked k es) o.1) ∧
    (∀ script : Script, ∃ requests,
      (∀ k, ((s.start settings).run script).2.asked k = script.asked k + requests k) ∧
        Bounded settings requests ((s.start settings).run script).1.1) ∧
    ∀ text, ∀ script : Script, ∃ requests,
      (∀ k, ((s.input settings text).run script).2.asked k = script.asked k + requests k) ∧
        Bounded settings requests ((s.input settings text).run script).1.1 := by
  have hstart : ∀ es o, (s.start settings).Transcript es o →
      Bounded settings (fun k => asked k es) o.1 :=
    fun es o hes => (s.start_moderate es o hes).bounded
  have hinput : ∀ text es o, (s.input settings text).Transcript es o →
      Bounded settings (fun k => asked k es) o.1 :=
    fun text es o hes => (s.input_moderate text es o hes).bounded
  refine ⟨hstart, hinput, fun script => ?_, fun text script => ?_⟩
  · obtain ⟨es, hes, hlog⟩ := (s.start settings).exists_transcript_run_asked script
    exact ⟨fun k => asked k es, hlog, hstart es _ hes⟩
  · obtain ⟨es, hes, hlog⟩ := (s.input settings text).exists_transcript_run_asked script
    exact ⟨fun k => asked k es, hlog, hinput text es _ hes⟩

private def wheelFlow : Flow where
  nodes :=
    [{ id := "count", config := .setVariable { assignments := [{ target := "n", value := "1" }] } },
     { id := "pause"
       config := .conversation
         { content := { mode := .fixed, text := "" }, skipResponse := true } }]
  edges := [{ source := "count", target := "pause" }, { source := "pause", target := "count" }]

private def wheelCall : Session := Session.new "call" wheelFlow []

private def wheelSettings : Settings := { engine := { maxHops := 1 } }

/-- A flow that goes round without a word runs as many nodes as the bound allows. -/
theorem wheelCall_bounded : ∃ es,
    let o := ((wheelCall.input wheelSettings "Hello?").run {}).1
    (wheelCall.input wheelSettings "Hello?").Transcript es o ∧
      nodesRun o.1 = ["count", "pause", "count", "pause"] ∧
      Bounded wheelSettings (fun k => asked k es) o.1 := by
  obtain ⟨-, hinput, -, -⟩ := calls_bounded wheelSettings wheelCall
  obtain ⟨es, hes⟩ := (wheelCall.input wheelSettings "Hello?").exists_transcript_run {}
  exact ⟨es, hes, by decide +kernel, hinput "Hello?" es _ hes⟩

end Session

end CallFlow
