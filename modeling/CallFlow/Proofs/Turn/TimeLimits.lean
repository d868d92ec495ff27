import CallFlow.Proofs.Decimal.Finite
import CallFlow.Proofs.Flow.Parts
import CallFlow.Proofs.Sandbox.Boundary
import CallFlow.Proofs.Turn.Queries
import CallFlow.Proofs.Validation.Runnable

namespace CallFlow

open Schema

/-- An amount that puts an end to a wait: it is finite and above zero. -/
def Amount.IsBound : Amount → Prop
  | whole i => 0 < i
  | real x => (real x).IsFinite ∧ 0 < x

/-- A number with a point is a finite amount exactly if it is finite. -/
theorem Amount.isFinite_real_iff {x : Float} : (real x).IsFinite ↔ x.isFinite = true :=
  Decimal.isFinite_iff.symm

/-- Milliseconds as seconds, with a default for those that are too few. -/
theorem Amount.isBound_orElse_iff {ms : Float} (hms : ¬ms ≤ 0) {default : Amount}
    (hdefault : default.IsBound) :
    (orElse (some (real (ms / 1000))) default).IsBound ↔ (real ms).IsFinite := by
  have hfinite := Decimal.isFinite_div_thousand hms
  rw [isFinite_real_iff, ← hfinite]
  cases hzero : ms / 1000 == 0 with
  | true =>
    have horElse : orElse (some (real (ms / 1000))) default = default := if_pos hzero
    rw [horElse]
    exact iff_of_true hdefault (Decimal.isFinite_of_beq_zero hzero)
  | false =>
    have horElse : orElse (some (real (ms / 1000))) default = real (ms / 1000) :=
      if_neg (Bool.eq_false_iff.1 hzero)
    rw [horElse]
    refine ⟨fun h => isFinite_real_iff.1 h.1, fun h => ⟨isFinite_real_iff.2 h, ?_⟩⟩
    refine (Decimal.div_thousand_pos hms (hfinite ▸ h)).resolve_left fun h => ?_
    cases hzero.symm.trans h

/-- The time limits that validation lets through. -/
theorem Flow.not_timeout_le_zero_of_load {raw : Value} {flow : Flow}
    (h : Flow.load raw true = .ok flow) {n : Node} (hn : n ∈ flow.nodes) {c : FunctionConfig}
    (hc : n.config = .function c) {ms : Float} (hms : c.timeout = some ms) : ¬ms ≤ 0 := by
  have hrun : flow.Runnable := errors_validateIn_eq_nil_iff.1 (errors_eq_nil_of_load h)
  have hsettings := hrun.settings n hn
  simp only [checkSettings, hc, Report.errors_append_eq_nil, Report.errors_require_eq_nil, hms]
    at hsettings
  simpa using hsettings.1.2

/-- A time limit that is written as a whole number is finite. -/
theorem FunctionConfig.isFinite_timeout_of_int {o : Bindings} {c : FunctionConfig}
    (h : reader (.object o) = .read c) {i : Int} (hi : Fields.timeout.value? o = some (.int i))
    {ms : Float} (hms : c.timeout = some ms) : (Amount.real ms).IsFinite := by
  have hnumber : Reader.nullable Reader.number (.int i) = .read (some ms) := by
    rw [← hms]
    exact (Field.optional_eq_read_iff hi).1 (reader_eq_read_iff.1 h).timeout
  simp only [Reader.nullable, Reader.number, Reader.ofRule, Rule.number] at hnumber
  cases hread : Decimal.ofInt? i with
  | none =>
    rw [hread] at hnumber
    cases hnumber
  | some x =>
    rw [hread] at hnumber
    cases hnumber
    exact Amount.isFinite_real_iff.2 (Decimal.isFinite_of_ofInt? hread)

namespace Turn

/-- In a strictly loaded flow, whatever a function asks for is asked under its time limit, and with
defaults that are bounds the limit is one exactly if the number of milliseconds is finite, should
there be one. It always is when it is written as a whole number. -/
theorem limit_isBound_iff (t : Turn) {raw : Value} (hload : Flow.load raw true = .ok t.flow)
    (hhttp : t.settings.functions.httpTimeout.IsBound)
    (hcode : t.settings.functions.codeTimeout.IsBound) {n : Node} (hn : n ∈ t.flow.nodes)
    {c : FunctionConfig} (hc : n.config = .function c) :
    (∀ b, (t.call c b).AsksOnly
      (Query.ForFunction t.settings.functions c b (limit t.settings.functions c))) ∧
    ((limit t.settings.functions c).IsBound ↔
      ∀ ms, c.timeout = some ms → (Amount.real ms).IsFinite) ∧
    ∀ o i, FunctionConfig.reader (.object o) = .read c →
      Fields.timeout.value? o = some (.int i) → (limit t.settings.functions c).IsBound := by
  have hiff : (limit t.settings.functions c).IsBound ↔
      ∀ ms, c.timeout = some ms → (Amount.real ms).IsFinite := by
    have hdefault : (t.settings.functions.limit c.kind).IsBound := by
      cases c.kind with
      | http => exact hhttp
      | code => exact hcode
    rw [limit, timeout]
    cases hms : c.timeout with
    | none => exact iff_of_true hdefault nofun
    | some ms =>
      have hpos := Flow.not_timeout_le_zero_of_load hload hn hc hms
      rw [Option.map_some, Amount.isBound_orElse_iff hpos hdefault]
      exact ⟨fun h ms' hms' => Option.some.inj hms' ▸ h, fun h => h ms rfl⟩
  exact ⟨fun b => call_asksOnly, hiff,
    fun o i hread hi => hiff.2 fun ms hms => FunctionConfig.isFinite_timeout_of_int hread hi hms⟩

/-- A flow with one snippet, under a limit in milliseconds. -/
private def snippetRaw (ms : Value) : Value :=
  let node (id type : String) (config : List (String × Value)) : Value :=
    .object [("id", .text id), ("type", .text type), ("config", .object config)]
  let edge (source target : String) : Value :=
    .object [("source", .text source), ("target", .text target)]
  .object
    [("id", .text "f"),
     ("nodes", .list
      [node "begin" "start" [("speaksFirst", .bool false)],
       node "count" "function"
        [("executionType", .text "code"), ("code", .text "return 1"),
         ("outputVariable", .text "calls"), ("timeout", ms)],
       node "bye" "end" []]),
     ("edges", .list [edge "begin" "count", edge "count" "bye"])]

private def snippetConfig (ms : Float) : FunctionConfig :=
  { kind := .code, code := "return 1", outputVariable := "calls", timeout := some ms }

private def snippetNode (ms : Float) : Node :=
  { id := "count", config := .function (snippetConfig ms) }

private def snippetTurn (ms : Float) : Turn where
  settings := {}
  flow :=
    { id := "f"
      nodes :=
        [{ id := "begin", config := .start { speaksFirst := false } }, snippetNode ms,
         { id := "bye", config := .finish {} }]
      edges := [{ source := "begin", target := "count" }, { source := "count", target := "bye" }] }
  userInput := ""
  history := []

/-- A limit that is written as a text. -/
theorem limit_isBound_snippet :
    Flow.load (snippetRaw (.text "1500")) true = .ok (snippetTurn 1500).flow ∧
      (limit {} (snippetConfig 1500)).IsBound := by
  have hload : Flow.load (snippetRaw (.text "1500")) true = .ok (snippetTurn 1500).flow :=
    Flow.load_eq_ok_iff.2 ⟨rfl, fun _ => by decide +kernel⟩
  have hnode : snippetNode 1500 ∈ (snippetTurn 1500).flow.nodes := .tail _ (.head _)
  obtain ⟨-, hiff, -⟩ := limit_isBound_iff (snippetTurn 1500) hload ⟨⟨rfl, rfl⟩, by decide⟩
    ⟨⟨rfl, rfl⟩, by decide⟩ hnode rfl
  refine ⟨hload, hiff.2 fun ms hms => ?_⟩
  cases hms
  exact ⟨rfl, rfl⟩

/-- A strict load lets a limit through that is not a number. The snippet, in which there is nothing
to refuse, is never run under it. -/
theorem limit_unbound_snippet :
    Flow.load (snippetRaw (.text "nan")) true = .ok (snippetTurn notANumber).flow ∧
      snippetNode notANumber ∈ (snippetTurn notANumber).flow.nodes ∧
      ¬(limit {} (snippetConfig notANumber)).IsBound ∧
      Snippet.check "return 1" = .ok () ∧
      (((snippetTurn notANumber).call (snippetConfig notANumber) []).run {}).2.log.length = 0 := by
  refine ⟨Flow.load_eq_ok_iff.2 ⟨rfl, fun _ => by decide +kernel⟩, .tail _ (.head _), ?_,
    by decide +kernel, by decide +kernel⟩
  rintro ⟨⟨hnan, -⟩, -⟩
  cases hnan

end Turn

end CallFlow
