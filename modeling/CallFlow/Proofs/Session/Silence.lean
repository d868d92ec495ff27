import CallFlow.Proofs.Session.Log
import CallFlow.Proofs.Turn.Results
import CallFlow.Proofs.Turn.Silence
import CallFlow.Proofs.Validation.Runnable

namespace CallFlow

/-- As many walks followed as may follow, and each came to an end without a word. -/
def Passage.IsMute (hops : Nat) (flow : Flow) (p : Passage) : Prop :=
  p.more.length = hops ∧ ∀ w ∈ p.more, w.IsMute flow

/-- What a passage comes to is what its last walk does. -/
theorem Passage.result_after (w : Walk) (p : Passage) : (p.after w).result = p.result := by
  simp [result, after, walks, List.getLast?_cons]

/-- The last walk of a mute passage is one of those that followed, if any may follow. -/
theorem Passage.IsMute.exists_last {hops : Nat} {flow : Flow} {p : Passage}
    (h : p.IsMute hops flow) (hhops : hops ≠ 0) :
    ∃ w : Walk, p.result = w.result ∧ w.IsMute flow := by
  obtain ⟨hlength, hmute⟩ := h
  have hmore : p.more ≠ [] := List.ne_nil_of_length_pos (by omega)
  refine ⟨p.more.getLast hmore, ?_, hmute _ (List.getLast_mem hmore)⟩
  rw [result, List.getLast?_eq_some_getLast hmore]
  rfl

/-- In a flow that was loaded strictly no content is empty. -/
theorem Flow.content_ne_empty_of_load {raw : Value} {flow : Flow}
    (h : Flow.load raw true = .ok flow) {n : Node} (hn : n ∈ flow.nodes) {c : ConversationConfig}
    (hc : n.config = .conversation c) : c.content.text ≠ "" := by
  have hrun : flow.Runnable := errors_validateIn_eq_nil_iff.1 (errors_eq_nil_of_load h)
  have hsettings := hrun.settings n hn
  simp only [checkSettings, hc, Report.errors_append_eq_nil, Report.errors_require_eq_nil]
    at hsettings
  intro hempty
  simp [hempty, blankText] at hsettings

/-- Every sentence that a node of the flow is authored to say has a character of its own. -/
def Flow.HasWords (flow : Flow) : Prop := ∀ n ∈ flow.nodes, ∀ text, n.config.sentence? = some text →
  ∃ c, Template.Piece.char c ∈ Template.parse text

/-- No walk is mute in a flow that has words. -/
theorem Walk.IsMute.not_hasWords {flow : Flow} {w : Walk} (h : w.IsMute flow) :
    ¬flow.HasWords := by
  intro hwords
  obtain ⟨-, id, -, n, hnode, text, hsentence, -, hempty⟩ := h
  obtain ⟨c, hc⟩ := hwords n (Flow.mem_nodes_of_node? hnode).1 text hsentence
  obtain ⟨name, hname, -⟩ := Template.render_eq_empty_iff.1 hempty _ hc
  cases hname

namespace Session

variable {settings : Settings} {s : Session} {utterance : Option String} {w : Walk}

/-- Only a result that waits for the caller leaves a session open. -/
theorem gather_of_isActive_receive (hmove : w.result.move.IsWellFormed)
    (h : (s.receive settings utterance w).isActive) : ∃ next, w.result.move = .gather next := by
  refine hmove.eq_gather ?_
  unfold receive at h
  split at h
  · unfold commit at h
    obtain haction | haction | haction := hmove.action
    · exact haction
    · simp [haction, isActive] at h
    · simp [haction, isActive] at h
  · exact absurd h ‹_›

/-- A session that is still open after a walk waits at a node with an id, besides whatever the walk
guarantees. -/
theorem execute_waits {P : Walk → Prop} (h : (s.walk settings utterance).Always P) :
    (s.execute settings utterance).Always fun o => P o.1 ∧ o.2.flow = s.flow ∧
      (o.2.isActive → ∃ next, o.1.result.move = .gather next ∧ next ≠ "") := by
  have hmoves : (s.walk settings utterance).Always fun w => w.result.move.IsWellFormed :=
    Turn.walk_wellFormed _ _ _
  have hwaits : (s.walk settings utterance).Always fun w =>
      ∀ next, w.result.move = .gather next → next ≠ "" := by
    refine (Turn.walk_goesOn (t := s.turn settings utterance) _ _ _).mono fun w hw next hmove => ?_
    obtain ⟨last, -, hleads⟩ := hw.waits next (by rw [hmove]; rfl)
    exact hleads.ne_empty
  rw [execute_eq]
  refine (h.and (hmoves.and hwaits)).bind fun w ⟨hw, hform, hnext⟩ gone =>
    ⟨hw, ?_, fun hactive => ?_⟩
  · cases gone <;> simp
  · obtain ⟨next, hmove⟩ := gather_of_isActive_receive hform hactive
    exact ⟨next, hmove, hnext next hmove⟩

/-- A call that goes on within its turns goes on. -/
theorem isActive_of_limitTurns (h : s.limitTurns.isActive) : s.isActive := by
  unfold limitTurns at h
  split at h
  · exact h
  · split at h
    · cases h
    · exact h

section

variable {flow : Flow}
  (hmute : ∀ s : Session, s.flow = flow → (s.walk settings none).Always fun w =>
    ∀ next, w.result.move = .gather next → w.result.response = "" → w.IsMute flow)
include hmute

/-- When the walks that follow leave the caller in silence, each of them was mute, and no more could
follow. -/
theorem followUp_isMute (n : Nat) (w : Walk) (s : Session) (hflow : s.flow = flow)
    (hwaits : s.isActive → ∃ next, w.result.move = .gather next ∧ next ≠ "") :
    (followUp settings n (w, s)).Always fun o => o.1.first = w ∧ (o.2.isActive →
      o.1.result.response = "" →
        (s.isActive ∧ w.result.response = "") ∧ o.1.IsMute n flow) := by
  -- over the walks that may still follow; with none left nothing more is claimed of them
  induction n generalizing w s with
  | zero => exact ⟨rfl, fun hactive hempty => ⟨⟨hactive, hempty⟩, rfl, nofun⟩⟩
  | succ n ih =>
    unfold followUp
    split
    next hsilent =>
      refine (execute_waits (hmute s hflow)).bind ?_
      rintro ⟨next, after⟩ ⟨hnext, hafter, hgathers⟩
      refine (ih next after (hafter.trans hflow) hgathers).bind ?_
      rintro ⟨p, last⟩ ⟨rfl, hrest⟩
      refine ⟨rfl, fun hactive hempty => ⟨(isSilentAdvance_iff.1 hsilent).1, ?_⟩⟩
      rw [Passage.result_after] at hempty
      obtain ⟨⟨hopen, hfirst⟩, hlength, hmore⟩ := hrest hactive hempty
      obtain ⟨id, hmove, -⟩ := hgathers hopen
      exact ⟨congrArg Nat.succ hlength, List.forall_mem_cons.2 ⟨hnext id hmove hfirst, hmore⟩⟩
    next hspoken =>
      refine ⟨rfl, fun hactive hempty => absurd ?_ hspoken⟩
      obtain ⟨next, hmove, hne⟩ := hwaits hactive
      exact isSilentAdvance_iff.2 ⟨⟨hactive, hempty⟩, by rw [hmove]; exact ⟨rfl, next, rfl, hne⟩⟩

/-- A call that goes on in silence after a turn is mute. -/
theorem advance_isMute (hflow : s.flow = flow) : (s.advance settings utterance).Always fun o =>
    o.2.isActive → o.1.result.response = "" → o.1.IsMute settings.engine.hops flow := by
  have hany : (s.walk settings utterance).Always fun _ => True := .of_forall fun _ => trivial
  refine (execute_waits hany).bind ?_
  rintro ⟨w, after⟩ ⟨-, hafter, hwaits⟩
  refine (followUp_isMute hmute _ w after (hafter.trans hflow) hwaits).mono ?_
  exact fun o ho hactive hempty => (ho.2 hactive hempty).2

end

/-- If a call goes on after an answer, the answer is silent exactly if the passage is mute, and
never in a flow whose sentences all have words. -/
def SpeaksUnlessMute (settings : Settings) (flow : Flow) (o : Except Closed Passage × Session) :
    Prop :=
  ∀ p, o.1 = .ok p → o.2.isActive →
    (p.result.response = "" ↔ p.IsMute settings.engine.hops flow) ∧
      (flow.HasWords → p.result.response ≠ "")

/-- In a call of a strictly loaded flow, silence can come of a sentence that is made of placeholders
alone, when nothing is bound to their names. The caller is left in silence only after as many walks
as may follow have all come to such a sentence, and then always; the call goes on nevertheless. -/
theorem speaksUnlessMute_of_load (settings : Settings) (s : Session) {raw : Value}
    (hload : Flow.load raw true = .ok s.flow) (hhops : 1 ≤ settings.engine.maxHops)
    (hfallback : settings.engine.fallbackMessage ≠ "") :
    (s.start settings).Always (SpeaksUnlessMute settings s.flow) ∧
      ∀ text, (s.input settings text).Always (SpeaksUnlessMute settings s.flow) := by
  have hpos : settings.engine.hops ≠ 0 := by
    unfold EngineSettings.hops
    omega
  have hmute : ∀ other : Session, other.flow = s.flow → (other.walk settings none).Always fun w =>
      ∀ next, w.result.move = .gather next → w.result.response = "" → w.IsMute s.flow := by
    intro other hflow
    rw [← hflow] at hload ⊢
    exact Turn.walk_isMute (t := other.turn settings none) hfallback rfl
      (fun n hn c hc => Flow.content_ne_empty_of_load hload hn hc) _ _ _
  have hspeaks : ∀ p : Passage,
      (p.result.response = "" → p.IsMute settings.engine.hops s.flow) →
      (p.result.response = "" ↔ p.IsMute settings.engine.hops s.flow) ∧
        (s.flow.HasWords → p.result.response ≠ "") := by
    refine fun p h => ⟨⟨h, fun hp => ?_⟩, fun hwords hempty => ?_⟩
    · obtain ⟨w, hlast, hw⟩ := hp.exists_last hpos
      rw [hlast]
      exact hw.1
    · obtain ⟨w, -, hw⟩ := (h hempty).exists_last hpos
      exact hw.not_hasWords hwords
  refine ⟨?_, fun text => ?_⟩
  · unfold start
    split
    · exact fun p => nofun
    · refine (advance_isMute (s := { s with status := .active }) hmute rfl).bind ?_
      rintro ⟨p, last⟩ hlast p ⟨⟩ hactive
      exact hspeaks p (hlast hactive)
  · unfold input
    split
    · exact fun p => nofun
    · refine (advance_isMute (s := { s with status := .active }) hmute rfl).bind ?_
      rintro ⟨p, last⟩ hlast p ⟨⟩ hactive
      exact hspeaks p (hlast (isActive_of_limitTurns hactive))

private def questionRaw : Value :=
  let node (id type : String) (config : List (String × Value)) : Value :=
    .object [("id", .text id), ("type", .text type), ("config", .object config)]
  let edge (source target : String) : Value :=
    .object [("source", .text source), ("target", .text target)]
  .object
    [("id", .text "f"),
     ("nodes", .list
      [node "begin" "start" [("speaksFirst", .bool false)],
       node "ask" "conversation"
        [("content", .object
          [("mode", .text "static"), ("content", .text "\x7b\x7bquestion\x7d\x7d")])],
       node "bye" "end" []]),
     ("edges", .list [edge "begin" "ask", edge "ask" "bye"]),
     ("variables", .list [.object [("name", .text "question")]])]

/-- Asks the caller what a variable holds. -/
private def questionFlow : Flow where
  id := "f"
  nodes :=
    [{ id := "begin", config := .start { speaksFirst := false } },
     { id := "ask"
       config := .conversation
        { content := { mode := .fixed, text := "\x7b\x7bquestion\x7d\x7d" } } },
     { id := "bye", config := .finish {} }]
  edges := [{ source := "begin", target := "ask" }, { source := "ask", target := "bye" }]
  declarations := [{ name := "question" }]

private theorem load_questionRaw : Flow.load questionRaw true = .ok questionFlow :=
  Flow.load_eq_ok_iff.2 ⟨rfl, fun _ => by decide +kernel⟩

private def questionCall : Session := Session.new "call-1" questionFlow []

/-- What comes of the beginning of the call. -/
private def questionStart : Except Closed Passage × Session := ((questionCall.start {}).run {}).1

theorem questionCall_speaksUnlessMute : Flow.load questionRaw true = .ok questionCall.flow ∧
    SpeaksUnlessMute {} questionFlow questionStart := by
  obtain ⟨hstart, -⟩ :=
    speaksUnlessMute_of_load {} questionCall load_questionRaw (by decide) (by decide)
  exact ⟨load_questionRaw, hstart.run {}⟩

/-- The variable holds nothing, so nothing is asked, however often the node is run, and the call
goes on. -/
theorem questionCall_silent : Flow.load questionRaw true = .ok questionCall.flow ∧
    questionStart.2.isActive ∧
    (questionStart.1.toOption.map fun p => (p.result.response, p.more.length)) = some ("", 25) :=
  ⟨load_questionRaw, by decide +kernel, by decide +kernel⟩

end Session

end CallFlow
