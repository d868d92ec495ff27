import CallFlow.Proofs.Session.Log
import CallFlow.Proofs.Turn.Appraisals

namespace CallFlow

/-- The walks that were taken in answer to a call, none if it was refused. -/
def walksTaken : Except Closed Passage → List Walk
  | .ok p => p.walks
  | .error _ => []

/-- Walks may set a variable in the course of some exchanges, as turns of a flow. -/
def WalksMaySet (settings : Settings) (flow : Flow) (ws : List Walk) (es : List Exchange)
    (name : String) : Prop :=
  ∃ t : Turn, t.settings = settings ∧ t.flow = flow ∧ ∃ w ∈ ws, t.WalkMaySet w es name

/-- What walks may set they may set in a longer talk. -/
theorem WalksMaySet.append {settings : Settings} {flow : Flow} {ws ws' : List Walk}
    {es : List Exchange} {name : String} (h : WalksMaySet settings flow ws es name) (hws : ws ⊆ ws')
    (before after : List Exchange) :
    WalksMaySet settings flow ws' (before ++ es ++ after) name := by
  obtain ⟨t, hsettings, hflow, w, hw, id, hid, n, hn, hname⟩ := h
  exact ⟨t, hsettings, hflow, w, hws hw, id, hid, n, hn, hname.append before after⟩

namespace Session

/-- Takes a walk from where the session is, and notes every evaluation of an equation. -/
def executeNoted (settings : Settings) (s : Session) (utterance : Option String) :
    Noted Appraisal (Walk × Session) := do
  let w ← (s.turn settings utterance).walkNoted settings.engine.hops (s.node.getD "")
    (s.turnVariables utterance)
  let gone ← liftM (Dialogue.query .hungUp)
  return (w, (if gone then s.hangUp else s).receive settings utterance w)

/-- Goes on from silent results, so many times at most, and notes every evaluation. -/
def followUpNoted (settings : Settings) :
    Nat → Walk × Session → Noted Appraisal (Passage × Session)
  | 0, (w, s) => return (⟨w, []⟩, s)
  | n + 1, (w, s) => do
    if s.isSilentAdvance w.result then
      let (p, s) ← followUpNoted settings n (← s.executeNoted settings none)
      return (p.after w, s)
    else return (⟨w, []⟩, s)

/-- A turn with its equations noted is the turn. -/
theorem erase_executeNoted (settings : Settings) (s : Session) (utterance : Option String) :
    (s.executeNoted settings utterance).erase = s.execute settings utterance := by
  rw [execute_eq, executeNoted]
  simp only [Noted.erase_bind, Noted.erase_lift, Turn.erase_walkNoted, Noted.erase_pure]
  rfl

/-- Turns that follow with their equations noted are the turns. -/
theorem erase_followUpNoted (settings : Settings) (n : Nat) (o : Walk × Session) :
    (followUpNoted settings n o).erase = followUp settings n o := by
  induction n generalizing o with
  | zero => rfl
  | succ n ih =>
    obtain ⟨w, s⟩ := o
    unfold followUpNoted followUp
    split
    · simp only [Noted.erase_bind, erase_executeNoted, ih]
      rfl
    · rfl

/-- A session that is still active has the variables of the last walk. -/
theorem bindings_receive {settings : Settings} {s : Session} {utterance : Option String} {w : Walk}
    (h : (s.receive settings utterance w).isActive) :
    (s.receive settings utterance w).bindings = w.result.bindings := by
  unfold receive at h ⊢
  split at h
  next hactive =>
    rw [if_pos hactive, bindings_commit]
  next hclosed => exact absurd h hclosed

/-- What was noted in walks: with what the equations were evaluated as the caller's words, and with
which variables, given those at the beginning. -/
def Heard (settings : Settings) (flow : Flow) (words : String) (b : Bindings) (ws : List Walk)
    (es : List Exchange) (as : List Appraisal) : Prop :=
  ∀ a ∈ as, a.userInput = words ∧ b.Extends (WalksMaySet settings flow ws es) a.bindings

namespace Heard

variable {settings : Settings} {flow : Flow} {words : String} {b b' : Bindings} {w : Walk}
  {more : List Walk} {es es' : List Exchange} {as : List Appraisal}

/-- What was noted in a first walk, when others follow it. -/
theorem followed (h : Heard settings flow words b [w] es as) (more : List Walk)
    (es' : List Exchange) : Heard settings flow words b (w :: more) (es ++ es') as := by
  intro a ha
  obtain ⟨huser, hset⟩ := h a ha
  exact ⟨huser, hset.mono fun name hname => hname.append (by simp) [] es'⟩

/-- What was noted in walks that follow a first one, which left them its variables. -/
theorem after (h : Heard settings flow words b' more es' as)
    (hfirst : as ≠ [] → b.Extends (WalksMaySet settings flow [w] es) b') :
    Heard settings flow words b (w :: more) (es ++ es') as := by
  intro a ha
  obtain ⟨huser, hset⟩ := h a ha
  have hleft : b.Extends (WalksMaySet settings flow (w :: more) (es ++ es')) b' :=
    (hfirst (List.ne_nil_of_mem ha)).mono fun name hname => hname.append (by simp) [] es'
  refine ⟨huser, hleft.trans (hset.mono fun name hname => ?_)⟩
  simpa using hname.append (List.subset_cons_self w more) es []

end Heard

/-- The equations of a turn hear what the caller said in it. -/
theorem executeNoted_heard (settings : Settings) (s : Session) (utterance : Option String) :
    (s.executeNoted settings utterance).dialogue.Ensures fun es o =>
      Heard settings s.flow (utterance.getD "") (s.turnVariables utterance) [o.1.1] es o.2 ∧
        o.1.2.flow = s.flow ∧ (o.1.2.isActive →
          (s.turnVariables utterance).Extends (WalksMaySet settings s.flow [o.1.1] es)
            o.1.2.bindings) := by
  let t := s.turn settings utterance
  let walk := t.walkNoted settings.engine.hops (s.node.getD "") (s.turnVariables utterance)
  have hset : walk.erase.Ensures fun es w =>
      (s.turnVariables utterance).Extends (t.WalkMaySet w es) w.result.bindings := by
    rw [Turn.erase_walkNoted]
    exact t.walk_extends _ _ _
  have hwalk : walk.dialogue.Ensures fun es o =>
      (∀ a ∈ o.2, a.userInput = utterance.getD "" ∧
        (s.turnVariables utterance).Extends (t.WalkMaySet o.1 es) a.bindings) ∧
      (s.turnVariables utterance).Extends (t.WalkMaySet o.1 es) o.1.result.bindings :=
    fun es o hes => ⟨t.walkNoted_heard _ _ _ es o hes, Noted.ensures_of_erase hset es o hes⟩
  refine hwalk.bind fun es o ho => ?_
  have hreply : (Dialogue.query .hungUp).Ensures fun _ _ => True := fun _ _ _ => trivial
  simp only [Noted.dialogue_bind, Noted.dialogue_lift, Noted.dialogue_pure,
    Dialogue.bind_assoc, Dialogue.done_bind, List.append_nil]
  refine hreply.map fun es' gone _ => ?_
  have hmay : ∀ name, t.WalkMaySet o.1 es name →
      WalksMaySet settings s.flow [o.1] (es ++ es') name := by
    intro name hname
    have hset : WalksMaySet settings s.flow [o.1] es name :=
      ⟨t, rfl, rfl, o.1, List.mem_singleton_self _, hname⟩
    exact hset.append (List.Subset.refl _) [] es'
  refine ⟨fun a ha => ?_, ?_, ?_⟩
  · obtain ⟨huser, hvars⟩ := ho.1 a ha
    exact ⟨huser, hvars.mono hmay⟩
  · rw [flow_receive]
    cases gone
    · rfl
    · exact flow_hangUp s
  · intro hactive
    rw [bindings_receive hactive]
    exact ho.2.mono hmay

/-- The walks that follow go on from the variables that the session has by then, and nothing counts
as the caller's words in them. None follows once the session is closed. -/
theorem followUpNoted_heard (settings : Settings) (n : Nat) (w : Walk) (s : Session) :
    (followUpNoted settings n (w, s)).dialogue.Ensures fun es o =>
      o.1.1.first = w ∧ Heard settings s.flow "" s.bindings o.1.1.more es o.2 ∧
        (o.2 ≠ [] → s.isActive) := by
  induction n generalizing w s with
  | zero => exact Dialogue.ensures_done ⟨rfl, nofun, fun h => absurd rfl h⟩
  | succ n ih =>
    unfold followUpNoted
    split
    next hsilent =>
      have hactive : s.isActive := (isSilentAdvance_iff.1 hsilent).1.1
      simp only [Noted.dialogue_bind, Noted.dialogue_pure, Dialogue.bind_assoc, Dialogue.done_bind,
        List.append_nil]
      refine (executeNoted_heard settings s none).bind ?_
      rintro es ⟨⟨next, after⟩, here⟩ ⟨hhere, hflow, hvars⟩
      refine (ih next after).map ?_
      rintro es' ⟨⟨⟨first, more⟩, last⟩, later⟩ ⟨rfl, hlater, hopen⟩
      rw [hflow] at hlater
      refine ⟨rfl, fun a ha => ?_, fun _ => hactive⟩
      obtain hmem | hmem := List.mem_append.1 ha
      · exact hhere.followed more es' a hmem
      · exact hlater.after (fun hsome => hvars (hopen hsome)) a hmem
    next => exact Dialogue.ensures_done ⟨rfl, nofun, fun h => absurd rfl h⟩

end Session

/-- The evaluations of equations in a caller's turn: those in its first walk, and those in the walks
that follow from it without a word. -/
structure Hearing where
  first : List Appraisal := []
  later : List Appraisal := []

namespace Session

/-- Takes what the caller says, and notes every evaluation of an equation. -/
def inputNoted (settings : Settings) (s : Session) (text : String) :
    Dialogue ((Except Closed Passage × Session) × Hearing) :=
  if !s.isActive then .done ((.error (.inactive s.id s.status), s), {})
  else
    (executeNoted settings { s with status := .active } (some text)).dialogue.bind fun o =>
      (followUpNoted settings settings.engine.hops o.1).dialogue.bind fun o' =>
        .done ((.ok o'.1.1, o'.1.2.limitTurns), ⟨o.2, o'.2⟩)

/-- Input with its equations noted is the input. -/
theorem erase_inputNoted (settings : Settings) (s : Session) (text : String) :
    ((s.inputNoted settings text).bind fun o => .done o.1) = s.input settings text := by
  unfold inputNoted input
  split
  · rfl
  · simp only [advance, ← erase_executeNoted, ← erase_followUpNoted, Noted.erase,
      Dialogue.bind_eq, Dialogue.pure_eq, Dialogue.bind_assoc, Dialogue.done_bind]

/-- The equations of the first walk hear the caller, and those that follow nobody. -/
theorem inputNoted_heard (settings : Settings) (s : Session) (text : String) :
    (s.inputNoted settings text).Ensures fun es o =>
      let b := s.turnVariables (some text)
      Heard settings s.flow text b (walksTaken o.1.1) es o.2.first ∧
        Heard settings s.flow "" b (walksTaken o.1.1) es o.2.later := by
  unfold inputNoted
  split
  · exact Dialogue.ensures_done ⟨nofun, nofun⟩
  · refine (executeNoted_heard settings { s with status := .active } (some text)).bind ?_
    rintro es ⟨⟨taken, after⟩, first⟩ ⟨hfirst, hflow, hvars⟩
    refine (followUpNoted_heard settings settings.engine.hops taken after).map ?_
    rintro es' ⟨⟨⟨w, more⟩, last⟩, later⟩ ⟨rfl, hlater, hopen⟩
    rw [hflow] at hlater
    exact ⟨hfirst.followed more es', hlater.after fun hsome => hvars (hopen hsome)⟩

/-- In the first walk of a caller's turn every equation is evaluated with what the caller said, also
after any number of silent hops. In the walks that follow from it without a word every equation is
evaluated as if the caller had said nothing. So all equations of a turn hear the caller exactly if
nothing was said or no equation is evaluated in a later walk; and all the while the variables, which
templates are rendered with, still have what the caller said, unless a node of the turn may have set
that variable or the language model extracted it. -/
theorem equations_hear_iff (settings : Settings) (s : Session) (text : String) :
    ((s.inputNoted settings text).bind fun o => .done o.1) = s.input settings text ∧
    (s.inputNoted settings text).Ensures fun es o =>
      (∀ a ∈ o.2.first, a.userInput = text) ∧ (∀ a ∈ o.2.later, a.userInput = "") ∧
      ((∀ a ∈ o.2.first ++ o.2.later, a.userInput = text) ↔ text = "" ∨ o.2.later = []) ∧
      ∀ a ∈ o.2.first ++ o.2.later, a.bindings.get? userInputName = some (.text text) ∨
        WalksMaySet settings s.flow (walksTaken o.1.1) es userInputName := by
  refine ⟨erase_inputNoted settings s text, (inputNoted_heard settings s text).mono ?_⟩
  rintro es ⟨answer, first, later⟩ ⟨hfirst, hlater⟩
  dsimp only at hfirst hlater ⊢
  refine ⟨fun a ha => (hfirst a ha).1, fun a ha => (hlater a ha).1, ⟨fun hall => ?_, ?_⟩, ?_⟩
  · cases later with
    | nil => exact Or.inr rfl
    | cons a rest =>
      have hsaid := hall a (List.mem_append_right _ List.mem_cons_self)
      exact Or.inl (hsaid.symm.trans (hlater a List.mem_cons_self).1)
  · rintro (rfl | rfl) a ha
    · exact (List.mem_append.1 ha).elim (fun h => (hfirst a h).1) fun h => (hlater a h).1
    · exact (hfirst a (by simpa using ha)).1
  · intro a ha
    have hset := (List.mem_append.1 ha).elim (fun h => (hfirst a h).2) fun h => (hlater a h).2
    have hsaid : (s.turnVariables (some text)).get? userInputName = some (.text text) := by
      simp [turnVariables, Bindings.get?_set]
    by_cases hkept : a.bindings.get? userInputName = some (.text text)
    · exact Or.inl hkept
    · exact Or.inr (hset.changed _ (hsaid ▸ hkept))

private def answered : Transition where
  criterion := .equation
  condition := "\x7b\x7buser_input\x7d\x7d exists"
  handle := "answered"

private def agreed : Transition where
  criterion := .equation
  condition := "\x7b\x7buser_input\x7d\x7d == yes"
  handle := "agreed"

/-- Asks whether to go on, looks something up, and goes on if the caller said yes. -/
private def consentFlow : Flow where
  nodes :=
    [{ id := "begin", config := .start { speaksFirst := false } },
     { id := "ask"
       config := .conversation
        { content := { mode := .fixed, text := "Shall I go on?" }, transitions := [answered] } },
     { id := "look"
       config := .function { url := "https://rooms.example", transitions := [agreed] } },
     { id := "on"
       config := .finish
        { speech := some { mode := .fixed, text := "Going on: \x7b\x7buser_input\x7d\x7d." } } },
     { id := "off"
       config := .finish
        { speech := some { mode := .fixed, text := "Stopping: \x7b\x7buser_input\x7d\x7d." } } }]
  edges :=
    [{ source := "begin", target := "ask" },
     { source := "ask", target := "look", sourceHandle := some "answered" },
     { source := "look", target := "on", sourceHandle := some "agreed" },
     { source := "look", target := "off" }]

private def consentSettings : Settings := { functions := { httpTimeout := .whole 10 } }

/-- A call that waits for the caller's answer. -/
private def consentCall : Session :=
  (((Session.new "call-1" consentFlow []).start consentSettings).run {}).1.2

private def consentWorld : Script := { http := [⟨.response {}, false⟩] }

/-- The caller says yes, and the equation that asks for it is evaluated as if nothing had been said,
though the sentence that follows from it repeats the caller's words. -/
theorem consentFlow_unheard :
    let o := ((consentCall.inputNoted consentSettings "yes").run consentWorld).1
    o.2.later.map (fun a => (a.condition, a.userInput)) =
        [("\x7b\x7buser_input\x7d\x7d == yes", "")] ∧
      (∀ a ∈ o.2.later, a.holds = false ∧ (a.bindings.getD userInputName).text? = some "yes") ∧
      (o.1.1.toOption.map fun p => p.result.response) = some "Stopping: yes." ∧
      ¬∀ a ∈ o.2.first ++ o.2.later, a.userInput = "yes" := by
  decide +kernel

end Session

end CallFlow
