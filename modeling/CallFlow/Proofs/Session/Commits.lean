import CallFlow.Proofs.Session.Lifecycle

namespace CallFlow

/-- A result to be committed, and what the caller said if that began the walk. -/
structure Commit where
  utterance : Option String
  result : TurnResult

/-- The commits of walks that the caller did not begin. -/
def Commit.ofWalks (ws : List Walk) : List Commit := ws.map fun w => ⟨none, w.result⟩

/-- The commits of a passage, if all of its walks are committed. -/
def Passage.commits (p : Passage) (utterance : Option String) : List Commit :=
  ⟨utterance, p.first.result⟩ :: Commit.ofWalks p.more

namespace Session

/-- What is kept of a call, however it stands. -/
structure Memory where
  bindings : Bindings
  lines : List Line
  turnCount : Nat
  node : Option String
  transferTo : Option String

def memory (s : Session) : Memory :=
  ⟨s.bindings, s.lines, s.turnCount, s.node, s.transferTo⟩

/-- The session after some commits. -/
def replay (engine : EngineSettings) (s : Session) (cs : List Commit) : Session :=
  cs.foldl (fun s c => s.commit engine c.utterance c.result) s

variable {settings : Settings} {engine : EngineSettings} {s other : Session}
  {utterance : Option String}

theorem replay_cons (engine : EngineSettings) (s : Session) (c : Commit) (cs : List Commit) :
    s.replay engine (c :: cs) = (s.commit engine c.utterance c.result).replay engine cs := rfl

theorem replay_append (engine : EngineSettings) (s : Session) (cs ds : List Commit) :
    s.replay engine (cs ++ ds) = (s.replay engine cs).replay engine ds := List.foldl_append

@[simp] theorem memory_hangUp (s : Session) : s.hangUp.memory = s.memory := by
  unfold hangUp
  split <;> rfl

@[simp] theorem memory_conclude (s : Session) (byCaller : Bool) :
    (s.conclude byCaller).memory = s.memory := by
  unfold conclude limitTurns
  split
  · split
    · rfl
    · split <;> rfl
  · rfl

/-- What a commit makes of a memory depends on the memory only. -/
theorem memory_commit_congr (h : s.memory = other.memory) (engine : EngineSettings)
    (utterance : Option String) (r : TurnResult) :
    (s.commit engine utterance r).memory = (other.commit engine utterance r).memory := by
  simp only [memory, Memory.mk.injEq] at h
  obtain ⟨-, hlines, hcount, hnode, htransfer⟩ := h
  unfold commit
  cases r.move.action <;> simp [memory, hlines, hcount, hnode, htransfer]

/-- What a replay makes of a memory depends on the memory only. -/
theorem memory_replay_congr (h : s.memory = other.memory) (engine : EngineSettings)
    (cs : List Commit) : (s.replay engine cs).memory = (other.replay engine cs).memory := by
  induction cs generalizing s other with
  | nil => exact h
  | cons c cs ih => exact ih (memory_commit_congr h engine c.utterance c.result)

/-- A commit counts a turn if the caller said something. -/
theorem turnCount_commit (engine : EngineSettings) (s : Session) (utterance : Option String)
    (r : TurnResult) :
    (s.commit engine utterance r).turnCount = s.turnCount + if utterance.isSome then 1 else 0 := by
  unfold commit
  cases r.move.action <;> rfl

/-- The variables are those of the result. -/
theorem bindings_commit (engine : EngineSettings) (s : Session) (utterance : Option String)
    (r : TurnResult) : (s.commit engine utterance r).bindings = r.bindings := by
  unfold commit
  cases r.move.action <;> rfl

/-- The node stays unless the result has a next one. -/
theorem node_commit (engine : EngineSettings) (s : Session) (utterance : Option String)
    (r : TurnResult) : (s.commit engine utterance r).node = s.node ∨
      ∃ next, r.move.next? = some next ∧ (s.commit engine utterance r).node = some next := by
  unfold commit
  cases r.move.action with
  | finish | transfer => exact Or.inl rfl
  | speak | gather =>
    cases hnext : r.move.next? with
    | none => exact Or.inl rfl
    | some next => exact Or.inr ⟨next, rfl, rfl⟩

/-- A commit adds what was said, as far as it is kept. -/
theorem lines_commit (engine : EngineSettings) (s : Session) (utterance : Option String)
    (r : TurnResult) :
    (s.commit engine utterance r).lines =
      keep engine (s.lines ++ newLines utterance r.response) := by
  unfold commit
  cases r.move.action <;> rfl

/-- Replaying counts no turn off. -/
theorem turnCount_le_replay (engine : EngineSettings) (s : Session) (cs : List Commit) :
    s.turnCount ≤ (s.replay engine cs).turnCount := by
  induction cs generalizing s with
  | nil => exact Nat.le_refl _
  | cons c cs ih =>
    have hcommit := turnCount_commit engine s c.utterance c.result
    have hrest := ih (s.commit engine c.utterance c.result)
    rw [replay_cons]
    omega

/-- A commit hangs nobody up. -/
theorem commit_not_hungUp (h : s.status ≠ .hungUp) (engine : EngineSettings)
    (utterance : Option String) (r : TurnResult) :
    (s.commit engine utterance r).status ≠ .hungUp := by
  unfold commit
  cases r.move.action <;> simp [h]

/-- A replay hangs nobody up. -/
theorem replay_not_hungUp (h : s.status ≠ .hungUp) (engine : EngineSettings) (cs : List Commit) :
    (s.replay engine cs).status ≠ .hungUp := by
  induction cs generalizing s with
  | nil => exact h
  | cons c cs ih => exact ih (commit_not_hungUp h engine c.utterance c.result)

theorem limitTurns_not_hungUp (h : s.status ≠ .hungUp) : s.limitTurns.status ≠ .hungUp := by
  unfold limitTurns
  split
  · exact h
  · split
    · nofun
    · exact h

/-- A walk is committed, unless the caller hangs up before it is over. -/
theorem execute_commits (h : s.isActive) (settings : Settings) (utterance : Option String) :
    (s.execute settings utterance).Always fun o =>
      o.2 = s.commit settings.engine utterance o.1.result ∨ o.2 = s.hangUp := by
  rw [execute_eq]
  refine Dialogue.always_bind.2 (.of_forall fun w gone => ?_)
  cases gone with
  | false => exact Or.inl (if_pos h)
  | true => exact Or.inr (receive_of_closed s.isActive_hangUp)

/-- A closed call has no turn that follows. -/
theorem followUp_of_closed (h : s.isActive = false) (n : Nat) (w : Walk) :
    followUp settings n (w, s) = .done (⟨w, []⟩, s) := by
  cases n <;> simp [followUp, isSilentAdvance, h]

/-- The last commit is that of the last walk. -/
theorem dropLast_cons_ofWalks (c : Commit) {ws : List Walk} (h : ws ≠ []) :
    (c :: Commit.ofWalks ws).dropLast = c :: (Commit.ofWalks ws).dropLast :=
  List.dropLast_cons_of_ne_nil (by simpa [Commit.ofWalks] using h)

/-- Walks that follow are committed one by one, all of them or, if the caller hangs up, all but the
last. -/
theorem followUp_commits (settings : Settings) (n : Nat) (w : Walk) (s : Session) :
    (followUp settings n (w, s)).Always fun o => o.1.first = w ∧
      (o.2 = s.replay settings.engine (Commit.ofWalks o.1.more) ∨
        o.1.more ≠ [] ∧
          o.2 = (s.replay settings.engine (Commit.ofWalks o.1.more).dropLast).hangUp) := by
  -- over the walks that may still follow, from whatever session the last commit left
  induction n generalizing w s with
  | zero => exact ⟨rfl, Or.inl rfl⟩
  | succ n ih =>
    unfold followUp
    split
    · rename_i hsilent
      refine (execute_commits (isSilentAdvance_iff.1 hsilent).1.1 settings none).bind ?_
      rintro ⟨next, after⟩ hafter
      dsimp only at hafter
      obtain rfl | rfl := hafter
      · refine (ih next _).bind ?_
        rintro ⟨⟨first, more⟩, last⟩ ⟨rfl, hlast⟩
        refine ⟨rfl, ?_⟩
        obtain hlast | ⟨hmore, hlast⟩ := hlast
        · exact Or.inl hlast
        · refine Or.inr ⟨List.cons_ne_nil _ _, ?_⟩
          rw [hlast, ← replay_cons settings.engine s ⟨none, first.result⟩,
            ← dropLast_cons_ofWalks _ hmore]
          rfl
      · -- the caller is gone in this walk, which is so the last
        rw [followUp_of_closed s.isActive_hangUp]
        exact ⟨rfl, Or.inr ⟨List.cons_ne_nil _ _, rfl⟩⟩
    · exact ⟨rfl, Or.inl rfl⟩

/-- The walks of a turn are committed one by one, all of them or, if the caller hangs up, all but
the last. -/
theorem advance_commits (h : s.isActive) (settings : Settings) (utterance : Option String) :
    (s.advance settings utterance).Always fun o =>
      o.2 = s.replay settings.engine (o.1.commits utterance) ∨
        o.2 = (s.replay settings.engine (o.1.commits utterance).dropLast).hangUp := by
  refine (execute_commits h settings utterance).bind ?_
  rintro ⟨w, after⟩ hafter
  dsimp only at hafter
  obtain rfl | rfl := hafter
  · refine (followUp_commits settings settings.engine.hops w _).mono ?_
    rintro ⟨⟨first, more⟩, last⟩ ⟨rfl, hlast⟩
    obtain hlast | ⟨hmore, hlast⟩ := hlast
    · exact Or.inl hlast
    · refine Or.inr ?_
      rw [hlast, Passage.commits, dropLast_cons_ofWalks _ hmore]
      rfl
  · rw [followUp_of_closed s.isActive_hangUp]
    exact Or.inr rfl

/-- Input to a call in progress advances it. -/
theorem input_eq_advance (h : s.isActive) (settings : Settings) (text : String) :
    s.input settings text =
      (advance settings { s with status := .active } (some text)).bind fun o =>
        .done (.ok o.1, o.2.limitTurns) := by
  simp [input, h]

/-- The first commit of a caller's turn counts the turn. -/
theorem turnCount_lt_replay (engine : EngineSettings) (s : Session) (text : String) (r : TurnResult)
    (cs : List Commit) : s.turnCount < (s.replay engine (⟨some text, r⟩ :: cs)).turnCount := by
  have hfirst : (s.commit engine (some text) r).turnCount = s.turnCount + 1 :=
    turnCount_commit engine s (some text) r
  have hrest := turnCount_le_replay engine (s.commit engine (some text) r) cs
  exact Nat.lt_of_lt_of_le (hfirst ▸ Nat.lt_succ_self _) hrest

/-- All commits but the last leave the memory as it was exactly if there was one walk only. -/
theorem memory_replay_dropLast_iff (engine : EngineSettings) (s : Session) (p : Passage)
    (text : String) :
    (s.replay engine (p.commits (some text)).dropLast).memory = s.memory ↔ p.more = [] := by
  refine ⟨fun hmemory => ?_, fun hmore => ?_⟩
  · -- with a walk after it, the first commit stays, which counts the turn
    refine Decidable.byContradiction fun hmore => ?_
    rw [Passage.commits, dropLast_cons_ofWalks _ hmore] at hmemory
    have hlt := turnCount_lt_replay engine s text p.first.result (Commit.ofWalks p.more).dropLast
    exact Nat.ne_of_gt hlt (congrArg Memory.turnCount hmemory)
  · rw [Passage.commits, hmore]
    rfl

/-- When the caller hangs up in a turn, what its walks but the last have committed is kept. So the
turn is discarded whole if the caller hung up in its first walk, and not otherwise. -/
theorem input_discarded_iff (h : s.isActive) (settings : Settings) (text : String) :
    (s.input settings text).Always fun o => o.2.status = .hungUp → ∃ p, o.1 = .ok p ∧
      o.2.memory = (s.replay settings.engine (p.commits (some text)).dropLast).memory ∧
      (o.2.memory = s.memory ↔ p.more = []) := by
  rw [input_eq_advance h]
  refine (advance_commits (s := { s with status := .active }) rfl settings (some text)).bind ?_
  rintro ⟨p, last⟩ hlast hhungUp
  dsimp only at hlast hhungUp
  obtain rfl | rfl := hlast
  · have hnot := replay_not_hungUp (s := { s with status := .active }) nofun settings.engine
      (p.commits (some text))
    exact absurd hhungUp (limitTurns_not_hungUp hnot)
  · have hsame : memory { s with status := .active } = s.memory := rfl
    have hmemory := memory_replay_congr hsame settings.engine (p.commits (some text)).dropLast
    rw [← memory_hangUp, ← memory_conclude _ true] at hmemory
    refine ⟨p, rfl, hmemory, ?_⟩
    rw [← memory_replay_dropLast_iff settings.engine s p text, ← hmemory]
    rfl

private def named : Transition where
  criterion := .equation
  condition := "\x7b\x7buser_input\x7d\x7d exists"
  handle := "named"

private def tableFlow : Flow where
  nodes :=
    [{ id := "begin", config := .start { speaksFirst := false } },
     { id := "ask"
       config := .conversation
        { content := { mode := .fixed, text := "What is your name?" }, transitions := [named] } },
     { id := "thanks", config := .conversation { content := { text := "Thank the caller." } } },
     { id := "bye", config := .finish {} }]
  edges :=
    [{ source := "begin", target := "ask" },
     { source := "ask", target := "thanks", sourceHandle := some "named" },
     { source := "thanks", target := "bye" }]

private def tableSettings : Settings := { model := { timeout := .whole 15 } }

/-- A call that waits for the caller's name. -/
private def tableCall : Session :=
  (((Session.new "call-1" tableFlow []).start tableSettings).run {}).1.2

/-- The call once the name was taken. -/
private def namedCall : Session := { tableCall with node := some "thanks" }

/-- What comes of a caller's words when the caller hangs up while the model is asked. -/
private def hangingUp (s : Session) : Except Closed Passage × Session :=
  ((s.input tableSettings "Ann").run { model := [⟨.failed "gone", true⟩] }).1

/-- The caller hangs up in the first walk of the turn. -/
theorem namedCall_input_discarded :
    namedCall.isActive ∧ (hangingUp namedCall).2.status = .hungUp ∧
      (∃ p, (hangingUp namedCall).1 = .ok p ∧ p.more = []) ∧
      (hangingUp namedCall).2.memory = namedCall.memory := by
  have hactive : namedCall.isActive := by decide +kernel
  have hhungUp : (hangingUp namedCall).2.status = .hungUp := by decide +kernel
  obtain ⟨p, hp, -, hdiscarded⟩ :=
    (input_discarded_iff hactive tableSettings "Ann").run
      { model := [⟨.failed "gone", true⟩] } hhungUp
  have halone : ((hangingUp namedCall).1.toOption.map fun p => p.more.isEmpty) = some true := by
    decide +kernel
  have hmore : p.more = [] := by
    rw [hangingUp, hp] at halone
    simpa [Except.toOption] using halone
  exact ⟨hactive, hhungUp, ⟨p, hp, hmore⟩, hdiscarded.2 hmore⟩

/-- The first walk takes the name without a word, and the caller hangs up in the second. What the
first walk committed stays. -/
theorem tableCall_keeps_abandoned_input :
    tableCall.isActive ∧ (hangingUp tableCall).2.status = .hungUp ∧
      (hangingUp tableCall).2.turnCount = tableCall.turnCount + 1 ∧
      (hangingUp tableCall).2.lines = tableCall.lines ++ [⟨.caller, "Ann"⟩] ∧
      tableCall.node = some "ask" ∧ (hangingUp tableCall).2.node = some "thanks" ∧
      ¬tableCall.bindings.has "user_input" ∧ (hangingUp tableCall).2.bindings.has "user_input" ∧
      (hangingUp tableCall).2.memory ≠ tableCall.memory := by
  have hcount : (hangingUp tableCall).2.turnCount = tableCall.turnCount + 1 := by decide +kernel
  refine ⟨by decide +kernel, by decide +kernel, hcount, by decide +kernel, by decide +kernel,
    by decide +kernel, by decide +kernel, by decide +kernel, fun hsame => ?_⟩
  exact Nat.succ_ne_self _ (hcount.symm.trans (congrArg Memory.turnCount hsame))

end Session

end CallFlow
