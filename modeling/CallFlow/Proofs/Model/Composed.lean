import CallFlow.Model.Prompt
import CallFlow.Proofs.Bindings
import CallFlow.Proofs.Fallible
import CallFlow.Proofs.Template.Filled

namespace CallFlow

/-- All values can be written. -/
def Bindings.IsWritable (b : Bindings) : Prop :=
  ∀ m ∈ b, Json.isWritable Json.maxNesting m.2 = true

namespace Bindings

variable {b : Bindings}

instance : Decidable b.IsWritable :=
  inferInstanceAs (Decidable (∀ m ∈ b, Json.isWritable Json.maxNesting m.2 = true))

/-- Where all values can be written, what any name stands for can be. -/
theorem IsWritable.getD (h : b.IsWritable) (name : String) :
    Json.isWritable Json.maxNesting (b.getD name) = true := by
  cases hget : b.get? name with
  | none =>
    rw [Bindings.getD, hget]
    rfl
  | some v =>
    rw [Bindings.getD, hget]
    exact h _ (mem_of_get? hget)

/-- In a map all values can be written exactly if what any name stands for can be. -/
theorem IsMap.isWritable_iff (h : b.IsMap) :
    b.IsWritable ↔ ∀ name, Json.isWritable Json.maxNesting (b.getD name) = true := by
  refine ⟨IsWritable.getD, fun hall m hm => ?_⟩
  rw [← h.getD_of_mem hm]
  exact hall m.1

/-- Writable bindings can be shown in any text. -/
theorem IsWritable.isShown (h : b.IsWritable) (text : String) : Template.IsShown b text :=
  fun name _ => h.getD name

end Bindings

/-- An entry of a history that can be told to a judge: a message whose role and content can be
written. -/
def Entry.IsShown : Entry → Prop
  | .malformed => False
  | .message role content =>
    Json.isWritable Json.maxNesting (role.getD (.text "user")) = true ∧
      Json.isWritable Json.maxNesting (content.getD (.text "")) = true

namespace Prompt

variable {b : Bindings}

/-- Over writable bindings a text is written with its placeholders filled in. -/
theorem written_of_isWritable (h : b.IsWritable) (text : String) :
    written (Template.render text b) = .ok (Template.fill text b) := by
  rw [Template.render_eq_some_iff.2 ⟨h.isShown text, rfl⟩, written]

/-- Where nothing comes of a text, nothing comes of one that may be missing. -/
theorem unwritable_of_written {α : Type} (text : Option String) (f : String → Except Error α)
    (h : ∀ s, f s = .error .unwritable) : (written text >>= f) = .error .unwritable := by
  cases text with
  | none => rfl
  | some s => exact h s

/-- The one way in which the line of a variable fails is that its value can not be written. -/
theorem eq_unwritable_of_variableLine {mark : String} {m : String × Value} {e : Error}
    (h : variableLine mark m = .error e) : e = .unwritable := by
  unfold variableLine Json.write? at h
  split at h
  · cases h
  · exact (Except.error.inj h).symm

/-- The line of a variable fails exactly if its value can not be written. -/
theorem exists_variableLine_eq_error_iff {mark : String} {m : String × Value} :
    (∃ e, variableLine mark m = .error e) ↔ Json.isWritable Json.maxNesting m.2 = false := by
  unfold variableLine Json.write?
  split
  · rename_i h
    simp [written, Except.map, h]
  · rename_i h
    exact iff_of_true ⟨_, rfl⟩ (by simpa using h)

/-- The variables are listed if all of them can be written. -/
theorem exists_variableLines (h : b.IsWritable) (mark : String) :
    ∃ text, variableLines mark b = .ok text := by
  cases hlines : b.mapM (variableLine mark) with
  | ok ls => exact ⟨lines ls, by rw [variableLines, hlines]; rfl⟩
  | error e =>
    obtain ⟨m, hm, hline⟩ := Fallible.mapM_eq_error_iff.1 ⟨e, hlines⟩
    cases (exists_variableLine_eq_error_iff.1 hline).symm.trans (h m hm)

/-- One value that can not be written is enough to have no lines. -/
theorem variableLines_of_not_isWritable (h : ¬b.IsWritable) (mark : String) :
    variableLines mark b = .error .unwritable := by
  simp only [Bindings.IsWritable, not_forall, Bool.not_eq_true] at h
  obtain ⟨m, hm, hunwritable⟩ := h
  obtain ⟨e, he⟩ : ∃ e, b.mapM (variableLine mark) = .error e :=
    Fallible.mapM_eq_error_iff.2 ⟨m, hm, exists_variableLine_eq_error_iff.2 hunwritable⟩
  obtain rfl := Fallible.eq_of_mapM_eq_error (fun _ _ _ => eq_unwritable_of_variableLine) he
  rw [variableLines, he]
  rfl

theorem ne_nil_of_not_isWritable (h : ¬b.IsWritable) : b.isEmpty = false := by
  cases b with
  | nil => exact absurd nofun h
  | cons => rfl

/-- Writable variables have a paragraph. -/
theorem exists_variableParagraph (h : b.IsWritable) :
    ∃ paragraphs, variableParagraph b = .ok paragraphs := by
  obtain ⟨text, htext⟩ := exists_variableLines h "- "
  unfold variableParagraph
  split
  · exact ⟨_, rfl⟩
  · rw [htext]
    exact ⟨_, rfl⟩

/-- Over writable bindings there is a persona. -/
theorem exists_persona (h : b.IsWritable) (globalPrompt : String) :
    ∃ paragraphs, persona globalPrompt b = .ok paragraphs := by
  unfold persona
  split
  · exact ⟨_, rfl⟩
  · rw [written_of_isWritable h]
    exact ⟨_, rfl⟩

/-- The instructions for a reply can be put together if all variables can be written. -/
theorem exists_turn (h : b.IsWritable) (content : Option Content) (ts : List Transition)
    (globalPrompt : String) : ∃ system, turn content b ts globalPrompt = .ok system := by
  obtain ⟨opening, hopening⟩ := exists_persona h globalPrompt
  obtain ⟨listed, hlisted⟩ := exists_variableParagraph h
  simp only [turn, hopening, hlisted, written_of_isWritable h]
  exact ⟨_, rfl⟩

variable {content : Option Content} {ts : List Transition} {globalPrompt : String}

/-- One variable that can not be written is enough for there to be no instructions for a reply. -/
theorem turn_of_not_isWritable (h : ¬b.IsWritable) :
    turn content b ts globalPrompt = .error .unwritable := by
  have hparagraph : variableParagraph b = .error .unwritable := by
    rw [variableParagraph, ne_nil_of_not_isWritable h, variableLines_of_not_isWritable h]
    rfl
  have hpersona : (∃ paragraphs, persona globalPrompt b = .ok paragraphs) ∨
      persona globalPrompt b = .error .unwritable := by
    unfold persona
    split
    · exact Or.inl ⟨_, rfl⟩
    · cases Template.render globalPrompt b with
      | none => exact Or.inr rfl
      | some s => exact Or.inl ⟨_, rfl⟩
  unfold turn
  rw [hparagraph]
  obtain ⟨opening, hopening⟩ | hopening := hpersona
  · rw [hopening]
    exact unwritable_of_written _ _ fun _ => rfl
  · rw [hopening]
    rfl

/-- There are instructions for a reply exactly if all variables can be written. -/
theorem turn_eq_ok_iff :
    (∃ system, turn content b ts globalPrompt = .ok system) ↔ b.IsWritable := by
  constructor
  · rintro ⟨system, hsystem⟩
    by_contra h
    cases hsystem.symm.trans (turn_of_not_isWritable h)
  · exact fun h => exists_turn h content ts globalPrompt

section Judging

/-- The instructions for judging transitions can be put together if all variables can be written
and the recent part of the history can. -/
theorem condition_of_isWritable (h : b.IsWritable) (ts : List Transition) (userInput : String)
    (history : History) (windowSize : Int) : ∃ f : String → String,
    condition ts b userInput history windowSize = (historyContext history windowSize).map f := by
  have hcontext : ∃ told, variableContext b = .ok told := by
    obtain ⟨text, htext⟩ := exists_variableLines h "  "
    unfold variableContext
    split
    · exact ⟨_, rfl⟩
    · rw [htext]
      exact ⟨_, rfl⟩
  obtain ⟨told, htold⟩ := hcontext
  simp only [condition, htold]
  cases historyContext history windowSize with
  | error e => exact ⟨id, rfl⟩
  | ok conversation => exact ⟨fun _ => _, rfl⟩

variable {userInput : String} {history : History} {windowSize : Int}

/-- Nothing is put before the judge if some variable can not be written. -/
theorem condition_of_not_isWritable (h : ¬b.IsWritable) :
    condition ts b userInput history windowSize = .error .unwritable := by
  have hcontext : variableContext b = .error .unwritable := by
    rw [variableContext, ne_nil_of_not_isWritable h, variableLines_of_not_isWritable h]
    rfl
  rw [condition, hcontext]
  rfl

/-- An entry has a line exactly if it can be shown. -/
theorem exists_historyLine_iff {e : Entry} : (∃ text, historyLine e = .ok text) ↔ e.IsShown := by
  cases e with
  | malformed =>
    refine iff_of_false ?_ id
    rintro ⟨text, htext⟩
    cases htext
  | message role content =>
    have hinText : ∀ v, (∃ s, written (Literal.inText? v) = .ok s) ↔
        Json.isWritable Json.maxNesting v = true := by
      intro v
      unfold Literal.inText?
      split <;> rename_i h <;> simp [written, h]
    rw [Entry.IsShown, ← hinText, ← hinText, historyLine]
    cases written (Literal.inText? (role.getD (.text "user"))) with
    | error e =>
      refine iff_of_false ?_ (by simp)
      rintro ⟨text, htext⟩
      cases htext
    | ok role =>
      cases written (Literal.inText? (content.getD (.text ""))) with
      | error e =>
        refine iff_of_false ?_ (by simp)
        rintro ⟨text, htext⟩
        cases htext
      | ok content => exact iff_of_true ⟨_, rfl⟩ ⟨⟨_, rfl⟩, ⟨_, rfl⟩⟩

/-- Of a message nothing but a value that can not be written is in the way. -/
theorem eq_unwritable_of_historyLine {role content : Option Value} {e : Error}
    (h : historyLine (.message role content) = .error e) : e = .unwritable := by
  rw [historyLine] at h
  cases hrole : Literal.inText? (role.getD (.text "user")) with
  | none =>
    rw [hrole] at h
    exact (Except.error.inj h).symm
  | some role =>
    rw [hrole] at h
    cases hcontent : Literal.inText? (content.getD (.text "")) with
    | none =>
      rw [hcontent] at h
      exact (Except.error.inj h).symm
    | some content =>
      rw [hcontent] at h
      cases h

theorem mem_of_mem_lastItems {α : Type} {items : List α} {size : Int} {a : α}
    (h : a ∈ lastItems items size) : a ∈ items := by
  unfold lastItems at h
  split at h
  · cases h
  · split at h <;> exact List.mem_of_mem_drop h

/-- The last entries are put in context exactly if all of them can be shown. -/
theorem exists_historyContext_iff :
    (∃ text, historyContext history windowSize = .ok text) ↔
      ∀ e ∈ lastItems history windowSize, e.IsShown := by
  have hlines : (∃ ls, (lastItems history windowSize).mapM historyLine = .ok ls) ↔
      ∀ e ∈ lastItems history windowSize, e.IsShown := by
    simp only [Fallible.exists_mapM_iff, exists_historyLine_iff]
  rw [← hlines, historyContext]
  cases (lastItems history windowSize).mapM historyLine with
  | error e => exact iff_of_false nofun nofun
  | ok recent => exact iff_of_true ⟨_, rfl⟩ ⟨_, rfl⟩

/-- There are instructions for judging transitions exactly if all variables can be written, and
with them what is shown of the history. -/
theorem condition_eq_ok_iff (ts : List Transition) (b : Bindings) (userInput : String)
    (history : History) (windowSize : Int) :
    (∃ system, condition ts b userInput history windowSize = .ok system) ↔
      b.IsWritable ∧ ∀ e ∈ lastItems history windowSize, e.IsShown := by
  by_cases h : b.IsWritable
  · obtain ⟨f, hf⟩ := condition_of_isWritable h ts userInput history windowSize
    rw [hf, and_iff_right h, ← exists_historyContext_iff]
    cases historyContext history windowSize with
    | error e => exact iff_of_false nofun nofun
    | ok text => exact iff_of_true ⟨_, rfl⟩ ⟨_, rfl⟩
  · rw [condition_of_not_isWritable h]
    exact iff_of_false nofun fun hboth => h hboth.1

end Judging

end Prompt

end CallFlow
