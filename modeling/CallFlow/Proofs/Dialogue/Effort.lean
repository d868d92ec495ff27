import CallFlow.Proofs.Dialogue.Ensures

namespace CallFlow

/-- What takes effort: a request to a language model, one over HTTP, the run of a snippet. -/
inductive Effort where
  | model
  | http
  | code
  deriving DecidableEq

def Query.effort? : Query → Option Effort
  | model _ => some .model
  | http _ => some .http
  | code _ => some .code
  | client _ | sleep _ | kill | hungUp => none

def Call.effort? : Call → Option Effort
  | model _ => some .model
  | http _ => some .http
  | code _ _ _ => some .code
  | client _ | sleep _ | kill => none

/-- How often an effort was asked for in the course of some exchanges. -/
def asked (k : Effort) (es : List Exchange) : Nat := es.countP fun e => e.query.effort? = some k

/-- How often an effort was asked for, as the log of a script tells. -/
def Script.asked (s : Script) (k : Effort) : Nat := s.log.countP fun c => c.effort? = some k

@[simp] theorem asked_nil (k : Effort) : asked k [] = 0 := rfl

@[simp] theorem asked_append (k : Effort) (es es' : List Exchange) :
    asked k (es ++ es') = asked k es + asked k es' := List.countP_append

/-- The requests of a kind are counted exchange by exchange. -/
theorem asked_cons (k : Effort) (e : Exchange) (es : List Exchange) :
    asked k (e :: es) = (if e.query.effort? = some k then 1 else 0) + asked k es := by
  rw [asked, List.countP_cons, Nat.add_comm]
  simp [asked]

/-- Answering a query counts it, if it is of the kind. -/
theorem Script.asked_answer (s : Script) (q : Query) (k : Effort) :
    (s.answer q).2.asked k = s.asked k + if q.effort? = some k then 1 else 0 := by
  cases q with
  | client spec =>
    have hnote : (s.note (.client spec)).asked k = s.asked k := by
      simp [asked, note, Call.effort?]
    unfold answer
    simp only [Query.effort?, reduceCtorEq, if_false, Nat.add_zero]
    split
    · rfl
    · split
      · rfl
      · split <;> exact hnote
  | _ => simp [answer, asked, note, Query.effort?, Call.effort?]

namespace Dialogue

variable {α β : Type} {d : Dialogue α} {bound bound' : Effort → Nat}

/-- A dialogue comes to its result in any world, and the log tells how often it asked for each
effort. -/
theorem exists_transcript_run_asked (d : Dialogue α) (s : Script) :
    ∃ es, d.Transcript es (d.run s).1 ∧ ∀ k, (d.run s).2.asked k = s.asked k + asked k es := by
  induction d generalizing s with
  | done a => exact ⟨[], .done a, fun _ => rfl⟩
  | ask q next ih =>
    obtain ⟨es, hes, hasked⟩ := ih (s.answer q).1 (s.answer q).2
    refine ⟨⟨q, (s.answer q).1⟩ :: es, .ask _ hes, fun k => ?_⟩
    rw [run_ask, hasked, Script.asked_answer, asked_cons, Nat.add_assoc]

/-- However the dialogue goes, it asks so often at most for each effort. -/
def AsksAtMost (bound : Effort → Nat) (d : Dialogue α) : Prop :=
  d.Ensures fun es _ => ∀ k, asked k es ≤ bound k

/-- So much of one effort, and nothing of the others. -/
def only (effort : Effort) (n : Nat) (k : Effort) : Nat := if k = effort then n else 0

theorem asksAtMost_done {a : α} : (done a).AsksAtMost bound :=
  ensures_done fun _ => Nat.zero_le _

/-- A query asks once. -/
theorem asksAtMost_query {q : Query} {effort : Effort} (h : q.effort? = some effort) :
    (query q).AsksAtMost (only effort 1) := by
  refine ensures_ask fun reply => ensures_done fun k => ?_
  rw [asked_cons, asked_nil, h, only]
  by_cases hk : k = effort <;> simp [hk, Ne.symm]

/-- A query that makes no effort is not counted. -/
theorem asksAtMost_free {q : Query} (h : q.effort? = none) :
    (query q).AsksAtMost fun _ => 0 := by
  refine ensures_ask fun reply => ensures_done fun k => ?_
  rw [asked_cons, asked_nil, h]
  exact Nat.le_refl 0

namespace AsksAtMost

theorem mono (h : d.AsksAtMost bound) (hle : ∀ k, bound k ≤ bound' k) : d.AsksAtMost bound' :=
  Ensures.mono h fun _ _ hes k => Nat.le_trans (hes k) (hle k)

/-- What two dialogues ask for adds up. -/
theorem bind (h : d.AsksAtMost bound) {f : α → Dialogue β} (hf : ∀ a, (f a).AsksAtMost bound') :
    (d.bind f).AsksAtMost fun k => bound k + bound' k := by
  refine Ensures.bind h fun es a hes => Ensures.mono (hf a) fun es' b hes' k => ?_
  rw [asked_append]
  exact Nat.add_le_add (hes k) (hes' k)

/-- What makes no effort afterwards leaves the bound. -/
theorem bind_free (h : d.AsksAtMost bound) {f : α → Dialogue β}
    (hf : ∀ a, (f a).AsksAtMost fun _ => 0) : (d.bind f).AsksAtMost bound :=
  (h.bind hf).mono fun _ => Nat.le_refl _

/-- What makes no effort before leaves the bound. -/
theorem free_bind (h : d.AsksAtMost fun _ => 0) {f : α → Dialogue β}
    (hf : ∀ a, (f a).AsksAtMost bound) : (d.bind f).AsksAtMost bound :=
  (h.bind hf).mono fun k => Nat.le_of_eq (Nat.zero_add (bound k))

end AsksAtMost

end Dialogue

end CallFlow
