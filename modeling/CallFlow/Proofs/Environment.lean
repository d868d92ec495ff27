import CallFlow.Environment
import CallFlow.Proofs.Template.Occurrence

namespace CallFlow.Environment

open Template (IsName)

/-- The characters of a reference to a variable, and those after it. -/
def referred (name rest : List Char) : List Char := '$' :: '{' :: (name ++ '}' :: rest)

/-- Somewhere in the characters stands a reference to the variable. -/
def Refers (name cs : List Char) : Prop :=
  IsName name ∧ ∃ front back, cs = front ++ referred name back

variable {name cs : List Char}

theorem refers_referred (h : IsName name) (rest : List Char) : Refers name (referred name rest) :=
  ⟨h, [], rest, rfl⟩

theorem Refers.cons (h : Refers name cs) (c : Char) : Refers name (c :: cs) := by
  obtain ⟨hname, front, back, rfl⟩ := h
  exact ⟨hname, c :: front, back, rfl⟩

/-- What stands behind a reference is referred to as well. -/
theorem Refers.behind (h : Refers name cs) (other : List Char) :
    Refers name (referred other cs) := by
  obtain ⟨hname, front, back, rfl⟩ := h
  exact ⟨hname, '$' :: '{' :: (other ++ '}' :: front), back, by simp [referred]⟩

theorem referred_append (name rest back : List Char) :
    referred name rest ++ back = referred name (rest ++ back) := by
  simp [referred]

theorem reference?_referred (h : IsName name) (rest : List Char) :
    reference? (referred name rest) = some (name, rest) := by
  have hclosing : Text.isWord '}' = false := by decide
  have htake : (name ++ '}' :: rest).takeWhile Text.isWord = name := by
    simp [List.takeWhile_append_of_pos h.2, hclosing]
  have hdrop : (name ++ '}' :: rest).dropWhile Text.isWord = '}' :: rest := by
    simp [List.dropWhile_append_of_pos h.2, hclosing]
  obtain ⟨c, word, rfl⟩ := List.exists_cons_of_ne_nil h.1
  simp only [referred, reference?, htake, hdrop]

/-- A reference is read exactly where one stands. -/
theorem reference?_eq_some_iff {rest : List Char} :
    reference? cs = some (name, rest) ↔ IsName name ∧ cs = referred name rest := by
  constructor
  · intro h
    unfold reference? at h
    split at h
    · rename_i cs
      split at h
      · cases h
      · rename_i hdrop hne
        cases h
        refine ⟨⟨hne, fun c hc => List.mem_takeWhile_imp hc⟩, ?_⟩
        rw [referred, ← hdrop, List.takeWhile_append_dropWhile]
      · cases h
    · cases h
  · rintro ⟨hname, rfl⟩
    exact reference?_referred hname rest

/-- No reference begins inside of another. -/
theorem not_mem_inside (h : IsName name) : '$' ∉ '{' :: (name ++ ['}']) := by
  have hword : '$' ∉ name := by
    intro hmem
    have := h.2 '$' hmem
    revert this
    decide
  simp [hword]

/-- No reference begins in the text before another one and ends in it. -/
theorem reference?_append_referred {c : Char} (hnone : reference? (c :: cs) = none)
    (back : List Char) : reference? (c :: (cs ++ referred name back)) = none := by
  refine Option.eq_none_iff_forall_ne_some.2 fun ⟨other, rest⟩ hsome => ?_
  obtain ⟨hother, heq⟩ := reference?_eq_some_iff.1 hsome
  have heq' : (c :: cs) ++ '$' :: ('{' :: (name ++ '}' :: back)) =
      '$' :: ('{' :: (other ++ ['}'])) ++ rest := by
    simpa [referred] using heq
  obtain ⟨tail, hfront, hback⟩ | ⟨tail, hfront, -⟩ := List.append_eq_append_iff.1 heq'
  · cases tail with
    | nil =>
      apply Option.some_ne_none (other, ([] : List Char))
      rw [← hnone, ← reference?_referred hother]
      simpa [referred] using congrArg reference? hfront
    | cons d tail =>
      -- the reference further on would begin inside of the one in front
      obtain rfl : '$' = d := (List.cons.inj hback).1
      apply not_mem_inside hother
      rw [(List.cons.inj hfront).2]
      simp
  · apply Option.some_ne_none (other, tail)
    rw [← hnone, ← reference?_referred hother, hfront]
    simp [referred]

variable (env : Environment)

theorem expandChars_referred (h : IsName name) (rest : List Char) :
    env.expandChars (referred name rest) = env.expansion name ++ env.expandChars rest := by
  have hfront : reference? (referred name rest) = some (name, rest) := reference?_referred h rest
  unfold referred at hfront ⊢
  rw [expandChars]
  split
  · rename_i heq
    rw [hfront] at heq
    cases heq
    rfl
  · rename_i heq
    rw [hfront] at heq
    cases heq

theorem expandChars_cons {c : Char} (h : reference? (c :: cs) = none) :
    env.expandChars (c :: cs) = c :: env.expandChars cs := by
  rw [expandChars]
  split
  · rename_i heq
    rw [h] at heq
    cases heq
  · rfl

/-- What is put in place of a reference is not looked at again: the text before it and the text
after it are expanded as if they stood alone. -/
theorem expandChars_append_referred (h : IsName name) (front back : List Char) :
    env.expandChars (front ++ referred name back) =
      env.expandChars front ++ (env.expansion name ++ env.expandChars back) := by
  fun_induction expandChars env front with
  | case1 => exact expandChars_referred env h back
  | case2 c after other rest hfront _ ih =>
    obtain ⟨hother, heq⟩ := reference?_eq_some_iff.1 hfront
    rw [heq, referred_append, expandChars_referred env hother, ih, List.append_assoc]
  | case3 c after hnone ih =>
    rw [List.cons_append, expandChars_cons env (reference?_append_referred hnone back), ih]
    rfl

/-- An environment that knows none of the variables that a text refers to leaves the text as it
is. -/
theorem expandChars_eq_self (h : ∀ name, Refers name cs → env.get? (String.ofList name) = none) :
    env.expandChars cs = cs := by
  fun_induction expandChars env cs with
  | case1 => rfl
  | case2 c after other rest hfront _ ih =>
    obtain ⟨hother, heq⟩ := reference?_eq_some_iff.1 hfront
    rw [heq] at h ⊢
    rw [ih fun name hname => h name (hname.behind other), expansion,
      h other (refers_referred hother rest)]
    simp [opening, referred]
  | case3 c after hnone ih => rw [ih fun name hname => h name (hname.cons c)]

/-- Both environments say the same of the variables that a text refers to. -/
def AgreeOn (env other : Environment) (cs : List Char) : Prop :=
  ∀ name, Refers name cs → env.get? (String.ofList name) = other.get? (String.ofList name)

theorem expandChars_congr {env other : Environment} (h : env.AgreeOn other cs) :
    env.expandChars cs = other.expandChars cs := by
  fun_induction expandChars env cs with
  | case1 => simp [expandChars]
  | case2 c after found rest hfront _ ih =>
    obtain ⟨hfound, heq⟩ := reference?_eq_some_iff.1 hfront
    rw [heq] at h ⊢
    rw [expandChars_referred other hfound, ih fun name hname => h name (hname.behind found),
      expansion, expansion, h found (refers_referred hfound rest)]
  | case3 c after hnone ih =>
    rw [expandChars_cons other hnone, ih fun name hname => h name (hname.cons c)]

/-- The references of a text are all that matters to its expansion. An environment that knows none
of the variables leaves the text as it is, and one that knows some puts their values in their
places, without looking at what it put there. -/
theorem expandText_exact (text : String) :
    (∀ env other : Environment, env.AgreeOn other text.toList →
      env.expandText text = other.expandText text) ∧
    (∀ env : Environment,
      (∀ name, Refers name text.toList → env.get? (String.ofList name) = none) →
        env.expandText text = text) ∧
    (∀ name front back : List Char, IsName name → text.toList = front ++ referred name back →
      ∀ env : Environment, env.expandText text =
        env.expandText (String.ofList front) ++
          (String.ofList (env.expansion name) ++ env.expandText (String.ofList back))) := by
  refine ⟨fun env other h => ?_, fun env h => ?_, fun name front back hname htext env => ?_⟩
  · rw [expandText, expandText, expandChars_congr h]
  · rw [expandText, expandChars_eq_self env h, String.ofList_toList]
  · simp only [expandText, htext, expandChars_append_referred env hname, String.toList_ofList,
      String.ofList_append]

end CallFlow.Environment
