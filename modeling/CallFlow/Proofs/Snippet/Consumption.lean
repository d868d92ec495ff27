import CallFlow.Snippet.Parser
import Mathlib

namespace CallFlow.Snippet

open CallFlow.Snippet.Parser

/-- Tokens in which every block that is opened is closed, and no other is. -/
inductive Balanced : List Token → Prop where
  | nil : Balanced []
  | plain {t : Token} {ts : List Token} (hindent : t ≠ .indent) (hdedent : t ≠ .dedent)
      (h : Balanced ts) : Balanced (t :: ts)
  | block {inner ts : List Token} (hinner : Balanced inner) (h : Balanced ts) :
      Balanced (.indent :: (inner ++ .dedent :: ts))

theorem Balanced.append {front back : List Token} (hfront : Balanced front)
    (hback : Balanced back) : Balanced (front ++ back) := by
  induction hfront with
  | nil => exact hback
  | plain hindent hdedent h ih => exact .plain hindent hdedent ih
  | block hinner h _ ih =>
    rw [List.cons_append, List.append_assoc, List.cons_append]
    exact .block hinner ih

variable {α β : Type}

/-- Every success of a parser takes balanced tokens from the front. -/
class IsBalanced (p : Parser α) : Prop where
  exists_front {ts rest : List Token} {a : α} (h : p.run ts = some (a, rest)) :
    ∃ front, ts = front ++ rest ∧ Balanced front

/-- Every success of a parser with a given token in front takes balanced tokens. -/
class IsBalancedAt (t : Token) (p : Parser α) : Prop where
  exists_front {ts rest : List Token} {a : α} (h : p.run (t :: ts) = some (a, rest)) :
    ∃ front, t :: ts = front ++ rest ∧ Balanced front

section Monad

/-- What takes nothing is balanced. -/
theorem IsBalanced.of_stays {p : Parser α}
    (h : ∀ ts rest a, p.run ts = some (a, rest) → ts = rest) : IsBalanced p :=
  ⟨fun hrun => ⟨[], h _ _ _ hrun, .nil⟩⟩

instance isBalanced_pure (a : α) : IsBalanced (pure a : Parser α) :=
  .of_stays fun _ _ _ h => congrArg Prod.snd (Option.some.inj h)

instance isBalanced_failure : IsBalanced (failure : Parser α) := ⟨fun h => by cases h⟩

instance isBalanced_get : IsBalanced (get : Parser (List Token)) :=
  .of_stays fun _ _ _ h => congrArg Prod.snd (Option.some.inj h)

instance isBalanced_lift (x : Option α) : IsBalanced (liftM x : Parser α) := by
  refine .of_stays fun ts rest a h => ?_
  cases x with
  | none => cases h
  | some _ => exact congrArg Prod.snd (Option.some.inj h)

instance isBalanced_bind (p : Parser α) (f : α → Parser β) [hp : IsBalanced p]
    [hf : ∀ a, IsBalanced (f a)] : IsBalanced (p >>= f) := by
  refine ⟨fun {ts rest b} h => ?_⟩
  rw [StateT.run_bind] at h
  obtain ⟨⟨a, between⟩, hfirst, hsecond⟩ := Option.bind_eq_some_iff.1 h
  obtain ⟨front, rfl, hfront⟩ := hp.exists_front hfirst
  obtain ⟨back, rfl, hback⟩ := (hf a).exists_front hsecond
  exact ⟨front ++ back, (List.append_assoc ..).symm, hfront.append hback⟩

theorem IsBalanced.bind {p : Parser α} {f : α → Parser β} [IsBalanced p]
    (h : ∀ a, IsBalanced (f a)) : IsBalanced (p >>= f) :=
  isBalanced_bind p f

instance isBalanced_map (f : α → β) (p : Parser α) [IsBalanced p] : IsBalanced (f <$> p) := by
  rw [← bind_pure_comp]
  infer_instance

instance isBalanced_discard (p : Parser α) [IsBalanced p] : IsBalanced (discard p : Parser Unit) :=
  isBalanced_map (Function.const α PUnit.unit) p

theorem run_orElse (p q : Parser α) (ts : List Token) :
    (p <|> q).run ts = (p.run ts <|> q.run ts) := rfl

instance isBalanced_orElse (p q : Parser α) [hp : IsBalanced p] [hq : IsBalanced q] :
    IsBalanced (p <|> q) := by
  refine ⟨fun {ts rest a} h => ?_⟩
  rw [run_orElse] at h
  cases hfirst : p.run ts with
  | none =>
    rw [hfirst] at h
    exact hq.exists_front h
  | some result =>
    rw [hfirst] at h
    cases h
    exact hp.exists_front hfirst

theorem IsBalanced.ite {c : Prop} [Decidable c] {p q : Parser α} (hp : IsBalanced p)
    (hq : IsBalanced q) : IsBalanced (if c then p else q) := by
  split
  · exact hp
  · exact hq

instance isBalanced_ite (c : Prop) [Decidable c] (p q : Parser α) [hp : IsBalanced p]
    [hq : IsBalanced q] : IsBalanced (if c then p else q) :=
  hp.ite hq

end Monad

section Tokens

variable {t : Token}

instance isBalancedAt_of_isBalanced (p : Parser α) [hp : IsBalanced p] : IsBalancedAt t p :=
  ⟨hp.exists_front⟩

/-- Taking a token that is no margin keeps the balance. -/
theorem IsBalancedAt.discard_take (hindent : t ≠ .indent) (hdedent : t ≠ .dedent) (p : Parser α)
    [hp : IsBalanced p] : IsBalancedAt t (do discard take; p) := by
  refine ⟨fun {ts rest a} h => ?_⟩
  obtain ⟨front, rfl, hfront⟩ := hp.exists_front (show p.run ts = some (a, rest) from h)
  exact ⟨t :: front, rfl, .plain hindent hdedent hfront⟩

instance isBalancedAt_word (w : String) (p : Parser α) [IsBalanced p] :
    IsBalancedAt (.word w) (do discard take; p) := by
  apply IsBalancedAt.discard_take <;> nofun

instance isBalancedAt_sign (s : String) (p : Parser α) [IsBalanced p] :
    IsBalancedAt (.sign s) (do discard take; p) := by
  apply IsBalancedAt.discard_take <;> nofun

instance isBalancedAt_ite (c : Prop) [Decidable c] (p q : Parser α) [IsBalancedAt t p]
    [IsBalancedAt t q] : IsBalancedAt t (if c then p else q) := by
  split <;> assumption

/-- A look at the next token before anything is done. -/
theorem IsBalanced.peek_bind {f : Option Token → Parser α} (hnone : IsBalanced (f none))
    (hsome : ∀ t, IsBalancedAt t (f (some t))) : IsBalanced (peek >>= f) := by
  refine ⟨fun {ts rest a} h => ?_⟩
  cases ts with
  | nil => exact hnone.exists_front h
  | cons t ts => exact (hsome t).exists_front h

/-- A token is taken, and the parser fails if it is one of a block. -/
theorem IsBalanced.take_bind {f : Token → Parser α} (hindent : f .indent = failure)
    (hdedent : f .dedent = failure) (h : ∀ t, IsBalanced (f t)) : IsBalanced (take >>= f) := by
  refine ⟨fun {ts rest a} hrun => ?_⟩
  cases ts with
  | nil => cases hrun
  | cons t ts =>
    have hafter : (f t).run ts = some (a, rest) := hrun
    obtain ⟨front, rfl, hfront⟩ := (h t).exists_front hafter
    refine ⟨t :: front, rfl, .plain ?_ ?_ hfront⟩
    · rintro rfl
      rw [hindent] at hafter
      cases hafter
    · rintro rfl
      rw [hdedent] at hafter
      cases hafter

instance isBalanced_peek : IsBalanced peek := isBalanced_bind _ _

instance isBalanced_peekSecond : IsBalanced peekSecond := isBalanced_bind _ _

theorem IsBalanced.token (hindent : t ≠ .indent) (hdedent : t ≠ .dedent) :
    IsBalanced (Parser.token t) := by
  refine .take_bind ?_ ?_ fun _ => inferInstance
  · rw [if_neg hindent.symm]
  · rw [if_neg hdedent.symm]

theorem IsBalanced.accept (hindent : t ≠ .indent) (hdedent : t ≠ .dedent) :
    IsBalanced (Parser.accept t) := by
  refine .peek_bind ?_ fun s => ?_
  · rw [if_neg nofun]
    infer_instance
  · split
    · rename_i heq
      cases heq
      exact .discard_take hindent hdedent _
    · infer_instance

theorem run_token {ts rest : List Token} {u : Unit} :
    (token t).run ts = some (u, rest) ↔ ts = t :: rest := by
  cases ts with
  | nil => exact ⟨nofun, nofun⟩
  | cons s ts =>
    have hrun : (token t).run (s :: ts) =
      (if s = t then pure () else failure : Parser Unit).run ts := rfl
    rw [hrun, List.cons.injEq]
    by_cases hst : s = t
    · rw [if_pos hst]
      exact ⟨fun h => ⟨hst, congrArg Prod.snd (Option.some.inj h)⟩, fun h => h.2 ▸ rfl⟩
    · rw [if_neg hst]
      exact ⟨nofun, fun h => absurd h.1 hst⟩

/-- A block is opened and closed again. -/
instance isBalanced_enclosed (p : Parser α) (f : α → Parser β) [hp : IsBalanced p]
    [hf : ∀ a, IsBalanced (f a)] :
    IsBalanced (do token .indent; let a ← p; token .dedent; f a) := by
  refine ⟨fun {ts rest b} h => ?_⟩
  simp only [StateT.run_bind] at h
  obtain ⟨⟨_, opened⟩, hindent, h⟩ := Option.bind_eq_some_iff.1 h
  obtain ⟨⟨a, inside⟩, hinner, h⟩ := Option.bind_eq_some_iff.1 h
  obtain ⟨⟨_, closed⟩, hdedent, hafter⟩ := Option.bind_eq_some_iff.1 h
  obtain rfl := run_token.1 hindent
  obtain ⟨inner, rfl, hbalanced⟩ := hp.exists_front hinner
  obtain rfl := run_token.1 hdedent
  obtain ⟨back, rfl, hback⟩ := (hf a).exists_front hafter
  exact ⟨.indent :: (inner ++ .dedent :: back), by simp, .block hbalanced hback⟩

instance isBalanced_newline : IsBalanced (token .newline) := .token nofun nofun

instance isBalanced_sign (s : String) : IsBalanced (sign s) := .token nofun nofun

instance isBalanced_acceptSign (s : String) : IsBalanced (acceptSign s) := .accept nofun nofun

instance isBalanced_keyword (w : String) : IsBalanced (keyword w) := .token nofun nofun

instance isBalanced_acceptKeyword (w : String) : IsBalanced (acceptKeyword w) :=
  .accept nofun nofun

instance isBalanced_atSign (s : String) : IsBalanced (atSign s) := isBalanced_bind _ _

instance isBalanced_atKeyword (w : String) : IsBalanced (atKeyword w) := isBalanced_bind _ _

instance isBalanced_oneOf (signs : List String) : IsBalanced (oneOf signs) := by
  refine .take_bind rfl rfl fun t => ?_
  split <;> infer_instance

instance isBalanced_name : IsBalanced name := by
  refine .take_bind rfl rfl fun t => ?_
  split <;> infer_instance

end Tokens

section Repetition

variable (p : Parser α) [IsBalanced p]

instance isBalanced_optional : IsBalanced (optional? p) := isBalanced_orElse _ _

instance isBalanced_manyUpTo (n : Nat) : IsBalanced (manyUpTo n p) := by
  induction n with
  | zero => exact isBalanced_pure []
  | succ n ih =>
    refine .bind fun result => ?_
    cases result <;> infer_instance

instance isBalanced_many : IsBalanced (many p) := isBalanced_bind _ _

instance isBalanced_oneOrMore : IsBalanced (oneOrMore p) := isBalanced_bind _ _

instance isBalanced_separated (s : String) : IsBalanced (separated s p) := isBalanced_bind _ _

instance isBalanced_commaList : IsBalanced (commaList p) := isBalanced_bind _ _

instance isBalanced_whenTaken (taken : Parser Bool) [IsBalanced taken] :
    IsBalanced (whenTaken taken p) := isBalanced_bind _ _

end Repetition

section Runs

variable {p : Parser α} {ts rest : List Token} {a : α}

theorem run_optional? (p : Parser α) (ts : List Token) : (optional? p).run ts =
    some (match p.run ts with
      | some (a, rest) => (some a, rest)
      | none => (none, ts)) := by
  rw [optional?, run_orElse, StateT.run_map]
  cases p.run ts <;> rfl

/-- Nothing more is parsed where the parser fails. -/
theorem run_manyUpTo_of_none (h : p.run ts = none) (n : Nat) :
    (manyUpTo n p).run ts = some ([], ts) := by
  cases n with
  | zero => rfl
  | succ n =>
    rw [manyUpTo, StateT.run_bind, run_optional?, h]
    rfl

/-- One more is parsed where the parser succeeds. -/
theorem run_manyUpTo_of_some (h : p.run ts = some (a, rest)) (n : Nat) :
    (manyUpTo (n + 1) p).run ts =
      ((manyUpTo n p).run rest).map fun (more, left) => (a :: more, left) := by
  rw [manyUpTo, StateT.run_bind, run_optional?, h]
  change (do return a :: (← manyUpTo n p) : Parser (List α)).run rest = _
  rw [StateT.run_bind]
  cases (manyUpTo n p).run rest <;> rfl

theorem run_many (p : Parser α) (ts : List Token) :
    (many p).run ts = (manyUpTo ts.length p).run ts := rfl

end Runs

section Rules

variable (rules : Rules) [∀ r, IsBalanced (rules r)]

instance isBalanced_one (r : Rule) : IsBalanced (rules.one r) := by
  refine .bind fun ns => ?_
  split <;> infer_instance

end Rules

end CallFlow.Snippet
