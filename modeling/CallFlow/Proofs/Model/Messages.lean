import CallFlow.Proofs.Model.Answers

namespace CallFlow.Prompt

/-- The role under which an object of a history is told. -/
def toldRole (o : Bindings) : String :=
  match o.get? "role" with
  | some (.text "assistant") | some (.text "agent") => "assistant"
  | _ => "user"

/-- The objects of a history that have a content, as messages in their order. -/
def told (objects : List Bindings) : List Message :=
  (objects.filter fun o => (o.getD "content").isTruthy).map fun o =>
    ⟨toldRole o, o.getD "content"⟩

/-- The history that objects make. -/
def historyOf (objects : List Bindings) : History := objects.map fun o => .ofValue (.object o)

/-- What the caller says, as a message. -/
def callerSays (text : String) : Message := ⟨"user", .text text⟩

/-- A message of one of the two who speak, with a content. -/
structure IsProper (m : Message) : Prop where
  role : m.role = "user" ∨ m.role = "assistant"
  content : m.content.isTruthy = true

/-- Messages that a model takes. There is one at least, and the caller has the first word. -/
structure WellFormed (ms : List Message) : Prop where
  starts : ∃ first rest, ms = first :: rest ∧ first.role = "user"
  proper : ∀ m ∈ ms, IsProper m

/-- An entry is told as the agent's if its role is one of the agent's, else as the caller's. -/
theorem toldRole_eq (o : Bindings) : toldRole o =
    if ((o.get? "role").bind Value.text?).any agentRoles.contains then "assistant" else "user" := by
  unfold toldRole
  split
  · rename_i h
    rw [h]
    rfl
  · rename_i h
    rw [h]
    rfl
  · rename_i hassistant hagent
    rw [if_neg]
    intro hany
    obtain ⟨word, hword, hrole⟩ := (Option.any_eq_true _ _).1 hany
    obtain ⟨v, hv, htext⟩ := Option.bind_eq_some_iff.1 hword
    cases v with
    | text s =>
      cases htext
      simp only [agentRoles, List.contains_eq_mem, List.mem_cons, List.not_mem_nil, or_false,
        decide_eq_true_eq] at hrole
      obtain rfl | rfl := hrole
      · exact hassistant hv
      · exact hagent hv
    | _ => cases htext

/-- An entry becomes a message if it has something in it. -/
theorem entryMessage_ofValue (o : Bindings) : entryMessage (.ofValue (.object o)) =
    .ok (if (o.getD "content").isTruthy then some ⟨toldRole o, o.getD "content"⟩ else none) := by
  rw [toldRole_eq, Bindings.getD]
  simp only [Entry.ofValue, entryMessage]
  cases o.get? "content" <;> rfl

/-- A history of objects is told in full, with what the caller says now. -/
theorem messages_historyOf (objects : List Bindings) (userInput : String) :
    messages (historyOf objects) userInput =
      .ok (withOpening (withUtterance (told objects) userInput)) := by
  have hentries : (historyOf objects).mapM entryMessage = .ok (objects.map fun o =>
      if (o.getD "content").isTruthy then some ⟨toldRole o, o.getD "content"⟩ else none) := by
    rw [historyOf, List.mapM_map]
    exact (congrArg (objects.mapM ·) (funext entryMessage_ofValue)).trans List.mapM_pure
  have htold : told objects = (objects.map fun o =>
      if (o.getD "content").isTruthy then some ⟨toldRole o, o.getD "content"⟩ else none).filterMap
        id := by
    rw [told, ← List.filterMap_eq_map, List.filterMap_filter, List.filterMap_map]
    rfl
  rw [messages, hentries, htold]
  rfl

/-- A message is an utterance if it is what the caller says. -/
theorem isUtterance_iff {m : Message} {text : String} :
    isUtterance m text = true ↔ m = callerSays text := by
  obtain ⟨role, content⟩ := m
  cases content <;> simp [isUtterance, callerSays, Value.text?]

/-- What the caller says comes last, and only once. -/
theorem exists_withUtterance (ms : List Message) (userInput : String) :
    ∃ said, withUtterance ms userInput = ms ++ said ∧
      (said = [] ∨ said = [callerSays userInput]) ∧
      (said = [callerSays userInput] ↔
        userInput ≠ "" ∧ ms.getLast? ≠ some (callerSays userInput)) := by
  have hlast : (ms.getLast?.any fun m => isUtterance m userInput) = true ↔
      ms.getLast? = some (callerSays userInput) := by
    rw [Option.any_eq_true]
    constructor
    · rintro ⟨m, hm, hutterance⟩
      rw [hm, isUtterance_iff.1 hutterance]
    · intro hm
      exact ⟨_, hm, isUtterance_iff.2 rfl⟩
  unfold withUtterance
  by_cases hsaid : userInput = "" ∨ ms.getLast? = some (callerSays userInput)
  · refine ⟨[], ?_, Or.inl rfl, iff_of_false nofun (not_and_not_right.2 ?_)⟩
    · rw [if_pos (by simpa [hlast] using hsaid), List.append_nil]
    · exact hsaid.resolve_left
  · refine ⟨[callerSays userInput], ?_, Or.inr rfl, iff_of_true rfl (not_or.1 hsaid)⟩
    rw [if_neg (by simpa [hlast] using hsaid)]
    rfl

/-- The beginning of the call is put in front exactly of what the caller does not begin. -/
theorem exists_withOpening (ms : List Message) :
    ∃ opening, withOpening ms = opening ++ ms ∧ (opening = [] ∨ opening = [connected]) ∧
      (opening = [connected] ↔ ∀ m ∈ ms.head?, m.role = "assistant") := by
  cases ms with
  | nil => exact ⟨[connected], rfl, Or.inr rfl, iff_of_true rfl nofun⟩
  | cons m ms =>
    have hcons : withOpening (m :: ms) =
      if m.role = "assistant" then connected :: m :: ms else m :: ms := rfl
    by_cases hrole : m.role = "assistant"
    · refine ⟨[connected], by rw [hcons, if_pos hrole]; rfl, Or.inr rfl, iff_of_true rfl ?_⟩
      rintro _ ⟨⟩
      exact hrole
    · exact ⟨[], by rw [hcons, if_neg hrole]; rfl, Or.inl rfl,
        iff_of_false nofun fun h => hrole (h m rfl)⟩

/-- Every entry is told as the caller's or as the agent's. -/
theorem toldRole_cases (o : Bindings) : toldRole o = "user" ∨ toldRole o = "assistant" := by
  unfold toldRole
  split
  · exact Or.inr rfl
  · exact Or.inr rfl
  · exact Or.inl rfl

theorem isProper_of_told {objects : List Bindings} {m : Message} (h : m ∈ told objects) :
    IsProper m := by
  obtain ⟨o, ho, rfl⟩ := List.mem_map.1 h
  exact ⟨toldRole_cases o, (List.mem_filter.1 ho).2⟩

theorem isProper_connected : IsProper connected := ⟨Or.inl rfl, rfl⟩

theorem isProper_callerSays {text : String} (h : text ≠ "") : IsProper (callerSays text) :=
  ⟨Or.inl rfl, decide_eq_true h⟩

/-- Proper messages are what a model takes once the beginning of the call is put in front of those
that the caller does not begin. -/
theorem wellFormed_of_isProper {opening ms : List Message}
    (hopening : opening = [] ∨ opening = [connected])
    (hiff : opening = [connected] ↔ ∀ m ∈ ms.head?, m.role = "assistant")
    (hproper : ∀ m ∈ ms, IsProper m) : WellFormed (opening ++ ms) := by
  have hall : ∀ m ∈ opening ++ ms, IsProper m := by
    intro m hm
    obtain hm | hm := List.mem_append.1 hm
    · obtain rfl | rfl := hopening
      · cases hm
      · exact List.mem_singleton.1 hm ▸ isProper_connected
    · exact hproper m hm
  refine ⟨?_, hall⟩
  obtain rfl | rfl := hopening
  · cases ms with
    | nil => cases hiff.2 nofun
    | cons m ms =>
      refine ⟨m, ms, rfl, (hproper m List.mem_cons_self).role.resolve_right fun hrole => ?_⟩
      have hfront : ([] : List Message) = [connected] := hiff.2 <| by
        rintro _ ⟨⟩
        exact hrole
      cases hfront
  · exact ⟨connected, ms, rfl, rfl⟩

/-- For a history of objects there are messages that a model takes. They are the objects with a
content in their order, and what the caller says, unless it is nothing or recorded as the last of
them. The beginning of the call is put in front if the caller does not begin. So what the caller
says is always the last message. -/
theorem messages_wellFormed (objects : List Bindings) (userInput : String) :
    ∃ ms, messages (historyOf objects) userInput = .ok ms ∧ WellFormed ms ∧
      (∃ opening said, ms = opening ++ (told objects ++ said) ∧
        (opening = [] ∨ opening = [connected]) ∧
        (opening = [connected] ↔ ∀ m ∈ (told objects ++ said).head?, m.role = "assistant") ∧
        (said = [] ∨ said = [callerSays userInput]) ∧
        (said = [callerSays userInput] ↔
          userInput ≠ "" ∧ (told objects).getLast? ≠ some (callerSays userInput))) ∧
      (userInput = "" ∨ ms.getLast? = some (callerSays userInput)) := by
  obtain ⟨said, hsaid, hsaidCases, hsaidIff⟩ := exists_withUtterance (told objects) userInput
  obtain ⟨opening, hopening, hopeningCases, hopeningIff⟩ :=
    exists_withOpening (told objects ++ said)
  have hproper : ∀ m ∈ told objects ++ said, IsProper m := by
    intro m hm
    obtain hm | hm := List.mem_append.1 hm
    · exact isProper_of_told hm
    · obtain rfl | rfl := hsaidCases
      · cases hm
      · exact List.mem_singleton.1 hm ▸ isProper_callerSays (hsaidIff.1 rfl).1
  have hlast : userInput ≠ "" →
      (opening ++ (told objects ++ said)).getLast? = some (callerSays userInput) := by
    intro hinput
    by_cases hrecorded : (told objects).getLast? = some (callerSays userInput)
    · obtain rfl : said = [] := hsaidCases.resolve_right fun h => (hsaidIff.1 h).2 hrecorded
      simp [List.getLast?_append, hrecorded]
    · rw [hsaidIff.2 ⟨hinput, hrecorded⟩]
      simp [List.getLast?_append]
  refine ⟨opening ++ (told objects ++ said), ?_,
    wellFormed_of_isProper hopeningCases hopeningIff hproper,
    ⟨opening, said, rfl, hopeningCases, hopeningIff, hsaidCases, hsaidIff⟩,
    or_iff_not_imp_left.2 hlast⟩
  rw [messages_historyOf, hsaid, hopening]

end CallFlow.Prompt
