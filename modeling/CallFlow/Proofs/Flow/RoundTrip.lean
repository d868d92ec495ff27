import CallFlow.Proofs.Schema.Reader
import CallFlow.Proofs.Text.UpperCase
import CallFlow.Proofs.Validation.Runnable

namespace CallFlow

open Schema

attribute [local simp] Field.optional Field.required Field.find? Field.member Field.word
  Bindings.get? List.lookup Reader.record

@[simp] theorem ContentMode.choice_word (m : ContentMode) :
    Reader.choice ContentMode.choices (.text m.word) = .read m := by
  cases m <;> rfl

@[simp] theorem Criterion.choice_word (c : Criterion) :
    Reader.choice Criterion.choices (.text c.word) = .read c := by
  cases c <;> rfl

@[simp] theorem AssignmentOperation.choice_word (o : AssignmentOperation) :
    Reader.choice AssignmentOperation.choices (.text o.word) = .read o := by
  cases o <;> rfl

@[simp] theorem TransferKind.choice_word (k : TransferKind) :
    Reader.choice TransferKind.choices (.text k.word) = .read k := by
  cases k <;> rfl

@[simp] theorem FunctionKind.choice_word (k : FunctionKind) :
    Reader.choice FunctionKind.choices (.text k.word) = .read k := by
  cases k <;> rfl

/-- A content that was written out is read as it was. -/
@[simp] theorem Content.authored_toValue (c : Content) : authored c.toValue = .read c := by
  simp [authored, Reader.adapted, adapt, reader, toValue, Fields.mode, Fields.content]

@[simp] theorem Content.nullable_authored (c? : Option Content) :
    Reader.nullable authored (.ofOption toValue c?) = .read c? :=
  Reader.nullable_ofOption _ (fun c _ => authored_toValue c) nofun

theorem Transition.reader_toValue (t : Transition) : reader t.toValue = .read t := by
  simp [reader, toValue, Fields.id, Fields.kind, Fields.condition, Fields.handle, Fields.label]

@[simp] theorem Transition.list_reader (ts : List Transition) :
    Reader.list reader (.ofList toValue ts) = .read ts :=
  Reader.list_ofList _ fun t _ => reader_toValue t

theorem ResponseMapping.reader_toValue (m : ResponseMapping) : reader m.toValue = .read m := by
  simp [reader, toValue, Fields.id, Fields.variableName, Fields.path]

theorem Assignment.reader_toValue (a : Assignment) : reader a.toValue = .read a := by
  simp [reader, toValue, Reader.adapted, adapt, Fields.id, Fields.variableName, Fields.value,
    Fields.operation]

theorem WarmOptions.reader_toValue (w : WarmOptions) : reader w.toValue = .read w := by
  simp [reader, toValue, Fields.holdMusic, Fields.humanDetectionTimeout]

theorem StartConfig.reader_toValue (c : StartConfig) : reader c.toValue = .read c := by
  simp [reader, toValue, Fields.speaksFirst, Fields.greeting]

theorem ConversationConfig.reader_toValue (c : ConversationConfig) :
    reader c.toValue = .read c := by
  simp [reader, toValue, Fields.content, Fields.transitions, Fields.skipResponse,
    Fields.blockInterruptions, Fields.model, Fields.temperature, Fields.maxTokens]

/-- Settings of a function are read as they were, if their method is in capitals. -/
theorem FunctionConfig.reader_toValue {c : FunctionConfig}
    (h : adaptMethod (.text c.method) = .text c.method) : reader c.toValue = .read c := by
  have hmethod : Reader.adapted adaptMethod .text (.text c.method) = .read c.method := by
    rw [Reader.adapted, h, Reader.text_text]
  have hbody : Reader.adapted adaptBody (.nullable .text) (.ofText? c.body) = .read c.body := by
    cases c.body <;> rfl
  have hmappings := Reader.list_ofList c.responseMapping fun m _ => m.reader_toValue
  simp [reader, toValue, Fields.executionType, Fields.method, Fields.url, Fields.headers,
    Fields.body, Fields.responseMapping, Fields.code, Fields.inputVariables, Fields.outputVariable,
    Fields.timeout, Fields.speech, Fields.waitForResult, Fields.transitions, hmethod, hbody,
    hmappings]

theorem FunctionConfig.adaptMethod_get : adaptMethod (.text "GET") = .text "GET" := by
  have hupper : upperText "GET" = "GET" := by decide +kernel
  simp [adaptMethod, hupper]

/-- A method in capital letters stays as it is. -/
theorem FunctionConfig.adaptMethod_adaptMethod (v : Value) :
    adaptMethod (adaptMethod v) = adaptMethod v := by
  cases v with
  | text s =>
    by_cases hs : s = ""
    · simpa [adaptMethod, hs] using adaptMethod_get
    · simp [adaptMethod, hs, upperText_ne_empty hs, upperText_upperText]
  | _ => exact adaptMethod_get

/-- The method that was read is in capital letters, so reading it again changes nothing. -/
theorem FunctionConfig.reader_stable : reader.Stable toValue := by
  refine Reader.Yields.record fun o c hread => ?_
  have hmethod : Fields.method.optional "GET" (.adapted adaptMethod .text) o = .read c.method := by
    simp only [Checked.seq_eq_read_iff, Checked.map_eq_read_iff] at hread
    aesop
  have hyields : Reader.Yields (.adapted adaptMethod .text) fun m =>
      adaptMethod (.text m) = .text m := by
    intro v m hm
    rw [← Reader.text_eq_read_iff.1 hm, adaptMethod_adaptMethod]
  exact reader_toValue (hyields.optional adaptMethod_get hmethod)

theorem TransferConfig.reader_toValue (c : TransferConfig) : reader c.toValue = .read c := by
  have hoptions := Reader.nullable_ofOption c.warmOptions (fun w _ => w.reader_toValue) nofun
  simp [reader, toValue, Fields.destination, Fields.transferType, Fields.warmOptions, hoptions]

theorem SetVariableConfig.reader_toValue (c : SetVariableConfig) : reader c.toValue = .read c := by
  have hassignments := Reader.list_ofList c.assignments fun a _ => a.reader_toValue
  simp [reader, toValue, Fields.assignments, hassignments]

theorem EndConfig.reader_toValue (c : EndConfig) : reader c.toValue = .read c := by
  simp [reader, toValue, Fields.speech, Fields.reason]

/-- Settings of a known kind are written out as an object with members, so they stand as they
are. -/
theorem NodeConfig.adapted_stable {κ : Type} {read : Reader κ} {write : κ → Value}
    (h : read.Stable write) (hfull : ∀ c, (write c).isTruthy) (make : κ → NodeConfig) :
    Reader.Yields (.adapted adapt fun v => make <$> read v) fun config =>
      ∃ c, config = make c ∧
        Reader.adapted adapt (fun v => make <$> read v) (write c) = .read config := by
  refine (Reader.Yields.map h fun c hc => ?_).adapted adapt
  refine ⟨c, rfl, ?_⟩
  rw [Reader.adapted, adapt, if_pos (hfull c), hc, Checked.map_read]

/-- Settings that were read bear the name of their kind, and by it they are read again. -/
theorem NodeConfig.reader_toValue {kind : String} {v : Value} {c : NodeConfig}
    (h : reader kind v = .read c) : c.kindName = kind ∧ reader kind c.toValue = .read c := by
  unfold reader at h ⊢
  split at h
  next =>
    obtain ⟨c, rfl, hc⟩ :=
      adapted_stable (.of_forall StartConfig.reader_toValue) (fun _ => rfl) start v _ h
    exact ⟨rfl, hc⟩
  next =>
    obtain ⟨c, rfl, hc⟩ :=
      adapted_stable (.of_forall ConversationConfig.reader_toValue) (fun _ => rfl) conversation v _
        h
    exact ⟨rfl, hc⟩
  next =>
    obtain ⟨c, rfl, hc⟩ :=
      adapted_stable FunctionConfig.reader_stable (fun _ => rfl) function v _ h
    exact ⟨rfl, hc⟩
  next =>
    obtain ⟨c, rfl, hc⟩ :=
      adapted_stable (.of_forall SetVariableConfig.reader_toValue) (fun _ => rfl) setVariable v _ h
    exact ⟨rfl, hc⟩
  next =>
    obtain ⟨c, rfl, hc⟩ :=
      adapted_stable (.of_forall TransferConfig.reader_toValue) (fun _ => rfl) transfer v _ h
    exact ⟨rfl, hc⟩
  next =>
    obtain ⟨c, rfl, hc⟩ :=
      adapted_stable (.of_forall EndConfig.reader_toValue) (fun _ => rfl) finish v _ h
    exact ⟨rfl, hc⟩
  next =>
    -- null is kept as the empty object, which is read again as it is
    cases v <;> (cases h; exact ⟨rfl, rfl⟩)

/-- A node that is written out has its settings to itself, so it is not in the shape of editors. -/
theorem Node.adapt_toValue (n : Node) : adapt n.toValue = n.toValue := by
  simp [adapt, toValue, Bindings.has, Fields.id, Fields.kind, Fields.label, Fields.config]

/-- A node that was read and written out is read again as it was. -/
theorem Node.reader_stable : reader.Stable toValue := by
  refine (Reader.Yields.record fun o n hread => ?_).adapted adapt
  obtain ⟨⟨id, kind, label, raw⟩, -, hnode⟩ := Checked.followedBy_eq_read_iff.1 hread
  obtain ⟨config, hconfig, rfl⟩ := Checked.map_eq_read_iff.1 hnode
  obtain ⟨rfl, hagain⟩ := NodeConfig.reader_toValue hconfig
  rw [reader, Reader.adapted, adapt_toValue]
  simp [toValue, Fields.id, Fields.kind, Fields.label, Fields.config, Checked.followedBy, hagain]

theorem Edge.reader_toValue (e : Edge) : reader e.toValue = .read e := by
  simp [reader, toValue, Fields.id, Fields.source, Fields.target, Fields.sourceHandle, Fields.label]

theorem Variable.reader_toValue (v : Variable) : reader v.toValue = .read v := by
  simp [reader, toValue, Fields.id, Fields.name, Fields.kind, Fields.defaultValue,
    Fields.description, Fields.enumOptions]

theorem FlowSettings.reader_toValue (s : FlowSettings) : reader s.toValue = .read s := by
  simp [reader, toValue, Fields.globalPrompt, Fields.maxTurns, Fields.language]

/-- A flow all of whose nodes are read again as they are is so itself. -/
theorem Flow.reader_toValue {f : Flow} (h : ∀ n ∈ f.nodes, Node.reader n.toValue = .read n) :
    reader f.toValue = .read f := by
  have hnodes := Reader.list_ofList f.nodes h
  have hedges := Reader.list_ofList f.edges fun e _ => e.reader_toValue
  have hdeclarations := Reader.list_ofList f.declarations fun v _ => v.reader_toValue
  simp [reader, toValue, Fields.id, Fields.name, Fields.nodes, Fields.edges, Fields.declarations,
    Fields.settings, hnodes, hedges, hdeclarations, FlowSettings.reader_toValue]

/-- A flow that was read and written out is read again as it was. -/
theorem Flow.reader_stable : reader.Stable toValue := by
  refine Reader.Yields.record fun o f hread => ?_
  have hnodes : Fields.nodes.optional [] (.list Node.reader) o = .read f.nodes := by
    simp only [Checked.seq_eq_read_iff, Checked.map_eq_read_iff] at hread
    aesop
  exact reader_toValue (Node.reader_stable.list.optional (fun _ h => by cases h) hnodes)

namespace Flow

/-- Loading undoes writing out: whatever flow was loaded, the value that it is written out as, with
every field under its plain name and every default filled in, is accepted and loaded as the same
flow. Strict loading accepts it as well, if it accepted the authored one. -/
theorem load_toValue {raw : Value} {strict : Bool} {f : Flow} (h : load raw strict = .ok f) :
    load f.toValue strict = .ok f := by
  obtain ⟨hread, hvalid⟩ := load_eq_ok_iff.1 h
  exact load_eq_ok_iff.2 ⟨reader_stable raw f hread, hvalid⟩

private def bookingRaw : Value :=
  .object
    [("nodes", .list
      [.object
        [("id", .text "begin"), ("type", .text "start"),
         ("data", .object
          [("label", .text "Begin"),
           ("config", .object [("speaksFirst", .text "Yes"), ("greeting", .text "Hello.")])])],
       .object
        [("id", .text "book"), ("type", .text "function"),
         ("config", .object
          [("method", .text "post"), ("url", .text "https://rooms.example"),
           ("body", .object [("night", .text "\x7b\x7bnight\x7d\x7d")]), ("timeout", .null)])],
       .object [("id", .text "tone"), ("type", .text "play_tone"), ("config", .null)],
       .object [("id", .text "bye"), ("type", .text "end")]]),
     ("edges", .list
      [.object [("source", .text "begin"), ("target", .text "book")],
       .object [("source", .text "book"), ("target", .text "tone"), ("sourceHandle", .null)],
       .object [("source", .text "tone"), ("target", .text "bye")]]),
     ("variables", .list [.object [("name", .text "night"), ("defaultValue", .int 1)]])]

private def booking : Flow where
  nodes :=
    [{ id := "begin", label := "Begin",
       config := .start { greeting := some { mode := .fixed, text := "Hello." } } },
     { id := "book",
       config := .function
        { method := "POST", url := "https://rooms.example",
          body := some "\x7b\"night\": \"\x7b\x7bnight\x7d\x7d\"\x7d" } },
     { id := "tone", config := .unknown "play_tone" (.object []) },
     { id := "bye", config := .finish {} }]
  edges :=
    [{ source := "begin", target := "book" }, { source := "book", target := "tone" },
     { source := "tone", target := "bye" }]
  declarations := [{ name := "night", defaultValue := .int 1 }]

theorem booking_load_toValue :
    load bookingRaw false = .ok booking ∧ load booking.toValue false = .ok booking := by
  have h : load bookingRaw false = .ok booking := by rfl
  exact ⟨h, load_toValue h⟩

end Flow

end CallFlow
