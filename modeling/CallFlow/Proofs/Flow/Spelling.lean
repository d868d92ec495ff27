import CallFlow.Proofs.Bindings
import CallFlow.Proofs.Flow.RoundTrip
import CallFlow.Proofs.Schema.Spelling

namespace CallFlow

open Schema

namespace WarmOptions

/-- The parts of the options of a warm transfer. -/
def parts : List Part := [{ field := Fields.holdMusic }, { field := Fields.humanDetectionTimeout }]

theorem reader_agrees : reader.Agrees (Respelled parts) := by
  refine .record fun o o' h => ?_
  simp only [SameParts, parts, List.forall_mem_cons] at h
  exact (Checked.Agree.map mk (Field.optional_agree h.1)).seq (Field.optional_agree h.2.1)

end WarmOptions

namespace StartConfig

/-- The parts of the settings of a start node. -/
def parts : List Part := [{ field := Fields.speaksFirst }, { field := Fields.greeting }]

theorem reader_agrees : reader.Agrees (Respelled parts) := by
  refine .record fun o o' h => ?_
  simp only [SameParts, parts, List.forall_mem_cons] at h
  exact (Checked.Agree.map mk (Field.optional_agree h.1)).seq (Field.optional_agree h.2.1)

end StartConfig

namespace ConversationConfig

/-- The parts of the settings of a conversation node. -/
def parts : List Part :=
  [{ field := Fields.content }, { field := Fields.transitions }, { field := Fields.skipResponse },
   { field := Fields.blockInterruptions }, { field := Fields.model },
   { field := Fields.temperature }, { field := Fields.maxTokens }]

theorem reader_agrees : reader.Agrees (Respelled parts) := by
  refine .record fun o o' h => ?_
  simp only [SameParts, parts, List.forall_mem_cons] at h
  repeat' refine Checked.Agree.seq ?_ ?_
  · exact .map mk (Field.optional_agree h.1)
  all_goals exact Field.optional_agree (by tauto)

end ConversationConfig

namespace FunctionConfig

/-- The parts of the settings of a function node. -/
def parts : List Part :=
  [{ field := Fields.executionType }, { field := Fields.method }, { field := Fields.url },
   { field := Fields.headers }, { field := Fields.body }, { field := Fields.responseMapping },
   { field := Fields.code }, { field := Fields.inputVariables }, { field := Fields.outputVariable },
   { field := Fields.timeout }, { field := Fields.speech }, { field := Fields.waitForResult },
   { field := Fields.transitions }]

theorem reader_agrees : reader.Agrees (Respelled parts) := by
  refine .record fun o o' h => ?_
  simp only [SameParts, parts, List.forall_mem_cons] at h
  repeat' refine Checked.Agree.seq ?_ ?_
  · exact .map mk (Field.optional_agree h.1)
  all_goals exact Field.optional_agree (by tauto)

end FunctionConfig

namespace SetVariableConfig

/-- The parts of the settings of a node that sets variables. -/
def parts : List Part := [{ field := Fields.assignments }]

theorem reader_agrees : reader.Agrees (Respelled parts) := by
  refine .record fun o o' h => ?_
  simp only [SameParts, parts, List.forall_mem_cons] at h
  exact .map mk (Field.optional_agree h.1)

end SetVariableConfig

namespace TransferConfig

/-- The parts of the settings of a transfer node. -/
def parts : List Part :=
  [{ field := Fields.destination }, { field := Fields.transferType },
   { field := Fields.warmOptions, Same := Respelled WarmOptions.parts }]

theorem reader_agrees : reader.Agrees (Respelled parts) := by
  refine .record fun o o' h => ?_
  simp only [SameParts, parts, List.forall_mem_cons] at h
  obtain ⟨hdestination, htype, hoptions, -⟩ := h
  refine .seq (.seq (.map mk ?_) ?_) ?_
  · exact Field.optional_agree hdestination
  · exact Field.optional_agree htype
  · exact WarmOptions.reader_agrees.nullable.optional hoptions none

end TransferConfig

namespace EndConfig

/-- The parts of the settings of an end node. -/
def parts : List Part := [{ field := Fields.speech }, { field := Fields.reason }]

theorem reader_agrees : reader.Agrees (Respelled parts) := by
  refine .record fun o o' h => ?_
  simp only [SameParts, parts, List.forall_mem_cons] at h
  exact (Checked.Agree.map mk (Field.optional_agree h.1)).seq (Field.optional_agree h.2.1)

end EndConfig

namespace Edge

/-- The parts of an edge. -/
def parts : List Part :=
  [{ field := Fields.id }, { field := Fields.source }, { field := Fields.target },
   { field := Fields.sourceHandle }, { field := Fields.label }]

theorem reader_agrees : reader.Agrees (Respelled parts) := by
  refine .record fun o o' h => ?_
  simp only [SameParts, parts, List.forall_mem_cons] at h
  obtain ⟨hid, hsource, htarget, hhandle, hlabel, -⟩ := h
  refine .seq (.seq (.seq (.seq (.map mk ?_) ?_) ?_) ?_) ?_
  · exact Field.optional_agree hid
  · exact Field.required_agree hsource
  · exact Field.required_agree htarget
  · exact Field.optional_agree hhandle
  · exact Field.optional_agree hlabel

end Edge

namespace Variable

/-- The parts of the declaration of a variable. -/
def parts : List Part :=
  [{ field := Fields.id }, { field := Fields.name }, { field := Fields.kind },
   { field := Fields.defaultValue }, { field := Fields.description },
   { field := Fields.enumOptions }]

theorem reader_agrees : reader.Agrees (Respelled parts) := by
  refine .record fun o o' h => ?_
  simp only [SameParts, parts, List.forall_mem_cons] at h
  obtain ⟨hid, hname, hkind, hdefault, hdescription, henum, -⟩ := h
  refine .seq (.seq (.seq (.seq (.seq (.map mk ?_) ?_) ?_) ?_) ?_) ?_
  · exact Field.optional_agree hid
  · exact Field.required_agree hname
  · exact Field.optional_agree hkind
  · exact Field.optional_agree hdefault
  · exact Field.optional_agree hdescription
  · exact Field.optional_agree henum

end Variable

namespace FlowSettings

/-- The parts of the settings of a flow. -/
def parts : List Part :=
  [{ field := Fields.globalPrompt }, { field := Fields.maxTurns }, { field := Fields.language }]

theorem reader_agrees : reader.Agrees (Respelled parts) := by
  refine .record fun o o' h => ?_
  simp only [SameParts, parts, List.forall_mem_cons] at h
  obtain ⟨hprompt, hturns, hlanguage, -⟩ := h
  refine .seq (.seq (.map mk ?_) ?_) ?_
  · exact Field.optional_agree hprompt
  · exact Field.optional_agree hturns
  · exact Field.optional_agree hlanguage

end FlowSettings

namespace NodeConfig

/-- The parts of the settings of a node of a kind, if that kind is known. -/
def parts? (kind : String) : Option (List Part) :=
  match kind with
  | "start" => some StartConfig.parts
  | "conversation" => some ConversationConfig.parts
  | "function" => some FunctionConfig.parts
  | "set_variable" => some SetVariableConfig.parts
  | "call_transfer" => some TransferConfig.parts
  | "end" => some EndConfig.parts
  | _ => none

/-- Settings written as objects are the same for a node of a kind. Those of an unknown kind are
data, in which a name can not be spelled otherwise. -/
def Same (kind : String) (v v' : Value) : Prop :=
  ∃ o o', v = .object o ∧ v' = .object o' ∧
    match parts? kind with
    | some parts => SameParts parts o o'
    | none => o = o'

/-- An object is its own respelling. -/
theorem same_refl (kind : String) (o : Bindings) : Same kind (.object o) (.object o) := by
  refine ⟨o, o, rfl, rfl, ?_⟩
  cases parts? kind with
  | none => rfl
  | some parts => exact .refl o

/-- Settings that are an object are read as they stand. -/
theorem adapt_object (o : Bindings) : adapt (.object o) = .object o := by
  cases o <;> rfl

/-- Null in place of settings is read like settings without members. -/
theorem reader_adapt (kind : String) {v : Value} (h : v = .null ∨ ∃ o, v = .object o) :
    reader kind (adapt v) = reader kind v := by
  obtain rfl | ⟨o, rfl⟩ := h
  · unfold reader
    split <;> rfl
  · rw [adapt_object]

/-- Settings of a kind are read alike from objects with the same parts. -/
theorem adapted_agrees {κ : Type} {read : Reader κ} {parts : List Part}
    (h : read.Agrees (Respelled parts)) (make : κ → NodeConfig) {o o' : Bindings}
    (hparts : SameParts parts o o') :
    (Reader.adapted adapt (fun v => make <$> read v) (.object o)).Agree
      (Reader.adapted adapt (fun v => make <$> read v) (.object o')) := by
  rw [Reader.adapted, Reader.adapted, adapt_object, adapt_object]
  exact (h _ _ (.record hparts)).map make

/-- Settings are read alike under either spelling. -/
theorem reader_agrees (kind : String) : (reader kind).Agrees (Same kind) := by
  rintro _ _ ⟨o, o', rfl, rfl, hsame⟩
  unfold reader
  split
  · exact adapted_agrees StartConfig.reader_agrees _ hsame
  · exact adapted_agrees ConversationConfig.reader_agrees _ hsame
  · exact adapted_agrees FunctionConfig.reader_agrees _ hsame
  · exact adapted_agrees SetVariableConfig.reader_agrees _ hsame
  · exact adapted_agrees TransferConfig.reader_agrees _ hsame
  · exact adapted_agrees EndConfig.reader_agrees _ hsame
  · have hunknown : parts? kind = none := by
      unfold parts?
      split <;> simp_all
    rw [hunknown] at hsame
    rw [hsame]
    exact .refl _

/-- Settings that are both lacking or that are the same are read alike, adapted or not. -/
theorem reader_agree_of_rel {kind : String} {raw raw' : Value} {v? v?' : Option Value}
    (h : Option.Rel (Same kind) v? v?')
    (hraw : raw = v?.getD .null ∨ raw = adapt (v?.getD .null))
    (hraw' : raw' = v?'.getD .null ∨ raw' = adapt (v?'.getD .null)) :
    (reader kind raw).Agree (reader kind raw') := by
  have hread : ∀ {raw v}, (v = .null ∨ ∃ o, v = .object o) → (raw = v ∨ raw = adapt v) →
      reader kind raw = reader kind v := by
    rintro raw v hv (rfl | rfl)
    · rfl
    · exact reader_adapt kind hv
  cases h with
  | none =>
    rw [hread (.inl rfl) hraw, hread (.inl rfl) hraw']
    exact .refl _
  | some hsame =>
    obtain ⟨o, o', rfl, rfl, -⟩ := id hsame
    rw [hread (.inr ⟨o, rfl⟩) hraw, hread (.inr ⟨o', rfl⟩) hraw']
    exact reader_agrees kind _ _ hsame

end NodeConfig

namespace Node

/-- Where a node keeps its label and its settings: among its own members or, in the shape of
editors, among those of its member `data`. -/
inductive Keeps (o : Bindings) : Bindings → Prop
  | itself (h : o.has "config" ∨ ∀ d, o.get? "data" ≠ some (.object d)) : Keeps o o
  | data {d : Bindings} (hdata : o.get? "data" = some (.object d))
      (hconfig : o.get? "config" = none) (hlabel : o.get? "label" = none) : Keeps o d

/-- Two nodes are the same, whichever shape either has, but for the spelling of their settings. -/
inductive Same : Value → Value → Prop
  | nodes {o o' home home' : Bindings} (hkeeps : Keeps o home) (hkeeps' : Keeps o' home')
      (hid : o.get? "id" = o'.get? "id") (hkind : o.get? "type" = o'.get? "type")
      (hlabel : home.get? "label" = home'.get? "label")
      (hconfig : ∀ kind, o.get? "type" = some (.text kind) →
        Option.Rel (NodeConfig.Same kind) (home.get? "config") (home'.get? "config")) :
      Same (.object o) (.object o')
  | same (v : Value) : Same v v

/-- Reads a node whose label and settings come from elsewhere. -/
def readWith (o : Bindings) (label : Checked String) (raw : Value) : Checked Node :=
  let fields := (fun id kind label => (id, kind, label))
    <$> Fields.id.required .text o
    <*> Fields.kind.required .text o
    <*> label
  fields.followedBy fun (id, kind, label) =>
    (fun config => ⟨id, label, config⟩) <$> NodeConfig.reader kind raw

/-- A node is read from its fields after it is brought into shape. -/
theorem reader_agree_readWith {o a : Bindings} (h : adapt (.object o) = .object a) :
    (reader (.object o)).Agree
      (readWith a (Fields.label.optional "" .text a) (a.getD "config")) := by
  have hraw : Fields.config.optional .null .any a = .read (a.getD "config") := by
    simp only [Fields.config, Field.word, Field.optional, Field.find?, Bindings.getD]
    cases a.get? "config" <;> rfl
  rw [reader, Reader.adapted, h]
  simp only [Reader.record, readWith, hraw]
  cases Fields.id.required .text a <;> cases Fields.kind.required .text a <;>
    cases Fields.label.optional "" .text a <;> rfl

/-- The kind that was read stands in the member `type`. -/
theorem get?_kind_of_read {o : Bindings} {kind : String}
    (h : Fields.kind.required .text o = .read kind) : o.get? "type" = some (.text kind) := by
  simp only [Fields.kind, Field.word, Field.required, Field.find?] at h
  cases hkind : o.get? "type" with
  | none => simp [hkind] at h
  | some v =>
    simp only [hkind, Checked.under_eq_read_iff, Reader.text_eq_read_iff] at h
    rw [h]

/-- Nodes are read alike from the same id and kind, if their labels and settings are. -/
theorem readWith_agree {o o' : Bindings} {label label' : Checked String} {raw raw' : Value}
    (hid : o.get? "id" = o'.get? "id") (hkind : o.get? "type" = o'.get? "type")
    (hlabel : label.Agree label')
    (hraw : ∀ kind, o.get? "type" = some (.text kind) →
      (NodeConfig.reader kind raw).Agree (NodeConfig.reader kind raw')) :
    (readWith o label raw).Agree (readWith o' label' raw') := by
  refine Checked.Agree.followedBy ?_ ?_
  · exact ((Checked.Agree.map _ (Field.required_agree (Field.rel_value?_word hid))).seq
      (Field.required_agree (Field.rel_value?_word hkind))).seq hlabel
  · rintro ⟨id, kind, text⟩ hread
    simp only [Checked.seq_eq_read_iff, Checked.map_eq_read_iff] at hread
    refine (hraw kind (get?_kind_of_read ?_)).map _
    aesop

/-- A node with settings of its own, or without an object of data, is in shape. -/
theorem adapt_itself {o : Bindings}
    (h : o.has "config" ∨ ∀ d, o.get? "data" ≠ some (.object d)) :
    adapt (.object o) = .object o := by
  simp only [adapt]
  split
  next hconfig hdata =>
    obtain hhas | hnone := h
    · exact absurd hconfig (by simp [hhas])
    · exact absurd hdata (hnone _)
  next => rfl

/-- A node in the shape of editors, with what it keeps in its member `data` among its own. -/
def lifted (o d : Bindings) : Bindings :=
  (o.set "config" (NodeConfig.adapt (d.getD "config"))).set "label"
    ((d.get? "label").getD (.text ""))

/-- A node without settings and label takes them from its data. -/
theorem adapt_data {o d : Bindings} (hdata : o.get? "data" = some (.object d))
    (hconfig : o.get? "config" = none) (hlabel : o.get? "label" = none) :
    adapt (.object o) = .object (lifted o d) := by
  have hhas : o.has "config" = false := by rw [Bindings.has, hconfig]; rfl
  have hnull : o.getD "label" = .null := by rw [Bindings.getD, hlabel]; rfl
  simp only [adapt, hhas, hdata, hnull]
  rfl

/-- Once adapted, a node has its label and its settings from where it keeps them. -/
theorem exists_adapt_eq {o home : Bindings} (h : Keeps o home) :
    ∃ a : Bindings, adapt (.object o) = .object a ∧ a.get? "id" = o.get? "id" ∧
      a.get? "type" = o.get? "type" ∧
      (Fields.label.optional "" .text a).Agree (Fields.label.optional "" .text home) ∧
      (a.getD "config" = home.getD "config" ∨
        a.getD "config" = NodeConfig.adapt (home.getD "config")) := by
  cases h with
  | itself h => exact ⟨o, adapt_itself h, rfl, rfl, .refl _, .inl rfl⟩
  | data hdata hconfig hlabel =>
    refine ⟨lifted o home, adapt_data hdata hconfig hlabel, ?_, ?_, ?_, .inr ?_⟩
    · simp [lifted, Bindings.get?_set]
    · simp [lifted, Bindings.get?_set]
    · have hlifted : (lifted o home).get? "label" = some ((home.get? "label").getD (.text "")) := by
        simp [lifted, Bindings.get?_set]
      rw [Checked.Agree, Field.toOption_optional, Field.toOption_optional]
      simp only [Fields.label, Field.word, Field.value?, hlifted]
      cases home.get? "label" <;> rfl
    · simp [lifted, Bindings.getD, Bindings.get?_set]

/-- A node in its own shape is the same in the shape of editors. -/
theorem same_editor (id kind label : Value) (config : Bindings) :
    Same
      (.object [("id", id), ("type", kind), ("label", label), ("config", .object config)])
      (.object
        [("id", id), ("type", kind),
         ("data", .object [("label", label), ("config", .object config)])]) := by
  refine .nodes (.itself (.inl rfl)) (.data rfl rfl rfl) rfl rfl rfl fun kind _ => ?_
  exact .some (NodeConfig.same_refl kind config)

/-- A node is read alike in either shape and under either spelling. -/
theorem reader_agrees : reader.Agrees Same := by
  intro v v' hv
  cases hv with
  | same => exact .refl _
  | @nodes o o' home home' hkeeps hkeeps' hid hkind hlabel hconfig =>
    obtain ⟨a, ha, hida, hkinda, hlabela, hrawa⟩ := exists_adapt_eq hkeeps
    obtain ⟨a', ha', hida', hkinda', hlabela', hrawa'⟩ := exists_adapt_eq hkeeps'
    refine (reader_agree_readWith ha).trans (Eq.trans ?_ (reader_agree_readWith ha').symm)
    refine readWith_agree (by rw [hida, hida', hid]) (by rw [hkinda, hkinda', hkind]) ?_ ?_
    · have hread := hlabela.trans (Field.optional_agree (Field.rel_value?_word hlabel))
      exact hread.trans hlabela'.symm
    · intro kind hkindo
      exact NodeConfig.reader_agree_of_rel (hconfig kind (hkinda ▸ hkindo)) hrawa hrawa'

end Node

namespace Flow

/-- The parts of a flow. -/
def parts : List Part :=
  [{ field := Fields.id }, { field := Fields.name },
   { field := Fields.nodes, Same := SameItems Node.Same },
   { field := Fields.edges, Same := SameItems (Respelled Edge.parts) },
   { field := Fields.declarations, Same := SameItems (Respelled Variable.parts) },
   { field := Fields.settings, Same := Respelled FlowSettings.parts }]

/-- A flow is read alike under either spelling. -/
theorem reader_agrees : reader.Agrees (Respelled parts) := by
  refine .record fun o o' h => ?_
  simp only [SameParts, parts, List.forall_mem_cons] at h
  obtain ⟨hid, hname, hnodes, hedges, hdeclarations, hsettings, -⟩ := h
  refine .seq (.seq (.seq (.seq (.seq (.map mk ?_) ?_) ?_) ?_) ?_) ?_
  · exact Field.optional_agree hid
  · exact Field.optional_agree hname
  · exact Node.reader_agrees.list.optional hnodes _
  · exact Edge.reader_agrees.list.optional hedges _
  · exact Variable.reader_agrees.list.optional hdeclarations _
  · exact FlowSettings.reader_agrees.optional hsettings _

/-- However the fields of a flow are spelled, and whichever of its nodes are in the shape of
editors, loading accepts it or refuses it alike, and what is loaded is the same flow. -/
theorem load_respelled {raw raw' : Value} (h : Respelled parts raw raw') (strict : Bool)
    (f : Flow) : load raw strict = .ok f ↔ load raw' strict = .ok f := by
  have hread : reader raw = .read f ↔ reader raw' = .read f := by
    rw [← Checked.toOption_eq_some_iff, reader_agrees raw raw' h, Checked.toOption_eq_some_iff]
  rw [load_eq_ok_iff, load_eq_ok_iff, hread]

private def deskRaw : Value :=
  .object
    [("nodes", .list
      [.object
        [("id", .text "begin"), ("type", .text "start"), ("label", .text "Begin"),
         ("config", .object [("speaks_first", .bool false)])],
       .object
        [("id", .text "desk"), ("type", .text "call_transfer"), ("label", .text "Desk"),
         ("config", .object
          [("transfer_type", .text "warm"),
           ("warm_options", .object [("hold_music", .bool true)])])]]),
     ("edges", .list
      [.object [("source", .text "begin"), ("target", .text "desk"), ("source_handle", .null)]]),
     ("variables", .list
      [.object [("name", .text "room"), ("default_value", .object [("room_number", .int 7)])]]),
     ("settings", .object [("max_turns", .int 4)])]

/-- The same as an editor saves it. -/
private def deskRawEdited : Value :=
  .object
    [("nodes", .list
      [.object
        [("id", .text "begin"), ("type", .text "start"),
         ("data", .object
          [("label", .text "Begin"), ("config", .object [("speaks_first", .bool false)])])],
       .object
        [("id", .text "desk"), ("type", .text "call_transfer"), ("label", .text "Desk"),
         ("config", .object
          [("transferType", .text "warm"),
           ("warmOptions", .object [("holdMusic", .bool true)])])]]),
     ("edges", .list
      [.object [("source", .text "begin"), ("target", .text "desk"), ("sourceHandle", .null)]]),
     ("variables", .list
      [.object [("name", .text "room"), ("defaultValue", .object [("room_number", .int 7)])]]),
     ("settings", .object [("maxTurns", .int 4)])]

private theorem deskRaw_respelled : Respelled parts deskRaw deskRawEdited := by
  have hmusic : SameParts WarmOptions.parts [("hold_music", .bool true)]
      [("holdMusic", .bool true)] := .rename "hold_music" "holdMusic" rfl (by decide)
  have htransfer : SameParts TransferConfig.parts
      [("transfer_type", .text "warm"), ("warm_options", .object [("hold_music", .bool true)])]
      [("transferType", .text "warm"), ("warmOptions", .object [("holdMusic", .bool true)])] := by
    simp only [SameParts, TransferConfig.parts, List.forall_mem_cons]
    exact ⟨.none, .some rfl, .some (.record hmusic), nofun⟩
  refine .record ?_
  simp only [SameParts, parts, List.forall_mem_cons]
  refine ⟨.none, .none, .some (.items (.cons ?_ (.cons ?_ .nil))), .some (.items (.cons ?_ .nil)),
    .some (.items (.cons ?_ .nil)), .some ?_, nofun⟩
  · exact Node.same_editor _ _ _ _
  · refine .nodes (.itself (.inl rfl)) (.itself (.inl rfl)) rfl rfl rfl fun kind hkind => ?_
    obtain rfl : "call_transfer" = kind := Value.text.inj (Option.some.inj hkind)
    exact .some ⟨_, _, rfl, rfl, htransfer⟩
  · exact .record (.rename "source_handle" "sourceHandle" rfl (by decide))
  · exact .record (.rename "default_value" "defaultValue" rfl (by decide))
  · exact .record (.rename "max_turns" "maxTurns" rfl (by decide))

private def desk : Flow where
  nodes :=
    [{ id := "begin", label := "Begin", config := .start { speaksFirst := false } },
     { id := "desk", label := "Desk",
       config := .transfer { kind := .warm, warmOptions := some { holdMusic := some true } } }]
  edges := [{ source := "begin", target := "desk" }]
  declarations := [{ name := "room", defaultValue := .object [("room_number", .int 7)] }]
  settings := { maxTurns := some 4 }

theorem desk_load_respelled :
    Respelled parts deskRaw deskRawEdited ∧ load deskRaw false = .ok desk ∧
      load deskRawEdited false = .ok desk := by
  have h : load deskRaw false = .ok desk := by rfl
  exact ⟨deskRaw_respelled, h, (load_respelled deskRaw_respelled false desk).1 h⟩

end Flow

end CallFlow
