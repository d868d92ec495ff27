import CallFlow.Configuration
import CallFlow.Proofs.Bindings
import CallFlow.Proofs.Environment
import CallFlow.Proofs.Fallible
import CallFlow.Proofs.Json.Written
import CallFlow.Proofs.Yaml.Layout

namespace CallFlow

namespace Environment

theorem expandItems_eq (env : Environment) (items : List Value) :
    env.expandItems items = items.map env.expand := by
  induction items with
  | nil => rfl
  | cons v rest ih => rw [expandItems, ih, List.map_cons]

theorem expandMembers_eq (env : Environment) (members : List (String × Value)) :
    env.expandMembers members = members.map fun m => (m.1, env.expand m.2) := by
  induction members with
  | nil => rfl
  | cons m rest ih => rw [expandMembers, ih, List.map_cons]

/-- Both environments say the same of the variables that the texts in a value refer to. -/
def AgreeIn (env other : Environment) (v : Value) : Prop :=
  ∀ s ∈ v.texts, env.AgreeOn other s.toList

theorem expand_congr {env other : Environment} {v : Value} (h : env.AgreeIn other v) :
    env.expand v = other.expand v := by
  induction v using Value.byParts with
  | null | bool | int | float => rfl
  | text s =>
    have hs : env.AgreeOn other s.toList := h s (List.mem_singleton_self s)
    rw [expand, expand, (expandText_exact s).1 env other hs]
  | list items ih =>
    rw [expand, expand, expandItems_eq, expandItems_eq]
    congr 1
    refine List.map_congr_left fun v hv => ih v hv fun s hs => h s ?_
    rw [Value.texts, Value.textsOfItems_eq]
    exact List.mem_flatMap.2 ⟨v, hv, hs⟩
  | object members ih =>
    rw [expand, expand, expandMembers_eq, expandMembers_eq]
    congr 1
    refine List.map_congr_left fun m hm => ?_
    rw [ih m hm fun s hs => h s ?_]
    rw [Value.texts, Value.textsOfMembers_eq]
    exact List.mem_flatMap.2 ⟨m, hm, List.mem_cons_of_mem _ hs⟩

theorem get?_expandMembers (env : Environment) (members : Bindings) (name : String) :
    Bindings.get? (env.expandMembers members) name = (members.get? name).map env.expand := by
  induction members with
  | nil => rfl
  | cons m rest ih =>
    rw [expandMembers, Bindings.get?_cons, Bindings.get?_cons, ih]
    split <;> rfl

/-- Expanding leaves everything but texts of the kind that it is. -/
theorem expand_eq_object_iff {env : Environment} {v : Value} {expanded : Bindings} :
    env.expand v = .object expanded ↔
      ∃ members, v = .object members ∧ env.expandMembers members = expanded := by
  cases v <;> simp [expand]

theorem expand_eq_text_iff {env : Environment} {v : Value} {expanded : String} :
    env.expand v = .text expanded ↔ ∃ s, v = .text s ∧ env.expandText s = expanded := by
  cases v <;> simp [expand]

theorem isTruthy_expand {env : Environment} {v : Value} (h : ∀ s, v ≠ .text s) :
    (env.expand v).isTruthy = v.isTruthy := by
  cases v with
  | null | bool | int | float => rfl
  | text s => exact absurd rfl (h s)
  | list items => simp [expand, expandItems_eq, Value.isTruthy]
  | object members => simp [expand, expandMembers_eq, Value.isTruthy]

end Environment

namespace Configuration

open Fallible

/-- What a file writes for a setting of a section. -/
def written? (file : Bindings) (title name : String) : Option Value :=
  match file.get? title with
  | some (.object given) => Bindings.get? given name
  | _ => none

theorem get?_override (defaults given : Bindings) (name : String) :
    (override defaults given).get? name =
      (defaults.get? name).map fun v => (given.get? name).getD v := by
  induction defaults with
  | nil => rfl
  | cons m rest ih =>
    obtain ⟨first, v⟩ := m
    change Bindings.get? ((first, _) :: override rest given) name = _
    rw [Bindings.get?_cons, Bindings.get?_cons, ih]
    by_cases hname : name = first
    · simp [hname]
    · simp [hname]

theorem names_override (defaults given : Bindings) :
    (override defaults given).names = defaults.names := by
  simp [override, Bindings.names, Function.comp_def]

theorem names_set {b : Bindings} {name : String} (h : name ∈ b.names) (v : Value) :
    (b.set name v).names = b.names := by
  induction b with
  | nil => cases h
  | cons m rest ih =>
    obtain ⟨first, w⟩ := m
    by_cases hname : first = name
    · simp [Bindings.set, hname, Bindings.names]
    · have hrest : name ∈ Bindings.names rest := (List.mem_cons.1 h).resolve_left (Ne.symm hname)
      rw [Bindings.set, if_neg hname]
      exact congrArg (first :: ·) (ih hrest)

variable {env : Environment} {file chosen defaults : Bindings} {title name : String}

/-- A section of a file that is read has the default settings, each as the file writes it or else by
default. -/
theorem part_eq_ok (h : part file title defaults = .ok chosen) :
    chosen.names = defaults.names ∧ ∀ name, chosen.get? name =
      (defaults.get? name).map fun v => (written? file title name).getD v := by
  unfold part at h
  split at h
  · rename_i hnone
    cases h
    refine ⟨rfl, fun name => ?_⟩
    simp [written?, hnone]
  · rename_i given hgiven
    cases h
    refine ⟨names_override .., fun name => ?_⟩
    rw [get?_override, written?, hgiven]
  · cases h

/-- A section can not be read exactly if the file writes something else than an object there. -/
theorem exists_part_eq_error_iff : (∃ e, part file title defaults = .error e) ↔
    ∃ v, file.get? title = some v ∧ ∀ members, v ≠ .object members := by
  unfold part
  cases hget : file.get? title with
  | none => simp
  | some v => cases v <;> simp

theorem written?_expandMembers (env : Environment) (file : Bindings) (title name : String) :
    written? (env.expandMembers file) title name = (written? file title name).map env.expand := by
  simp only [written?, Environment.get?_expandMembers]
  cases hget : file.get? title with
  | none => rfl
  | some v => cases v <;> simp [Environment.expand, Environment.get?_expandMembers]

/-- The members of a file. Where there is no file, or nothing in it, there are none. -/
def members? : Option String → Option Bindings
  | none => some []
  | some text => (Yaml.read text).bind fun v => if v.isTruthy then v.members? else some []

/-- A section can only be read if it is an object, and an API key only if it is a text or counts as
none. -/
def Misshapen (file : Bindings) : Prop :=
  (∃ title ∈ ["llm", "functions", "engine"], ∃ v, file.get? title = some v ∧
    ∀ members, v ≠ .object members) ∨
  ∃ v, written? file "llm" "api_key" = some v ∧ v.isTruthy ∧ ∀ s, v ≠ .text s

/-- A section has the settings of the default one, each as the file writes it with the variables of
the environment put in, or else by default. -/
def SectionFollows (env : Environment) (file : Bindings) (title : String)
    (defaults chosen : Bindings) (name : String) : Prop :=
  chosen.get? name =
    (defaults.get? name).map fun v => ((written? file title name).map env.expand).getD v

/-- A configuration is what a file writes, but for the API key. -/
structure Follows (env : Environment) (file : Bindings) (c : Configuration) : Prop where
  appName : c.appName = ((file.get? "app_name").map env.expand).getD ({} : Configuration).appName
  debug : c.debug = ((file.get? "debug").map env.expand).getD ({} : Configuration).debug
  model : ∀ name ≠ "api_key",
    SectionFollows env file "llm" ({} : Configuration).model c.model name
  functions : ∀ name,
    SectionFollows env file "functions" ({} : Configuration).functions c.functions name
  engine : ∀ name, SectionFollows env file "engine" ({} : Configuration).engine c.engine name

/-- A configuration has the settings of the default one, no more and no fewer. -/
structure IsComplete (c : Configuration) : Prop where
  model : c.model.names = ({} : Configuration).model.names
  functions : c.functions.names = ({} : Configuration).functions.names
  engine : c.engine.names = ({} : Configuration).engine.names

/-- A text can be used as an API key: it is not empty and no reference that was left as it is. -/
def IsKey (key : String) : Prop := key ≠ "" ∧ isUnresolved key = false

/-- The API key of a configuration is the one that the file writes, if it can be used, or else that
of the environment for the provider. -/
def Keyed (env : Environment) (file : Bindings) (c : Configuration) : Prop :=
  ∃ key, c.model.get? "api_key" = some (.text key) ∧
    ((written? file "llm" "api_key").map env.expand = some (.text key) ∧ IsKey key ∨
      (∀ s, (written? file "llm" "api_key").map env.expand = some (.text s) → ¬IsKey s) ∧
        key = (env.get? (keyName (c.model.getD "provider"))).getD "")

/-- Reading the members of a file reads its three sections. -/
theorem ofMembers_eq_ok_iff {c : Configuration} : ofMembers file = .ok c ↔
    c.appName = (file.get? "app_name").getD ({} : Configuration).appName ∧
      c.debug = (file.get? "debug").getD ({} : Configuration).debug ∧
      part file "llm" ({} : Configuration).model = .ok c.model ∧
      part file "functions" ({} : Configuration).functions = .ok c.functions ∧
      part file "engine" ({} : Configuration).engine = .ok c.engine := by
  obtain ⟨appName, debug, model, functions, engine⟩ := c
  unfold ofMembers
  constructor
  · intro h
    obtain ⟨_, hmodel, h⟩ := bind_eq_ok_iff.1 h
    obtain ⟨_, hfunctions, h⟩ := bind_eq_ok_iff.1 h
    obtain ⟨_, hengine, h⟩ := bind_eq_ok_iff.1 h
    cases h
    exact ⟨rfl, rfl, hmodel, hfunctions, hengine⟩
  · rintro ⟨rfl, rfl, hmodel, hfunctions, hengine⟩
    exact bind_eq_ok_iff.2 ⟨_, hmodel, bind_eq_ok_iff.2 ⟨_, hfunctions,
      bind_eq_ok_iff.2 ⟨_, hengine, rfl⟩⟩⟩

/-- The members of a file can not be read exactly if a section is no object. -/
theorem exists_ofMembers_eq_error_iff : (∃ e, ofMembers file = .error e) ↔
    ∃ title ∈ ["llm", "functions", "engine"], ∃ v, file.get? title = some v ∧
      ∀ members, v ≠ .object members := by
  have hok : (∃ c, ofMembers file = .ok c) ↔
      (∃ s, part file "llm" ({} : Configuration).model = .ok s) ∧
      (∃ s, part file "functions" ({} : Configuration).functions = .ok s) ∧
      ∃ s, part file "engine" ({} : Configuration).engine = .ok s := by
    constructor
    · rintro ⟨c, hc⟩
      obtain ⟨-, -, hmodel, hfunctions, hengine⟩ := ofMembers_eq_ok_iff.1 hc
      exact ⟨⟨_, hmodel⟩, ⟨_, hfunctions⟩, _, hengine⟩
    · rintro ⟨⟨model, hmodel⟩, ⟨functions, hfunctions⟩, engine, hengine⟩
      exact ⟨⟨_, _, model, functions, engine⟩,
        ofMembers_eq_ok_iff.2 ⟨rfl, rfl, hmodel, hfunctions, hengine⟩⟩
  rw [← not_exists_ok_iff, hok, not_and_or, not_and_or]
  simp only [not_exists_ok_iff, exists_part_eq_error_iff, List.mem_cons, List.not_mem_nil,
    or_false, exists_eq_or_imp, exists_eq_left]

/-- A configuration that is read from the members of a file follows them, the API key included. -/
theorem follows_of_ofMembers {c : Configuration} (h : ofMembers (env.expandMembers file) = .ok c) :
    Follows env file c ∧ IsComplete c ∧
      SectionFollows env file "llm" ({} : Configuration).model c.model "api_key" := by
  obtain ⟨happ, hdebug, hmodel, hfunctions, hengine⟩ := ofMembers_eq_ok_iff.1 h
  have hsection {title : String} {defaults chosen : Bindings}
      (hpart : part (env.expandMembers file) title defaults = .ok chosen)
      (name : String) : SectionFollows env file title defaults chosen name := by
    rw [SectionFollows, (part_eq_ok hpart).2 name, written?_expandMembers]
  rw [Environment.get?_expandMembers] at happ hdebug
  exact ⟨⟨happ, hdebug, fun name _ => hsection hmodel name, hsection hfunctions, hsection hengine⟩,
    ⟨(part_eq_ok hmodel).1, (part_eq_ok hfunctions).1, (part_eq_ok hengine).1⟩,
    hsection hmodel "api_key"⟩

/-- Putting variables of the environment in makes no section readable, or unreadable. -/
theorem exists_ofMembers_expandMembers_iff : (∃ e, ofMembers (env.expandMembers file) = .error e) ↔
    ∃ title ∈ ["llm", "functions", "engine"], ∃ v, file.get? title = some v ∧
      ∀ members, v ≠ .object members := by
  rw [exists_ofMembers_eq_error_iff]
  refine exists_congr fun title => and_congr_right fun _ => ?_
  rw [Environment.get?_expandMembers]
  constructor
  · rintro ⟨expanded, hexpanded, hother⟩
    obtain ⟨v, hv, rfl⟩ := Option.map_eq_some_iff.1 hexpanded
    refine ⟨v, hv, ?_⟩
    rintro members rfl
    exact hother _ rfl
  · rintro ⟨v, hv, hother⟩
    refine ⟨env.expand v, Option.map_eq_some_iff.2 ⟨v, hv, rfl⟩, fun members hmembers => ?_⟩
    obtain ⟨_, rfl, -⟩ := Environment.expand_eq_object_iff.1 hmembers
    exact hother _ rfl

/-- A configuration with the API key that the environment has for its provider, if it has one. -/
def withEnvironmentKey (env : Environment) (c : Configuration) : Configuration :=
  let key := (env.get? (keyName (c.model.getD "provider"))).getD ""
  { c with model := c.model.set "api_key" (.text key) }

variable {c : Configuration}

/-- A key that can be used is kept. -/
theorem withKey_of_isKey {s : String} (h : c.model.getD "api_key" = .text s) (hkey : IsKey s) :
    withKey env c = .ok c := by
  simp only [withKey, h]
  rw [if_neg]
  simp [hkey.1, hkey.2]

/-- Where there is no key that can be used, the environment is asked for one. -/
theorem withKey_of_not_isKey (hkey : ∀ s, c.model.getD "api_key" = .text s → ¬IsKey s)
    (h : (∃ s, c.model.getD "api_key" = .text s) ∨ (c.model.getD "api_key").isTruthy = false) :
    withKey env c = .ok (withEnvironmentKey env c) := by
  unfold withKey
  split
  · rename_i s hs
    have hunusable : (s = "" || isUnresolved s) = true := by
      by_contra hnot
      apply hkey s hs
      simpa [IsKey] using hnot
    exact congrArg Except.ok (if_pos hunusable)
  · rename_i hother
    have hfalsy := h.resolve_left fun ⟨s, hs⟩ => hother s hs
    rw [if_neg (by simp [hfalsy])]
    rfl

theorem withKey_of_not_text (htext : ∀ s, c.model.getD "api_key" ≠ .text s)
    (h : (c.model.getD "api_key").isTruthy = true) : withKey env c = .error .keyNotText := by
  unfold withKey
  split
  · rename_i s hs
    exact absurd hs (htext s)
  · exact if_pos h

variable {document : Option String}

theorem load_of_members {members : Bindings} (h : members? document = some members) :
    load env document = (ofMembers (env.expandMembers members)).bind (withKey env) := by
  cases document with
  | none =>
    cases h
    rfl
  | some text =>
    obtain ⟨v, hread, hv⟩ := Option.bind_eq_some_iff.1 h
    simp only [load, hread, ofValue]
    congr 1
    split at hv
    · rename_i htruthy
      cases v <;> cases hv
      rw [if_pos htruthy, Environment.expand]
    · rename_i hfalsy
      cases hv
      rw [if_neg hfalsy]
      rfl

/-- Nothing is loaded from a file that can not be read, or that holds something else than an
object. -/
theorem load_of_no_members (h : members? document = none) : ∃ e, load env document = .error e := by
  cases document with
  | none => cases h
  | some text =>
    simp only [load]
    split
    · exact ⟨_, rfl⟩
    · rename_i v hread
      simp only [members?, hread, Option.bind_some] at h
      split at h
      · rename_i htruthy
        rw [ofValue, if_pos htruthy]
        split
        · rename_i expanded hexpanded
          obtain ⟨members, rfl, -⟩ := Environment.expand_eq_object_iff.1 hexpanded
          cases h
        · exact ⟨_, rfl⟩
      · cases h

variable {members : Bindings} {read : Configuration}

/-- What stands in place of the API key once the members of a file are read. -/
theorem get?_key_of_ofMembers (h : ofMembers (env.expandMembers members) = .ok read) :
    read.model.get? "api_key" =
      some (((written? members "llm" "api_key").map env.expand).getD (.text "")) :=
  (follows_of_ofMembers h).2.2

theorem getD_withEnvironmentKey (env : Environment) (h : "api_key" ∈ c.model.names) :
    (withEnvironmentKey env c).model.names = c.model.names ∧
      (withEnvironmentKey env c).model.get? "api_key" =
        some (.text ((env.get? (keyName (c.model.getD "provider"))).getD "")) ∧
      ∀ name ≠ "api_key", (withEnvironmentKey env c).model.get? name = c.model.get? name := by
  refine ⟨names_set h _, ?_, fun name hname => ?_⟩
  · rw [withEnvironmentKey, Bindings.get?_set, if_pos rfl]
  · rw [withEnvironmentKey, Bindings.get?_set, if_neg hname]

/-- What is read from the members of a file still follows them once it has a key. -/
theorem follows_of_withKey (hread : ofMembers (env.expandMembers members) = .ok read)
    (h : withKey env read = .ok c) :
    Follows env members c ∧ Keyed env members c ∧ IsComplete c := by
  obtain ⟨hfollows, hcomplete, -⟩ := follows_of_ofMembers hread
  have hplace := get?_key_of_ofMembers hread
  by_cases hkey : ∃ s, read.model.getD "api_key" = .text s ∧ IsKey s
  · obtain ⟨s, hs, hkey⟩ := hkey
    rw [withKey_of_isKey hs hkey] at h
    cases h
    rw [Bindings.getD, hplace, Option.getD_some] at hs
    refine ⟨hfollows, ⟨s, hplace.trans (congrArg some hs), Or.inl ⟨?_, hkey⟩⟩, hcomplete⟩
    cases hwritten : (written? members "llm" "api_key").map env.expand with
    | some v => rw [hwritten] at hs; exact congrArg some hs
    | none =>
      rw [hwritten] at hs
      cases hs
      exact absurd rfl hkey.1
  · have hunusable : ∀ s, read.model.getD "api_key" = .text s → ¬IsKey s :=
      fun s hs hs' => hkey ⟨s, hs, hs'⟩
    have hfalsy : (∃ s, read.model.getD "api_key" = .text s) ∨
        (read.model.getD "api_key").isTruthy = false := by
      by_contra hnot
      obtain ⟨htext, htruthy⟩ := not_or.1 hnot
      rw [withKey_of_not_text (not_exists.1 htext) (by simpa using htruthy)] at h
      cases h
    rw [withKey_of_not_isKey hunusable hfalsy] at h
    cases h
    have hmem : "api_key" ∈ read.model.names := by
      rw [hcomplete.model]
      decide
    obtain ⟨hkept, hset, hother⟩ := getD_withEnvironmentKey env hmem
    refine ⟨⟨hfollows.appName, hfollows.debug, fun name hname => ?_, hfollows.functions,
      hfollows.engine⟩, ⟨_, hset, Or.inr ⟨fun s hs => hunusable s ?_, ?_⟩⟩,
      hkept.trans hcomplete.model, hcomplete.functions, hcomplete.engine⟩
    · rw [SectionFollows, hother name hname]
      exact hfollows.model name hname
    · rw [Bindings.getD, hplace, hs]
      rfl
    · rw [Bindings.getD, Bindings.getD, hother "provider" (by decide)]

/-- The key is what makes a configuration fail that was read well. -/
theorem exists_withKey_eq_error_iff (hread : ofMembers (env.expandMembers members) = .ok read) :
    (∃ e, withKey env read = .error e) ↔
      ∃ v, written? members "llm" "api_key" = some v ∧ v.isTruthy ∧ ∀ s, v ≠ .text s := by
  have hplace : read.model.getD "api_key" = _ :=
    congrArg (·.getD .null) (get?_key_of_ofMembers hread)
  rw [Option.getD_some] at hplace
  constructor
  · rintro ⟨e, he⟩
    have htext : ∀ s, read.model.getD "api_key" ≠ .text s := by
      intro s hs
      by_cases hkey : IsKey s
      · rw [withKey_of_isKey hs hkey] at he
        cases he
      · rw [withKey_of_not_isKey ?_ (Or.inl ⟨s, hs⟩)] at he
        · cases he
        · intro s' hs'
          obtain rfl := Value.text.inj (hs.symm.trans hs')
          exact hkey
    have htruthy : (read.model.getD "api_key").isTruthy = true := by
      by_contra hfalsy
      rw [withKey_of_not_isKey (fun s hs => absurd hs (htext s)) (Or.inr (by simpa using hfalsy))]
        at he
      cases he
    cases hwritten : written? members "llm" "api_key" with
    | none =>
      rw [hwritten] at hplace
      exact absurd hplace (htext "")
    | some v =>
      rw [hwritten, Option.map_some, Option.getD_some] at hplace
      have hv : ∀ s, v ≠ .text s := by
        rintro s rfl
        exact htext _ hplace
      rw [hplace, Environment.isTruthy_expand hv] at htruthy
      exact ⟨v, rfl, htruthy, hv⟩
  · rintro ⟨v, hwritten, htruthy, hv⟩
    rw [hwritten, Option.map_some, Option.getD_some] at hplace
    refine ⟨_, withKey_of_not_text (fun s hs => ?_) ?_⟩
    · obtain ⟨s', hs', -⟩ := Environment.expand_eq_text_iff.1 (hplace.symm.trans hs)
      exact hv s' hs'
    · rw [hplace, Environment.isTruthy_expand hv, htruthy]

/-- The settings of a loaded configuration are those of the default one, no more and no fewer: each
is what the file writes for it, with the variables of the environment put in, or else the default.
The API key is a text. Nothing is loaded exactly if the file can not be read or is no object, if a
section of it is none, or if something else than a text stands in place of the key. -/
theorem load_exact (env : Environment) (document : Option String) :
    (∀ c, load env document = .ok c → ∃ members, members? document = some members ∧
      Follows env members c ∧ Keyed env members c ∧ IsComplete c) ∧
    ((∃ e, load env document = .error e) ↔
      ∀ members, members? document = some members → Misshapen members) := by
  cases hmembers : members? document with
  | none =>
    obtain ⟨e, he⟩ : ∃ e, load env document = .error e := load_of_no_members hmembers
    refine ⟨fun c hc => ?_, iff_of_true ⟨e, he⟩ nofun⟩
    rw [he] at hc
    cases hc
  | some members =>
    rw [load_of_members hmembers]
    constructor
    · intro c hc
      obtain ⟨read, hread, hkey⟩ := bind_eq_ok_iff.1 hc
      exact ⟨members, rfl, follows_of_withKey hread hkey⟩
    · simp only [Option.some.injEq, forall_eq']
      cases hread : ofMembers (env.expandMembers members) with
      | error e =>
        exact iff_of_true ⟨e, rfl⟩ (Or.inl (exists_ofMembers_expandMembers_iff.1 ⟨e, hread⟩))
      | ok read =>
        refine (exists_withKey_eq_error_iff hread).trans (or_iff_right fun hpart => ?_).symm
        obtain ⟨e, he⟩ : ∃ e, ofMembers (env.expandMembers members) = .error e :=
          exists_ofMembers_expandMembers_iff.2 hpart
        rw [hread] at he
        cases he

/-- Of the environment only the variables that the file refers to matter, and those that hold API
keys. -/
theorem load_congr {env other : Environment}
    (hfile : ∀ text ∈ document, ∀ v ∈ Yaml.read text, env.AgreeIn other v)
    (hkeys : ∀ provider, env.get? (keyName provider) = other.get? (keyName provider)) :
    load env document = load other document := by
  have hkey : withKey env = withKey other := by
    funext c
    simp only [withKey, hkeys]
  cases document with
  | none => rw [load, load, hkey]
  | some text =>
    simp only [load]
    split
    · rfl
    · rename_i v hread
      rw [hkey, ofValue, ofValue, Environment.expand_congr (hfile text rfl v hread)]

/-- The configuration that gives an engine its settings. -/
def ofSettings (s : Settings) : Configuration where
  model := s.model.members
  functions := s.functions.members
  engine := s.engine.members

theorem ofValue?_toValue (a : Amount) : Amount.ofValue? a.toValue = some a := by
  cases a <;> rfl

/-- The settings of an engine can be taken out of a configuration that has them, in its sections, by
their names. -/
theorem settings?_of_get? {s : Settings}
    (hmodel : ∀ m ∈ s.model.members, c.model.get? m.1 = some m.2)
    (hfunctions : ∀ m ∈ s.functions.members, c.functions.get? m.1 = some m.2)
    (hengine : ∀ m ∈ s.engine.members, c.engine.get? m.1 = some m.2) : c.settings? = some s := by
  simp only [ModelSettings.members, FunctionSettings.members, EngineSettings.members,
    List.forall_mem_cons, List.not_mem_nil, false_imp_iff, implies_true, and_true]
    at hmodel hfunctions hengine
  simp [settings?, text?, int?, amount?, Bindings.getD, Value.text?, ofValue?_toValue, hmodel,
    hfunctions, hengine]

/-- Settings that are put into a configuration are taken out of it as they were. -/
theorem settings?_ofSettings (s : Settings) : (ofSettings s).settings? = some s := by
  apply settings?_of_get? <;>
    simp [ofSettings, ModelSettings.members, FunctionSettings.members, EngineSettings.members,
      Bindings.get?_cons]

section Files

variable {column : Nat} {text : List Char} {ms : List (String × Value)} {s : Settings}

/-- The members of a file are those that are laid out in its lines. -/
theorem members?_of_lays (h : Yaml.Lays column text ms) (hne : ms ≠ [])
    (htext : ∀ c ∈ text, Yaml.IsOrdinary c) :
    members? (some (String.ofList text)) = some (Bindings.ofMembers ms) := by
  have htruthy : (Value.object (Bindings.ofMembers ms)).isTruthy = true := by
    obtain ⟨m, rest, rfl⟩ := List.exists_cons_of_ne_nil hne
    have hname : m.1 ∈ (Bindings.ofMembers (m :: rest)).names :=
      Bindings.mem_names_ofMembers.2 (by simp)
    cases hmembers : Bindings.ofMembers (m :: rest) with
    | nil =>
      rw [hmembers] at hname
      cases hname
    | cons => rfl
  simp only [members?, Yaml.read_of_lays h hne htext, Option.bind_some, htruthy, if_true,
    Value.members?]

/-- A file writes the settings of an engine: each stands in its section by its name, and is what it
should be once the variables of the environment are put in. -/
structure Gives (env : Environment) (file : Bindings) (s : Settings) : Prop where
  model : ∀ m ∈ s.model.members, (written? file "llm" m.1).map env.expand = some m.2
  functions : ∀ m ∈ s.functions.members,
    (written? file "functions" m.1).map env.expand = some m.2
  engine : ∀ m ∈ s.engine.members, (written? file "engine" m.1).map env.expand = some m.2

/-- What is written for a setting stands in an object. -/
theorem exists_of_written? {v : Value} (h : (written? file title name).map env.expand = some v) :
    ∃ given, file.get? title = some (.object given) := by
  obtain ⟨w, hw, -⟩ := Option.map_eq_some_iff.1 h
  unfold written? at hw
  split at hw
  · exact ⟨_, by assumption⟩
  · cases hw

theorem Gives.not_misshapen (h : Gives env file s) : ¬Misshapen file := by
  rintro (⟨title, htitle, v, hv, hother⟩ | ⟨v, hv, -, hother⟩)
  · have hsection : ∃ given, file.get? title = some (.object given) := by
      simp only [List.mem_cons, List.not_mem_nil, or_false] at htitle
      obtain rfl | rfl | rfl := htitle
      · exact exists_of_written? (h.model ("provider", .text s.model.provider) (by
          simp [ModelSettings.members]))
      · exact exists_of_written? (h.functions ("http_retries", .int s.functions.httpRetries) (by
          simp [FunctionSettings.members]))
      · exact exists_of_written? (h.engine ("max_hops", .int s.engine.maxHops) (by
          simp [EngineSettings.members]))
    obtain ⟨given, hgiven⟩ := hsection
    exact hother given (Option.some.inj (hv.symm.trans hgiven))
  · have hkey := h.model ("api_key", .text s.model.apiKey) (by simp [ModelSettings.members])
    rw [hv] at hkey
    obtain ⟨w, hw, -⟩ := Environment.expand_eq_text_iff.1 (Option.some.inj hkey)
    exact hother w hw

/-- A setting that a section has by default is what the file writes for it. -/
theorem SectionFollows.get?_eq {v : Value} (h : SectionFollows env file title defaults chosen name)
    (hname : name ∈ defaults.names) (hwritten : (written? file title name).map env.expand = some v) :
    chosen.get? name = some v := by
  obtain ⟨w, hw⟩ := Option.isSome_iff_exists.1 (Bindings.has_iff_mem_names.2 hname)
  rw [h, hw, hwritten]
  rfl

/-- An engine gets the settings that are laid out in the lines of its file, in whatever order they
stand there and with whatever comments, if its API key is one that can be used. -/
theorem settings?_of_lays (h : Yaml.Lays column text ms) (hne : ms ≠ [])
    (htext : ∀ c ∈ text, Yaml.IsOrdinary c) (hgives : Gives env (Bindings.ofMembers ms) s)
    (hkey : IsKey s.model.apiKey) :
    ∃ c, load env (some (String.ofList text)) = .ok c ∧ c.settings? = some s := by
  have hmembers := members?_of_lays h hne htext
  obtain ⟨hloaded, herror⟩ := load_exact env (some (String.ofList text))
  cases hload : load env (some (String.ofList text)) with
  | error e => exact absurd (herror.1 ⟨e, hload⟩ _ hmembers) hgives.not_misshapen
  | ok c =>
    obtain ⟨members, hread, hfollows, ⟨key, hplace, hwritten⟩, -⟩ := hloaded c hload
    obtain rfl := Option.some.inj (hmembers.symm.trans hread)
    refine ⟨c, rfl, settings?_of_get? (fun m hm => ?_) (fun m hm => ?_) fun m hm => ?_⟩
    · by_cases hname : m.1 = "api_key"
      · obtain ⟨name, v⟩ := m
        obtain rfl : name = "api_key" := hname
        obtain rfl : v = .text s.model.apiKey := by simpa [ModelSettings.members] using hm
        obtain ⟨hown, -⟩ | ⟨hunusable, -⟩ := hwritten
        · exact hplace.trans (hown.symm.trans (hgives.model _ hm))
        · exact absurd hkey (hunusable _ (hgives.model _ hm))
      · have hdefault : m.1 ∈ Bindings.names s.model.members := List.mem_map_of_mem hm
        exact (hfollows.model m.1 hname).get?_eq hdefault (hgives.model m hm)
    · have hdefault : m.1 ∈ Bindings.names s.functions.members := List.mem_map_of_mem hm
      exact (hfollows.functions m.1).get?_eq hdefault (hgives.functions m hm)
    · have hdefault : m.1 ∈ Bindings.names s.engine.members := List.mem_map_of_mem hm
      exact (hfollows.engine m.1).get?_eq hdefault (hgives.engine m hm)

end Files

end Configuration

end CallFlow
