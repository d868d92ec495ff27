import CallFlow.Proofs.Display
import CallFlow.Proofs.Template.Occurrence

namespace CallFlow.Template

/-- The characters that a piece is rendered as where all values can be shown. -/
def Piece.fill (scope : Bindings) : Piece → List Char
  | .char c => [c]
  | .placeholder name => (scope.getD name).shown.toList

/-- A template with the texts of the values in it, as far as they can be shown. -/
def fill (text : String) (scope : Bindings) : String :=
  String.ofList ((parse text).flatMap (Piece.fill scope))

/-- All values that a template inserts can be shown. -/
def IsShown (scope : Bindings) (text : String) : Prop :=
  ∀ name ∈ names text, Json.isWritable Json.maxNesting (scope.getD name) = true

variable {scope other : Bindings} {text : String}

/-- The pieces of a template are rendered one by one, and each of them has to be. -/
theorem mapM_render_eq_some_iff {ps : List Piece} {parts : List (List Char)} :
    ps.mapM (Piece.render scope) = some parts ↔
      (∀ name ∈ ps.filterMap Piece.name?,
        Json.isWritable Json.maxNesting (scope.getD name) = true) ∧
        ps.map (Piece.fill scope) = parts := by
  induction ps generalizing parts with
  | nil => exact ⟨fun h => ⟨nofun, Option.some.inj h⟩, fun h => congrArg some h.2⟩
  | cons p ps ih =>
    rw [List.mapM_cons]
    simp only [Option.bind_eq_bind, Option.bind_eq_some_iff, ih, Option.pure_def, Option.some.injEq]
    cases p with
    | char c =>
      rw [List.filterMap_cons_none rfl]
      constructor
      · rintro ⟨_, ⟨⟩, _, ⟨hnames, rfl⟩, rfl⟩
        exact ⟨hnames, rfl⟩
      · rintro ⟨hnames, rfl⟩
        exact ⟨_, rfl, _, ⟨hnames, rfl⟩, rfl⟩
    | placeholder name =>
      rw [List.filterMap_cons_some (f := Piece.name?) rfl, List.forall_mem_cons]
      simp only [Piece.render, Option.map_eq_some_iff, Value.display_eq_some_iff]
      constructor
      · rintro ⟨_, ⟨_, ⟨hname, rfl⟩, rfl⟩, _, ⟨hnames, rfl⟩, rfl⟩
        exact ⟨⟨hname, hnames⟩, rfl⟩
      · rintro ⟨⟨hname, hnames⟩, rfl⟩
        exact ⟨_, ⟨_, ⟨hname, rfl⟩, rfl⟩, _, ⟨hnames, rfl⟩, rfl⟩

/-- A template is rendered when all values that it inserts can be shown, and then as the text with
all of them filled in. -/
theorem render_eq_some_iff {out : String} :
    render text scope = some out ↔ IsShown scope text ∧ fill text scope = out := by
  simp only [render, Option.map_eq_some_iff, mapM_render_eq_some_iff, fill, List.flatMap_def]
  constructor
  · rintro ⟨_, ⟨hshown, rfl⟩, rfl⟩
    exact ⟨hshown, rfl⟩
  · rintro ⟨hshown, rfl⟩
    exact ⟨_, ⟨hshown, rfl⟩, rfl⟩

/-- A template can not be rendered only if one of its names is bound to what can not be shown. -/
theorem render_eq_none_iff :
    render text scope = none ↔ ∃ name ∈ names text, (scope.getD name).display = none := by
  have hsome : (∃ out, render text scope = some out) ↔ IsShown scope text := by
    simp [render_eq_some_iff]
  rw [← Option.not_isSome_iff_eq_none, Option.isSome_iff_exists, hsome]
  simp [IsShown, Value.display_eq_none_iff]

/-- A template is rendered alike in two scopes that agree on the names it refers to. -/
theorem render_congr (h : ∀ name ∈ names text, scope.getD name = other.getD name) :
    render text scope = render text other := by
  have hpiece : ∀ piece ∈ parse text, piece.fill scope = piece.fill other := by
    intro piece hmem
    cases piece with
    | char c => rfl
    | placeholder name =>
      have hname : name ∈ names text := List.mem_filterMap.2 ⟨_, hmem, rfl⟩
      simp only [Piece.fill, h name hname]
  have hshown : IsShown scope text ↔ IsShown other text :=
    forall₂_congr fun name hname => by rw [h name hname]
  ext out
  simp only [render_eq_some_iff, hshown, fill, List.flatMap_congr hpiece]

/-- A template that is one placeholder is rendered as the value of its name is shown. -/
theorem render_placed {name : String} (h : IsName name.toList) (scope : Bindings) :
    render (String.ofList (placed name.toList [])) scope = (scope.getD name).display := by
  rw [render, parse, String.toList_ofList, pieces_placed h, pieces]
  cases hshown : (scope.getD name).display <;> simp [Piece.render, hshown]

/-- The characters of a text without placeholders are pieces of their own. -/
theorem pieces_eq_map {cs : List Char} (h : (pieces cs).filterMap Piece.name? = []) :
    pieces cs = cs.map .char := by
  fun_induction pieces cs with
  | case1 => rfl
  | case2 c after name rest _ _ _ => cases h
  | case3 c after _ ih => rw [ih h, List.map_cons]

/-- A template without placeholders is rendered as it stands. -/
theorem render_of_names_eq_nil (h : names text = []) (scope : Bindings) :
    render text scope = some text := by
  have hfill : fill text scope = text := by
    rw [fill, parse, pieces_eq_map h, List.flatMap_map]
    simp [Piece.fill]
  rw [render_eq_some_iff, IsShown, h]
  exact ⟨List.forall_mem_nil _, hfill⟩

/-- A template without opening braces has no placeholders. -/
theorem names_eq_nil_of_not_mem {text : String} (h : '{' ∉ text.toList) : names text = [] := by
  refine List.eq_nil_iff_forall_not_mem.2 fun name hname => h ?_
  obtain ⟨-, front, back, heq⟩ := mem_names_iff.1 hname
  simp [heq, placed]

/-- A template without opening braces is rendered as it stands. -/
theorem render_of_not_mem {text : String} (h : '{' ∉ text.toList) (b : Bindings) :
    render text b = some text := render_of_names_eq_nil (names_eq_nil_of_not_mem h) b

end CallFlow.Template
