import CallFlow.Text.Blank
import Mathlib.Data.List.DropRight

namespace CallFlow.Text

/-- Nothing but blanks. -/
def Blank (cs : List Char) : Prop := ∀ c ∈ cs, isBlank c = true

instance (cs : List Char) : Decidable (Blank cs) :=
  decidable_of_iff (cs.all isBlank = true) List.all_eq_true

/-- No blank in front. -/
def TightFront (cs : List Char) : Prop := ∀ c ∈ cs.head?, isBlank c = false

/-- No blank at either end. -/
def Tight (cs : List Char) : Prop := TightFront cs ∧ TightFront cs.reverse

theorem blank_nil : Blank [] := nofun

theorem Blank.reverse {cs : List Char} (h : Blank cs) : Blank cs.reverse :=
  fun c hc => h c (List.mem_reverse.1 hc)

theorem tightFront_cons {c : Char} (h : isBlank c = false) (cs : List Char) :
    TightFront (c :: cs) := by
  simpa [TightFront] using h

theorem trimFront_of_tightFront {cs : List Char} (h : TightFront cs) : trimFront cs = cs := by
  cases cs with
  | nil => rfl
  | cons c cs => exact List.dropWhile_cons_of_neg (by simp [h c rfl])

/-- Blanks in front are trimmed. -/
theorem trimFront_append {before cs : List Char} (hbefore : Blank before) (h : TightFront cs) :
    trimFront (before ++ cs) = cs := by
  rw [trimFront, List.dropWhile_append_of_pos hbefore]
  exact trimFront_of_tightFront h

/-- After trimming no blank stands in front. -/
theorem tightFront_trimFront (cs : List Char) : TightFront (trimFront cs) := by
  intro c hc
  have h := List.head?_dropWhile_not isBlank cs
  rw [show List.dropWhile isBlank cs = trimFront cs from rfl, Option.mem_def.1 hc] at h
  simpa using h

/-- A text is blanks and what is left of it without those in front. -/
theorem exists_eq_append_trimFront (cs : List Char) :
    ∃ before, Blank before ∧ cs = before ++ trimFront cs :=
  ⟨cs.takeWhile isBlank, fun _ hc => List.mem_takeWhile_imp hc,
    (List.takeWhile_append_dropWhile ..).symm⟩

/-- What begins with no blank does so however it goes on. -/
theorem TightFront.append {cs : List Char} (h : TightFront cs) (hne : cs ≠ [])
    (after : List Char) : TightFront (cs ++ after) := by
  obtain ⟨c, cs, rfl⟩ := List.exists_cons_of_ne_nil hne
  exact tightFront_cons (h c rfl) _

theorem tight_of_forall {cs : List Char} (h : ∀ c ∈ cs, isBlank c = false) : Tight cs :=
  ⟨fun c hc => h c (List.mem_of_mem_head? hc),
    fun c hc => h c (List.mem_reverse.1 (List.mem_of_mem_head? hc))⟩

/-- What ends with no blank does so whatever stands before. -/
theorem Tight.append_back {cs : List Char} (h : Tight cs) (hne : cs ≠ []) (front : List Char) :
    TightFront (front ++ cs).reverse := by
  rw [List.reverse_append]
  exact h.2.append (by simpa using hne) _

/-- Trimming leaves a tight text as the part between the blanks around it. -/
theorem trim_append {before core after : List Char} (hbefore : Blank before) (h : Tight core)
    (hafter : Blank after) : trim (before ++ (core ++ after)) = core := by
  rcases eq_or_ne core [] with rfl | hne
  · have hall : Blank (before ++ ([] ++ after)) := by
      intro c hc
      rcases List.mem_append.1 hc with hc | hc
      · exact hbefore c hc
      · exact hafter c hc
    have hfront : trimFront (before ++ ([] ++ after)) = [] := List.dropWhile_eq_nil_iff.2 hall
    rw [trim, hfront]
    rfl
  · have hback : trimFront (core ++ after).reverse = core.reverse := by
      rw [List.reverse_append]
      exact trimFront_append hafter.reverse h.2
    rw [trim, trimFront_append hbefore (h.1.append hne after), hback, List.reverse_reverse]

/-- Where no blank stands at either end nothing is trimmed. -/
theorem trim_of_tight {cs : List Char} (h : Tight cs) : trim cs = cs := by
  simpa using trim_append blank_nil h blank_nil

/-- Around what trimming leaves are blanks. -/
theorem exists_eq_append_trim (cs : List Char) :
    ∃ before after, Blank before ∧ Tight (trim cs) ∧ Blank after ∧
      cs = before ++ (trim cs ++ after) := by
  obtain ⟨before, hbefore, hcs⟩ := exists_eq_append_trimFront cs
  obtain ⟨after, hafter, hback⟩ := exists_eq_append_trimFront (trimFront cs).reverse
  have hsplit : trimFront cs = trim cs ++ after.reverse := by
    rw [← List.reverse_reverse (trimFront cs), hback, List.reverse_append, trim]
  have hfront : TightFront (trim cs) := by
    intro c hc
    have htight := tightFront_trimFront cs
    rw [hsplit] at htight
    cases htrim : trim cs with
    | nil => simp [htrim] at hc
    | cons d ds =>
      rw [htrim] at hc htight
      exact htight c hc
  refine ⟨before, after.reverse, hbefore, ⟨hfront, ?_⟩, hafter.reverse, ?_⟩
  · rw [trim, List.reverse_reverse]
    exact tightFront_trimFront _
  · rw [← hsplit]
    exact hcs

/-- Trimming leaves the first character if it is not blank. -/
theorem exists_trim_cons {c : Char} (h : isBlank c = false) (cs : List Char) :
    ∃ rest, trim (c :: cs) = c :: rest := by
  obtain ⟨before, after, hbefore, -, hafter, heq⟩ := exists_eq_append_trim (c :: cs)
  cases before with
  | cons d before =>
    obtain ⟨rfl, -⟩ := List.cons.inj heq
    simp [hbefore c List.mem_cons_self] at h
  | nil =>
    cases htrim : trim (c :: cs) with
    | nil =>
      rw [htrim, List.nil_append, List.nil_append] at heq
      have hblank := hafter c (heq ▸ List.mem_cons_self)
      simp [hblank] at h
    | cons d rest =>
      rw [htrim] at heq
      obtain ⟨rfl, -⟩ := List.cons.inj heq
      exact ⟨rest, rfl⟩

end CallFlow.Text
