import Mathlib.Data.List.Induction

/-!
Order of kinds of entries in a trace: every entry of the second kind has one of
the first kind somewhere before it. Either kind may occur many times.
-/

namespace OnlyTwo

variable {Item Image : Type}

def Precedes (first second : Item → Bool) (items : List Item) : Prop :=
  ∀ earlier item later, items = earlier ++ item :: later → second item = true →
    ∃ prior ∈ earlier, first prior = true

namespace Precedes

variable {first second third : Item → Bool} {past new items : List Item}

theorem nil : Precedes first second [] := by
  intro earlier item later split
  simp at split

theorem earlier (holds : Precedes first second (past ++ new)) : Precedes first second past := by
  intro before item later split hit
  exact holds before item (later ++ new) (by simp [split]) hit

theorem append (holds : Precedes first second past)
    (added : ∀ before item later, new = before ++ item :: later → second item = true →
      ∃ prior ∈ past ++ before, first prior = true) :
    Precedes first second (past ++ new) := by
  intro before item later split hit
  rcases List.append_eq_append_iff.mp split with ⟨more, rfl, rest⟩ | ⟨more, rfl, rest⟩
  · exact added more item later rest hit
  · cases more with
    | nil =>
        obtain ⟨prior, member, found⟩ := added [] item later (by simpa using rest.symm) hit
        exact ⟨prior, by simpa using member, found⟩
    | cons head tail =>
        obtain ⟨rfl, rfl⟩ := List.cons.inj rest
        exact holds before item tail rfl hit

/-- What is added comes after something of the first kind. -/
theorem append_of_past (holds : Precedes first second past)
    (added : ∀ item ∈ new, second item = true → ∃ prior ∈ past, first prior = true) :
    Precedes first second (past ++ new) := by
  apply holds.append
  rintro before item later rfl hit
  obtain ⟨prior, member, found⟩ := added item (by simp) hit
  exact ⟨prior, List.mem_append_left _ member, found⟩

theorem append_iff (none : ∀ item ∈ new, second item = false) :
    Precedes first second (past ++ new) ↔ Precedes first second past := by
  refine ⟨earlier, fun holds => holds.append_of_past ?_⟩
  intro item member hit
  rw [none item member] at hit
  cases hit

theorem found (holds : Precedes first second items) {item : Item} (member : item ∈ items)
    (hit : second item = true) : ∃ prior ∈ items, first prior = true := by
  obtain ⟨before, later, rfl⟩ := List.append_of_mem member
  obtain ⟨prior, inside, found⟩ := holds before item later rfl hit
  exact ⟨prior, List.mem_append_left _ inside, found⟩

theorem trans (left : Precedes first second items) (right : Precedes second third items) :
    Precedes first third items := by
  rintro before item later rfl hit
  obtain ⟨middle, member, matched⟩ := right before item later rfl hit
  exact left.earlier.found member matched

/-- Nothing comes before its own first occurrence. -/
theorem irrefl (holds : Precedes first first items) : ∀ item ∈ items, first item = false := by
  induction items using List.reverseRecOn with
  | nil =>
      intro item member
      cases member
  | append_singleton past last ih =>
      have none := ih holds.earlier
      have absent : first last = false := by
        apply Bool.eq_false_iff.mpr
        intro hit
        -- The last occurrence would need an earlier one, and there is none in the past.
        obtain ⟨prior, member, found⟩ := holds past last [] rfl hit
        rw [none prior member] at found
        cases found
      intro item member
      rcases List.mem_append.mp member with old | new
      · exact none item old
      · rw [List.mem_singleton.mp new]
        exact absent

/-- The order is seen in what a trace is mapped to. -/
theorem filterMap (view : Item → Option Image) {one two : Image → Bool}
    (holds : Precedes (fun item => (view item).any one) (fun item => (view item).any two) items) :
    Precedes one two (items.filterMap view) := by
  intro before image later split hit
  obtain ⟨start, rest, rfl, rfl, shown⟩ := List.filterMap_eq_append_iff.mp split
  obtain ⟨skipped, item, tail, rfl, blank, mapped, rfl⟩ := List.filterMap_eq_cons_iff.mp shown
  obtain ⟨prior, member, found⟩ := holds (start ++ skipped) item tail (by simp)
    (by simp [mapped, hit])
  cases viewed : view prior with
  | none => simp [viewed] at found
  | some seen =>
      rcases List.mem_append.mp member with inside | outside
      · exact ⟨seen, List.mem_filterMap.mpr ⟨prior, inside, viewed⟩, by simpa [viewed] using found⟩
      · rw [blank prior outside] at viewed
        cases viewed

end Precedes

end OnlyTwo
