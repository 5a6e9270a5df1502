import Boilerplate.CommandLine.Values
import Boilerplate.Proofs.Data.Outcome
import Boilerplate.Proofs.Data.Spans

/-! # Assignments

An assignment gives a key the value that its text stands for, or spoils the run. After a run of
assignments each key has the value of the last one that names it.
-/

namespace Boilerplate.CommandLine

/-- The key and the text of an assignment: all behind the first equals sign, and what stands in
front of it, without the blanks around it. -/
inductive IsAssignment : String → String → String → Prop
  | intro {front raw : List Char} : '=' ∉ front → Text.trim front ≠ [] →
      IsAssignment (String.ofList (front ++ '=' :: raw)) (String.ofList (Text.trim front))
        (String.ofList raw)

variable {d : Definition} {a key raw : String} {v w : Value} {e : Failure}
  {config result : Config} {assignments : List String}

theorem parseAssignment_of_isAssignment (h : IsAssignment a key raw) :
    parseAssignment a = .ok (key, raw) := by
  obtain @⟨front, raw, hFront, hKey⟩ := h
  have hPass : ∀ c ∈ front, (c != '=') = true := by
    intro c hc
    rw [bne_iff_ne]
    rintro rfl
    exact hFront hc
  have hStop : ∀ c ∈ ('=' :: raw).head?, (c != '=') = false := by simp
  simp only [parseAssignment, String.toList_ofList, takeWhile_append_of_stop hPass hStop,
    dropWhile_append_of_stop hPass hStop]
  exact if_neg (by simpa using hKey)

theorem isAssignment_or_malformed (a : String) : (∃ key raw, IsAssignment a key raw) ∨
    parseAssignment a = .error (.invalidInput s!"expected KEY=VALUE, got '{a}'" none) := by
  have hSplit := List.takeWhile_append_dropWhile (p := (· != '=')) (l := a.toList)
  have hFront : '=' ∉ a.toList.takeWhile (· != '=') := fun hMem => by
    simpa using List.all_eq_true.mp List.all_takeWhile _ hMem
  rw [parseAssignment]
  cases hRest : a.toList.dropWhile (· != '=') with
  | nil => exact .inr rfl
  | cons c raw =>
    obtain rfl : c = '=' := by
      have hStop : ∀ c ∈ (a.toList.dropWhile (· != '=')).head?, (c != '=') = false :=
        eq_false_of_head?_dropWhile
      simpa [hRest] using hStop c
    by_cases hKey : Text.trim (a.toList.takeWhile (· != '=')) = []
    · exact .inr (if_pos (by simpa using hKey))
    · have hAssignment : IsAssignment _ _ (String.ofList raw) := .intro hFront hKey
      rw [← hRest, hSplit, String.ofList_toList] at hAssignment
      exact .inl ⟨_, _, hAssignment⟩

theorem parseAssignment_eq_ok_iff :
    parseAssignment a = .ok (key, raw) ↔ IsAssignment a key raw := by
  constructor
  · intro h
    obtain ⟨other, text, hAssignment⟩ | hMalformed := isAssignment_or_malformed a
    · rw [parseAssignment_of_isAssignment hAssignment] at h
      cases h
      exact hAssignment
    · rw [h] at hMalformed
      cases hMalformed
  · exact parseAssignment_of_isAssignment

theorem IsAssignment.unique {other text : String} (h : IsAssignment a key raw)
    (hOther : IsAssignment a other text) : key = other ∧ raw = text := by
  have hSame := parseAssignment_of_isAssignment h
  rw [parseAssignment_of_isAssignment hOther] at hSame
  cases hSame
  exact ⟨rfl, rfl⟩

inductive Assigns (d : Definition) (a : String) : String → Value → Prop
  | intro {key raw : String} {v : Value} : IsAssignment a key raw →
      coerce key raw ((d.field? key).map (·.kind)) = .ok v → Assigns d a key v

theorem assigns_iff (h : Assigns d a key v) {other : String} :
    Assigns d a other w ↔ key = other ∧ v = w := by
  obtain ⟨hAssignment, hValue⟩ := h
  constructor
  · rintro ⟨hOther, hResult⟩
    obtain ⟨rfl, rfl⟩ := hAssignment.unique hOther
    rw [hValue] at hResult
    exact ⟨rfl, Except.ok.inj hResult⟩
  · rintro ⟨rfl, rfl⟩
    exact .intro hAssignment hValue

theorem Assigns.unnamed_iff (h : Assigns d a key v) {other : String} :
    (∀ raw, ¬ IsAssignment a other raw) ↔ key ≠ other := by
  obtain ⟨hAssignment, -⟩ := h
  constructor
  · rintro hNone rfl
    exact hNone _ hAssignment
  · intro hDiffer raw hOther
    exact hDiffer (hAssignment.unique hOther).1

/-- The assignment cannot be used, for this reason. -/
inductive Spoils (d : Definition) (a : String) : Failure → Prop
  | malformed : (∀ key raw, ¬ IsAssignment a key raw) →
      Spoils d a (.invalidInput s!"expected KEY=VALUE, got '{a}'" none)
  | uncoercible {key raw : String} {e : Failure} : IsAssignment a key raw →
      coerce key raw ((d.field? key).map (·.kind)) = .error e → Spoils d a e

theorem assign_of_isAssignment (h : IsAssignment a key raw) (config : Config) :
    assign d config a =
      (coerce key raw ((d.field? key).map (·.kind))).map (config.insert key) := by
  rw [assign, parseAssignment_of_isAssignment h]
  rfl

theorem assign_eq_ok_iff : assign d config a = .ok result ↔
    ∃ key v, Assigns d a key v ∧ result = config.insert key v := by
  constructor
  · intro h
    obtain ⟨key, raw, hAssignment⟩ | hMalformed := isAssignment_or_malformed a
    · rw [assign_of_isAssignment hAssignment, map_eq_ok] at h
      obtain ⟨v, hValue, rfl⟩ := h
      exact ⟨key, v, .intro hAssignment hValue, rfl⟩
    · rw [assign, hMalformed] at h
      cases h
  · rintro ⟨key, v, ⟨hAssignment, hValue⟩, rfl⟩
    rw [assign_of_isAssignment hAssignment]
    exact map_eq_ok.mpr ⟨v, hValue, rfl⟩

theorem assign_eq_error_iff : assign d config a = .error e ↔ Spoils d a e := by
  constructor
  · intro h
    obtain ⟨key, raw, hAssignment⟩ | hMalformed := isAssignment_or_malformed a
    · rw [assign_of_isAssignment hAssignment, map_eq_error] at h
      exact .uncoercible hAssignment h
    · rw [assign, hMalformed] at h
      cases h
      refine .malformed fun key raw hAssignment => ?_
      rw [parseAssignment_of_isAssignment hAssignment] at hMalformed
      cases hMalformed
  · intro h
    cases h with
    | malformed hNone =>
      have hMalformed := (isAssignment_or_malformed a).resolve_left fun ⟨key, raw, hAssignment⟩ =>
        hNone key raw hAssignment
      rw [assign, hMalformed]
      rfl
    | uncoercible hAssignment hValue =>
      rw [assign_of_isAssignment hAssignment]
      exact map_eq_error.mpr hValue

def Unassigned (assignments : List String) (key : String) : Prop :=
  ∀ a ∈ assignments, ∀ raw, ¬ IsAssignment a key raw

/-- The last assignment to the key gives it this value. -/
inductive LastAssigns (d : Definition) (assignments : List String) (key : String) : Value → Prop
  | intro {front back : List String} {a : String} {v : Value} : assignments = front ++ a :: back →
      Assigns d a key v → Unassigned back key → LastAssigns d assignments key v

theorem lastAssigns_cons_iff : LastAssigns d (a :: assignments) key v ↔
    LastAssigns d assignments key v ∨ Unassigned assignments key ∧ Assigns d a key v := by
  constructor
  · rintro ⟨hSplit, hAssigns, hBack⟩
    obtain ⟨rfl, hCons⟩ | ⟨front, rfl, hCons⟩ := List.cons_eq_append_iff.mp hSplit
    · cases hCons
      exact .inr ⟨hBack, hAssigns⟩
    · exact .inl (.intro hCons hAssigns hBack)
  · rintro (⟨rfl, hAssigns, hBack⟩ | ⟨hBack, hAssigns⟩)
    · exact .intro (List.cons_append.symm) hAssigns hBack
    · exact .intro (List.nil_append _).symm hAssigns hBack

/-- All assignments done, a key has the value that the last one to it gave, or the one from
before. -/
theorem get?_assignAll (h : assignments.foldlM (assign d) config = .ok result) (key : String)
    (v : Value) : result.get? key = some v ↔ LastAssigns d assignments key v ∨
      Unassigned assignments key ∧ config.get? key = some v := by
  induction assignments generalizing config with
  | nil =>
    cases h
    have hNone : ¬ LastAssigns d [] key v := fun ⟨hSplit, _, _⟩ => by simp at hSplit
    simp [hNone, Unassigned]
  | cons a rest ih =>
    rw [List.foldlM_cons, bind_eq_ok] at h
    obtain ⟨next, hFirst, hRest⟩ := h
    obtain ⟨name, w, hAssigns, rfl⟩ := assign_eq_ok_iff.mp hFirst
    -- The first assignment counts where no later one names the key.
    have hFirst : Assigns d a key v ↔ name = key ∧ w = v := assigns_iff hAssigns
    have hNames : (∀ raw, ¬ IsAssignment a key raw) ↔ name ≠ key := hAssigns.unnamed_iff
    rw [ih hRest, lastAssigns_cons_iff, Dictionary.get?_insert, Unassigned, Unassigned,
      List.forall_mem_cons]
    by_cases hName : name = key
    · simp [hFirst, hNames, hName]
    · simp [hFirst, hNames, hName]

theorem exists_assignAll_iff : (∃ result, assignments.foldlM (assign d) config = .ok result) ↔
    ∀ a ∈ assignments, ∃ key v, Assigns d a key v := by
  induction assignments generalizing config with
  | nil => exact ⟨fun _ => List.forall_mem_nil _, fun _ => ⟨config, rfl⟩⟩
  | cons a rest ih =>
    simp only [List.foldlM_cons, bind_eq_ok, List.forall_mem_cons]
    constructor
    · rintro ⟨result, next, hFirst, hRest⟩
      obtain ⟨key, v, hAssigns, -⟩ := assign_eq_ok_iff.mp hFirst
      exact ⟨⟨key, v, hAssigns⟩, ih.mp ⟨result, hRest⟩⟩
    · rintro ⟨⟨key, v, hAssigns⟩, hRest⟩
      obtain ⟨result, hResult⟩ := ih.mpr hRest
      exact ⟨result, _, assign_eq_ok_iff.mpr ⟨key, v, hAssigns, rfl⟩, hResult⟩

theorem assignAll_eq_error_iff : assignments.foldlM (assign d) config = .error e ↔
    ∃ front a back, assignments = front ++ a :: back ∧
      (∀ b ∈ front, ∃ key v, Assigns d b key v) ∧ Spoils d a e := by
  constructor
  · intro h
    induction assignments generalizing config with
    | nil => cases h
    | cons a rest ih =>
      rw [List.foldlM_cons, bind_eq_error] at h
      obtain hFirst | ⟨next, hFirst, hRest⟩ := h
      · exact ⟨[], a, rest, rfl, List.forall_mem_nil _, assign_eq_error_iff.mp hFirst⟩
      · obtain ⟨key, v, hAssigns, -⟩ := assign_eq_ok_iff.mp hFirst
        obtain ⟨front, b, back, rfl, hFront, hSpoils⟩ := ih hRest
        exact ⟨a :: front, b, back, rfl, List.forall_mem_cons.mpr ⟨⟨key, v, hAssigns⟩, hFront⟩,
          hSpoils⟩
  · rintro ⟨front, a, back, rfl, hFront, hSpoils⟩
    have hRun : ∃ next, front.foldlM (assign d) config = .ok next :=
      exists_assignAll_iff.mpr hFront
    obtain ⟨next, hNext⟩ := hRun
    rw [List.foldlM_append, bind_eq_error]
    refine .inr ⟨next, hNext, ?_⟩
    rw [List.foldlM_cons, bind_eq_error]
    exact .inl (assign_eq_error_iff.mpr hSpoils)

end Boilerplate.CommandLine
