import Boilerplate.Proofs.Json.Symbols

/-! # Documents as texts

A document whose numbers are integers is read back from its compact text. The text is followed on
both of its levels: the row of symbols that it spells, and the reading that the row drives.
-/

namespace Boilerplate.Json

/-- A document that has a value throughout and no doubles in it. -/
inductive IsExact : Json → Prop
  | null : IsExact .null
  | boolean (b : Bool) : IsExact (.boolean b)
  | integer (n : Int) (inRange : WordRange n) : IsExact (.number (.integer n inRange))
  | text (s : String) : IsExact (.text s)
  | array {items : List Json} (h : ∀ v ∈ items, IsExact v) : IsExact (.array items)
  | object {members : List (String × Json)} (h : ∀ p ∈ members, IsExact p.2) :
    IsExact (.object members)

mutual

/-- The symbols that the text of a document spells. A double has the symbols of no document. -/
def symbols : Json → List Symbol
  | .null => [.null]
  | .boolean b => [.boolean b]
  | .number (.integer n _) => [.number (integerText n)]
  | .number (.float _) => []
  | .text s => [.text (some s)]
  | .array [] => [.openArray, .closeArray]
  | .array (v :: items) => .openArray :: (v.symbols ++ itemSymbols items)
  | .object [] => [.openObject, .closeObject]
  | .object ((k, v) :: members) =>
    .openObject :: .text (some k) :: .colon :: (v.symbols ++ memberSymbols members)
  | .unreadable => []

def itemSymbols : List Json → List Symbol
  | [] => [.closeArray]
  | v :: items => .comma :: (v.symbols ++ itemSymbols items)

def memberSymbols : List (String × Json) → List Symbol
  | [] => [.closeObject]
  | (k, v) :: members =>
    .comma :: .text (some k) :: .colon :: (v.symbols ++ memberSymbols members)

end

section Spelling

theorem isPastInteger_nil : IsPastInteger [] := by
  intro c hc
  cases hc

theorem isPastInteger_writeItems (items : List Json) (rest : List Char) :
    IsPastInteger (writeItems items rest) := by
  cases items <;> simp [writeItems, IsPastInteger] <;> decide

theorem isPastInteger_writeMembers (members : List (String × Json)) (rest : List Char) :
    IsPastInteger (writeMembers members rest) := by
  cases members <;> simp [writeMembers, IsPastInteger] <;> decide

/-- What is written in front of a text that does not go on with it adds these symbols. -/
def Spells (write : List Char → List Char) (row : List Symbol) : Prop :=
  ∀ rest, IsPastInteger rest → symbols? (write rest) = (symbols? rest).map (row ++ ·)

theorem symbols?_writeItems {items : List Json} (h : ∀ v ∈ items, Spells (writeValue v) v.symbols)
    (rest : List Char) :
    symbols? (writeItems items rest) = (symbols? rest).map (itemSymbols items ++ ·) := by
  induction items with
  | nil => simp [writeItems, itemSymbols]
  | cons v items ih =>
    rw [List.forall_mem_cons] at h
    rw [writeItems, symbols?_comma, h.1 _ (isPastInteger_writeItems items rest), ih h.2]
    simp [itemSymbols, Function.comp_def]

theorem symbols?_writeMembers {members : List (String × Json)}
    (h : ∀ p ∈ members, Spells (writeValue p.2) p.2.symbols) (rest : List Char) :
    symbols? (writeMembers members rest) = (symbols? rest).map (memberSymbols members ++ ·) := by
  induction members with
  | nil => simp [writeMembers, memberSymbols]
  | cons p members ih =>
    obtain ⟨k, v⟩ := p
    rw [List.forall_mem_cons] at h
    rw [writeMembers, symbols?_comma, symbols?_writeText, symbols?_colon,
      h.1 _ (isPastInteger_writeMembers members rest), ih h.2]
    simp [memberSymbols, Function.comp_def]

/-- The compact text of a document spells its symbols. -/
theorem IsExact.spells {j : Json} (h : j.IsExact) : Spells (writeValue j) j.symbols := by
  induction h with
  | null => exact fun rest _ => symbols?_null rest
  | boolean b => exact fun rest _ => symbols?_boolean rest b
  | integer n inRange => exact fun rest hRest => symbols?_toString hRest n
  | text s => exact fun rest _ => symbols?_writeText rest s
  | @array items _ ih =>
    intro rest _
    cases items with
    | nil => simp [writeValue, symbols, Function.comp_def]
    | cons v items =>
      rw [List.forall_mem_cons] at ih
      rw [writeValue, symbols?_openArray, ih.1 _ (isPastInteger_writeItems items rest),
        symbols?_writeItems ih.2]
      simp [symbols, Function.comp_def]
  | @object members _ ih =>
    intro rest _
    cases members with
    | nil => simp [writeValue, symbols, Function.comp_def]
    | cons p members =>
      obtain ⟨k, v⟩ := p
      rw [List.forall_mem_cons] at ih
      rw [writeValue, symbols?_openObject, symbols?_writeText, symbols?_colon,
        ih.1 _ (isPastInteger_writeMembers members rest), symbols?_writeMembers ih.2]
      simp [symbols, Function.comp_def]

end Spelling

section Reading

open Reading

theorem run_append (r : Reading) (a b : List Symbol) :
    r.run (a ++ b) = (r.run a).bind (·.run b) := by
  induction a generalizing r with
  | nil => rfl
  | cons symbol rest ih =>
    rw [List.cons_append, run, run, Option.bind_assoc]
    congr 1
    funext r'
    exact ih r'

/-- Wherever a value may come next, the row of symbols is read as the document. -/
def IsReadAs (row : List Symbol) (j : Json) : Prop :=
  ∀ containers expecting, expecting = .value ∨ expecting = .valueOrClose →
    run ⟨expecting, containers, none⟩ row = some (addValue containers j)

variable {expecting : Expecting} {containers : List Container} {symbol : Symbol}

theorem step_of_value_expected (hExpecting : expecting = .value ∨ expecting = .valueOrClose)
    (hSymbol : symbol ≠ .closeArray) :
    step ⟨expecting, containers, none⟩ symbol = openValue containers symbol := by
  rcases hExpecting with rfl | rfl
  · rfl
  · exact if_neg hSymbol

theorem isReadAs_scalar {j : Json} (h : scalar? symbol = some j) : IsReadAs [symbol] j := by
  intro containers expecting hExpecting
  have hClose : symbol ≠ .closeArray := by
    rintro rfl
    cases h
  have hOpen : openValue containers symbol = some (addValue containers j) := by
    unfold openValue
    split
    · cases h
    · cases h
    · rw [h, Option.map_some]
  rw [run, step_of_value_expected hExpecting hClose, hOpen]
  rfl

/-- The items that follow are added to those before, and the array is closed. -/
theorem run_itemSymbols {items : List Json} (h : ∀ v ∈ items, IsReadAs v.symbols v)
    (before : List Json) (outer : List Container) :
    run ⟨.separator, .array before :: outer, none⟩ (itemSymbols items) =
      some (addValue outer (.array (before.reverse ++ items))) := by
  induction items generalizing before with
  | nil => simp [itemSymbols, run, step, close]
  | cons v items ih =>
    rw [List.forall_mem_cons] at h
    have hNext := h.1 (.array before :: outer) .value (.inl rfl)
    have hRest := ih h.2 (v :: before)
    rw [List.reverse_cons, List.append_assoc] at hRest
    rw [itemSymbols, run, step]
    simp only [if_true, Option.bind_some, run_append, hNext]
    exact hRest

/-- An object without lone surrogates in its keys keeps its members. -/
theorem closeObject_of_texts (members : List (String × Json)) :
    closeObject (members.map fun p => (some p.1, p.2)).reverse = .object members := by
  have hKeys : (members.map fun p => (some p.1, p.2)).mapM
      (fun p : Option String × Json => p.1.map fun k => (k, p.2)) = some members :=
    mapM_map_eq_some fun _ _ => rfl
  rw [closeObject, List.reverse_reverse, hKeys]

/-- A key and the colon after it lead to a value. -/
theorem run_key (hExpecting : expecting = .key ∨ expecting = .keyOrClose)
    {before : List (Option String × Json)} {outer : List Container} {key : Option String}
    {row : List Symbol} :
    run ⟨expecting, .object before none :: outer, none⟩ (.text key :: .colon :: row) =
      run ⟨.value, .object before key :: outer, none⟩ row := by
  rcases hExpecting with rfl | rfl <;> rfl

theorem run_memberSymbols {members : List (String × Json)}
    (h : ∀ p ∈ members, IsReadAs p.2.symbols p.2) (before : List (Option String × Json))
    (outer : List Container) :
    run ⟨.separator, .object before none :: outer, none⟩ (memberSymbols members) =
      some (addValue outer
        (closeObject ((members.map fun p => (some p.1, p.2)).reverse ++ before))) := by
  induction members generalizing before with
  | nil => simp [memberSymbols, run, step, close]
  | cons p members ih =>
    obtain ⟨k, v⟩ := p
    rw [List.forall_mem_cons] at h
    have hNext := h.1 (.object before (some k) :: outer) .value (.inl rfl)
    have hRest := ih h.2 ((some k, v) :: before)
    rw [memberSymbols, run, step]
    simp only [if_true, Option.bind_some, run_key (.inl rfl), run_append, hNext]
    rw [List.map_cons, List.reverse_cons, List.append_assoc]
    exact hRest

/-- The row of symbols of a document is read as that document. -/
theorem IsExact.isReadAs {j : Json} (h : j.IsExact) : IsReadAs j.symbols j := by
  induction h with
  | null => exact isReadAs_scalar rfl
  | boolean b => exact isReadAs_scalar rfl
  | integer n inRange =>
    apply isReadAs_scalar
    rw [scalar?, number?_integerText inRange]
  | text s => exact isReadAs_scalar rfl
  | @array items _ ih =>
    intro containers expecting hExpecting
    have hOpen : step ⟨expecting, containers, none⟩ .openArray =
        some ⟨.valueOrClose, .array [] :: containers, none⟩ :=
      step_of_value_expected hExpecting (by decide)
    cases items with
    | nil =>
      rw [symbols, run, hOpen]
      rfl
    | cons v items =>
      rw [List.forall_mem_cons] at ih
      rw [symbols, run, hOpen, Option.bind_some, run_append,
        ih.1 (.array [] :: containers) .valueOrClose (.inr rfl)]
      exact run_itemSymbols ih.2 [v] containers
  | @object members _ ih =>
    intro containers expecting hExpecting
    have hOpen : step ⟨expecting, containers, none⟩ .openObject =
        some ⟨.keyOrClose, .object [] none :: containers, none⟩ :=
      step_of_value_expected hExpecting (by decide)
    cases members with
    | nil =>
      rw [symbols, run, hOpen]
      rfl
    | cons p members =>
      obtain ⟨k, v⟩ := p
      rw [List.forall_mem_cons] at ih
      have hFirst := ih.1 (.object [] (some k) :: containers) .value (.inl rfl)
      have hRest := run_memberSymbols ih.2 [(some k, v)] containers
      have hDocument := closeObject_of_texts ((k, v) :: members)
      rw [List.map_cons, List.reverse_cons] at hDocument
      rw [hDocument] at hRest
      rw [symbols, run, hOpen, Option.bind_some, run_key (.inr rfl), run_append, hFirst]
      exact hRest

end Reading

/-- A document without doubles is read back from its compact text. -/
theorem parse?_compact {j : Json} (h : j.IsExact) : parse? (compact j).toList = some j := by
  have hSymbols := h.spells [] isPastInteger_nil
  rw [symbols?_nil, Option.map_some, List.append_nil] at hSymbols
  rw [compact, String.toList_ofList, parse?, hSymbols, Option.bind_some, ofSymbols?, Reading.start,
    h.isReadAs [] .value (.inl rfl)]
  rfl

end Boilerplate.Json
