import Boilerplate.Proofs.Definition.Validity
import Boilerplate.Proofs.Template.Concatenation
import Boilerplate.Proofs.Template.Scanning

/-! # Names of fields in templates

The name of a valid field is one word of a tag. A template that prints the field, or tests it, can
be parsed unless that word is reserved; nothing in a valid definition keeps a field from having a
reserved name.
-/

namespace Boilerplate.Template

open Text

/-- An identifier is one word as far as no name character follows it. -/
theorem lexemes_identifier {name rest : List Char} (hName : isIdentifier name = true)
    (hRest : ∀ d ∈ rest.head?, isNameChar d = false) (offset : Nat) :
    lexemes offset (name ++ rest) =
      prepend (.name (String.ofList name)) offset (lexemes (offset + byteLength name) rest) :=
  lexemes_spelled (.of_isIdentifier hName) hRest offset

section Tags

variable {name body s : List Char} {kind : TagKind}

/-- A name with a blank on either side. -/
def spaced (name : List Char) : List Char :=
  ' ' :: (name ++ [' '])

theorem not_mem_spaced (hName : isIdentifier name = true) : '%' ∉ spaced name := by
  have hMem : '%' ∉ name := fun hMem => absurd (isIdentifierChar_of_mem hName _ hMem) (by decide)
  simpa [spaced] using hMem

/-- A tag without a percent sign in it is cut off whole. -/
theorem startsTag_of_not_mem (hBody : '%' ∉ body) (hBlank : [' '] <+: body) (s : List Char) :
    StartsTag kind body s := by
  obtain ⟨rest, rfl⟩ := hBlank
  refine ⟨?_, ?_, ?_⟩
  · cases kind <;> simp [StartsEscape, Piece.source, TagKind.marker, List.cons_prefix_cons]
  · intro hClose
    have hMem : '%' ∈ kind.marker ++ ([' '] ++ rest) := hClose.mem List.mem_cons_self
    cases kind <;> simp_all [TagKind.marker]
  · simp [List.cons_prefix_cons]

/-- A name ends in front of a blank. -/
theorem not_isNameChar_of_blank (rest : List Char) :
    ∀ d ∈ (' ' :: rest).head?, isNameChar d = false := by
  intro d hd
  cases hd
  decide

theorem lexemes_spaced (hName : isIdentifier name = true) (offset : Nat) :
    ∃ start, lexemes offset (spaced name) = .ok [⟨.name (String.ofList name), start⟩] := by
  have hBlank : isBlank ' ' = true := by decide
  refine ⟨offset + ' '.utf8Size, ?_⟩
  rw [spaced, lexemes_blank hBlank, lexemes_identifier hName (not_isNameChar_of_blank []),
    lexemes_blank hBlank, lexemes.eq_1]
  rfl

theorem lexemes_keyword {keyword : List Char} (hKeyword : isIdentifier keyword = true)
    (hName : isIdentifier name = true) (offset : Nat) :
    ∃ first start, lexemes offset (' ' :: (keyword ++ spaced name)) =
      .ok [⟨.name (String.ofList keyword), first⟩, ⟨.name (String.ofList name), start⟩] := by
  have hBlank : isBlank ' ' = true := by decide
  have hStop : ∀ d ∈ (spaced name).head?, isNameChar d = false := not_isNameChar_of_blank _
  obtain ⟨start, hWord⟩ := lexemes_spaced hName (offset + ' '.utf8Size + byteLength keyword)
  refine ⟨offset + ' '.utf8Size, start, ?_⟩
  rw [lexemes_blank hBlank, lexemes_identifier hKeyword hStop, hWord]
  rfl

theorem checkName_of_reserved {word : String} (h : word ∈ reservedWords) (offset : Nat) :
    checkName word offset = .error ⟨offset, .reservedWord word⟩ := by
  rw [checkName, if_pos h]

theorem checkName_of_not_reserved {word : String} (h : word ∉ reservedWords)
    (hWord : isIdentifier word.toList = true) (offset : Nat) : checkName word offset = .ok () := by
  rw [checkName, if_neg h, if_pos hWord]

theorem parseExpression_spaced (lineOf : Nat → Nat) (hName : isIdentifier name = true)
    (base : Nat) :
    ∃ start, parseExpression lineOf base (spaced name) =
      (checkName (String.ofList name) start).map
        fun _ => ⟨String.ofList name, [], lineOf base⟩ := by
  obtain ⟨start, hWords⟩ := lexemes_spaced hName base
  refine ⟨start, ?_⟩
  rw [parseExpression, hWords]
  show (checkName (String.ofList name) start >>= _) = _
  cases checkName (String.ofList name) start <;> rfl

/-- A test of a name. The word `not` is no name here, but leaves a condition without one. -/
theorem parseStatement_test (lineOf : Nat → Nat) (hName : isIdentifier name = true)
    (base : Nat) :
    ∃ first start, parseStatement lineOf base (' ' :: (['i', 'f'] ++ spaced name)) =
      if String.ofList name = "not" then .error ⟨first, .expectedCondition⟩
      else (checkName (String.ofList name) start).map fun _ =>
        .opensConditional ⟨false, String.ofList name, .truthy, lineOf first⟩ := by
  have hIf : isIdentifier ['i', 'f'] = true := by decide
  obtain ⟨first, start, hWords⟩ := lexemes_keyword hIf hName base
  refine ⟨first, start, ?_⟩
  rw [parseStatement, hWords]
  show (condition (lineOf first) first [⟨.name (String.ofList name), start⟩]).map _ = _
  rw [condition, splitNot]
  by_cases hNot : String.ofList name = "not"
  · rw [if_pos (congrArg Word.name hNot), if_pos hNot]
    rfl
  · rw [if_neg (fun h => hNot (Word.name.inj h)), if_neg hNot]
    show (checkName (String.ofList name) start >>= _).map _ = _
    cases checkName (String.ofList name) start <;> rfl

end Tags

section Sources

variable {name : String}

def printingSource (name : String) : String :=
  "<%= " ++ name ++ " %>"

def testingSource (name : String) : String :=
  "<% if " ++ name ++ " %>yes<% endif %>"

theorem toList_printingSource (name : String) :
    (printingSource name).toList = (Piece.tag .output (spaced name.toList)).source ++ [] := by
  simp [printingSource, Piece.source, TagKind.marker, spaced, String.toList_append]

theorem isIdentifier_endif : isIdentifier ['e', 'n', 'd', 'i', 'f'] = true := by
  decide

/-- A statement, a text and the end of a conditional. -/
def conditionalSource (body : List Char) : List Char :=
  (Piece.tag .statement body).source ++ (['y', 'e', 's'] ++
    ((Piece.tag .statement (spaced ['e', 'n', 'd', 'i', 'f'])).source ++ []))

theorem toList_testingSource (name : String) : (testingSource name).toList =
    conditionalSource (' ' :: (['i', 'f'] ++ spaced name.toList)) := by
  simp [testingSource, conditionalSource, Piece.source, TagKind.marker, spaced,
    String.toList_append]

theorem tokenize_printingSource (hName : isIdentifier name.toList = true) :
    ∃ opened, tokenize (printingSource name).toList =
      .ok [.output opened (spaced name.toList)] := by
  have hTag : StartsTag .output (spaced name.toList) [] :=
    startsTag_of_not_mem (not_mem_spaced hName) ⟨_, rfl⟩ []
  obtain ⟨tokens, hTokens, hParts⟩ := exists_tokens_of_cut (.tag hTag .nil)
  have hParts : tokens.map Token.part = [.output (spaced name.toList)] := hParts
  obtain ⟨t, rfl, hPart⟩ := List.map_eq_singleton_iff.mp hParts
  cases t with
  | output opened body =>
    obtain rfl := Part.output.inj hPart
    exact ⟨opened, toList_printingSource name ▸ hTokens⟩
  | text | statement => cases hPart

section Conditionals

variable {body : List Char} {c : Condition}

theorem tokenize_conditional (hBody : '%' ∉ body) (hBlank : [' '] <+: body) :
    ∃ opened closed, tokenize (conditionalSource body) =
      .ok [.statement opened body, .text ['y', 'e', 's'],
        .statement closed (spaced ['e', 'n', 'd', 'i', 'f'])] := by
  have hClose : StartsTag .statement (spaced ['e', 'n', 'd', 'i', 'f']) [] :=
    startsTag_of_not_mem (not_mem_spaced isIdentifier_endif) ⟨_, rfl⟩ []
  have hOpen : StartsTag .statement body (['y', 'e', 's'] ++
      ((Piece.tag .statement (spaced ['e', 'n', 'd', 'i', 'f'])).source ++ [])) :=
    startsTag_of_not_mem hBody hBlank _
  have hCut := Cut.tag hOpen <|
    .ordinary (c := 'y') (by decide) (by decide) <|
    .ordinary (c := 'e') (by decide) (by decide) <|
    .ordinary (c := 's') (by decide) (by decide) <| .tag hClose .nil
  obtain ⟨tokens, hTokens, hParts⟩ := exists_tokens_of_cut hCut
  have hParts : tokens.map Token.part =
    [.statement body, .text ['y', 'e', 's'],
      .statement (spaced ['e', 'n', 'd', 'i', 'f'])] := hParts
  match tokens, hParts with
  | [.statement opened _, .text _, .statement closed _], rfl => exact ⟨opened, closed, hTokens⟩

theorem parseNodes_conditional (hBody : '%' ∉ body) (hBlank : [' '] <+: body)
    (hParse : ∀ lineOf base, ∃ line, parseStatement lineOf base body =
      .ok (.opensConditional { c with line := line })) :
    ∃ line, parseNodes (conditionalSource body) =
      .ok [.conditional [({ c with line := line }, [.text "yes"])] []] := by
  obtain ⟨opened, closed, hTokens⟩ := tokenize_conditional hBody hBlank
  generalize hLines : lineIn (conditionalSource body) = lineOf
  obtain ⟨line, hOpen⟩ := hParse lineOf (opened + 2)
  obtain ⟨last, hWords⟩ := lexemes_spaced isIdentifier_endif (closed + 2)
  have hEnd : parseStatement lineOf (closed + 2) (spaced ['e', 'n', 'd', 'i', 'f']) =
      .ok .closesConditional := by
    rw [parseStatement, hWords]
    rfl
  refine ⟨line, ?_⟩
  rw [parseNodes, hTokens, hLines]
  exact nodesOfTokens_eq_ok_iff.mpr
    (Builder.addTokens_step (map_eq_ok.mpr ⟨_, hOpen, rfl⟩) .opensConditional
    (Builder.addTokens_step rfl .text
    (Builder.addTokens_step (map_eq_ok.mpr ⟨_, hEnd, rfl⟩) .closesBranch rfl)))

theorem parseNodes_conditional_of_refused (hBody : '%' ∉ body) (hBlank : [' '] <+: body)
    (hRefused : ∀ lineOf base s, parseStatement lineOf base body ≠ .ok s) (nodes : List Node) :
    parseNodes (conditionalSource body) ≠ .ok nodes := by
  obtain ⟨opened, closed, hTokens⟩ := tokenize_conditional hBody hBlank
  generalize hLines : lineIn (conditionalSource body) = lineOf
  intro hNodes
  rw [parseNodes, hTokens, hLines] at hNodes
  obtain ⟨x, mid, hSays, -, -⟩ :=
    Builder.addTokens_cons_eq_ok_iff.mp (nodesOfTokens_eq_ok_iff.mp hNodes)
  obtain ⟨s, hStatement, -⟩ := map_eq_ok.mp hSays
  exact hRefused _ _ s hStatement

end Conditionals

theorem not_mem_testing (hName : isIdentifier name.toList = true) :
    '%' ∉ ' ' :: (['i', 'f'] ++ spaced name.toList) := by
  simpa using not_mem_spaced hName

theorem parseNodes_printingSource (hName : isIdentifier name.toList = true)
    (hFree : name ∉ reservedWords) :
    ∃ line, parseNodes (printingSource name).toList = .ok [.output ⟨name, [], line⟩] := by
  obtain ⟨opened, hTokens⟩ := tokenize_printingSource hName
  generalize hLines : lineIn (printingSource name).toList = lineOf
  obtain ⟨start, hBody⟩ := parseExpression_spaced lineOf hName (opened + 3)
  rw [String.ofList_toList, checkName_of_not_reserved hFree hName] at hBody
  refine ⟨lineOf (opened + 3), ?_⟩
  rw [parseNodes, hTokens, hLines]
  exact nodesOfTokens_eq_ok_iff.mpr
    (Builder.addTokens_step (map_eq_ok.mpr ⟨_, hBody, rfl⟩) .output rfl)

theorem parseNodes_testingSource (hName : isIdentifier name.toList = true)
    (hFree : name ∉ reservedWords) :
    ∃ line, parseNodes (testingSource name).toList =
      .ok [.conditional [(⟨false, name, .truthy, line⟩, [.text "yes"])] []] := by
  have hNot : name ≠ "not" := fun h => hFree (h ▸ by decide)
  rw [toList_testingSource]
  refine parseNodes_conditional (c := ⟨false, name, .truthy, 0⟩) (not_mem_testing hName)
    ⟨_, rfl⟩ ?_
  intro lineOf base
  obtain ⟨first, start, hBody⟩ := parseStatement_test lineOf hName base
  rw [String.ofList_toList, if_neg hNot, checkName_of_not_reserved hFree hName] at hBody
  exact ⟨lineOf first, hBody⟩

theorem parseNodes_printingSource_of_reserved (hName : isIdentifier name.toList = true)
    (hReserved : name ∈ reservedWords) (nodes : List Node) :
    parseNodes (printingSource name).toList ≠ .ok nodes := by
  obtain ⟨opened, hTokens⟩ := tokenize_printingSource hName
  generalize hLines : lineIn (printingSource name).toList = lineOf
  obtain ⟨start, hBody⟩ := parseExpression_spaced lineOf hName (opened + 3)
  rw [String.ofList_toList, checkName_of_reserved hReserved] at hBody
  intro hNodes
  rw [parseNodes, hTokens, hLines] at hNodes
  obtain ⟨x, mid, hSays, -, -⟩ :=
    Builder.addTokens_cons_eq_ok_iff.mp (nodesOfTokens_eq_ok_iff.mp hNodes)
  rw [Token.terminal, hBody] at hSays
  cases hSays

theorem parseNodes_testingSource_of_reserved (hName : isIdentifier name.toList = true)
    (hReserved : name ∈ reservedWords) (nodes : List Node) :
    parseNodes (testingSource name).toList ≠ .ok nodes := by
  rw [toList_testingSource]
  refine parseNodes_conditional_of_refused (not_mem_testing hName) ⟨_, rfl⟩ ?_ nodes
  intro lineOf base s hStatement
  obtain ⟨first, start, hBody⟩ := parseStatement_test lineOf hName base
  rw [String.ofList_toList, checkName_of_reserved hReserved, hStatement] at hBody
  split at hBody <;> cases hBody

theorem parse_of_no_nodes {source : String} (hNone : ∀ nodes, parseNodes source.toList ≠ .ok nodes)
    (template : String) : ∃ position reason,
      parse template source = .error (.templateSyntax template position reason) := by
  rw [parse]
  cases hNodes : parseNodes source.toList with
  | ok nodes => exact absurd hNodes (hNone nodes)
  | error e => exact ⟨_, _, rfl⟩

variable {config : Config} {v : Value}

theorem evalNodes_output {line : Nat} {s : String} (hValue : config.get? name = some v)
    (hScalar : v.scalarText? = some s) :
    evalNodes ⟨config, []⟩ [.output ⟨name, [], line⟩] = .ok s := by
  have hExpression : evalExpression ⟨config, []⟩ ⟨name, [], line⟩ = .ok s := by
    rw [evalExpression, Scope.lookup?]
    simp only [List.find?_nil, hValue]
    rw [bind_eq_ok]
    exact ⟨v, rfl, by simp only [hScalar]⟩
  rw [evalNodes, evalNode, hExpression, evalNodes]
  show Except.ok (s ++ "") = _
  rw [String.append_empty]

theorem evalNodes_conditional {c : Condition} {holds : Bool}
    (hCondition : evalCondition ⟨config, []⟩ c = .ok holds) :
    evalNodes ⟨config, []⟩ [.conditional [(c, [.text "yes"])] []] =
      .ok (if holds then "yes" else "") := by
  rw [evalNodes, evalNode, evalBranches, hCondition]
  cases holds <;> rfl

theorem evalNodes_test {line : Nat} (hValue : config.get? name = some v) :
    evalNodes ⟨config, []⟩ [.conditional [(⟨false, name, .truthy, line⟩, [.text "yes"])] []] =
      .ok (if v.isTruthy then "yes" else "") := by
  apply evalNodes_conditional
  rw [evalCondition, Scope.lookup?]
  simp only [List.find?_nil, hValue, evalTest]
  cases v.isTruthy <;> rfl

end Sources

/-- A field of a valid definition can be printed and tested, unless its name is reserved: then
neither of the two templates can be parsed. -/
theorem field_renders_unless_reserved {d : Definition} {f : Field} {config : Config} {v : Value}
    {s : String} (hValid : d.validate = .ok ()) (hf : f ∈ d.fields)
    (hValue : config.get? f.name = some v) (hScalar : v.scalarText? = some s) (template : String) :
    (f.name ∉ reservedWords →
      renderSource template (printingSource f.name) config = .ok (trimmed s) ∧
      renderSource template (testingSource f.name) config =
        .ok (if v.isTruthy then "yes" else "")) ∧
    (f.name ∈ reservedWords →
      (∃ position reason, renderSource template (printingSource f.name) config =
        .error (.templateSyntax template position reason)) ∧
      ∃ position reason, renderSource template (testingSource f.name) config =
        .error (.templateSyntax template position reason)) := by
  have hName : isIdentifier f.name.toList = true :=
    f.isIdentifier_of_findFault ((Definition.fields_of_validate hValid).2 f hf)
  constructor
  · intro hFree
    obtain ⟨_, hPrinting⟩ := parseNodes_printingSource hName hFree
    obtain ⟨_, hTesting⟩ := parseNodes_testingSource hName hFree
    constructor
    · rw [renderSource_of_parseNodes hPrinting, render_eq_ok_iff]
      exact ⟨s, evalNodes_output hValue hScalar, rfl⟩
    · rw [renderSource_of_parseNodes hTesting, render_eq_ok_iff]
      refine ⟨_, evalNodes_test hValue, ?_⟩
      cases v.isTruthy <;> decide
  · intro hReserved
    obtain ⟨p, r, hPrinting⟩ :=
      parse_of_no_nodes (parseNodes_printingSource_of_reserved hName hReserved) template
    obtain ⟨q, u, hTesting⟩ :=
      parse_of_no_nodes (parseNodes_testingSource_of_reserved hName hReserved) template
    rw [renderSource, hPrinting, renderSource, hTesting]
    exact ⟨⟨p, r, rfl⟩, q, u, rfl⟩

/-- `notes` starts like a reserved word, and its value is trimmed when it is printed. -/
theorem field_renders_unless_reserved_notes :
    let notes : Field := ⟨"notes", "Notes", .text, false, none, "", []⟩
    let d : Definition := ⟨"app", "App", "", "cicd", "1.0.0", [⟨"f", "f", "", "text"⟩], [notes], ∅⟩
    let config : Config := .ofList [("notes", .text " a ")]
    d.validate = .ok () ∧ notes ∈ d.fields ∧ config.get? notes.name = some (.text " a ") ∧
      (Value.text " a ").scalarText? = some " a " ∧ notes.name ∉ reservedWords ∧
      renderSource "t" "<%= notes %>" config = .ok "a" ∧
      renderSource "t" "<% if notes %>yes<% endif %>" config = .ok "yes" := by
  intro notes d config
  have hValid : d.validate = .ok () := by decide +kernel
  have hField : notes ∈ d.fields := List.mem_cons_self
  have hValue : config.get? notes.name = some (.text " a ") := by decide +kernel
  have hFree : notes.name ∉ reservedWords := by decide
  obtain ⟨hRenders, -⟩ := field_renders_unless_reserved hValid hField hValue rfl "t"
  obtain ⟨hPrinted, hTested⟩ := hRenders hFree
  exact ⟨hValid, hField, hValue, rfl, hFree, hPrinted, hTested⟩

/-- A valid definition may have a field that none of its templates can print. -/
theorem reserved_field_not_printed :
    let field : Field := ⟨"in", "In", .text, true, none, "", []⟩
    let d : Definition :=
      ⟨"app", "App", "", "cicd", "1.0.0", [⟨"f", "f", "<%= in %>", "text"⟩], [field], ∅⟩
    let config : Config := .ofList [("in", .text "x")]
    d.validate = .ok () ∧ field ∈ d.fields ∧ config.get? field.name = some (.text "x") ∧
      renderSource "t" (printingSource field.name) config =
        .error (.templateSyntax "t" ⟨1, 5⟩ "'in' is a reserved word") := by
  intro field d config
  refine ⟨?_, List.mem_cons_self, ?_, ?_⟩
  · decide +kernel
  · decide +kernel
  · decide +kernel

end Boilerplate.Template
