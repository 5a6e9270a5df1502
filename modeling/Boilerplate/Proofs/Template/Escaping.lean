import Boilerplate.Proofs.Template.Concatenation

/-! # Texts written literally

Every text can be written in a source: with its `<%` and `%>` escaped it is one token, and it
renders to itself. A text without `<%` and `%%>` needs no escapes.
-/

namespace Boilerplate.Template

open Text

/-- The text with `<%` and `%>` escaped from left to right. -/
def escaped : List Char → List Char
  | '<' :: '%' :: rest => '<' :: '%' :: '%' :: escaped rest
  | '%' :: '>' :: rest => '%' :: '%' :: '>' :: escaped rest
  | c :: rest => c :: escaped rest
  | [] => []

section Tokens

variable {c : Char} {s t : List Char}

theorem head?_escaped (t : List Char) : (escaped t).head? = t.head? := by
  fun_cases escaped t <;> rfl

theorem exists_cons_of_prefix_escaped {l : List Char} (h : c :: l <+: escaped t) :
    ∃ more, t = c :: more := by
  obtain ⟨rest, hRest⟩ := h
  rw [← List.head?_eq_some_iff, ← head?_escaped, ← hRest]
  rfl

/-- No `%>` is formed where a character is copied in front of an escape. -/
theorem not_close_prefix_escaped (t : List Char) : ¬ ['%', '>'] <+: escaped t := by
  fun_cases escaped t with
  | case1 rest => simp
  | case2 rest => simp
  | case3 c rest _ hClose =>
    rw [List.cons_prefix_cons]
    rintro ⟨rfl, hFront⟩
    obtain ⟨more, rfl⟩ := exists_cons_of_prefix_escaped hFront
    exact hClose more rfl rfl
  | case4 => simp

theorem not_open_prefix_escaped (hOpen : ∀ more, c = '<' → t = '%' :: more → False) :
    ¬ ['<', '%'] <+: c :: escaped t := by
  rw [List.cons_prefix_cons]
  rintro ⟨rfl, hFront⟩
  obtain ⟨more, rfl⟩ := exists_cons_of_prefix_escaped hFront
  exact hOpen more rfl rfl

theorem tokenizeFrom_escaped (before collected t : List Char) :
    tokenizeFrom before collected (escaped t) = .ok (flushText (t.reverse ++ collected)) := by
  fun_induction escaped t generalizing before collected with
  | case1 rest ih =>
    rw [tokenizeFrom.eq_2, ih]
    simp
  | case2 rest ih =>
    rw [tokenizeFrom.eq_3, ih]
    simp
  | case3 c rest hOpen hClose ih =>
    have hTag : ¬ ['<', '%'] <+: c :: escaped rest := not_open_prefix_escaped hOpen
    have hEscape : ¬ ['%', '%', '>'] <+: c :: escaped rest := by
      rw [List.cons_prefix_cons]
      exact fun h => not_close_prefix_escaped rest h.2
    rw [tokenizeFrom_char (not_startsEscape hTag hEscape) hTag, ih]
    simp
  | case4 => rw [tokenizeFrom.eq_1]; rfl

theorem tokenizeFrom_plain (hOpen : ¬ ['<', '%'] <:+: s) (hClose : ¬ ['%', '%', '>'] <:+: s)
    (before collected : List Char) :
    tokenizeFrom before collected s = .ok (flushText (s.reverse ++ collected)) := by
  induction s generalizing before collected with
  | nil => rw [tokenizeFrom.eq_1]; rfl
  | cons c rest ih =>
    rw [List.infix_cons_iff, not_or] at hOpen hClose
    rw [tokenizeFrom_char (not_startsEscape hOpen.1 hClose.1) hOpen.1, ih hOpen.2 hClose.2]
    simp

end Tokens

section Sources

variable {source t : String}

theorem flushText_toList_reverse (t : String) :
    flushText t.toList.reverse = if t = "" then [] else [.text t.toList] := by
  rw [flushText, List.isEmpty_reverse, List.reverse_reverse]
  split
  next hEmpty => rw [if_pos (String.toList_eq_nil_iff.mp (List.isEmpty_iff.mp hEmpty))]
  next hSome => rw [if_neg (fun h => hSome (List.isEmpty_iff.mpr (String.toList_eq_nil_iff.mpr h)))]

theorem evalNodes_text (scope : Scope) (t : String) : evalNodes scope [.text t] = .ok t := by
  rw [evalNodes, evalNode, evalNodes]
  show Except.ok (t ++ "") = _
  rw [String.append_empty]

/-- A source without tags, and with `t` as its text, renders to `t`. -/
theorem renderSource_of_tokenize
    (h : tokenize source.toList = .ok (if t = "" then [] else [.text t.toList])) (name : String)
    (config : Config) : renderSource name source config = .ok (trimmed t) := by
  by_cases hEmpty : t = ""
  · rw [if_pos hEmpty] at h
    have hNodes : parseNodes source.toList = .ok [] := by
      rw [parseNodes, h]
      rfl
    rw [renderSource_of_parseNodes hNodes, render_eq_ok_iff]
    exact ⟨"", rfl, by rw [hEmpty]⟩
  · rw [if_neg hEmpty] at h
    have hNodes : parseNodes source.toList = .ok [.text (String.ofList t.toList)] := by
      rw [parseNodes, h]
      rfl
    rw [String.ofList_toList] at hNodes
    rw [renderSource_of_parseNodes hNodes, render_eq_ok_iff]
    exact ⟨t, evalNodes_text _ t, rfl⟩

end Sources

/-- The escaped form of a text has the text as its only token, and renders to it. So does the text
itself, if neither a tag nor an escape can start in it. -/
theorem escaped_renders_literally (t : String) :
    (tokenize (escaped t.toList) = .ok (if t = "" then [] else [.text t.toList]) ∧
      ∀ name config, renderSource name (String.ofList (escaped t.toList)) config =
        .ok (trimmed t)) ∧
    (¬ ['<', '%'] <:+: t.toList → ¬ ['%', '%', '>'] <:+: t.toList →
      tokenize t.toList = .ok (if t = "" then [] else [.text t.toList]) ∧
        ∀ name config, renderSource name t config = .ok (trimmed t)) := by
  constructor
  · have hTokens : tokenize (escaped t.toList) = .ok (if t = "" then [] else [.text t.toList]) := by
      rw [tokenize, tokenizeFrom_escaped, List.append_nil, flushText_toList_reverse]
    refine ⟨hTokens, fun name config => renderSource_of_tokenize ?_ name config⟩
    rw [String.toList_ofList, hTokens]
  · intro hOpen hClose
    have hTokens : tokenize t.toList = .ok (if t = "" then [] else [.text t.toList]) := by
      rw [tokenize, tokenizeFrom_plain hOpen hClose, List.append_nil, flushText_toList_reverse]
    exact ⟨hTokens, renderSource_of_tokenize hTokens⟩

/-- Escapes overlap in the first text; the second has a `%>`, which needs no escape. -/
theorem escaped_renders_literally_overlap :
    let t := "<%>%%><%%>"
    let plain := " 5%> <x\n"
    escaped t.toList = "<%%>%%%><%%%%>".toList ∧
      renderSource "t" "<%%>%%%><%%%%>" ∅ = .ok t ∧
      ¬ ['<', '%'] <:+: plain.toList ∧ ¬ ['%', '%', '>'] <:+: plain.toList ∧
      renderSource "t" plain ∅ = .ok "5%> <x" := by
  intro t plain
  have hEscaped : escaped t.toList = "<%%>%%%><%%%%>".toList := by decide +kernel
  have hTrimmed : trimmed t = t := by decide +kernel
  have hPlainTrimmed : trimmed plain = "5%> <x" := by decide +kernel
  have hOpen : ¬ ['<', '%'] <:+: plain.toList := by decide +kernel
  have hClose : ¬ ['%', '%', '>'] <:+: plain.toList := by decide +kernel
  obtain ⟨⟨-, hRenders⟩, -⟩ := escaped_renders_literally t
  obtain ⟨-, hPlain⟩ := (escaped_renders_literally plain).2 hOpen hClose
  have hRenders := hRenders "t" ∅
  rw [hEscaped, String.ofList_toList, hTrimmed] at hRenders
  have hPlain := hPlain "t" ∅
  rw [hPlainTrimmed] at hPlain
  exact ⟨hEscaped, hRenders, hOpen, hClose, hPlain⟩

end Boilerplate.Template
