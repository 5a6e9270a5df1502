import Boilerplate.Proofs.Data.Outcome
import Boilerplate.Proofs.Path.Pattern
import Boilerplate.Proofs.Template.Typing

/-! # Sources of paths

A source of texts and of outputs in kebab case has a pattern, and is rendered to texts that fill it.
-/

namespace Boilerplate.Template

open Text (IsSlug)

def patternOf? : List Node → Option Pattern
  | [] => some []
  | .text s :: rest => (patternOf? rest).map (s.toList.map some ++ ·)
  | .output e :: rest =>
    if e.filters = [.kebab] then (patternOf? rest).map (none :: ·) else none
  | .conditional _ _ :: _ => none
  | .loop _ _ _ _ :: _ => none

def sourcePattern? (source : List Char) : Option Pattern :=
  match parseNodes source with
  | .ok nodes => patternOf? nodes
  | .error _ => none

variable {scope : Scope} {p : Pattern} {s : String}

theorem isSlug_of_evalExpression {e : Expression} (hFilters : e.filters = [.kebab])
    (h : evalExpression scope e = .ok s) : IsSlug s.toList := by
  rw [evalExpression] at h
  cases hValue : scope.lookup? e.subject with
  | none =>
    rw [hValue] at h
    cases h
    exact fun c hc => by cases hc
  | some v =>
    rw [hValue, hFilters] at h
    cases v with
    | list items => cases h
    | _ =>
      cases h
      rw [String.toList_ofList]
      exact Text.isSlug_kebabCase _

theorem fills_append_fixed {t : List Char} (front : List Char) (h : Pattern.Fills p t) :
    Pattern.Fills (front.map some ++ p) (front ++ t) := by
  induction front with
  | nil => exact h
  | cons c rest ih => exact .fixed c ih

theorem evalNodes_cons_ok {n : Node} {rest : List Node} (h : evalNodes scope (n :: rest) = .ok s) :
    ∃ a b, evalNode scope n = .ok a ∧ evalNodes scope rest = .ok b ∧ s = a ++ b := by
  rw [evalNodes] at h
  obtain ⟨a, hFirst, h⟩ := bind_eq_ok.mp h
  obtain ⟨b, hRest, h⟩ := bind_eq_ok.mp h
  cases h
  exact ⟨a, b, hFirst, hRest, rfl⟩

theorem fills_of_evalNodes {nodes : List Node} (hPattern : patternOf? nodes = some p)
    (h : evalNodes scope nodes = .ok s) : Pattern.Fills p s.toList := by
  induction nodes generalizing p s with
  | nil =>
    rw [evalNodes] at h
    cases hPattern
    cases h
    exact .nil
  | cons n rest ih =>
    obtain ⟨a, b, hFirst, hRest, rfl⟩ := evalNodes_cons_ok h
    rw [String.toList_append]
    cases n with
    | text t =>
      obtain ⟨q, hq, rfl⟩ := Option.map_eq_some_iff.mp hPattern
      rw [evalNode] at hFirst
      cases hFirst
      exact fills_append_fixed _ (ih hq hRest)
    | output e =>
      rw [patternOf?, Option.ite_none_right_eq_some] at hPattern
      obtain ⟨hFilters, hPattern⟩ := hPattern
      obtain ⟨q, hq, rfl⟩ := Option.map_eq_some_iff.mp hPattern
      rw [evalNode] at hFirst
      exact .gap (isSlug_of_evalExpression hFilters hFirst) (ih hq hRest)
    | conditional => cases hPattern
    | loop => cases hPattern

/-- What a source of a path is rendered to fills its pattern. -/
theorem fills_of_renderSource {name source : String} {config : Config}
    (hPattern : sourcePattern? source.toList = some p) (hTight : p.isTight = true)
    (h : renderSource name source config = .ok s) : p.Fills s.toList := by
  rw [sourcePattern?] at hPattern
  cases hNodes : parseNodes source.toList with
  | error e =>
    rw [hNodes] at hPattern
    cases hPattern
  | ok nodes =>
    rw [hNodes] at hPattern
    rw [renderSource_of_parseNodes hNodes, render, rendered_eq] at h
    cases hEval : evalNodes ⟨config, []⟩ nodes with
    | error e =>
      rw [hEval] at h
      cases h
    | ok t =>
      rw [hEval] at h
      cases h
      have hFills := fills_of_evalNodes hPattern hEval
      rw [Text.trimmed, String.toList_ofList, hFills.trim_eq_self hTight]
      exact hFills

end Boilerplate.Template
