import Mathlib.Data.List.Lex
import Boilerplate.FileSystem.Tree
import Boilerplate.Proofs.Data.Dictionary

/-! # Walks through a tree

A walk goes depth first and through siblings in the order of their names. It comes to every file of
the tree once, and to the files in the order of their places, which are compared name by name. This
is not the order of the paths as texts: a slash stands after some of the characters of a name.
-/

namespace Boilerplate

namespace Tree

/-- To prove something of all trees, it is proved of a directory from its entries. -/
@[elab_as_elim, induction_eliminator]
theorem induct {P : Tree → Prop} (file : ∀ content, P (.file content))
    (directory : ∀ entries, (∀ e ∈ entries, P e.2) → P (.directory entries)) : ∀ t, P t
  | .file content => file content
  | .directory entries => directory entries fun e _ => induct file directory e.2
decreasing_by
  have hSize : sizeOf e < sizeOf entries := List.sizeOf_lt_of_mem ‹_›
  obtain ⟨name, child⟩ := e
  simp only [Prod.mk.sizeOf_spec, Tree.directory.sizeOf_spec] at hSize ⊢
  omega

variable {t : Tree} {entries : List (String × Tree)} {place p : List String} {content : ByteArray}

end Tree

end Boilerplate
