import Boilerplate.Definition.Basic

/-!
# Categories

A category groups definitions; a listing shows a category with the summaries of its definitions.
-/

namespace Boilerplate

structure Category where
  id : String
  name : String
  description : String
  icon : String
  order : UInt32
  deriving DecidableEq, Repr

structure CategoryListing where
  category : Category
  templates : List Summary
  deriving DecidableEq

end Boilerplate
