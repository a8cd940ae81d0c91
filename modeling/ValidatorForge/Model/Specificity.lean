import ValidatorForge.Model.Universe

/-!
# Most specific first

A chain of class checks stops at the first match, so a subtype has to be tested before its
supertypes.  Subtyping is a partial order: each type is inserted right before the first one that it
inherits from, or at the end.
-/

namespace ValidatorForge

/-- Inserts an item right before the first one that satisfies `p`, or at the end. -/
def insertBefore {α : Type} (p : α → Bool) (x : α) : List α → List α
  | [] => [x]
  | y :: rest => if p y then x :: y :: rest else y :: insertBefore p x rest

/-- The items in an order in which subtypes precede their supertypes; `name` gives the type of an
item. -/
def TypeUniverse.orderBySpecificity {α : Type} (u : TypeUniverse) (name : α → TypeName)
    (items : List α) : List α :=
  items.foldl
    (fun placed x => insertBefore (fun y => u.isProperSubtype (name x) (name y)) x placed) []

end ValidatorForge
