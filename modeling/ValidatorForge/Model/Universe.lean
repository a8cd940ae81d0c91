import ValidatorForge.Data.OrderedMap
import ValidatorForge.Model.ClassDecl

/-!
# The universe of declared types

A `TypeUniverse` holds the host's declarations in order of registration.  Its structural queries are
total on any set of declarations: hierarchies may loop, and supertypes may be undeclared.  Each
search ends because every declared type is visited once, counted by `unvisited`.
-/

namespace ValidatorForge

/-- Declarations by name. -/
structure TypeUniverse where
  classes : OrderedMap TypeName ClassDecl
  named : ∀ e ∈ classes.entries, e.2.name = e.1

namespace TypeUniverse

/-! ## Registration -/

def empty : TypeUniverse := ⟨.empty, by simp [OrderedMap.empty]⟩

instance : Inhabited TypeUniverse := ⟨empty⟩

/-- Registers a declaration, or replaces the one of its name. -/
def insert (u : TypeUniverse) (d : ClassDecl) : TypeUniverse :=
  ⟨u.classes.insert d.name d, OrderedMap.forall_mem_put rfl u.named⟩

/-- Registers declarations from left to right. -/
def insertAll (u : TypeUniverse) (ds : List ClassDecl) : TypeUniverse := ds.foldl insert u

/-- The types that every host has: the root class, strings, the collection interfaces with their
type parameters, maps, and the default validation group. -/
def platform : TypeUniverse :=
  let object := TypeRef.named ⟨"java.lang.Object"⟩
  empty.insertAll
    [.ofClass ⟨"java.lang.Object"⟩,
     (ClassDecl.ofClass ⟨"java.lang.String"⟩).withSuperclass ⟨"java.lang.Object"⟩,
     (ClassDecl.ofInterface ⟨"java.lang.Iterable"⟩).withTypeParam "T" object,
     ((ClassDecl.ofInterface ⟨"java.util.Collection"⟩).withTypeParam "E" object).withInterface
       ⟨"java.lang.Iterable"⟩,
     ((ClassDecl.ofInterface ⟨"java.util.List"⟩).withTypeParam "E" object).withInterface
       ⟨"java.util.Collection"⟩,
     ((ClassDecl.ofInterface ⟨"java.util.Set"⟩).withTypeParam "E" object).withInterface
       ⟨"java.util.Collection"⟩,
     ((ClassDecl.ofInterface ⟨"java.util.Map"⟩).withTypeParam "K" object).withTypeParam "V" object,
     .ofInterface ⟨"javax.validation.groups.Default"⟩]

/-- The declared names, in order of registration. -/
def names (u : TypeUniverse) : List TypeName := u.classes.keys

def size (u : TypeUniverse) : Nat := u.classes.size

def isEmpty (u : TypeUniverse) : Bool := u.classes.isEmpty

/-- The declaration of `name`. -/
def find? (u : TypeUniverse) (name : TypeName) : Option ClassDecl := u.classes.get? name

/-- A declaration is found under its own name. -/
theorem name_of_find? {u : TypeUniverse} {name : TypeName} {d : ClassDecl}
    (h : u.find? name = some d) : d.name = name :=
  u.named (name, d) (OrderedMap.mem_entries_of_get? h)

theorem mem_names_of_find? {u : TypeUniverse} {name : TypeName} {d : ClassDecl}
    (h : u.find? name = some d) : name ∈ u.names :=
  OrderedMap.mem_keys_of_get? h

/-! ## Counting what a search has left -/

/-- How many declared types are not among `seen`. -/
def unvisited (u : TypeUniverse) (seen : List TypeName) : Nat :=
  (u.names.filter fun n => n ∉ seen).length

theorem unvisited_cons_le (u : TypeUniverse) (seen : List TypeName) (name : TypeName) :
    u.unvisited (name :: seen) ≤ u.unvisited seen := by
  unfold unvisited
  rw [← List.countP_eq_length_filter, ← List.countP_eq_length_filter]
  apply List.countP_mono_left
  intro n _ hn
  simp_all

theorem unvisited_cons_lt {u : TypeUniverse} {seen : List TypeName} {name : TypeName}
    (hmem : name ∈ u.names) (hseen : name ∉ seen) :
    u.unvisited (name :: seen) < u.unvisited seen := by
  unfold unvisited
  generalize u.names = ns at hmem
  induction ns with
  | nil => simp at hmem
  | cons n rest ih =>
    have hle : (rest.filter fun n => n ∉ name :: seen).length ≤
        (rest.filter fun n => n ∉ seen).length := by
      rw [← List.countP_eq_length_filter, ← List.countP_eq_length_filter]
      apply List.countP_mono_left
      intro m _ hm
      simp_all
    by_cases hn : n = name
    · subst hn
      simp only [List.filter_cons, List.mem_cons, true_or, not_true, decide_false, hseen,
        not_false_iff, decide_true, if_true, List.length_cons]
      simp only [List.mem_cons] at hle
      exact Nat.lt_succ_of_le hle
    · have hrest := ih (by simpa [Ne.symm hn] using hmem)
      by_cases hs : n ∈ seen <;> simp_all

/-- Only membership among the seen names counts. -/
theorem unvisited_congr (u : TypeUniverse) {seen seen' : List TypeName}
    (h : ∀ n, n ∈ seen ↔ n ∈ seen') : u.unvisited seen = u.unvisited seen' := by
  unfold unvisited
  congr 1
  exact List.filter_congr fun n _ => by simp [h n]

/-! ## Supertypes -/

/-- The direct supertypes of `name`; none if it is undeclared. -/
def directSupertypes (u : TypeUniverse) (name : TypeName) : List TypeName :=
  match u.find? name with
  | some d => d.supertypes
  | none => []

/-- Visits the pending names and all their supertypes. -/
def visitFrom (u : TypeUniverse) (seen : List TypeName) : List TypeName → List TypeName
  | [] => seen
  | name :: pending =>
    if _hseen : name ∈ seen then u.visitFrom seen pending
    else
      match _hfind : u.find? name with
      | some d => u.visitFrom (name :: seen) (d.supertypes ++ pending)
      | none => u.visitFrom (name :: seen) pending
termination_by pending => (u.unvisited seen, pending.length)
decreasing_by
  · exact Prod.Lex.right _ (Nat.lt_succ_self _)
  · exact Prod.Lex.left _ _ (unvisited_cons_lt (mem_names_of_find? _hfind) _hseen)
  · rcases Nat.lt_or_eq_of_le (u.unvisited_cons_le seen name) with hlt | heq
    · exact Prod.Lex.left _ _ hlt
    · rw [heq]
      exact Prod.Lex.right _ (Nat.lt_succ_self _)

/-- `name` and everything that it inherits from, through superclasses and interfaces. -/
def ancestry (u : TypeUniverse) (name : TypeName) : List TypeName := u.visitFrom [] [name]

/-- Whether `sub` is `sup` or inherits from it. -/
def isSubtype (u : TypeUniverse) (sub sup : TypeName) : Bool := (u.ancestry sub).contains sup

/-- Whether `sub` inherits from `sup` and is not `sup` itself. -/
def isProperSubtype (u : TypeUniverse) (sub sup : TypeName) : Bool :=
  sub != sup && u.isSubtype sub sup

/-! ## Superclasses -/

/-- The superclass chain from `name` on, ended by a class that was `seen`. -/
def chainFrom (u : TypeUniverse) (seen : List TypeName) (name : TypeName) : List ClassDecl :=
  match _hfind : u.find? name with
  | none => []
  | some d =>
    if _hseen : d.name ∈ seen then []
    else
      match d.superclass with
      | none => [d]
      | some parent => d :: u.chainFrom (d.name :: seen) parent
termination_by u.unvisited seen
decreasing_by
  have hname := name_of_find? _hfind
  exact unvisited_cons_lt (hname ▸ mem_names_of_find? _hfind) _hseen

/-- The declaration of `name`, then those of its superclasses.  The chain ends at an undeclared
superclass, or before a repeat. -/
def superclassChain (u : TypeUniverse) (name : TypeName) : List ClassDecl := u.chainFrom [] name

/-! ## Containers -/

/-- Whether a cascade unwraps the declared type to its element type: arrays, and subtypes of one of
the `roots`. -/
def isContainer (u : TypeUniverse) (roots : List TypeName) (ty : TypeRef) : Bool :=
  ty.isArray ||
    match ty.erasure with
    | some name => roots.any fun root => u.isSubtype name root
    | none => false

end TypeUniverse

end ValidatorForge
