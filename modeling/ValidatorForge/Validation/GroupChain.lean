import ValidatorForge.Validation.ClassHandle

/-!
# Group chains

The groups and group sequences of a validator.  A request for groups is expanded to the list that a
validation walks: a sequence stands for its members, and a plain group brings its parents along.
-/

namespace ValidatorForge.Validation

/-- Registered groups with their parents, and sequences with their members. -/
structure GroupChain where
  groupEntries : List (ClassHandle × List ClassHandle) := []
  sequenceEntries : List (ClassHandle × List ClassHandle) := []
deriving Repr, Inhabited

namespace GroupChain

/-- Registers a plain group. -/
def addGroup (g : GroupChain) (group : ClassHandle) (parents : List ClassHandle) : GroupChain :=
  { g with groupEntries := g.groupEntries ++ [(group, parents)] }

/-- Registers a sequence. -/
def addSequence (g : GroupChain) (sequence : ClassHandle) (members : List ClassHandle) :
    GroupChain :=
  { g with sequenceEntries := g.sequenceEntries ++ [(sequence, members)] }

/-- The plain groups, in the order of registration. -/
def groups (g : GroupChain) : List ClassHandle := g.groupEntries.map (·.1)

/-- The sequences, in the order of registration. -/
def sequences (g : GroupChain) : List ClassHandle := g.sequenceEntries.map (·.1)

def isSequence (g : GroupChain) (c : ClassHandle) : Bool := g.sequenceEntries.any (·.1 == c)

/-- The members of the first sequence of that name. -/
def members? (g : GroupChain) (c : ClassHandle) : Option (List ClassHandle) :=
  (g.sequenceEntries.find? (·.1 == c)).map (·.2)

/-- The parents of the first plain group of that name. -/
def parents? (g : GroupChain) (c : ClassHandle) : Option (List ClassHandle) :=
  (g.groupEntries.find? (·.1 == c)).map (·.2)

/-- What one requested class stands for. -/
def standsFor (g : GroupChain) (c : ClassHandle) : List ClassHandle :=
  match g.members? c with
  | some members => members
  | none => c :: (g.parents? c).getD []

/-- Appends a class unless one of its name is there. -/
def pushUnique (out : List ClassHandle) (c : ClassHandle) : List ClassHandle :=
  if out.any (· == c) then out else out ++ [c]

theorem any_beq_iff {out : List ClassHandle} {c : ClassHandle} :
    out.any (· == c) = true ↔ c.name ∈ out.map (·.name) := by
  simp only [List.any_eq_true, ClassHandle.beq_iff, List.mem_map]

theorem pushUnique_of_mem {out : List ClassHandle} {c : ClassHandle}
    (h : c.name ∈ out.map (·.name)) : pushUnique out c = out :=
  if_pos (any_beq_iff.2 h)

theorem pushUnique_of_not_mem {out : List ClassHandle} {c : ClassHandle}
    (h : c.name ∉ out.map (·.name)) : pushUnique out c = out ++ [c] :=
  if_neg fun hfound => h (any_beq_iff.1 hfound)

/-- The groups that a request stands for, each at its first place. -/
def expand (g : GroupChain) (requested : List ClassHandle) : List ClassHandle :=
  (requested.flatMap g.standsFor).foldl pushUnique []

end GroupChain

end ValidatorForge.Validation
