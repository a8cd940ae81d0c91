import ValidatorForge.Discovery.ResolvedType

/-!
# What associations name

An association names the element type of a declared type.  `Unwraps` says what unwrapping a declared
type leaves, form by form; every type unwraps to one type (`exists_unwraps`).  An association names
that type, unless the declared type is itself a primitive behind its variables
(`elementType_of_unwraps`).

So only a declared primitive goes unnamed.  A primitive that a type holds, as the component of an
array, as the last type argument, or as the bound of a raw type's last parameter, is named like any
other type (`holdsPrimitive_iff`).
-/

namespace ValidatorForge

/-! ## Unwrapping -/

namespace TypeRef

/-- The type at the end of a chain of variables. -/
def behindVariables : TypeRef → TypeRef
  | .bounded _ bound => bound.behindVariables
  | ty => ty

/-- The type names a class or interface without type arguments. -/
inductive IsRaw : TypeRef → TypeName → Prop
  | named (raw : TypeName) : IsRaw (.named raw) raw
  | applied (raw : TypeName) : IsRaw (.applied raw []) raw

end TypeRef

namespace TypeUniverse

/-- What unwrapping a declared type leaves. -/
inductive Unwraps (u : TypeUniverse) : TypeRef → TypeRef → Prop
  | primitive (name : String) : Unwraps u (.primitive name) (.primitive name)
  | array (component : TypeRef) : Unwraps u (.array component) component
  | argument {raw : TypeName} {args : List TypeRef} {last : TypeRef}
      (hlast : args.getLast? = some last) : Unwraps u (.applied raw args) last
  /-- Without arguments, the last type parameter counts by its bound. -/
  | parameter {ty : TypeRef} {raw : TypeName} {d : ClassDecl} {param : TypeParam}
      (hraw : ty.IsRaw raw) (hdecl : u.find? raw = some d)
      (hparam : d.typeParams.getLast? = some param) : Unwraps u ty param.bound
  /-- A type without parameters, or without a declaration, is its own element. -/
  | plain {ty : TypeRef} {raw : TypeName} (hraw : ty.IsRaw raw)
      (hplain : ∀ d, u.find? raw = some d → d.typeParams = []) : Unwraps u ty ty
  | bound {name : String} {bound ty : TypeRef} (h : Unwraps u bound ty) :
      Unwraps u (.bounded name bound) ty

/-- A primitive is the component of an array, the last type argument, or the bound of the last
parameter of a raw type, possibly behind variables. -/
inductive HoldsPrimitive (u : TypeUniverse) : TypeRef → Prop
  | array (name : String) : HoldsPrimitive u (.array (.primitive name))
  | argument {raw : TypeName} {args : List TypeRef} {name : String}
      (hlast : args.getLast? = some (.primitive name)) : HoldsPrimitive u (.applied raw args)
  | parameter {ty : TypeRef} {raw : TypeName} {d : ClassDecl} {param : TypeParam} {name : String}
      (hraw : ty.IsRaw raw) (hdecl : u.find? raw = some d)
      (hparam : d.typeParams.getLast? = some param) (hbound : param.bound = .primitive name) :
      HoldsPrimitive u ty
  | bound {name : String} {bound : TypeRef} (h : HoldsPrimitive u bound) :
      HoldsPrimitive u (.bounded name bound)

variable {u : TypeUniverse} {ty e : TypeRef} {raw : TypeName}

theorem rawElement_of_parameter {d : ClassDecl} {param : TypeParam} (hdecl : u.find? raw = some d)
    (hparam : d.typeParams.getLast? = some param) : u.rawElement raw ty = param.bound := by
  rw [rawElement, hdecl, Option.bind_some, hparam]

theorem rawElement_of_plain (hplain : ∀ d, u.find? raw = some d → d.typeParams = []) :
    u.rawElement raw ty = ty := by
  unfold rawElement
  cases hdecl : u.find? raw with
  | none => rfl
  | some d => rw [Option.bind_some, hplain d hdecl]; rfl

theorem unwraps_rawElement (hraw : ty.IsRaw raw) : u.Unwraps ty (u.rawElement raw ty) := by
  by_cases hparam : ∃ d param, u.find? raw = some d ∧ d.typeParams.getLast? = some param
  · obtain ⟨d, param, hdecl, hparam⟩ := hparam
    rw [rawElement_of_parameter hdecl hparam]
    exact .parameter hraw hdecl hparam
  · have hplain : ∀ d, u.find? raw = some d → d.typeParams = [] := by
      intro d hdecl
      refine List.getLast?_eq_none_iff.1 (Option.eq_none_iff_forall_ne_some.2 ?_)
      exact fun param hlast => hparam ⟨d, param, hdecl, hlast⟩
    rw [rawElement_of_plain hplain]
    exact .plain hraw hplain

/-- The element type of a raw type comes from its declaration. -/
theorem elementType_of_isRaw (hraw : ty.IsRaw raw) :
    u.elementType ty = some (u.rawElement raw ty) ∧ ty.behindVariables.isPrimitive = false := by
  cases hraw with
  | named => exact ⟨rfl, rfl⟩
  | applied => exact ⟨rfl, rfl⟩

/-- Every type unwraps to some type. -/
theorem exists_unwraps (u : TypeUniverse) (ty : TypeRef) : ∃ e, u.Unwraps ty e := by
  fun_induction elementType u ty with
  | case1 name => exact ⟨_, .primitive name⟩
  | case2 component => exact ⟨_, .array component⟩
  | case3 raw args last hlast => exact ⟨_, .argument hlast⟩
  | case4 raw args hlast =>
    obtain rfl := List.getLast?_eq_none_iff.1 hlast
    exact ⟨_, unwraps_rawElement (.applied raw)⟩
  | case5 name => exact ⟨_, unwraps_rawElement (.named name)⟩
  | case6 name bound ih =>
    obtain ⟨e, he⟩ := ih
    exact ⟨e, .bound he⟩

/-- The element type is what a type unwraps to.  Only a primitive behind variables has none. -/
theorem elementType_of_unwraps (h : u.Unwraps ty e) :
    u.elementType ty = if ty.behindVariables.isPrimitive then none else some e := by
  induction h with
  | primitive name => rfl
  | array component => rfl
  | argument hlast => rw [elementType, hlast]; rfl
  | parameter hraw hdecl hparam =>
    obtain ⟨helement, hnot⟩ := elementType_of_isRaw (u := u) hraw
    rw [helement, hnot, rawElement_of_parameter hdecl hparam]
    rfl
  | plain hraw hplain =>
    obtain ⟨helement, hnot⟩ := elementType_of_isRaw (u := u) hraw
    rw [helement, hnot, rawElement_of_plain hplain]
    rfl
  | bound _ ih => exact ih

theorem elementType_eq_none_iff :
    u.elementType ty = none ↔ ty.behindVariables.isPrimitive = true := by
  obtain ⟨e, he⟩ := u.exists_unwraps ty
  rw [elementType_of_unwraps he]
  cases ty.behindVariables.isPrimitive <;> simp

theorem elementType_eq_some_iff :
    u.elementType ty = some e ↔ u.Unwraps ty e ∧ ty.behindVariables.isPrimitive = false := by
  constructor
  · intro h
    obtain ⟨e', he'⟩ := u.exists_unwraps ty
    have helement := elementType_of_unwraps he'
    rw [h] at helement
    cases hprimitive : ty.behindVariables.isPrimitive with
    | true => simp [hprimitive] at helement
    | false =>
      rw [hprimitive] at helement
      obtain rfl := Option.some.inj helement
      exact ⟨he', rfl⟩
  · intro h
    rw [elementType_of_unwraps h.1, h.2]
    rfl

/-- A declared primitive unwraps to a primitive. -/
theorem exists_unwraps_primitive (h : ty.behindVariables.isPrimitive = true) :
    ∃ name, u.Unwraps ty (.primitive name) := by
  fun_induction TypeRef.behindVariables ty with
  | case1 _ bound ih =>
    obtain ⟨name, hname⟩ := ih h
    exact ⟨name, .bound hname⟩
  | case2 ty =>
    cases ty with
    | primitive name => exact ⟨name, .primitive name⟩
    | _ => simp [TypeRef.isPrimitive] at h

/-- A type holds a primitive if it unwraps to one and is none itself. -/
theorem holdsPrimitive_iff :
    u.HoldsPrimitive ty ↔
      (∃ name, u.Unwraps ty (.primitive name)) ∧ ty.behindVariables.isPrimitive = false := by
  constructor
  · intro h
    induction h with
    | array name => exact ⟨⟨name, .array _⟩, rfl⟩
    | argument hlast => exact ⟨⟨_, .argument hlast⟩, rfl⟩
    | parameter hraw hdecl hparam hbound =>
      have hunwraps := Unwraps.parameter hraw hdecl hparam
      rw [hbound] at hunwraps
      exact ⟨⟨_, hunwraps⟩, (elementType_of_isRaw (u := u) hraw).2⟩
    | bound _ ih =>
      obtain ⟨⟨name, hname⟩, hnot⟩ := ih
      exact ⟨⟨name, .bound hname⟩, hnot⟩
  · intro h
    obtain ⟨⟨name, hname⟩, hnot⟩ := h
    generalize hprimitive : TypeRef.primitive name = e at hname
    induction hname with
    | primitive => cases hnot
    | array => subst hprimitive; exact .array name
    | argument hlast => subst hprimitive; exact .argument hlast
    | parameter hraw hdecl hparam => exact .parameter hraw hdecl hparam hprimitive.symm
    | plain hraw => subst hprimitive; cases hraw
    | bound _ ih => exact .bound (ih hnot hprimitive)

end TypeUniverse

/-! ## Associations -/

/-- A class declares the property itself, in one way. -/
def ClassDecl.DeclaresProperty (d : ClassDecl) (property : String) : Access → Prop
  | .field => ∃ f ∈ d.fields, f.name = property
  | .getter => ∃ m ∈ d.methods, m.name = getterName property ∧ m.isAccessor = true

namespace ClassDecl

variable {d : ClassDecl} {property : String}

theorem fieldNamed_eq_none_iff :
    d.fieldNamed property = none ↔ ¬ d.DeclaresProperty property .field := by
  simp [fieldNamed, DeclaresProperty]

theorem accessorNamed_eq_none_iff :
    d.accessorNamed (getterName property) = none ↔ ¬ d.DeclaresProperty property .getter := by
  simp [accessorNamed, DeclaresProperty]

end ClassDecl

namespace ResolvedType

variable {u : TypeUniverse} {t : ResolvedType} {property : String} {via : Access}

/-- An accessor that is found has a result type. -/
theorem getterType_eq_none_iff :
    t.getterType u property = none ↔
      (t.lineage u).findSome? (·.accessorNamed (getterName property)) = none := by
  unfold getterType
  cases hfound : (t.lineage u).findSome? (·.accessorNamed (getterName property)) with
  | none => simp
  | some m =>
    obtain ⟨d, _, hd⟩ := List.exists_of_findSome?_eq_some hfound
    have haccessor := List.find?_some hd
    simp only [MethodDecl.isAccessor, Bool.and_eq_true] at haccessor
    obtain ⟨returns, hreturns⟩ := Option.isSome_iff_exists.1 haccessor.2.2
    simp [hreturns]

/-- A property has no declared type exactly if no class of the lineage declares it. -/
theorem declaredType_eq_none_iff :
    t.declaredType u property via = none ↔
      ∀ d ∈ t.lineage u, ¬ d.DeclaresProperty property via := by
  cases via with
  | field =>
    rw [declaredType, fieldType, Option.map_eq_none_iff, List.findSome?_eq_none_iff]
    simp only [ClassDecl.fieldNamed_eq_none_iff]
  | getter =>
    rw [declaredType, getterType_eq_none_iff, List.findSome?_eq_none_iff]
    simp only [ClassDecl.accessorNamed_eq_none_iff]

/-- An association names no primitive, and names nothing exactly for a property that is not declared
along the lineage or unwraps to a primitive. -/
structure NamesNoPrimitive (u : TypeUniverse) (t : ResolvedType) (property : String)
    (via : Access) : Prop where
  none_iff : t.associationElement u property via = none ↔
    (∀ d ∈ t.lineage u, ¬ d.DeclaresProperty property via) ∨
      ∃ ty name, t.declaredType u property via = some ty ∧ u.Unwraps ty (.primitive name)
  ne_primitive : ∀ name, t.associationElement u property via ≠ some (.primitive name)

theorem associationElement_eq_some_iff {e : TypeRef} :
    t.associationElement u property via = some e ↔
      ∃ ty, t.declaredType u property via = some ty ∧ u.Unwraps ty e ∧
        ty.behindVariables.isPrimitive = false := by
  rw [associationElement, Option.bind_eq_some_iff]
  simp only [TypeUniverse.elementType_eq_some_iff]

theorem associationElement_eq_none_iff :
    t.associationElement u property via = none ↔
      (∀ d ∈ t.lineage u, ¬ d.DeclaresProperty property via) ∨
        ∃ ty, t.declaredType u property via = some ty ∧
          ty.behindVariables.isPrimitive = true := by
  rw [← declaredType_eq_none_iff, associationElement]
  cases t.declaredType u property via with
  | none => simp
  | some ty => simp [TypeUniverse.elementType_eq_none_iff]

/-- An association names what the declared type unwraps to, unless that is declared as a primitive
itself.  So it names no primitive, and nothing for exactly the properties that are undeclared or
unwrap to a primitive, exactly if the declared type does not hold a primitive. -/
theorem association_names_no_primitive_iff (u : TypeUniverse) (t : ResolvedType)
    (property : String) (via : Access) :
    (∀ e, t.associationElement u property via = some e ↔
      ∃ ty, t.declaredType u property via = some ty ∧ u.Unwraps ty e ∧
        ty.behindVariables.isPrimitive = false) ∧
    (t.associationElement u property via = none ↔
      (∀ d ∈ t.lineage u, ¬ d.DeclaresProperty property via) ∨
        ∃ ty, t.declaredType u property via = some ty ∧
          ty.behindVariables.isPrimitive = true) ∧
    (t.NamesNoPrimitive u property via ↔
      ∀ ty, t.declaredType u property via = some ty → ¬ u.HoldsPrimitive ty) := by
  refine ⟨fun _ => associationElement_eq_some_iff, associationElement_eq_none_iff, ?_⟩
  constructor
  · intro h ty hty hholds
    obtain ⟨⟨name, hname⟩, hnot⟩ := TypeUniverse.holdsPrimitive_iff.1 hholds
    exact h.ne_primitive name (associationElement_eq_some_iff.2 ⟨ty, hty, hname, hnot⟩)
  · intro h
    constructor
    · rw [associationElement_eq_none_iff]
      refine or_congr_right ⟨fun hex => ?_, fun hex => ?_⟩
      · obtain ⟨ty, hty, hprimitive⟩ := hex
        obtain ⟨name, hname⟩ := TypeUniverse.exists_unwraps_primitive (u := u) hprimitive
        exact ⟨ty, name, hty, hname⟩
      · obtain ⟨ty, name, hty, hname⟩ := hex
        cases hprimitive : ty.behindVariables.isPrimitive with
        | true => exact ⟨ty, hty, hprimitive⟩
        | false =>
          exact absurd (TypeUniverse.holdsPrimitive_iff.2 ⟨⟨name, hname⟩, hprimitive⟩) (h ty hty)
    · intro name helement
      obtain ⟨ty, hty, hname, hnot⟩ := associationElement_eq_some_iff.1 helement
      exact h ty hty (TypeUniverse.holdsPrimitive_iff.2 ⟨⟨name, hname⟩, hnot⟩)

/-- An array of numbers unwraps to a primitive, and is not left unnamed. -/
theorem codes_name_a_primitive :
    let decl := (ClassDecl.ofClass ⟨"acme.Robot"⟩).withField "codes" (.array (.primitive "int"))
    let u := TypeUniverse.platform.insert decl
    let t : ResolvedType := ⟨decl, .mk decl.name [] []⟩
    t.associationElement u "codes" .field = some (.primitive "int") ∧
      ¬ t.NamesNoPrimitive u "codes" .field := by
  intro decl u t
  have hnamed : t.associationElement u "codes" .field = some (.primitive "int") := rfl
  exact ⟨hnamed, fun h => h.ne_primitive "int" hnamed⟩

end ResolvedType

end ValidatorForge
