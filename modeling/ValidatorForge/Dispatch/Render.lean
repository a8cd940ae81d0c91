import ValidatorForge.Dispatch.Operation

/-!
# The source of a dispatcher

The emitted validator: its fields and constructors, the operations, and the group chain.  The bodies
of the operations are written out from their syntax, an expression or a statement at a time.
-/

namespace ValidatorForge

open Source Operation

namespace Dispatcher

/-! ## Names -/

private def classIdent : Ident := .plain "class"
private def nameIdent : Ident := .plain "name"
private def isInstanceOfIdent : Ident := .plain "is_instance_of"
private def isExactlyIdent : Ident := .plain "is_exactly"

private def groupChainIdent : Ident := .plain "GroupChainMetadata"
private def builderIdent : Ident := .plain "builder"
private def groupsMetadataIdent : Ident := .plain "groups_metadata"
private def constraintsIdent : Ident := .plain "constraints"
private def contextIdent : Ident := .plain "ValidationContext"
private def newIdent : Ident := .plain "new"

private def validateIdent : Ident := .plain "validate"
private def validatePropertyIdent : Ident := .plain "validate_property"
private def validateValueIdent : Ident := .plain "validate_value"

private def unsupportedTypeIdent : Ident := .plain "UnsupportedType"
private def foundIdent : Ident := .plain "found"
private def supportedIdent : Ident := .plain "supported"
private def noSuchPropertyIdent : Ident := .plain "NoSuchProperty"
private def propertyIdent : Ident := .plain "property"
private def classNotReflectedIdent : Ident := .plain "ClassNotReflected"

private def groupsField : Ident := .plain "groups"
private def interpolatorField : Ident := .plain "interpolator"
private def traversableField : Ident := .plain "traversable"
private def supportedTypes : Ident := .plain "SUPPORTED_TYPES"

/-! ## Paths and types -/

private def std (module item : Ident) : ModPath := .global [.plain "std", module, item]

private def boxPath : ModPath := std (.plain "boxed") (.plain "Box")

private def oncePath : ModPath := std (.plain "sync") (.plain "OnceLock")

private def anyPath : ModPath := std (.plain "any") (.plain "Any")

private def toTextPath : ModPath :=
  .global [.plain "std", .plain "string", .plain "ToString", .plain "to_string"]

private def selfPath (member : Ident) : ModPath := .relative [.plain "Self", member]

private def selfType : Fragment := [word "Self"]

/-- A name of the run-time library. -/
def runtime (d : Dispatcher) (name : Ident) : ModPath := d.spec.config.runtime.child name

private def contract (d : Dispatcher) : ModPath := d.runtime (.plain "BeanValidator")

private def metadataType (d : Dispatcher) : Fragment := (d.runtime groupChainIdent).tokens

private def beanRef (d : Dispatcher) : Fragment := refTo (dynamic (d.runtime (.plain "Bean")))

private def staticClass (d : Dispatcher) : Fragment :=
  staticRefTo (d.runtime (.plain "Class")).tokens

private def groupsRef (d : Dispatcher) : Fragment := refTo [brackets d.staticClass]

private def validationError (d : Dispatcher) : ModPath := d.runtime (.plain "ValidationError")

private def resultOf (d : Dispatcher) (value : Fragment) : Fragment :=
  applied (std (.plain "result") (.plain "Result")) [value, d.validationError.tokens]

private def violations (d : Dispatcher) : Fragment :=
  d.resultOf (applied (std (.plain "vec") (.plain "Vec"))
    [(d.runtime (.plain "ConstraintViolation")).tokens])

private def boxOfAny : Fragment := applied boxPath [dynamic anyPath]

private def interpolatorBox (d : Dispatcher) : Fragment :=
  applied boxPath [dynamic (d.runtime (.plain "MessageInterpolator"))]

private def traversableBox (d : Dispatcher) : Fragment :=
  applied boxPath [dynamic (d.runtime (.plain "TraversableResolver"))]

private def textRef : Fragment := refTo [word "str"]

/-! ## Expressions and statements -/

/-- How a parameter or a bound name is spelled. -/
def ident {k : Kind} : Var k → Ident
  | .object => .plain "object"
  | .beanType => .plain "bean_type"
  | .clazz => .plain "clazz"
  | .propertyName => .plain "property_name"
  | .value => .plain "value"
  | .groups => groupsField
  | .context => .plain "context"
  | .bean => .plain "bean"

private def selfValue : Fragment := [word "self"]

private def okOf (value : Fragment) : Fragment := call [word "Ok"] [value]

private def boxed (value : Fragment) : Fragment := call (boxPath.child newIdent).tokens [value]

/-- An error with the values of its fields. -/
private def errorOf (d : Dispatcher) (name : Ident) (fields : List Fragment) : Fragment :=
  call [word "Err"] [(d.validationError.child name).tokens ++ [braces (commaSeparated fields)]]

/-- The class of a type. -/
def classOf (d : Dispatcher) (type : ModPath) : Fragment :=
  traitMember type (d.runtime (.plain "BeanClass")) (.plain "CLASS")

/-- A call of a validator. -/
private def contractCall (d : Dispatcher) (name : Ident) (args : List Fragment) : Fragment :=
  call (d.contract.child name).tokens args

private def collaborator (field : Ident) : Fragment :=
  ampersand :: .punct '*' false :: fieldOf selfValue field

/-- The call that registers a group. -/
private def groupCall (d : Dispatcher) (g : GroupBranch) : Fragment :=
  let method : Token := if g.step.isSequence then word "add_sequence" else word "add_group"
  [dot, method, parens (commaSeparated
    [d.classOf g.group, refTo [listOf (g.others.map d.classOf)]])]

/-- The arm that reads one property of a bean. -/
private def armTokens (bean : Fragment) (arm : PropertyArm) : Fragment :=
  textLiteral arm.property :: (fatArrow ++
    okOf (boxed (methodCall bean arm.method []) ++ word "as" :: boxOfAny) ++ [comma])

/-- An expression of an operation. -/
@[simp] def exprTokens (d : Dispatcher) {k : Kind} : Expr k → Fragment
  | .var x => [.ident (ident x)]
  | .classOf b => d.classOf b.type
  | .classOfObject object => methodCall (d.exprTokens object) classIdent []
  | .nameOf handle => methodCall (d.exprTokens handle) nameIdent []
  | .copyOf text => call toTextPath.tokens [d.exprTokens text]
  | .supportedTypes => (selfPath supportedTypes).tokens
  | .isInstanceOf object handle =>
    methodCall (d.exprTokens object) isInstanceOfIdent [d.exprTokens handle]
  | .isExactly object handle =>
    methodCall (d.exprTokens object) isExactlyIdent [d.exprTokens handle]
  | .equal handle other => d.exprTokens handle ++ operator ['=', '='] ++ d.exprTokens other
  | .builder => call ((d.runtime groupChainIdent).child builderIdent).tokens []
  | .register chain g => d.exprTokens chain ++ d.groupCall g
  | .build chain => d.exprTokens chain ++ [dot, word "build", parens []]
  | .groupsMetadata => methodCall selfValue groupsMetadataIdent []
  | .interpolator => collaborator interpolatorField
  | .traversable => collaborator traversableField
  | .noObject => [word "None"]
  | .someObject object => call [word "Some"] [d.exprTokens object]
  | .validatorOf b => refTo (b.marker.child instanceIdent).tokens
  | .constraints validator chain =>
    d.contractCall constraintsIdent [d.exprTokens validator, d.exprTokens chain]
  | .newContext rootClass rootBean summary messages resolver chain =>
    call ((d.runtime contextIdent).child newIdent).tokens
      [d.exprTokens rootClass, d.exprTokens rootBean, d.exprTokens summary,
       d.exprTokens messages, d.exprTokens resolver, d.exprTokens chain]
  | .validate validator context object groups =>
    d.contractCall validateIdent
      [d.exprTokens validator, refTo (d.exprTokens context), d.exprTokens object,
       d.exprTokens groups]
  | .validateProperty validator context object property groups =>
    d.contractCall validatePropertyIdent
      [d.exprTokens validator, refTo (d.exprTokens context), d.exprTokens object,
       d.exprTokens property, d.exprTokens groups]
  | .validateValue validator context handle property value groups =>
    d.contractCall validateValueIdent
      [d.exprTokens validator, refTo (d.exprTokens context), d.exprTokens handle,
       d.exprTokens property, d.exprTokens value, d.exprTokens groups]
  | .ok e => okOf (d.exprTokens e)
  | .unsupportedType found supported =>
    d.errorOf unsupportedTypeIdent
      [named foundIdent (d.exprTokens found), named supportedIdent (d.exprTokens supported)]
  | .noSuchProperty className property =>
    d.errorOf noSuchPropertyIdent
      [named classIdent (d.exprTokens className), named propertyIdent (d.exprTokens property)]
  | .classNotReflected className =>
    d.errorOf classNotReflectedIdent [named classIdent (d.exprTokens className)]
  | .matchProperty property bean arms other =>
    word "match" :: (d.exprTokens property ++
      [braces (arms.flatMap (armTokens (d.exprTokens bean)) ++
        word "_" :: (fatArrow ++ d.exprTokens other ++ [comma]))])

/-- The statements of an operation. -/
@[simp] def blockTokens (d : Dispatcher) {k : Kind} : Block k → Fragment
  | .nothing => []
  | .last e => d.exprTokens e
  | .returning e => returning (d.exprTokens e)
  | .letContext e rest => binding (ident .context) (d.exprTokens e) ++ d.blockTokens rest
  | .ifThen test body rest => ifThen (d.exprTokens test) (d.blockTokens body) ++ d.blockTokens rest
  | .ifReads b object body rest =>
    let bean := word "let" :: call [word "Some"] [[.ident (ident .bean)]] ++ equals ::
      d.exprTokens object ++ [dot, word "downcast_ref"] ++ pathSeparator ++
      angles b.type.tokens ++ [parens []]
    ifThen bean (d.blockTokens body) ++ d.blockTokens rest

/-! ## Operations of the validator -/

private def publicFunction (docs : String) (name : Ident) (params : List Fragment)
    (result body : Fragment) : Fragment :=
  fixedDoc docs ++ word "pub" :: function name params result body

private def param {k : Kind} (x : Var k) (type : Fragment) : Fragment := named (ident x) type

private def objectParam (d : Dispatcher) : Fragment := param .object d.beanRef

private def propertyParam : Fragment := param .propertyName textRef

private def groupsParam (d : Dispatcher) : Fragment := param .groups d.groupsRef

private def validate (d : Dispatcher) : Fragment :=
  publicFunction " Validate \x60object\x60 with the validator of its most specific type."
    validateIdent [refTo selfValue, d.objectParam, d.groupsParam] d.violations
    (d.blockTokens (validateBody d.branches))

private def validateProperty (d : Dispatcher) : Fragment :=
  publicFunction " Validate one property of \x60object\x60."
    validatePropertyIdent [refTo selfValue, d.objectParam, propertyParam, d.groupsParam]
    d.violations (d.blockTokens (validatePropertyBody d.branches))

private def validateValue (d : Dispatcher) : Fragment :=
  publicFunction " Validate a candidate \x60value\x60 for a property of \x60bean_type\x60."
    validateValueIdent
    [refTo selfValue, param .beanType d.staticClass, propertyParam,
     param .value (refTo (dynamic anyPath)), d.groupsParam]
    d.violations (d.blockTokens (validateValueBody d.branches))

private def constraintsForClass (d : Dispatcher) : Fragment :=
  publicFunction " Constraint descriptor of \x60clazz\x60."
    (.plain "constraints_for_class") [refTo selfValue, param .clazz d.staticClass]
    (d.resultOf (staticRefTo (d.runtime (.plain "BeanDescriptor")).tokens))
    (d.blockTokens (constraintsBody d.branches))

private def getProperty (d : Dispatcher) : Fragment :=
  publicFunction
    " Read \x60property_name\x60 from \x60object\x60 through its generated accessor table."
    (.plain "get_property") [refTo selfValue, d.objectParam, propertyParam] (d.resultOf boxOfAny)
    (d.blockTokens (getPropertyBody d.reflected))

private def createGroups (d : Dispatcher) : Fragment :=
  fixedDoc " Configured groups and sequences." ++
    function (.plain "create_groups_metadata") [] d.metadataType
      (d.blockTokens (groupsBody d.groups))

/-! ## The whole validator -/

private def structTokens (d : Dispatcher) : Fragment :=
  d.spec.visibility.tokens ++ [word "struct", .ident d.spec.name,
    braces (commaSeparated
      [named groupsField (applied oncePath [d.metadataType]),
       named interpolatorField d.interpolatorBox,
       named traversableField d.traversableBox])]

private def supportedConstant (d : Dispatcher) : Fragment :=
  fixedDoc " Qualified names of every dispatched type, most specific first." ++
    word "pub" :: word "const" :: .ident supportedTypes :: colon ::
      (staticRefTo [brackets (staticRefTo [word "str"])] ++ equals ::
        refTo [listOf (d.supported.map fun ty => [textLiteral ty.text])] ++ [semicolon])

private def constructors (d : Dispatcher) : Fragment :=
  publicFunction " Validator with the default interpolator and traversable resolver."
    newIdent [] selfType
    (call (selfPath (.plain "with_collaborators")).tokens
      [boxed (d.runtime (.plain "DefaultMessageInterpolator")).tokens,
       boxed (d.runtime (.plain "DefaultTraversableResolver")).tokens]) ++
  publicFunction " Validator with custom collaborators." (.plain "with_collaborators")
    [named interpolatorField d.interpolatorBox, named traversableField d.traversableBox] selfType
    (binding (.plain "validator")
        (selfType ++ [braces (commaSeparated
          [named groupsField (call (oncePath.child newIdent).tokens []),
           [.ident interpolatorField], [.ident traversableField]])]) ++
      methodCall [word "validator"] groupsMetadataIdent [] ++
      [semicolon, word "validator"])

private def groupsMetadata (d : Dispatcher) : Fragment :=
  publicFunction " Group-chain metadata, built on first use." groupsMetadataIdent
    [refTo selfValue] (refTo d.metadataType)
    (methodCall (fieldOf selfValue groupsField) (.plain "get_or_init")
      [(selfPath (.plain "create_groups_metadata")).tokens])

private def defaultImpl (d : Dispatcher) : Fragment :=
  word "impl" :: (std (.plain "default") (.plain "Default")).tokens ++
    [word "for", .ident d.spec.name, braces
      (function (.plain "default") [] selfType (call (selfPath newIdent).tokens []))]

private def headDoc (d : Dispatcher) : Fragment :=
  doc s!" Dispatching validator over {Text.commaJoin (d.supported.map (·.text))}."

/-- The source of the validator. -/
def tokens (d : Dispatcher) : Fragment :=
  d.headDoc ++ d.structTokens ++
    [word "impl", .ident d.spec.name, braces
      (d.supportedConstant ++ d.constructors ++ d.createGroups ++ d.groupsMetadata ++
        d.validate ++ d.validateProperty ++ d.validateValue ++ d.constraintsForClass ++
        d.getProperty)] ++
    d.defaultImpl

/-! ## Lines

Names, literals and templates are on one line.  So the source is, unless one of the paths that it
repeats, or the visibility, has an argument that is not. -/

/-- The paths of host types, groups and validators in the source. -/
def hostPaths (d : Dispatcher) : List ModPath :=
  d.branches.flatMap (fun b => [b.type, b.marker]) ++
    d.groups.flatMap (fun g => g.group :: g.others) ++ d.reflected.map (·.branch.type)

theorem oneLine_hostPaths_iff {d : Dispatcher} :
    (∀ p ∈ d.hostPaths, p.OneLine) ↔
      (∀ b ∈ d.branches, b.type.OneLine ∧ b.marker.OneLine) ∧
      (∀ g ∈ d.groups, g.group.OneLine ∧ ∀ p ∈ g.others, p.OneLine) ∧
      ∀ r ∈ d.reflected, r.branch.type.OneLine := by
  simp only [hostPaths, List.forall_mem_append, List.forall_mem_flatMap, List.forall_mem_map,
    List.forall_mem_cons, List.not_mem_nil, false_implies, implies_true, and_true, and_assoc]

section

variable {d : Dispatcher} {b : Branch} {f g : Fragment} {k : Kind}

@[simp] private theorem oneLine_boxPath : boxPath.OneLine := ModPath.oneLine_global _

@[simp] private theorem oneLine_oncePath : oncePath.OneLine := ModPath.oneLine_global _

@[simp] private theorem oneLine_toTextPath : toTextPath.OneLine := ModPath.oneLine_global _

@[simp] private theorem oneLine_selfPath {i : Ident} : (selfPath i).OneLine :=
  ModPath.oneLine_relative _

@[simp] private theorem oneLine_selfType : OneLine selfType := by simp [selfType, word]

@[simp] private theorem oneLine_selfValue : OneLine selfValue := by simp [selfValue, word]

@[simp] private theorem oneLine_boxOfAny : OneLine boxOfAny := by
  simp [boxOfAny, anyPath, std]

@[simp] private theorem oneLine_textRef : OneLine textRef := by simp [textRef, word]

@[simp] private theorem oneLine_okOf : OneLine (okOf f) ↔ OneLine f := by simp [okOf, word]

@[simp] private theorem oneLine_collaborator {i : Ident} : OneLine (collaborator i) := by
  have hstar : '*' ∉ Text.lineBreaks := by decide
  simp [collaborator, hstar]

@[simp] private theorem oneLine_boxed : OneLine (boxed f) ↔ OneLine f := by simp [boxed]

@[simp] private theorem oneLine_param {x : Var k} : OneLine (param x f) ↔ OneLine f := by
  simp [param]

@[simp] private theorem oneLine_propertyParam : OneLine propertyParam := by simp [propertyParam]

private theorem oneLine_publicFunction {docs : String} {name : Ident} {params : List Fragment}
    (h : Text.Unbroken docs.toList) :
    OneLine (publicFunction docs name params f g) ↔
      (∀ p ∈ params, OneLine p) ∧ OneLine f ∧ OneLine g := by
  simp [publicFunction, oneLine_fixedDoc h, word]

@[simp] private theorem oneLine_armTokens {arm : PropertyArm} :
    OneLine (armTokens f arm) ↔ OneLine f := by
  simp [armTokens, word]

/-- A chain repeats what its branches and its last expression repeat. -/
private theorem oneLine_chain {β : Type} {branches : List β} {test : β → Expr .test}
    {body : β → Block k} {last : Expr k} {P : β → Prop} (hlast : OneLine (d.exprTokens last))
    (h : ∀ b, OneLine (d.exprTokens (test b)) ∧ OneLine (d.blockTokens (body b)) ↔ P b) :
    OneLine (d.blockTokens (chain branches test body last)) ↔ ∀ b ∈ branches, P b := by
  induction branches with
  | nil => simp [chain, hlast]
  | cons b rest ih =>
    have hrest : d.blockTokens (chain (b :: rest) test body last) =
        ifThen (d.exprTokens (test b)) (d.blockTokens (body b)) ++
          d.blockTokens (chain rest test body last) := rfl
    rw [hrest, oneLine_append, oneLine_ifThen, h, ih, List.forall_mem_cons]

/-- So does an operation that is a chain, if its parameters and its result are on one line. -/
private theorem oneLine_chainFunction {docs : String} {name : Ident} {params : List Fragment}
    {β : Type} {branches : List β} {test : β → Expr .test} {body : β → Block k} {last : Expr k}
    {P : β → Prop} (hdocs : Text.Unbroken docs.toList) (hparams : ∀ p ∈ params, OneLine p)
    (hresult : OneLine f) (hlast : OneLine (d.exprTokens last))
    (h : ∀ b, OneLine (d.exprTokens (test b)) ∧ OneLine (d.blockTokens (body b)) ↔ P b) :
    OneLine (publicFunction docs name params f (d.blockTokens (chain branches test body last))) ↔
      ∀ b ∈ branches, P b := by
  rw [oneLine_publicFunction hdocs, oneLine_chain hlast h, and_iff_right hparams,
    and_iff_right hresult]

@[simp] private theorem oneLine_runtime {name : Ident} :
    (d.runtime name).OneLine ↔ d.spec.config.runtime.OneLine :=
  ModPath.oneLine_child

private theorem oneLine_structTokens :
    OneLine d.structTokens ↔
      OneLine d.spec.visibility.tokens ∧ d.spec.config.runtime.OneLine := by
  simp [structTokens, metadataType, interpolatorBox, traversableBox, word]

private theorem oneLine_supportedConstant : OneLine d.supportedConstant := by
  have htext : Text.Unbroken
      " Qualified names of every dispatched type, most specific first.".toList :=
    Text.unbroken_ofList (by decide)
  simp [supportedConstant, oneLine_fixedDoc htext, word]

private theorem oneLine_headDoc : OneLine d.headDoc := oneLine_doc _

private theorem oneLine_defaultImpl : OneLine d.defaultImpl := by
  simp [defaultImpl, std, word]

/-! ### With a run-time library on one line -/

variable (hruntime : d.spec.config.runtime.OneLine)

include hruntime

private theorem oneLine_metadataType : OneLine d.metadataType := by simpa [metadataType]

private theorem oneLine_objectParam : OneLine d.objectParam := by simpa [objectParam, beanRef]

private theorem oneLine_staticClass : OneLine d.staticClass := by simpa [staticClass]

private theorem oneLine_groupsParam : OneLine d.groupsParam := by
  simpa [groupsParam, groupsRef] using oneLine_staticClass hruntime

private theorem oneLine_resultOf : OneLine (d.resultOf f) ↔ OneLine f := by
  simp [resultOf, validationError, std, hruntime]

private theorem oneLine_violations : OneLine d.violations := by
  simpa [violations, oneLine_resultOf hruntime, std] using hruntime

private theorem oneLine_errorOf {name : Ident} {fields : List Fragment} :
    OneLine (d.errorOf name fields) ↔ ∀ f ∈ fields, OneLine f := by
  simp [errorOf, validationError, hruntime, word]

private theorem oneLine_classOf {p : ModPath} : OneLine (d.classOf p) ↔ p.OneLine := by
  simp [classOf, hruntime]

private theorem oneLine_contractCall {name : Ident} {args : List Fragment} :
    OneLine (d.contractCall name args) ↔ ∀ f ∈ args, OneLine f := by
  simp [contractCall, contract, hruntime]

private theorem oneLine_groupCall {g : GroupBranch} :
    OneLine (d.groupCall g) ↔ g.group.OneLine ∧ ∀ p ∈ g.others, p.OneLine := by
  cases hstep : g.step.isSequence <;> simp [groupCall, hstep, oneLine_classOf hruntime, word]

private theorem oneLine_constructors : OneLine d.constructors := by
  rw [constructors, oneLine_append, oneLine_publicFunction (Text.unbroken_ofList (by decide)),
    oneLine_publicFunction (Text.unbroken_ofList (by decide))]
  simp [interpolatorBox, traversableBox, hruntime, word]

private theorem oneLine_groupsMetadata : OneLine d.groupsMetadata := by
  rw [groupsMetadata, oneLine_publicFunction (Text.unbroken_ofList (by decide))]
  simp [oneLine_metadataType hruntime]

/-! ### The operations -/

private theorem oneLine_inContext {rootClass : Expr .handle} {rootBean : Expr .root}
    {answer : Expr k} :
    OneLine (d.blockTokens (inContext b rootClass rootBean answer)) ↔
      OneLine (d.exprTokens rootClass) ∧ OneLine (d.exprTokens rootBean) ∧ b.marker.OneLine ∧
        OneLine (d.exprTokens answer) := by
  simp [inContext, oneLine_contractCall hruntime, hruntime, and_assoc]

private theorem oneLine_unsupported {found : Expr .handle} :
    OneLine (d.exprTokens (unsupported (k := k) found)) ↔ OneLine (d.exprTokens found) := by
  simp [unsupported, oneLine_errorOf hruntime]

private theorem oneLine_instanceTest :
    OneLine (d.exprTokens (instanceTest b)) ↔ b.type.OneLine := by
  simp [instanceTest, oneLine_classOf hruntime]

private theorem oneLine_equal {x : Var .handle} :
    OneLine (d.exprTokens (.equal (.var x) (.classOf b))) ↔ b.type.OneLine := by
  have hequals : Text.Unbroken ['=', '='] := by decide
  simp [oneLine_classOf hruntime, hequals]

private theorem oneLine_validate :
    OneLine d.validate ↔ ∀ b ∈ d.branches, b.type.OneLine ∧ b.marker.OneLine := by
  refine oneLine_chainFunction (Text.unbroken_ofList (by decide))
    (by simp [oneLine_objectParam hruntime, oneLine_groupsParam hruntime])
    (oneLine_violations hruntime) (by simp [oneLine_unsupported hruntime]) fun b => ?_
  rw [oneLine_instanceTest hruntime, oneLine_inContext hruntime]
  simp [oneLine_classOf hruntime, oneLine_contractCall hruntime, word]

private theorem oneLine_validateProperty :
    OneLine d.validateProperty ↔ ∀ b ∈ d.branches, b.type.OneLine ∧ b.marker.OneLine := by
  refine oneLine_chainFunction (Text.unbroken_ofList (by decide))
    (by simp [oneLine_objectParam hruntime, oneLine_groupsParam hruntime])
    (oneLine_violations hruntime) (by simp [oneLine_unsupported hruntime]) fun b => ?_
  rw [oneLine_instanceTest hruntime, oneLine_inContext hruntime]
  simp [oneLine_classOf hruntime, oneLine_contractCall hruntime, word]

private theorem oneLine_validateValue :
    OneLine d.validateValue ↔ ∀ b ∈ d.branches, b.type.OneLine ∧ b.marker.OneLine := by
  refine oneLine_chainFunction (Text.unbroken_ofList (by decide))
    (by simp [oneLine_staticClass hruntime, oneLine_groupsParam hruntime, anyPath, std])
    (oneLine_violations hruntime) (by simp [oneLine_unsupported hruntime]) fun b => ?_
  rw [oneLine_equal hruntime, oneLine_inContext hruntime]
  simp [oneLine_contractCall hruntime, word]

private theorem oneLine_constraintsForClass :
    OneLine d.constraintsForClass ↔ ∀ b ∈ d.branches, b.type.OneLine ∧ b.marker.OneLine := by
  refine oneLine_chainFunction (Text.unbroken_ofList (by decide))
    (by simp [oneLine_staticClass hruntime]) (by simp [oneLine_resultOf hruntime, hruntime])
    (by simp [oneLine_unsupported hruntime]) fun b => ?_
  rw [oneLine_equal hruntime]
  simp [oneLine_contractCall hruntime]

private theorem oneLine_getProperty :
    OneLine d.getProperty ↔ ∀ r ∈ d.reflected, r.branch.type.OneLine := by
  refine oneLine_chainFunction (Text.unbroken_ofList (by decide))
    (by simp [oneLine_objectParam hruntime]) (by simp [oneLine_resultOf hruntime])
    (by simp [oneLine_errorOf hruntime]) fun r => ?_
  simp [readArms, oneLine_classOf hruntime, oneLine_errorOf hruntime, word]

private theorem oneLine_registers {groups : List GroupBranch} {e : Expr .builder} :
    OneLine (d.exprTokens (groups.foldl .register e)) ↔
      OneLine (d.exprTokens e) ∧ ∀ g ∈ groups, g.group.OneLine ∧ ∀ p ∈ g.others, p.OneLine := by
  induction groups generalizing e with
  | nil => simp
  | cons g rest ih =>
    rw [List.foldl_cons, ih, exprTokens, oneLine_append, oneLine_groupCall hruntime,
      List.forall_mem_cons, and_assoc]

private theorem oneLine_createGroups :
    OneLine d.createGroups ↔ ∀ g ∈ d.groups, g.group.OneLine ∧ ∀ p ∈ g.others, p.OneLine := by
  rw [createGroups, oneLine_append,
    and_iff_right (oneLine_fixedDoc (Text.unbroken_ofList (by decide)))]
  simp [groupsBody, oneLine_registers hruntime, oneLine_metadataType hruntime, hruntime, word]

omit hruntime in
/-- The source is on one line if the visibility, the path of the run-time library and all paths of
hosts are. -/
theorem oneLine_tokens_iff :
    OneLine d.tokens ↔
      OneLine d.spec.visibility.tokens ∧ d.spec.config.runtime.OneLine ∧
        ∀ p ∈ d.hostPaths, p.OneLine := by
  have hopened : OneLine d.tokens ↔ OneLine d.structTokens ∧ OneLine d.constructors ∧
      OneLine d.createGroups ∧ OneLine d.groupsMetadata ∧ OneLine d.validate ∧
      OneLine d.validateProperty ∧ OneLine d.validateValue ∧ OneLine d.constraintsForClass ∧
      OneLine d.getProperty := by
    simp [tokens, oneLine_headDoc, oneLine_supportedConstant, oneLine_defaultImpl, word]
  rw [hopened, oneLine_structTokens, and_assoc]
  refine and_congr_right fun _ => and_congr_right fun hruntime => ?_
  rw [and_iff_right (oneLine_constructors hruntime), oneLine_createGroups hruntime,
    and_iff_right (oneLine_groupsMetadata hruntime), oneLine_validate hruntime,
    oneLine_validateProperty hruntime, oneLine_validateValue hruntime,
    oneLine_constraintsForClass hruntime, oneLine_getProperty hruntime, oneLine_hostPaths_iff]
  grind

end

/-- The source begins with a documentation attribute that names the dispatched types. -/
theorem exists_tokens_eq_doc_append (d : Dispatcher) :
    ∃ rest, d.tokens =
      doc s!" Dispatching validator over {Text.commaJoin (d.supported.map (·.text))}." ++ rest := by
  unfold tokens headDoc
  rw [List.append_assoc, List.append_assoc]
  exact ⟨_, rfl⟩

end Dispatcher

end ValidatorForge
