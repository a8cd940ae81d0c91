import ValidatorForge.Validation.Execution

/-!
# The operations of a linked validator

A dispatcher is emitted with the bodies of its operations, and a linked validator says what the
operations do.  Here the two meet: each body, run in a scope that binds the parameters of its
operation and nothing else, reads no other name and answers what the validator does.

* `run_chain`: a chain answers with the first branch that takes the call, or with its last
  expression;
* `run_validateBody`, `run_validatePropertyBody`, `run_validateValueBody`, `run_constraintsBody` and
  `run_getPropertyBody`: the five operations;
* `run_groupsBody`: the group chain, which the operations read.
-/

namespace ValidatorForge

open Validation

namespace Operation

variable {ν : Type} {v : Validator ν} {k : Kind} {s : Scope ν}

/-! ## Statements -/

@[simp] theorem orElse_end {α : Type} {rest : Option (Option α)} :
    orElse (some none) rest = rest := rfl

theorem run_returning {e : Expr k} {answer : k.Meaning ν} (h : e.eval v s = some answer) :
    (Block.returning e).run v s = some (some answer) := by
  rw [Block.run, h, Option.map_some]

/-- A check runs its body if it holds, and goes on if the body gives no answer. -/
theorem run_ifThen {test : Expr .test} {body rest : Block k} {holds : Bool}
    (h : test.eval v s = some holds) :
    (Block.ifThen test body rest).run v s =
      if holds then orElse (body.run v s) (rest.run v s) else rest.run v s := by
  cases holds <;> simp [Block.run, h]

/-- A read runs its body with the object, if that has the type of the branch. -/
theorem run_ifReads {b : Branch} {object : Expr .object} {body rest : Block k} {bean : Bean ν}
    (h : object.eval v s = some bean) :
    (Block.ifReads b object body rest).run v s =
      if bean.concrete == some b.bean then
        orElse (body.run v { s with bean := some bean }) (rest.run v s)
      else rest.run v s := by
  simp only [Block.run, h, Option.bind_eq_bind, Option.bind_some]
  split <;> rfl

/-- A branch binds its context before it answers. -/
theorem run_inContext {b : Branch} {rootClass : Expr .handle} {rootBean : Expr .root}
    {answer : Expr k} {c : ClassHandle} {root : Option (Bean ν)}
    (hclass : rootClass.eval v s = some c) (hbean : rootBean.eval v s = some root) :
    (inContext b rootClass rootBean answer).run v s =
      (answer.eval v { s with context := some (v.context b c root) }).map some := by
  simp [inContext, Block.run, Expr.eval, hclass, hbean, Validator.context, Validator.summaryOf]

/-- The first branch that takes the call answers, and no other is run. -/
theorem run_chain {β : Type} {test : β → Expr .test} {body : β → Block k} {last : Expr k}
    {takes : β → Bool} {answer : β → k.Meaning ν} {other : k.Meaning ν}
    (hbranch : ∀ b rest, (Block.ifThen (test b) (body b) rest).run v s =
      if takes b then some (some (answer b)) else rest.run v s)
    (hlast : last.eval v s = some other) (branches : List β) :
    (chain branches test body last).run v s =
      some (some (((branches.find? takes).map answer).getD other)) := by
  induction branches with
  | nil => simp [chain, Block.run, hlast]
  | cons b rest ih =>
    have hchain : chain (b :: rest) test body last =
        .ifThen (test b) (body b) (chain rest test body last) := rfl
    rw [hchain, hbranch, List.find?_cons]
    cases takes b with
    | true => rfl
    | false => exact ih

theorem eval_unsupported {found : Expr .handle} {c : ClassHandle} (h : found.eval v s = some c) :
    (unsupported (k := k) found).eval v s = some (v.unsupported c) := by
  simp [unsupported, Expr.eval, h, Validator.unsupported]

/-! ## Validation -/

theorem run_validateBody (bean : Bean ν) (groups : List ClassHandle) :
    (validateBody v.dispatcher.branches).run v { object := some bean, groups := some groups } =
      some (some (v.validate bean groups)) := by
  rw [validateBody, run_chain (fun b rest => by rw [run_ifThen rfl, run_inContext rfl rfl]; rfl)
    (eval_unsupported rfl), Validator.validate, Validator.instanceBranch?]
  cases v.dispatcher.branches.find? fun b => bean.isInstanceOf (v.classOf b.bean) <;> rfl

theorem run_validatePropertyBody (bean : Bean ν) (property : String) (groups : List ClassHandle) :
    (validatePropertyBody v.dispatcher.branches).run v
        { object := some bean, propertyName := some property, groups := some groups } =
      some (some (v.validateProperty bean property groups)) := by
  rw [validatePropertyBody,
    run_chain (fun b rest => by rw [run_ifThen rfl, run_inContext rfl rfl]; rfl)
      (eval_unsupported rfl), Validator.validateProperty, Validator.instanceBranch?]
  cases v.dispatcher.branches.find? fun b => bean.isInstanceOf (v.classOf b.bean) <;> rfl

theorem run_validateValueBody (c : ClassHandle) (property : String) (value : ν)
    (groups : List ClassHandle) :
    (validateValueBody v.dispatcher.branches).run v
        { beanType := some c, propertyName := some property, value := some value,
          groups := some groups } =
      some (some (v.validateValue c property value groups)) := by
  rw [validateValueBody,
    run_chain (fun b rest => by rw [run_ifThen rfl, run_inContext rfl rfl]; rfl)
      (eval_unsupported rfl), Validator.validateValue, Validator.classBranch?]
  cases v.dispatcher.branches.find? fun b => c == v.classOf b.bean <;> rfl

theorem run_constraintsBody (c : ClassHandle) :
    (constraintsBody v.dispatcher.branches).run v { clazz := some c } =
      some (some (v.constraintsFor c)) := by
  rw [constraintsBody, run_chain (fun b rest => by rw [run_ifThen rfl]; rfl)
    (eval_unsupported rfl), Validator.constraintsFor, Validator.classBranch?]
  cases v.dispatcher.branches.find? fun b => c == v.classOf b.bean <;> rfl

/-! ## Property access -/

section

variable {r : ReflectedBranch} {bean : Bean ν}

/-- What the arms of a branch answer for a property. -/
theorem eval_readArms {property : String} (hbean : s.bean = some bean)
    (hproperty : s.propertyName = some property) :
    (readArms r).eval v s = some (match r.arms.find? (·.property == property) with
      | some arm => .ok (bean.call arm.method.text)
      | none => .error (.noSuchProperty (v.classOf r.branch.bean).name property)) := by
  simp only [readArms, Expr.eval, Scope.get, hbean, hproperty, Option.bind_eq_bind,
    Option.bind_some]
  cases r.arms.find? (·.property == property) <;> rfl

/-- A branch takes the objects of its class that can be read as its type.  An object that only
claims the class goes on to the next branch. -/
theorem run_reflected {rest : Block (.result .value)} {answer : Except ValidationError ν}
    (h : s.object = some bean)
    (hread : (readArms r).eval v { s with bean := some bean } = some answer) :
    (Block.ifThen (.isExactly (.var .object) (.classOf r.branch))
      (.ifReads r.branch (.var .object) (.returning (readArms r)) .nothing) rest).run v s =
      if v.reflects bean r then some (some answer) else rest.run v s := by
  have hobject : (Expr.var .object).eval v s = some bean := h
  have htest : (Expr.isExactly (.var .object) (.classOf r.branch)).eval v s =
      some (bean.isExactly (v.classOf r.branch.bean)) := by
    simp [Expr.eval, Scope.get, h]
  rw [run_ifThen htest, run_ifReads hobject, run_returning hread, Validator.reflects]
  cases bean.isExactly (v.classOf r.branch.bean) <;>
    cases bean.concrete == some r.branch.bean <;> rfl

end

theorem run_getPropertyBody (bean : Bean ν) (property : String) :
    (getPropertyBody v.dispatcher.reflected).run v
        { object := some bean, propertyName := some property } =
      some (some (v.getProperty bean property)) := by
  rw [getPropertyBody, run_chain (fun r rest => run_reflected rfl (eval_readArms rfl rfl)) rfl,
    Validator.getProperty]
  cases v.dispatcher.reflected.find? (v.reflects bean) <;> rfl

/-! ## Groups -/

/-- A builder registers the groups one after the other. -/
theorem eval_registers {groups : List GroupBranch} {e : Expr .builder} {registered : GroupChain}
    (h : e.eval v s = some registered) :
    (groups.foldl .register e).eval v s =
      some ((groups.map (·.step)).foldl (Validator.registerGroup v.classOf) registered) := by
  induction groups generalizing e registered with
  | nil => exact h
  | cons g rest ih =>
    have hstep : (Expr.register e g).eval v s =
        some (Validator.registerGroup v.classOf registered g.step) := by
      simp [Expr.eval, h]
    exact ih hstep

/-- The operations read the group chain that this body builds. -/
theorem run_groupsBody :
    (groupsBody v.dispatcher.groups).run v {} = some (some v.groups) := by
  rw [groupsBody, Block.run, Expr.eval, eval_registers rfl, Option.map_some, Validator.groups]

end Operation

end ValidatorForge
