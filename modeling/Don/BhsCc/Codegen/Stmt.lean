import Don.BhsCc.Codegen.Expr

/-!
# Stmt — default values, declarations and statements
-/

namespace Don.BhsCc

open Foundation Bhs Proc

namespace Gen

variable (G : Env)

/-! ## Default values -/

/-- A field of a struct's default value; `emitTy` emits the default of a type. -/
def emitDefaultField (emitTy : Ty → Gen Unit) (pos : Pos) (f : StructField) : Gen Unit :=
  match f.fixedLen with
  | some n => do
    emitTy f.ty
    pushConst (.int n.toInt32)
    emit1 .createArrayDyn (← resolvedTypeTag G f.ty pos)
  | none => emitTy f.ty

def emitDefaultFields (emitTy : Ty → Gen Unit) (pos : Pos) : List StructField → Gen Unit
  | [] => pure ()
  | f :: fs => do
    emitDefaultField G emitTy pos f
    emitDefaultFields emitTy pos fs

/-- `emit_default_value`, following element and field types to a given depth. -/
def emitDefaultValueTo (pos : Pos) : Nat → Ty → Gen Unit
  | 0, .struct _ | 0, .array _ => Proc.hang
  | k + 1, .struct si => do
    let fields := (G.unit.struct si).fields
    emitDefaultFields G (emitDefaultValueTo pos k) pos fields.reverse
    let tag ← resolvedTypeTag G (.struct si) pos
    emit2 .createStruct (UInt32.ofNat fields.length) tag
  | k + 1, .array inner => do
    emitDefaultValueTo pos k inner
    emit1 .createArray (← resolvedTypeTag G inner pos)
  | _, ty => do emit1 .createSimple (← resolvedTypeTag G ty pos)

lemma emitDefaultFields_le {f g : Ty → Gen Unit} (h : ∀ ty, (f ty).Le (g ty)) (pos : Pos) :
    ∀ fs, (emitDefaultFields G f pos fs).Le (emitDefaultFields G g pos fs) := by
  intro fs
  induction fs with
  | nil => exact Le.refl _
  | cons field fs ih =>
    refine bind_le ?_ fun _ => ih
    unfold emitDefaultField
    split
    · exact bind_le (h _) fun _ => Le.refl _
    · exact h _

lemma emitDefaultValueTo_le (pos : Pos) : ∀ (k : Nat) (ty : Ty),
    (emitDefaultValueTo G pos k ty).Le (emitDefaultValueTo G pos (k + 1) ty) := by
  intro k
  induction k with
  | zero =>
    intro ty
    cases ty with
    | struct => exact hang_le _
    | array => exact hang_le _
    | scalar => exact Le.refl _
    | untyped => exact Le.refl _
  | succ k ih =>
    intro ty
    cases ty with
    | struct =>
      exact bind_le (emitDefaultFields_le G ih pos _) fun _ => Le.refl _
    | array inner => exact bind_le (ih inner) fun _ => Le.refl _
    | scalar => exact Le.refl _
    | untyped => exact Le.refl _

/-- Emit a value of a type: the members of an aggregate, and then its constructor. -/
def emitDefaultValue (ty : Ty) (pos : Pos) : Gen Unit :=
  Proc.limit (emitDefaultValueTo G pos · ty) (emitDefaultValueTo_le G pos · ty)

/-! ## Declarations -/

/-- The initialisers that `OP_INIT_COPY` stores a copy of.  The others are stored as they are. -/
def copiesInit : Expr → Bool
  | .int .. | .real .. | .str .. | .locStr .. | .name .. | .index .. | .member .. => true
  | .arrayLit .. => true
  | _ => false

/-- Emit the value of a declaration, and say whether it is stored by copy. -/
def initValue (ty : Ty) (d : Declarator) : Gen Bool := do
  match d.init, d.array with
  | some (.arrayLit items pos), _ =>
    preinternAll items
    exprsRev G items
    errorIf G items.isEmpty pos "an array initializer cannot be empty"
    let tag ← resolvedTypeTag G (arrayInner ty) pos
    emit2 .createArrayIniter (UInt32.ofNat items.length) tag
    return true
  | some e, _ =>
    expr G e
    return copiesInit e
  | none, some (.sized n) =>
    emitDefaultValue G (arrayInner ty) d.pos
    expr G n
    emit1 .createArrayDyn (← resolvedTypeTag G (arrayInner ty) d.pos)
    return false
  | none, some .dynamic =>
    emitDefaultValue G (arrayInner ty) d.pos
    emit1 .createArray (← resolvedTypeTag G (arrayInner ty) d.pos)
    return false
  | none, none =>
    emitDefaultValue G ty d.pos
    return false

def declTy (ty : Option TypeRef) (d : Declarator) : Ty :=
  let base := G.unit.resolveType ty
  if d.array.isSome then .array base else base

/-- The value of a declaration and the instruction that stores it. -/
def initDeclarator (ty : Ty) (d : Declarator) (slot : VarRef) : Gen Unit := do
  let copy ← initValue G ty d
  emit1 (if copy then .initCopy else .init) slot.encode

/-- One declarator; the initialiser of a static runs only while the static has no value. -/
def declarator (isStatic : Bool) (tyRef : Option TypeRef) (d : Declarator) : Gen Unit := do
  let ty := declTy G tyRef d
  if isStatic then
    let slot ← declareStatic d.name ty
    let skip ← newLabel
    emitJump2 .jumpIfInited slot.encode skip
    initDeclarator G ty d slot
    place skip
  else
    let slot ← declareLocal d.name ty
    initDeclarator G ty d slot

def declarators (isStatic : Bool) (ty : Option TypeRef) : List Declarator → Gen Unit
  | [] => pure ()
  | d :: ds => do
    declarator G isStatic ty d
    declarators isStatic ty ds

/-! ## Statements -/

/-- Where `break` and `continue` go: the exits of the innermost loop or switch. -/
structure Targets where
  brk : Option Nat
  cont : Option Nat

/-- Compile an expression and drop the value it leaves. -/
def exprPop (e : Expr) : Gen Unit := do
  expr G e
  if leavesValue G e then emit .pop else pure ()

/-- The name and value of `name = value`. -/
def plainAssign : Expr → Option (String × Expr)
  | .assign .assign (.name n _) value _ => some (n, value)
  | _ => none

/-- An expression statement.  Assigning to a name that stands for nothing declares it. -/
def exprStmt (e : Expr) : Gen Unit := do
  match plainAssign e with
  | some (name, value) =>
    let fresh ← Proc.gets fun s => (s.lookup name).isNone && (s.labels.lookup name).isNone
    if fresh then
      let slot ← declareImplicit G name e.pos
      expr G value
      emit1 .initCopy slot.encode
    else
      exprPop G e
  | none => exprPop G e

/-- The constant of a `case`. -/
def constValue (labels : Labels) : Expr → Except ConstFault Value
  | .str s _ | .locStr s _ => .ok (.str s)
  | .real bits _ => .ok (.real bits)
  | e => (constInt labels e).map fun v => .int v.toInt32

/-- The constant under the labels of the script; a panic does not return. -/
def constant (e : Expr) : Gen (Option Value) :=
  Proc.lift fun s =>
    match constValue s.labels e with
    | .ok v => .ok (some v) s
    | .error .notConstant => .ok none s
    | .error .panic => .hang

def switchCase (label : Nat) (e : Expr) (pos : Pos) : Gen Unit := do
  match ← constant e with
  | some v => emitJump2 .caseOp ((← intern v) ||| 0x20000000) label
  | none => diag G .error pos "`case` value is not a compile-time constant"

/-- The tests of one arm; the answer is whether one of its labels is `default`. -/
def switchCases (label : Nat) : List SwitchCase → Gen Bool
  | [] => return false
  | c :: cs =>
    match c.value with
    | some e => do
      switchCase G label e c.pos
      switchCases label cs
    | none => do
      let _ ← switchCases label cs
      return true

/-- The tests of all arms; the answer is the label of the last `default`. -/
def switchDispatch : List SwitchArm → List Nat → Option Nat → Gen (Option Nat)
  | arm :: arms, label :: labels, default => do
    let isDefault ← switchCases G label arm.labels
    switchDispatch arms labels (if isDefault then some label else default)
  | _, _, default => return default

def newLabels : Nat → Gen (List Nat)
  | 0 => return []
  | n + 1 => do
    let l ← newLabel
    return l :: (← newLabels n)

/-- A chain of tests, then the bodies in order.  `emitArms` is the compiled bodies. -/
def switch (outer : Targets) (subject : Expr) (arms : List SwitchArm)
    (emitArms : Targets → List Nat → Gen Unit) : Gen Unit := do
  expr G subject
  let lEnd ← newLabel
  let armLabels ← newLabels arms.length
  let default ← switchDispatch G arms armLabels none
  -- no test matched: the subject is still on the stack
  emit .pop
  emitJump .jump (default.getD lEnd)
  -- `continue` belongs to the enclosing loop
  emitArms ⟨lEnd, outer.cont⟩ armLabels
  place lEnd

def defaultReturn (ret : Ty) (pos : Pos) : Gen Unit :=
  if ret = .scalar .void then pure () else emitDefaultValue G ret pos

/-- The value a `return` leaves; a `void` script may not have one. -/
def returnValue (ret : Ty) (pos : Pos) : Option Expr → Gen Unit
  | some e => do
    expr G e
    if ret = .scalar .void then
      diag G .error pos "a `void` script cannot return a value"
      emit .pop
    else
      pure ()
  | none => defaultReturn G ret pos

def returnStmt (ret : Ty) (value : Option Expr) (pos : Pos) : Gen Unit := do
  returnValue G ret pos value
  emit .returnOp

/-- Leave for a label unless the condition holds; without a condition, never. -/
def exitUnless (label : Nat) : Option Expr → Gen Unit
  | some c => do
    expr G c
    emitJump .jumpIfNot label
  | none => pure ()

/-- A guarded block; the bit of a trigger that has no name is named after its line. -/
def trigger (name : Option String) (cond : Option Expr) (emitBody : Gen Unit) (pos : Pos) :
    Gen Unit := do
  let idx ← triggerIndex (name.getD ("trigger@" ++ toString pos.line.toNat))
  let lEnd ← newLabel
  emitJump2 .jumpIfBitset idx lEnd
  exitUnless G lEnd cond
  inScope emitBody
  place lEnd

/-- A block that clears its own bit on entry.  Its trigger is the unnamed one. -/
def runOnce (emitBody : Gen Unit) : Gen Unit := do
  let idx ← triggerIndex ""
  let lEnd ← newLabel
  emitJump2 .jumpIfBitset idx lEnd
  emit1 .bitSet idx
  inScope emitBody
  place lEnd

def stepStmt : Option Expr → Gen Unit
  | some e => exprStmt G e
  | none => pure ()

def forLoop (cond step : Option Expr) (emitInit : Gen Unit) (emitBody : Targets → Gen Unit) :
    Gen Unit :=
  inScope do
    emitInit
    let lTop ← newLabel
    let lStep ← newLabel
    let lEnd ← newLabel
    place lTop
    exitUnless G lEnd cond
    emitBody ⟨lEnd, lStep⟩
    place lStep
    stepStmt G step
    emitJump .jump lTop
    place lEnd

variable (cond : Expr)

def whileLoop (emitBody : Targets → Gen Unit) : Gen Unit := do
  let lTop ← newLabel
  let lEnd ← newLabel
  place lTop
  expr G cond
  emitJump .jumpIfNot lEnd
  emitBody ⟨lEnd, lTop⟩
  emitJump .jump lTop
  place lEnd

def doWhileLoop (emitBody : Targets → Gen Unit) : Gen Unit := do
  let lTop ← newLabel
  let lCont ← newLabel
  let lEnd ← newLabel
  place lTop
  emitBody ⟨lEnd, lCont⟩
  place lCont
  expr G cond
  emitJump .jumpIf lTop
  place lEnd

def ifThen (emitThen : Gen Unit) : Gen Unit := do
  let lElse ← newLabel
  expr G cond
  emitJump .jumpIfNot lElse
  emitThen
  place lElse

def ifThenElse (emitThen emitElse : Gen Unit) : Gen Unit := do
  let lElse ← newLabel
  expr G cond
  emitJump .jumpIfNot lElse
  emitThen
  let lEnd ← newLabel
  emitJump .jump lEnd
  place lElse
  emitElse
  place lEnd

/-- Jump to the exit of the enclosing construct, if there is one. -/
def jumpOut (target : Option Nat) (pos : Pos) (msg : String) : Gen Unit :=
  match target with
  | some l => emitJump .jump l
  | none => diag G .error pos msg

mutual

/-- Compile a statement of a script that returns `ret`. -/
def stmt (ret : Ty) (t : Targets) : Stmt → Gen Unit
  | .empty _ | .labels .. | .struct _ => pure ()
  | .expr e => exprStmt G e
  | .decl d => declarators G d.isStatic d.ty d.decls
  | .block stmts _ => inScope (stmtList ret t stmts)
  | .ifStmt cond thn none _ => ifThen G cond (stmt ret t thn)
  | .ifStmt cond thn (some els) _ => ifThenElse G cond (stmt ret t thn) (stmt ret t els)
  | .while cond body _ => whileLoop G cond fun t => stmt ret t body
  | .doWhile body cond _ => doWhileLoop G cond fun t => stmt ret t body
  | .forStmt none cond step body _ => forLoop G cond step (pure ()) fun t => stmt ret t body
  | .forStmt (some init) cond step body _ =>
    forLoop G cond step (stmt ret t init) fun t => stmt ret t body
  | .switch subject arms _ => switch G t subject arms fun t => switchArms ret t arms
  | .break pos => jumpOut G t.brk pos "`break` outside a loop or switch"
  | .continue pos => jumpOut G t.cont pos "`continue` outside a loop"
  | .return value pos => returnStmt G ret value pos
  | .trigger name cond body pos => trigger G name cond (stmt ret t body) pos
  | .runOnce body _ _ => runOnce (stmtList ret t body)

def stmtList (ret : Ty) (t : Targets) : List Stmt → Gen Unit
  | [] => pure ()
  | s :: ss => do
    stmt ret t s
    stmtList ret t ss

def switchArms (ret : Ty) (t : Targets) : List SwitchArm → List Nat → Gen Unit
  | .mk _ body :: arms, label :: labels => do
    place label
    inScope (stmtList ret t body)
    switchArms ret t arms labels
  | _, _ => pure ()

end

end Gen

end Don.BhsCc
