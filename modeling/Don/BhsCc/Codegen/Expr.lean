import Don.BhsCc.Codegen.Basic

/-!
# Expr — compiling expressions

Every form leaves its value on the stack, except a call that has none.  Names are resolved while the
code is emitted, and a name that stands for nothing declares a local on the way, so compiling a
subexpression can change what the next one means.
-/

namespace Don.BhsCc

open Foundation Bhs

namespace Gen

variable (G : Env)

def diag (severity : Severity) (pos : Pos) (msg : String) : Gen Unit :=
  Proc.modify fun s => { s with diags := s.diags ++ [⟨severity, (G.unit.file G.file).path, pos, msg⟩] }

/-- Report an error when the condition holds, and go on. -/
def errorIf (c : Bool) (pos : Pos) (msg : String) : Gen Unit :=
  if c then diag G .error pos msg else pure ()

def resolvedTypeTag (ty : Ty) (pos : Pos) : Gen UInt32 :=
  match typeTag? G.unit ty with
  | some tag => pure tag
  | none => do
    diag G .error pos "the retail type identity for this declaration is not recovered"
    return 0

def declareImplicit (n : String) (pos : Pos) : Gen VarRef := do
  diag G .note pos ("`" ++ n ++ "` is used with no declaration; compiled as a fresh local")
  declareLocal n (.scalar .int)

/-- The storage of a bare name: a variable in scope, a label, or an implicit declaration. -/
def nameSlot (n : String) (pos : Pos) : Gen VarRef := do
  match ← Proc.gets (·.lookup n) with
  | some r => return r
  | none =>
    match ← Proc.gets (·.labels.lookup n) with
    | some v => return .const (← intern (.int v.toInt32))
    | none => declareImplicit G n pos

mutual

/-- Intern the literals of an expression in the order they are written. -/
def preinternExprConstants : Expr → Gen Unit
  | .int v _ => do let _ ← intern (.int v.toInt32)
  | .real bits _ => do let _ ← intern (.real bits)
  | .str s _ | .locStr s _ => do let _ ← intern (.str s)
  | .name n _ => do
    match ← Proc.gets (·.labels.lookup n) with
    | some v => do let _ ← intern (.int v.toInt32)
    | none => pure ()
  | .arrayLit items _ => preinternAll items
  | .cast _ e _ | .unary _ e _ | .preIncDec _ e _ | .postIncDec _ e _ | .member e _ _ =>
    preinternExprConstants e
  | .binary _ lhs rhs _ => do
    preinternExprConstants lhs
    preinternExprConstants rhs
  | .assign _ target value _ => do
    preinternExprConstants target
    preinternExprConstants value
  | .call _ args _ => preinternAll args
  | .methodCall recv _ args _ => do
    preinternExprConstants recv
    preinternAll args
  | .index base index _ => do
    preinternExprConstants base
    preinternExprConstants index

def preinternAll : List Expr → Gen Unit
  | [] => pure ()
  | e :: es => do
    preinternExprConstants e
    preinternAll es

end

def triggerName : Expr → Option String
  | .str s _ | .locStr s _ | .name s _ => some s
  | _ => none

/-- `enable_trigger` and `disable_trigger` with one argument are not calls but one bit opcode.
`BIT_UNSET` is the opcode that sets the bit. -/
def triggerIntrinsic (enable : Bool) (name : String) (arg : Expr) : Gen Unit := do
  match triggerName arg with
  | some t => emit1 (if enable then .bitUnset else .bitSet) (← triggerIndex t)
  | none =>
    diag G .error arg.pos ("`" ++ name ++ "` needs a trigger name (a string literal or a bare "
      ++ "identifier); it resolves to a bit index at compile time")

def callInstr (info : ScriptInfo) (pos : Pos) : Gen Unit :=
  if info.file = G.file then
    emit1 .call (UInt32.ofNat info.indexInFile)
  else
    match (G.unit.file G.file).includes.findIdx? fun i => i = info.file with
    | some li => emit2 .callInclude (UInt32.ofNat info.indexInFile) (UInt32.ofNat li)
    | none =>
      diag G .error pos ("script `" ++ info.name ++ "` is not reachable from this file's includes")

def callScript (info : ScriptInfo) (argc : Nat) (pos : Pos) : Gen Unit := do
  errorIf G (info.arity ≠ argc) pos ("script `" ++ info.name ++ "` takes " ++ toString info.arity
    ++ " argument(s), called with " ++ toString argc)
  callInstr G info pos

def callBuiltin (name : String) (argc : Nat) (pos : Pos) : Gen Unit := do
  match resolveBuiltin G.builtins name argc with
  | some d =>
    if d.arity.toNat = argc then
      emit1 .callGame d.index
    else
      emit2 .callGameVaried d.index (UInt32.ofNat argc)
  | none =>
    match builtinOverloads G.builtins name with
    | [] => diag G .error pos ("unknown function `" ++ name ++ "`")
    | ds =>
      diag G .error pos ("builtin `" ++ name ++ "` called with " ++ toString argc
        ++ " argument(s); registered arities are "
        ++ String.intercalate "/" (ds.map fun d => toString d.arity.toNat))

/-- A call: constants are interned in source order, arguments are pushed from the last to the first,
the receiver comes on top.  Scripts win over builtins.  `emitArgs` and `emitRecv` are the compiled
operands. -/
def call (name : String) (recv : Option Expr) (args : List Expr) (emitArgs emitRecv : Gen Unit)
    (pos : Pos) : Gen Unit :=
  let enable := eqIgnoreAsciiCase name "enable_trigger"
  let disable := eqIgnoreAsciiCase name "disable_trigger"
  match recv.isNone && (enable || disable), args with
  | true, [arg] => triggerIntrinsic G enable name arg
  | _, _ => do
    preinternAll (recv.toList ++ args)
    emitArgs
    emitRecv
    let argc := args.length + recv.toList.length
    match G.unit.scriptByName name with
    | some info => callScript G info argc pos
    | none => callBuiltin G name argc pos

/-- A field, or the length of an array under whatever name it is asked for. -/
def member (base : Expr) (emitBase : Gen Unit) (name : String) (pos : Pos) : Gen Unit := do
  let s ← Proc.gets id
  if isArray G s base || (eqIgnoreAsciiCase name "length" && !isStructWithField G s base name) then
    emitBase
    emit .pushArrayLength
  else
    emitBase
    match ← Proc.gets fun s => fieldIndex G s base name with
    | some i => emit1 .pushStructField (UInt32.ofNat i)
    | none =>
      diag G .error pos ("cannot resolve field `." ++ name ++ "`; refusing an invented field index")

/-- The short-circuit operators: the deciding operand is left for the final `CAST_BOOL`. -/
def shortCircuit (op : Opcode) (emitLhs emitRhs : Gen Unit) : Gen Unit := do
  let lEnd ← newLabel
  emitLhs
  emitJump op lEnd
  emitRhs
  place lEnd
  emit .castBool

/-- Operators convert nothing at run time; only a string on the left has its right operand cast. -/
def autoCast (lhs rhs : Expr) : Gen Unit := do
  let s ← Proc.gets id
  if isStr G s lhs && (staticTy G s rhs).isSome && !isStr G s rhs then
    emit1 .cast ScriptTy.str.tag
    Proc.modify fun s => { s with autoCasts := s.autoCasts + 1 }
  else
    pure ()

/-- The instruction of an operator, or a complaint that it has none. -/
def emitOperator (op : Option Opcode) (kind : String) (p : P) (pos : Pos) : Gen Unit :=
  match op with
  | some op => emit op
  | none => diag G .error pos (kind ++ " `" ++ p.asStr ++ "` has no opcode")

def binary (p : P) (lhs rhs : Expr) (emitLhs emitRhs : Gen Unit) (pos : Pos) : Gen Unit :=
  match p with
  | .andAnd => shortCircuit .jumpIfScFalse emitLhs emitRhs
  | .orOr => shortCircuit .jumpIfScTrue emitLhs emitRhs
  | p => do
    emitLhs
    emitRhs
    autoCast G lhs rhs
    emitOperator G (binaryOp p) "binary" p pos

/-- The tag of the elements of an array literal: that of the first, where it is known. -/
def elemTag (items : List Expr) (pos : Pos) : Gen UInt32 := do
  match ← Proc.gets fun s => items.head?.bind (staticTy G s) with
  | some t => resolvedTypeTag G t pos
  | none => pure ScriptTy.any.tag

def arrayMember (s : GenState) : Expr → Option String
  | .member base name _ => if isArray G s base then some name else none
  | _ => none

/-- An assignment: value, target, operator.  `emitBase` is the compiled base of a target that is a
member of an array, `emitTarget` the compiled target. -/
def assign (p : P) (target : Expr) (emitBase emitTarget emitValue : Gen Unit) (pos : Pos) :
    Gen Unit :=
  match assignOp p with
  | none => diag G .error pos "not an assignment operator"
  | some op => do
    match arrayMember G (← Proc.gets id) target with
    | some name =>
      if p = .assign && eqIgnoreAsciiCase name "length" then
        emitValue
        emitBase
        emit .setArrayLength
      else
        diag G .error pos "only `.length = value` is recovered for array-member assignment"
    | none =>
      emitValue
      emitTarget
      emit op

mutual

def expr : Expr → Gen Unit
  | .int v _ => pushConst (.int v.toInt32)
  | .real bits _ => pushConst (.real bits)
  | .str s _ | .locStr s _ => pushConst (.str s)
  | .name n pos => do emit1 .push (← nameSlot G n pos).encode
  | .arrayLit items pos => do
    preinternAll items
    exprsRev items
    let tag ← elemTag G items pos
    errorIf G items.isEmpty pos "an untyped array literal cannot be empty"
    emit2 .createArrayIniter (UInt32.ofNat items.length) tag
  | .cast ty e pos => do
    expr e
    emit1 .cast (← resolvedTypeTag G (G.unit.resolveType (some ty)) pos)
  | .unary p e pos => do
    expr e
    emitOperator G (unaryOp p) "unary" p pos
  | .preIncDec inc e _ => do
    expr e
    emit (if inc then .incOp else .decOp)
  | .postIncDec inc e _ => do
    expr e
    emit (if inc then .incOpPost else .decOpPost)
  | .binary p lhs rhs pos => binary G p lhs rhs (expr lhs) (expr rhs) pos
  | .assign p target value pos =>
    match target with
    | .name n npos => assign G p (.name n npos) (pure ()) (expr (.name n npos)) (expr value) pos
    | .member base name mpos =>
      assign G p (.member base name mpos) (expr base) (expr (.member base name mpos))
        (expr value) pos
    | .index base idx ipos =>
      -- the subscript of a target grows the array
      assign G p (.index base idx ipos) (pure ())
        (do expr base; expr idx; emit .createArrayIndex) (expr value) pos
    | other =>
      assign G p other (pure ())
        (do diag G .error other.pos "assignment target is not a variable"; expr other)
        (expr value) pos
  | .call name args pos => call G name none args (exprsRev args) (pure ()) pos
  | .methodCall recv name args pos => call G name (some recv) args (exprsRev args) (expr recv) pos
  | .index base idx _ => do
    expr base
    expr idx
    emit .pushArrayIndex
  | .member base name pos => member G base (expr base) name pos

/-- Compile expressions from the last to the first. -/
def exprsRev : List Expr → Gen Unit
  | [] => pure ()
  | e :: es => do
    exprsRev es
    expr e

end

end Gen

end Don.BhsCc
