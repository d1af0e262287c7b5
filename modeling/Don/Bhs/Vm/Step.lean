import Don.Bhs.Vm.Basic

/-!
# Step — one instruction, and the run loop

Each handler is a procedure of its own; `step` fetches an opcode byte and dispatches.  The order of
pops, operand fetches and checks inside a handler is the order of the source: an error half way
through an instruction leaves the machine as it is at that point.
-/

namespace Don.Bhs

open Foundation

variable {σ : Type} [StdLib]

namespace Exec

/-! ## Variables and operators -/

/-- Push a reference to a variable, after checking that it can be read. -/
def opPush : Exec σ Step := do
  let bound ← bindRef (VarRef.decode (← fetchU32))
  let _ ← deref (.ref bound)
  push (.ref bound)
  return .continue

def opPop : Exec σ Step := do
  let _ ← pop
  return .continue

variable (op : Opcode)

/-- Pop the target, pop the value, write the operator's answer through the target, push it back. -/
def opAssignment (here : Nat) : Exec σ Step := do
  let target ← pop
  let rhs ← popValue
  let cur ← deref target
  match ← onHeap (doOperator cur op (some rhs)) with
  | .ok out =>
    store target out
    push target
    return .continue
  | .error e => rteOp e here op.code

def opBinary (here : Nat) : Exec σ Step := do
  let rhs ← popValue
  let lhs ← popValue
  match ← onHeap (doOperator lhs op (some rhs)) with
  | .ok out =>
    push (.val out)
    return .continue
  | .error e => rteOp e here op.code

def opUnary (here : Nat) : Exec σ Step := do
  let v ← popValue
  match ← onHeap (doOperator v op none) with
  | .ok out =>
    push (.val out)
    return .continue
  | .error e => rteOp e here op.code

/-- Swallow a directly following `OP_POP`, or push the slot. -/
def pushUnlessPopped (s : Slot) : Exec σ Step := do
  if (← peekOp) = some Opcode.pop.code then
    setBip ((← bip) + 1)
  else
    push s
  return .continue

def opPreIncDec (here : Nat) : Exec σ Step := do
  let target ← pop
  let cur ← deref target
  match ← onHeap (doOperator cur op none) with
  | .ok out =>
    store target out
    pushUnlessPopped target
  | .error e => rteOp e here op.code

def opPostIncDec (here : Nat) : Exec σ Step := do
  let target ← pop
  let cur ← deref target
  match ← onHeap (doOperator cur op none) with
  | .ok out =>
    store target out
    pushUnlessPopped (.val cur)
  | .error e => rteOp e here op.code

def opInitCopy : Exec σ Step := do
  let v ← duplicate (← popValue)
  setSlot (VarRef.decode (← fetchU32)) (.val v)
  return .continue

/-- Store the popped slot itself: a reference stays a reference. -/
def opInit : Exec σ Step := do
  let s ← pop
  setSlot (VarRef.decode (← fetchU32)) s
  return .continue

def opCastBool : Exec σ Step := do
  let v ← popValue
  push (.val (.ofBool v.isTrue))
  return .continue

/-- A conversion; a tag that is not a scalar one leaves the value alone. -/
def castTo (tag : UInt32) (v : Value) : Except VmError Value :=
  match ScriptTy.fromTag tag with
  | some .int => .ok (.int v.asInt)
  | some .real => .ok (.real v.asReal)
  | some .str =>
    match v.asString with
    | .ok s => .ok (.str s)
    | .error _ => .error (.unimplemented "ScriptObject::get_string")
  | _ => .ok v

def opCast : Exec σ Step := do
  let v ← popValue
  match castTo (← fetchU32) v with
  | .ok out =>
    push (.val out)
    return .continue
  | .error e => Proc.throw e

/-! ## Aggregates -/

def opCreateSimple : Exec σ Step := do
  push (.val (Value.zeroOf (← fetchU32)))
  return .continue

def opCreateArray : Exec σ Step := do
  let base ← popValue
  let tag ← fetchU32
  push (.val (← alloc (·.newArray tag base 0)))
  return .continue

def opCreateArrayDyn (here : Nat) : Exec σ Step := do
  let n := (← popValue).asInt
  let base ← popValue
  let tag ← fetchU32
  if n < 0 then
    rte ("negative array size " ++ toString n.toInt) here op.code
  else
    push (.val (← alloc (·.newArray tag base n.toNatClampNeg)))
    return .continue

/-- Pop values, copying each; the first popped comes first. -/
def popCopies : Nat → Exec σ (List Value)
  | 0 => pure []
  | n + 1 => do
    let v ← duplicate (← popValue)
    return v :: (← popCopies n)

def opCreateArrayIniter (here : Nat) : Exec σ Step := do
  let count ← fetchU32
  let tag ← fetchU32
  let vals ← popCopies count.toNat
  match vals with
  | [] => rte "array initialiser with no elements" here op.code
  | v :: _ =>
    let base ← zeroLike v
    let arr ← alloc fun h =>
      let (cells, h) := h.newCells vals
      h.newObj ⟨tag, cells, some base, true⟩
    push (.val arr)
    return .continue

def opCreateStruct : Exec σ Step := do
  let count ← fetchU32
  let tag ← fetchU32
  let vals ← popCopies count.toNat
  push (.val (← alloc (·.newStruct tag vals)))
  return .continue

def opPushArrayIndex (here : Nat) : Exec σ Step := do
  let idx := (← popValue).asInt
  let base ← popValue
  match base.obj? with
  | none => rte "variable is not an array" here op.code
  | some o =>
    let values ← Proc.gets fun vm => (vm.heap.obj o).values
    let len := Int32.ofNat values.length
    if len ≤ idx ∨ idx < 0 then
      rte ("array index " ++ toString idx.toInt ++ " out of range (" ++ toString len.toInt ++ ")")
        here op.code
    else
      push (.cell (values.getD idx.toNatClampNeg 0))
      return .continue

def arrayOf (v : Value) : Exec σ (Option ObjId) :=
  Proc.gets fun vm => v.obj?.filter fun o => (vm.heap.obj o).isArray

/-- The subscript of an assignment target: an index past the end grows the array. -/
def opCreateArrayIndex (here : Nat) : Exec σ Step := do
  let idx := (← popValue).asInt
  let base ← popValue
  match ← arrayOf base with
  | none => rte "variable is not an array" here op.code
  | some o =>
    if idx < 0 then
      rte ("array index " ++ toString idx.toInt ++ " out of range") here op.code
    else
      let i := idx.toNatClampNeg
      let pushElem : Exec σ Step := do
        push (.cell (← Proc.gets fun vm => (vm.heap.obj o).values.getD i 0))
        return .continue
      if (← Proc.gets fun vm => (vm.heap.obj o).values.length) ≤ i then
        match ← Proc.gets fun vm => vm.heap.resize o (i + 1) true with
        | .ok h =>
          Proc.modify fun vm => { vm with heap := h }
          pushElem
        | .error e => rteOp e here op.code
      else
        pushElem

def opPushStructField (here : Nat) : Exec σ Step := do
  let base ← popValue
  let idx := (← fetchU32).toNat
  match base.obj? with
  | none => rte "variable is not a struct" here op.code
  | some o =>
    let values ← Proc.gets fun vm => (vm.heap.obj o).values
    if values.length ≤ idx then
      rte ("struct field " ++ toString idx ++ " out of range (" ++ toString values.length ++ ")")
        here op.code
    else
      push (.cell (values.getD idx 0))
      return .continue

def opPushArrayLength (here : Nat) : Exec σ Step := do
  let base ← popValue
  match base.obj? with
  | some o =>
    let n ← Proc.gets fun vm => (vm.heap.obj o).values.length
    push (.val (.int (Int32.ofNat n)))
    return .continue
  | none =>
    push (.val (.int 0))
    rte "variable is not an array" here op.code

/-- The array is on top and the length beneath it. -/
def opSetArrayLength (here : Nat) : Exec σ Step := do
  let arr ← popValue
  let nv ← popValue
  let n := nv.asInt
  let resized ← Proc.gets fun vm =>
    match arr.obj?.filter fun o => (vm.heap.obj o).isArray with
    | some o => if n < 0 then none else (vm.heap.resize o n.toNatClampNeg false).toOption
    | none => none
  match resized with
  | some h =>
    Proc.modify fun vm => { vm with heap := h }
    push (.val nv)
    return .continue
  | none =>
    push (.val nv)
    rte "variable is not an array" here op.code

/-! ## Calls -/

def opCall : Exec σ Step := do
  let script ← fetchU32
  pushFrame (← Proc.gets (·.top.file)) script.toNat
  return .continue

def opCallInclude : Exec σ Step := do
  let script ← fetchU32
  let link ← fetchU32
  let current ← Proc.gets (·.top.file)
  let links ← Proc.ofOption (.badFileIndex current) (← Proc.gets (·.prog.resolvedLinks current))
  let file ← Proc.ofOption (.badFileIndex link.toNat) links[link.toNat]?
  pushFrame file script.toNat
  return .continue

def popValues : Nat → Exec σ (List Value)
  | 0 => pure []
  | n + 1 => do
    let v ← popValue
    return v :: (← popValues n)

/-- The trigger functions, which the machine answers itself. -/
def callTriggerUtil (decl : BuiltinDecl) (args : List Value) : Exec σ (Option Value) := do
  if decl.index = 15 then
    Proc.modify (Vm.modifyScript (·.enableAllTriggers true))
    return some .null
  else if decl.index = 16 then
    Proc.modify (Vm.modifyScript (·.enableAllTriggers false))
    return some .null
  else if decl.index = 17 then
    let s ← Proc.gets (·.script)
    match (args.head?.map Value.asString).getD (.ok "") with
    | .error _ => return some (.int (-1))
    | .ok name =>
      match s.findTrigger name with
      | some i => return some (.ofBool (s.isTriggerEnabled (Int32.ofNat i)))
      | none => return some (.int (-1))
  else
    return none

/-- The value the engine substitutes for a rejected call. -/
def surveyErrReturn : ScriptTy → Value
  | .void => .null
  | .real => .real 0xbf800000
  | .str => .str ""
  | _ => .int (-1)

def pushReturn (decl : BuiltinDecl) (v : Value) : Exec σ Unit :=
  if decl.ret = .void then pure () else push (.val v)

variable (E : Engine σ)

def callHost (decl : BuiltinDecl) (args : List Value) :
    Exec σ (Except HostError Value) :=
  Proc.lift fun vm =>
    let (r, host, heap) := E.call decl args vm.host vm.heap
    .ok r { vm with host, heap }

def callBuiltin (decl : BuiltinDecl) (argc : Nat) : Exec σ Unit := do
  let args ← popValues argc
  match ← callTriggerUtil decl args with
  | some v => pushReturn decl v
  | none =>
    match ← callHost E decl args with
    | .ok v => pushReturn decl v
    | .error .unimplemented =>
      match ← Proc.gets (·.missingBuiltinPolicy) with
      | .fail => Proc.throw (.unimplementedBuiltin decl.index decl.name)
      | .survey => pushReturn decl (surveyErrReturn decl.ret)
    | .error (.badArgs reason) => Proc.throw (.hostRejected decl.index decl.name reason)

def opCallGame : Exec σ Step := do
  let idx ← fetchU32
  let decl ← Proc.ofOption (.badBuiltinIndex idx) (E.builtin idx)
  callBuiltin E decl decl.arity.toNat
  return .continue

def opCallGameVaried : Exec σ Step := do
  let idx ← fetchU32
  let argc ← fetchU32
  let decl ← Proc.ofOption (.badBuiltinIndex idx) (E.builtin idx)
  callBuiltin E decl argc.toNat
  return .continue

/-- Replace the returned value by a copy and close the frame. -/
def opReturn : Exec σ Step := do
  if (← Proc.gets (·.top.voidReturn)) then
    closeFrame
  else
    let v ← peekValue
    let v ← duplicate v
    Proc.modify fun vm => { vm with stack := .val v :: vm.stack.tail }
    closeFrame

/-! ## Jumps, cases and trigger bits -/

def opJump : Exec σ Step := do
  setBip (← fetchU32).toNat
  return .continue

/-- Jump when the popped value is true, or when it is false. -/
def opJumpIf (on : Bool) : Exec σ Step := do
  let v ← popValue
  jumpIf (v.isTrue = on)
  return .continue

/-- The short-circuit jumps: the deciding operand stays on the stack. -/
def opJumpIfSc (on : Bool) : Exec σ Step := do
  let s ← pop
  let v ← deref s
  if v.isTrue = on then
    push s
    jumpIf true
  else
    jumpIf false
  return .continue

/-- Compare the subject with a constant; on a match drop the subject and jump. -/
def opCase (here : Nat) : Exec σ Step := do
  let ci := (← fetchU32) &&& 0xdfffffff
  let file ← Proc.gets (·.top.file)
  let k ← Proc.ofOption (.badVarRef (.const ci)) (← Proc.gets fun vm =>
    (vm.prog.file file).constPool[ci.toNat]?)
  let subject ← peekValue
  match ← onHeap (doOperator subject .eqOp (some k)) with
  | .error e => rteOp e here op.code
  | .ok eq =>
    if eq.isTrue then
      jumpIf true
      let _ ← pop
      return .continue
    else
      jumpIf false
      return .continue

def opJumpIfInited : Exec σ Step := do
  let i := ((← fetchU32) &&& 0xbfffffff).toNat
  let inited ← Proc.gets fun vm => (vm.script.statics[i]?).join.isSome
  jumpIf inited
  return .continue

/-- The machine clears the bit here, whatever the name of the opcode says. -/
def opBitSet : Exec σ Step := do
  let i := (← fetchU32).toInt32
  Proc.modify (Vm.modifyScript (·.triggerBitClear i))
  return .continue

def opBitUnset : Exec σ Step := do
  let i := (← fetchU32).toInt32
  Proc.modify (Vm.modifyScript (·.triggerBitSet i))
  return .continue

/-- Fall into the body of an enabled trigger, jump past that of a disabled one. -/
def opJumpIfBitset : Exec σ Step := do
  let i := (← fetchU32).toInt32
  let on ← Proc.gets (·.script.isTriggerEnabled i)
  jumpIf (!on)
  return .continue

def opScriptMarker : Exec σ Step := do
  let _ ← fetchU32
  return .continue

/-! ## Dispatch -/

def dispatch (op : Opcode) (here : Nat) : Exec σ Step :=
  match op.handler with
  | .assignment => opAssignment op here
  | .binary => opBinary op here
  | .unary => opUnary op here
  | .preIncDec => opPreIncDec op here
  | .postIncDec => opPostIncDec op here
  | .push => opPush
  | .pop => opPop
  | .createSimple => opCreateSimple
  | .createArray => opCreateArray
  | .createArrayDyn => opCreateArrayDyn op here
  | .createArrayIniter => opCreateArrayIniter op here
  | .createStruct => opCreateStruct
  | .pushArrayIndex => opPushArrayIndex op here
  | .createArrayIndex => opCreateArrayIndex op here
  | .pushStructField => opPushStructField op here
  | .pushArrayLength => opPushArrayLength op here
  | .setArrayLength => opSetArrayLength op here
  | .initCopy => opInitCopy
  | .init => opInit
  | .cast => opCast
  | .castBool => opCastBool
  | .call => opCall
  | .callInclude => opCallInclude
  | .callGame => opCallGame E
  | .callGameVaried => opCallGameVaried E
  | .caseOp => opCase op here
  | .breakOp => Proc.throw (.unimplemented "OP_BREAK (debugger breakpoint)")
  | .bitSet => opBitSet
  | .bitUnset => opBitUnset
  | .returnOp => opReturn
  | .jump => opJump
  | .jumpIf => opJumpIf true
  | .jumpIfNot => opJumpIf false
  | .jumpIfScTrue => opJumpIfSc true
  | .jumpIfScFalse => opJumpIfSc false
  | .jumpIfInited => opJumpIfInited
  | .jumpIfBitset => opJumpIfBitset
  | .marker => return .continue
  | .scriptMarker => opScriptMarker
  | .errorToken => Proc.throw (.badOpcode op.code)

/-- Execute one instruction of the running frame. -/
def step : Exec σ Step := do
  let here ← bip
  let b ← fetchU8
  match Opcode.decode b with
  | none => Proc.throw (.badOpcode b)
  | some op => dispatch E op here

/-! ## Runs -/

/-- One round of the run loop: an instruction, and what the loop does with its answer. -/
def tick : Exec σ (Option RuntimeError) := do
  match ← step E with
  | .continue =>
    Proc.modify fun vm => { vm with bytecodesExecuted := vm.bytecodesExecuted + 1 }
    return none
  | .abort e =>
    -- the run ends: unwind every frame
    Proc.modify fun vm => { vm with frames := [] }
    return some e

/-- The run loop, with the number of instructions the budget still allows. -/
def loop (E : Engine σ) : Nat → Exec σ (Option RuntimeError)
  | 0 => do
    if (← Proc.gets (·.frames.isEmpty)) then
      return none
    else
      Proc.throw .budgetExhausted
  | left + 1 => do
    if (← Proc.gets (·.frames.isEmpty)) then
      return none
    else
      match ← tick E with
      | none => loop E left
      | some e => return some e

def runScriptSlots (file script : Nat) (args : List Slot) : Exec σ RunOutcome := do
  let before ← Proc.gets (·.bytecodesExecuted)
  -- the first argument ends up on top
  Proc.modify fun vm => { vm with returned := none, stack := args ++ vm.stack }
  pushFrame file script
  let budget ← Proc.gets (·.budget)
  let error ← loop E (budget + 1)
  let outcome ← Proc.gets fun vm =>
    { returned := vm.returned, bytecodesExecuted := vm.bytecodesExecuted - before,
      errCount := vm.errCount, error : RunOutcome }
  Proc.modify fun vm => { vm with returned := none }
  return outcome

def runScriptIndex (file script : Nat) (args : List Value) : Exec σ RunOutcome :=
  runScriptSlots E file script (args.map .val)

/-- The arguments are in cells, and what the run has left there is answered. -/
def runScriptIndexMut (file script : Nat) (args : List Value) : Exec σ (RunOutcome × List Value) := do
  let found ← Proc.gets fun vm => (vm.prog.files[file]?).bind (·.scripts[script]?)
  let _ ← Proc.ofOption (.badScriptIndex script) found
  let cells ← Proc.lift fun vm =>
    let (cells, heap) := vm.heap.newCells args
    .ok cells { vm with heap }
  let out ← runScriptSlots E file script (cells.map .cell)
  let args ← Proc.gets fun vm => cells.map vm.heap.cell
  return (out, args)

end Exec

end Don.Bhs
