import Don.Bhs.Vm.Step

/-!
# Effects — what an instruction can do to the machine

Every handler is a sequence of a few primitive operations.  A property of machine procedures that
holds of the primitives and is kept by sequencing (`Compositional`) therefore holds of every handler.
The three exceptions, opening a frame, closing a frame and writing trigger bits, are separate
hypotheses of `Compositional.dispatch`, so that a property may exclude the opcodes that do them.
-/

namespace Don.Bhs

open Foundation Proc Proc Exec Vm

variable {σ : Type}

def Opcode.opensFrame : Opcode → Bool
  | .call | .callInclude => true
  | _ => false

def Opcode.writesBits : Opcode → Bool
  | .bitSet | .bitUnset | .callGame | .callGameVaried => true
  | _ => false

/-- What is left of a script without the state that survives a run. -/
def Script.image (s : Script) : Script :=
  { s with statics := [], triggerBits := [] }

/-- A change to the trigger bits of a script. -/
def OnlyBits (f : Script → Script) : Prop :=
  ∀ s, (f s).image = s.image

lemma onlyBits_modifyTrigger (i : Int32) (g : UInt8 → UInt8) :
    OnlyBits fun s => s.modifyTrigger i g := by
  intro s
  change (s.modifyTrigger i g).image = s.image
  unfold Script.modifyTrigger
  split
  · rfl
  · split <;> rfl

def Vm.withCounters (vm : Vm σ) (errCount bytecodesExecuted : Nat) : Vm σ :=
  { vm with errCount, bytecodesExecuted }

namespace Exec

/-- A property of procedures that is kept by sequencing and by taking the limit of an unrolled loop. -/
structure Sequential (P : ∀ {α : Type}, Exec σ α → Prop) : Prop where
  pure : ∀ {α : Type} (a : α), P (pure a)
  bind : ∀ {α β : Type} {x : Exec σ α} {f : α → Exec σ β}, P x → (∀ a, P (f a)) → P (x >>= f)
  throw : ∀ {α : Type} (e : VmError), P (Proc.throw e : Exec σ α)
  gets : ∀ {α : Type} (g : Vm σ → α), (∀ vm a b, g (vm.withCounters a b) = g vm) →
    P (Proc.gets g)
  hang : ∀ {α : Type}, P (Proc.hang : Exec σ α)
  limit : ∀ {α : Type} {x : Nat → Exec σ α} {h}, (∀ k, P (x k)) → P (Proc.limit x h)

namespace Sequential

variable {P : ∀ {α : Type}, Exec σ α → Prop} (hS : Sequential @P)
include hS

/-- A read of what is not a counter. -/
lemma look {α : Type} {g : Vm σ → α} (hg : (fun vm => g (vm.withCounters 0 0)) = g) :
    P (Proc.gets g) :=
  hS.gets g fun vm a b => (congrFun hg (vm.withCounters a b)).symm.trans (congrFun hg vm)

lemma ofOption {α : Type} (e : VmError) (o : Option α) : P (ofOption e o : Exec σ α) := by
  cases o with
  | some a => exact hS.pure a
  | none => exact hS.throw e

lemma read (s : Slot) : P (Exec.read s : Exec σ Value) := by
  match s with
  | .val v => exact hS.pure v
  | .cell c => exact hS.look rfl
  | .ref (.const _ _) => exact hS.bind (hS.look rfl) (hS.ofOption _)
  | .ref (.static _ _ _) =>
    refine hS.bind (hS.look rfl) fun o => ?_
    exact hS.bind (hS.ofOption _ o) fun _ => hS.pure _
  | .ref (.local _ _) => exact hS.throw _

lemma deref (s : Slot) : P (Exec.deref s : Exec σ Value) := by
  refine hS.limit fun k => ?_
  induction k generalizing s with
  | zero =>
    match s with
    | .ref (.local _ _) => exact hS.hang
    | .val _ | .cell _ | .ref (.const _ _) | .ref (.static _ _ _) => exact hS.read _
  | succ k ih =>
    match s with
    | .ref (.local _ _) =>
      refine hS.bind (hS.look rfl) fun o => ?_
      exact hS.bind (hS.ofOption _ o) ih
    | .val _ | .cell _ | .ref (.const _ _) | .ref (.static _ _ _) => exact hS.read _

/-- A store writes one static, one heap cell or one local. -/
lemma store (hstatic : ∀ file script i v, P (Proc.modify fun vm =>
      { vm with prog := vm.prog.modifyScript file script fun s =>
          { s with statics := s.statics.set i v } }))
    (hcell : ∀ c v, P (Proc.modify fun vm => { vm with heap := vm.heap.setCell c v }))
    (hlocal : ∀ k i s, P (Proc.modify (Vm.setLocalAt k i s))) (s : Slot) (v : Value) :
    P (Exec.store s v : Exec σ Unit) := by
  have hwrite : ∀ s, P (write s v : Exec σ Unit) := by
    intro s
    match s with
    | .val _ => exact hS.pure ()
    | .cell c => exact hcell c v
    | .ref (.const _ _) => exact hS.throw _
    | .ref (.static _ _ _) =>
      refine hS.bind (hS.look rfl) fun o => ?_
      exact hS.bind (hS.ofOption _ o) fun _ => hstatic _ _ _ _
    | .ref (.local _ _) => exact hS.throw _
  refine hS.limit fun k => ?_
  induction k generalizing s with
  | zero =>
    match s with
    | .ref (.local _ _) => exact hS.hang
    | .val _ | .cell _ | .ref (.const _ _) | .ref (.static _ _ _) => exact hwrite _
  | succ k ih =>
    match s with
    | .ref (.local frame i) =>
      refine hS.bind (hS.look rfl) fun o => hS.bind (hS.ofOption _ o) fun inner => ?_
      -- a local that is an alias is followed
      cases inner with
      | val _ => exact hlocal frame i _
      | ref r => exact ih (.ref r)
      | cell c => exact ih (.cell c)
    | .val _ | .cell _ | .ref (.const _ _) | .ref (.static _ _ _) => exact hwrite _

lemma pushFrame (hframe : ∀ f, P (Proc.modify fun vm => { vm with frames := f :: vm.frames }))
    (file script : Nat) : P (Exec.pushFrame file script : Exec σ Unit) := by
  refine hS.bind (hS.look rfl) fun f => hS.bind (hS.ofOption _ f) fun _ => ?_
  refine hS.bind (hS.ofOption _ _) fun s => hS.bind (hS.look rfl) fun len => ?_
  dsimp only
  split
  · exact hS.throw _
  · exact hframe _

end Sequential

/-- A property of procedures that holds of the primitives of the machine and is kept by sequencing.
Reads are those that do not look at the two counters. -/
structure Compositional (P : ∀ {α : Type}, Exec σ α → Prop) : Prop extends Sequential @P where
  setBip : ∀ v, P (setBip v)
  push : ∀ s, P (push s)
  pop : P pop
  setTop : ∀ v, P (Proc.modify fun vm => { vm with stack := .val v :: vm.stack.tail })
  store : ∀ s v, P (store s v)
  setSlot : ∀ r s, P (setSlot r s)
  onHeap : ∀ {α : Type} (x : OnHeap α), P (onHeap x)
  duplicate : ∀ v, P (duplicate v)
  zeroLike : ∀ v, P (zeroLike v)
  alloc : ∀ f, P (alloc f)
  setHeap : ∀ h, P (Proc.modify fun vm => { vm with heap := h })
  callHost : ∀ (E : Engine σ) decl args, P (callHost E decl args)

/-- A property `Q` of whole handlers over a property `P` of their parts.  The two differ where it
matters how the instruction ended: a runtime error is an answer only at the end of a handler. -/
structure Answers (P : ∀ {α : Type}, Exec σ α → Prop) (Q : Exec σ Step → Prop) : Prop
    extends Compositional @P where
  done : Q (Pure.pure .continue)
  fail : ∀ e, Q (Proc.throw e)
  rte : ∀ m here op, Q (rte m here op)
  seq : ∀ {α : Type} {x : Exec σ α} {f : α → Exec σ Step}, P x → (∀ a, Q (f a)) → Q (x >>= f)

namespace Compositional

variable {P : ∀ {α : Type}, Exec σ α → Prop} (hP : Compositional @P)
include hP

lemma bip : P (Exec.bip : Exec σ Nat) :=
  hP.look rfl

lemma fetchU8 : P (Exec.fetchU8 : Exec σ UInt8) := by
  refine hP.bind hP.bip fun i => ?_
  refine hP.bind (hP.look rfl) fun o => ?_
  refine hP.bind (hP.ofOption _ o) fun b => ?_
  exact hP.bind (hP.setBip _) fun _ => hP.pure b

lemma peekU32 (i : Nat) : P (Exec.peekU32 i : Exec σ UInt32) := by
  refine hP.bind (hP.look rfl) fun bs => ?_
  split
  · exact hP.pure _
  · exact hP.throw _

lemma fetchU32 : P (fetchU32 : Exec σ UInt32) := by
  refine hP.bind hP.bip fun i => ?_
  refine hP.bind (hP.peekU32 i) fun v => ?_
  exact hP.bind (hP.setBip _) fun _ => hP.pure v

lemma jumpIf (taken : Bool) : P (jumpIf taken : Exec σ Unit) := by
  refine hP.bind hP.bip fun i => ?_
  cases taken with
  | true => exact hP.bind (hP.peekU32 i) fun t => hP.setBip _
  | false => exact hP.setBip _

lemma bindRef (r : VarRef) : P (Exec.bindRef r : Exec σ BoundRef) := by
  refine hP.bind (hP.look rfl) fun f => ?_
  cases r with
  | const | static =>
    refine hP.bind (hP.look rfl) fun o => ?_
    exact hP.bind (hP.ofOption _ o) fun _ => hP.pure _
  | «local» i =>
    refine hP.bind (hP.ofOption _ _) fun _ => ?_
    exact hP.bind (hP.look rfl) fun _ => hP.pure _

lemma popValue : P (popValue : Exec σ Value) :=
  hP.bind hP.pop fun s => hP.deref s

lemma peekValue : P (Exec.peekValue : Exec σ Value) := by
  refine hP.bind (hP.look rfl) fun o => ?_
  exact hP.bind (hP.ofOption _ o) fun s => hP.deref s

lemma popCopies : ∀ n, P (popCopies n : Exec σ (List Value)) := by
  intro n
  induction n with
  | zero => exact hP.pure _
  | succ n ih =>
    refine hP.bind hP.popValue fun v => ?_
    refine hP.bind (hP.duplicate v) fun v' => ?_
    exact hP.bind ih fun _ => hP.pure _

lemma popValues : ∀ n, P (popValues n : Exec σ (List Value)) := by
  intro n
  induction n with
  | zero => exact hP.pure _
  | succ n ih =>
    refine hP.bind hP.popValue fun v => ?_
    exact hP.bind ih fun _ => hP.pure _

lemma pushReturn (decl : BuiltinDecl) (v : Value) : P (pushReturn decl v : Exec σ Unit) := by
  unfold Exec.pushReturn
  split
  · exact hP.pure _
  · exact hP.push _

section Builtins

variable [StdLib]

lemma callTriggerUtil (hbits : ∀ f, OnlyBits f → P (modify (modifyScript f) : Exec σ Unit))
    (decl : BuiltinDecl) (args : List Value) : P (callTriggerUtil decl args : Exec σ _) := by
  unfold Exec.callTriggerUtil
  split
  · exact hP.bind (hbits _ fun _ => rfl) fun _ => hP.pure _
  split
  · exact hP.bind (hbits _ fun _ => rfl) fun _ => hP.pure _
  split
  · refine hP.bind (hP.look rfl) fun s => ?_
    split
    · exact hP.pure _
    · split <;> exact hP.pure _
  · exact hP.pure _

lemma callBuiltin (hbits : ∀ f, OnlyBits f → P (Proc.modify (Vm.modifyScript f) : Exec σ Unit))
    (E : Engine σ) (decl : BuiltinDecl) (argc : Nat) :
    P (Exec.callBuiltin E decl argc : Exec σ Unit) := by
  refine hP.bind (hP.popValues argc) fun args => ?_
  refine hP.bind (hP.callTriggerUtil hbits decl args) fun answered => ?_
  cases answered with
  | some v => exact hP.pushReturn decl v
  | none =>
    refine hP.bind (hP.callHost E decl args) fun r => ?_
    match r with
    | .ok v => exact hP.pushReturn decl v
    | .error .unimplemented =>
      refine hP.bind (hP.look rfl) fun policy => ?_
      cases policy with
      | fail => exact hP.throw _
      | survey => exact hP.pushReturn decl _
    | .error (.badArgs reason) => exact hP.throw _

end Builtins

end Compositional

namespace Answers

variable [StdLib] {P : ∀ {α : Type}, Exec σ α → Prop} {Q : Exec σ Step → Prop} (hP : Answers @P Q)
include hP

omit [StdLib] in
lemma rteOp (e : OpError) (here : Nat) (op : UInt8) : Q (Exec.rteOp e here op) :=
  hP.seq (hP.look rfl) fun _ => hP.rte _ _ _

omit [StdLib] in
lemma pushAndContinue (s : Slot) : Q (do push s; return .continue) :=
  hP.seq (hP.push s) fun _ => hP.done

omit [StdLib] in
lemma jumpAndContinue (taken : Bool) : Q (do jumpIf taken; return .continue) :=
  hP.seq (hP.jumpIf taken) fun _ => hP.done

/-! ## Variables and operators -/

omit [StdLib] in
lemma opPush : Q opPush := by
  refine hP.seq hP.fetchU32 fun raw => ?_
  refine hP.seq (hP.bindRef _) fun bound => ?_
  exact hP.seq (hP.deref _) fun _ => hP.pushAndContinue _

omit [StdLib] in
lemma afterOperator {x : OnHeap Value} {k : Value → Exec σ Step} (here : Nat) (op : UInt8)
    (hk : ∀ out, Q (k out)) :
    Q (do
      match ← onHeap x with
      | .ok out => k out
      | .error e => Exec.rteOp e here op : Exec σ Step) := by
  refine hP.seq (hP.onHeap x) fun r => ?_
  cases r with
  | ok out => exact hk out
  | error e => exact hP.rteOp e here op

variable (op : Opcode) (here : Nat)

lemma opAssignment : Q (opAssignment op here) := by
  refine hP.seq hP.pop fun target => ?_
  refine hP.seq hP.popValue fun rhs => ?_
  refine hP.seq (hP.deref target) fun cur => ?_
  refine hP.afterOperator here op.code fun out => ?_
  exact hP.seq (hP.store target out) fun _ => hP.pushAndContinue target

lemma opBinary : Q (opBinary op here) := by
  refine hP.seq hP.popValue fun rhs => ?_
  refine hP.seq hP.popValue fun lhs => ?_
  exact hP.afterOperator here op.code fun out => hP.pushAndContinue _

lemma opUnary : Q (opUnary op here) := by
  refine hP.seq hP.popValue fun v => ?_
  exact hP.afterOperator here op.code fun out => hP.pushAndContinue _

omit [StdLib] in
lemma pushUnlessPopped (s : Slot) : Q (Exec.pushUnlessPopped s) := by
  refine hP.seq (hP.look rfl) fun next => ?_
  split
  · refine hP.seq hP.bip fun i => ?_
    exact hP.seq (hP.setBip _) fun _ => hP.done
  · exact hP.pushAndContinue s

lemma opPreIncDec : Q (opPreIncDec op here) := by
  refine hP.seq hP.pop fun target => ?_
  refine hP.seq (hP.deref target) fun cur => ?_
  refine hP.afterOperator here op.code fun out => ?_
  exact hP.seq (hP.store target out) fun _ => hP.pushUnlessPopped target

lemma opPostIncDec : Q (opPostIncDec op here) := by
  refine hP.seq hP.pop fun target => ?_
  refine hP.seq (hP.deref target) fun cur => ?_
  refine hP.afterOperator here op.code fun out => ?_
  exact hP.seq (hP.store target out) fun _ => hP.pushUnlessPopped _

omit [StdLib] in
lemma opInitCopy : Q opInitCopy := by
  refine hP.seq hP.popValue fun v => ?_
  refine hP.seq (hP.duplicate v) fun v' => ?_
  refine hP.seq hP.fetchU32 fun raw => ?_
  exact hP.seq (hP.setSlot _ _) fun _ => hP.done

omit [StdLib] in
lemma opInit : Q opInit := by
  refine hP.seq hP.pop fun s => ?_
  refine hP.seq hP.fetchU32 fun raw => ?_
  exact hP.seq (hP.setSlot _ _) fun _ => hP.done

lemma opCast : Q opCast := by
  refine hP.seq hP.popValue fun v => ?_
  refine hP.seq hP.fetchU32 fun tag => ?_
  split
  · exact hP.pushAndContinue _
  · exact hP.fail _

/-! ## Aggregates -/

omit [StdLib] in
lemma allocAndPush (f : Heap → Value × Heap) :
    Q (do push (.val (← alloc f)); return .continue) :=
  hP.seq (hP.alloc f) fun _ => hP.pushAndContinue _

omit [StdLib] in
lemma opCreateArray : Q opCreateArray := by
  refine hP.seq hP.popValue fun base => ?_
  exact hP.seq hP.fetchU32 fun tag => hP.allocAndPush _

lemma opCreateArrayDyn : Q (opCreateArrayDyn op here) := by
  refine hP.seq hP.popValue fun n => ?_
  refine hP.seq hP.popValue fun base => ?_
  refine hP.seq hP.fetchU32 fun tag => ?_
  split
  · exact hP.rte _ _ _
  · exact hP.allocAndPush _

omit [StdLib] in
lemma opCreateArrayIniter : Q (opCreateArrayIniter op here) := by
  refine hP.seq hP.fetchU32 fun count => ?_
  refine hP.seq hP.fetchU32 fun tag => ?_
  refine hP.seq (hP.popCopies _) fun vals => ?_
  split
  · exact hP.rte _ _ _
  · refine hP.seq (hP.zeroLike _) fun base => ?_
    exact hP.seq (hP.alloc _) fun arr => hP.pushAndContinue _

omit [StdLib] in
lemma opCreateStruct : Q opCreateStruct := by
  refine hP.seq hP.fetchU32 fun count => ?_
  refine hP.seq hP.fetchU32 fun tag => ?_
  exact hP.seq (hP.popCopies _) fun vals => hP.allocAndPush _

lemma opPushArrayIndex : Q (Exec.opPushArrayIndex op here) := by
  refine hP.seq hP.popValue fun idx => ?_
  refine hP.seq hP.popValue fun base => ?_
  split
  · exact hP.rte _ _ _
  · refine hP.seq (hP.look rfl) fun values => ?_
    dsimp only
    split
    · exact hP.rte _ _ _
    · exact hP.pushAndContinue _

lemma opCreateArrayIndex : Q (Exec.opCreateArrayIndex op here) := by
  refine hP.seq hP.popValue fun idx => ?_
  refine hP.seq hP.popValue fun base => ?_
  refine hP.seq (hP.look rfl) fun arr => ?_
  cases arr with
  | none => exact hP.rte _ _ _
  | some o =>
    dsimp only
    split
    · exact hP.rte _ _ _
    have hpush : Q (do
        Exec.push (.cell (← Proc.gets fun vm =>
          (vm.heap.obj o).values.getD idx.asInt.toNatClampNeg 0))
        return .continue : Exec σ Step) :=
      hP.seq (hP.look rfl) fun c => hP.pushAndContinue _
    refine hP.seq (hP.look rfl) fun len => ?_
    split
    · refine hP.seq (hP.look rfl) fun resized => ?_
      cases resized with
      | ok h => exact hP.seq (hP.setHeap h) fun _ => hpush
      | error e => exact hP.rteOp e here op.code
    · exact hpush

omit [StdLib] in
lemma opPushStructField : Q (Exec.opPushStructField op here) := by
  refine hP.seq hP.popValue fun base => ?_
  refine hP.seq hP.fetchU32 fun idx => ?_
  dsimp only
  split
  · exact hP.rte _ _ _
  · refine hP.seq (hP.look rfl) fun values => ?_
    split
    · exact hP.rte _ _ _
    · exact hP.pushAndContinue _

omit [StdLib] in
lemma opPushArrayLength : Q (Exec.opPushArrayLength op here) := by
  refine hP.seq hP.popValue fun base => ?_
  split
  · exact hP.seq (hP.look rfl) fun n => hP.pushAndContinue _
  · exact hP.seq (hP.push _) fun _ => hP.rte _ _ _

lemma opSetArrayLength : Q (Exec.opSetArrayLength op here) := by
  refine hP.seq hP.popValue fun arr => ?_
  refine hP.seq hP.popValue fun nv => ?_
  refine hP.seq (hP.look rfl) fun resized => ?_
  cases resized with
  | some h => exact hP.seq (hP.setHeap h) fun _ => hP.pushAndContinue _
  | none => exact hP.seq (hP.push _) fun _ => hP.rte _ _ _

/-! ## Calls, jumps, cases -/

omit [StdLib] in
lemma opReturn (hclose : Q Exec.closeFrame) :
    Q Exec.opReturn := by
  refine hP.seq (hP.look rfl) fun void => ?_
  split
  · exact hclose
  · refine hP.seq hP.peekValue fun v => ?_
    refine hP.seq (hP.duplicate v) fun v' => ?_
    exact hP.seq (hP.setTop v') fun _ => hclose

lemma opJumpIfSc (on : Bool) : Q (opJumpIfSc on) := by
  refine hP.seq hP.pop fun s => ?_
  refine hP.seq (hP.deref s) fun v => ?_
  split
  · exact hP.seq (hP.push s) fun _ => hP.jumpAndContinue true
  · exact hP.jumpAndContinue false

lemma opCase : Q (Exec.opCase op here) := by
  refine hP.seq hP.fetchU32 fun raw => ?_
  refine hP.seq (hP.look rfl) fun file => ?_
  refine hP.seq (hP.look rfl) fun o => ?_
  refine hP.seq (hP.ofOption _ o) fun k => ?_
  refine hP.seq hP.peekValue fun subject => ?_
  refine hP.seq (hP.onHeap _) fun r => ?_
  cases r with
  | error e => exact hP.rteOp e here op.code
  | ok =>
    dsimp only
    split
    · refine hP.seq (hP.jumpIf true) fun _ => ?_
      exact hP.seq hP.pop fun _ => hP.done
    · exact hP.jumpAndContinue false

lemma dispatch (E : Engine σ) (op : Opcode) (here : Nat)
    (hopen : op.opensFrame = true → ∀ f s, P (Exec.pushFrame f s : Exec σ Unit))
    (hclose : op = .returnOp → Q Exec.closeFrame)
    (hbits : op.writesBits = true → ∀ f, OnlyBits f → P (Proc.modify (Vm.modifyScript f) : Exec σ Unit)) :
    Q (Exec.dispatch E op here) := by
  cases op
  case eqOp | neOp | add | less | grea | leOp | geOp | andOp | orOp | mul | div | subt | powOp
      | mod | leftOp | rightOp | andBit | xorBit | orBit => exact hP.opBinary _ here
  case assign | addAssign | mulAssign | divAssign | subAssign | powAssign | modAssign | leftAssign
      | rightAssign | andAssign | xorAssign | orAssign => exact hP.opAssignment _ here
  case unaNot | unaNega | unaTild => exact hP.opUnary _ here
  case incOp | decOp => exact hP.opPreIncDec _ here
  case incOpPost | decOpPost => exact hP.opPostIncDec _ here
  case push => exact hP.opPush
  case pop => exact hP.seq hP.pop fun _ => hP.done
  case createSimple => exact hP.seq hP.fetchU32 fun _ => hP.pushAndContinue _
  case createArray => exact hP.opCreateArray
  case createArrayDyn => exact hP.opCreateArrayDyn _ here
  case createArrayIniter => exact hP.opCreateArrayIniter _ here
  case createStruct => exact hP.opCreateStruct
  case pushArrayIndex => exact hP.opPushArrayIndex _ here
  case createArrayIndex => exact hP.opCreateArrayIndex _ here
  case pushStructField => exact hP.opPushStructField _ here
  case pushArrayLength => exact hP.opPushArrayLength _ here
  case setArrayLength => exact hP.opSetArrayLength _ here
  case initCopy => exact hP.opInitCopy
  case init => exact hP.opInit
  case cast => exact hP.opCast
  case castBool => exact hP.seq hP.popValue fun _ => hP.pushAndContinue _
  case call =>
    refine hP.seq hP.fetchU32 fun script => ?_
    refine hP.seq (hP.look rfl) fun file => ?_
    exact hP.seq (hopen rfl _ _) fun _ => hP.done
  case callInclude =>
    refine hP.seq hP.fetchU32 fun script => ?_
    refine hP.seq hP.fetchU32 fun link => ?_
    refine hP.seq (hP.look rfl) fun current => ?_
    refine hP.seq (hP.look rfl) fun o => ?_
    refine hP.seq (hP.ofOption _ o) fun links => ?_
    refine hP.seq (hP.ofOption _ _) fun file => ?_
    exact hP.seq (hopen rfl _ _) fun _ => hP.done
  case callGame =>
    refine hP.seq hP.fetchU32 fun idx => ?_
    refine hP.seq (hP.ofOption _ _) fun decl => ?_
    exact hP.seq (hP.callBuiltin (hbits rfl) E decl _) fun _ => hP.done
  case callGameVaried =>
    refine hP.seq hP.fetchU32 fun idx => ?_
    refine hP.seq hP.fetchU32 fun argc => ?_
    refine hP.seq (hP.ofOption _ _) fun decl => ?_
    exact hP.seq (hP.callBuiltin (hbits rfl) E decl _) fun _ => hP.done
  case caseOp => exact hP.opCase _ here
  case breakOp => exact hP.fail _
  case bitSet =>
    refine hP.seq hP.fetchU32 fun i => ?_
    exact hP.seq (hbits rfl _ (onlyBits_modifyTrigger i.toInt32 _)) fun _ => hP.done
  case bitUnset =>
    refine hP.seq hP.fetchU32 fun i => ?_
    exact hP.seq (hbits rfl _ (onlyBits_modifyTrigger i.toInt32 _)) fun _ => hP.done
  case returnOp => exact hP.opReturn (hclose rfl)
  case jump =>
    exact hP.seq hP.fetchU32 fun t => hP.seq (hP.setBip _) fun _ => hP.done
  case jumpIf => exact hP.seq hP.popValue fun v => hP.jumpAndContinue _
  case jumpIfNot => exact hP.seq hP.popValue fun v => hP.jumpAndContinue _
  case jumpIfScTrue => exact hP.opJumpIfSc true
  case jumpIfScFalse => exact hP.opJumpIfSc false
  case jumpIfInited =>
    refine hP.seq hP.fetchU32 fun i => ?_
    exact hP.seq (hP.look rfl) fun inited => hP.jumpAndContinue _
  case jumpIfBitset =>
    refine hP.seq hP.fetchU32 fun i => ?_
    exact hP.seq (hP.look rfl) fun on => hP.jumpAndContinue _
  case marker => exact hP.done
  case scriptMarker => exact hP.seq hP.fetchU32 fun _ => hP.done
  case errorToken => exact hP.fail _

omit [StdLib] in
lemma closeFrame
    (hframes : P (Proc.modify fun vm => { vm with frames := vm.frames.tail } : Exec σ Unit))
    (hstack : ∀ st, P (Proc.modify fun vm => { vm with stack := st } : Exec σ Unit))
    (hreturned : ∀ r, P (Proc.modify fun vm => { vm with returned := r } : Exec σ Unit)) :
    Q Exec.closeFrame := by
  refine hP.seq (hP.look rfl) fun f => hP.seq hframes fun _ => ?_
  refine hP.seq (hP.look rfl) fun len => ?_
  split
  · exact hP.rte _ _ _
  refine hP.seq (hP.look rfl) fun last => ?_
  split
  · refine hP.seq (hP.look rfl) fun stack => ?_
    cases stack with
    | nil => exact hP.seq (hreturned _) fun _ => hP.done
    | cons s rest =>
      refine hP.seq (hstack rest) fun _ => hP.seq (hP.deref s) fun v => ?_
      exact hP.seq (hreturned _) fun _ => hP.done
  · exact hP.done

lemma step (E : Engine σ) (hopen : ∀ f s, P (pushFrame f s : Exec σ Unit))
    (hclose : Q Exec.closeFrame)
    (hbits : ∀ f, OnlyBits f → P (modify (modifyScript f) : Exec σ Unit)) :
    Q (Exec.step E) := by
  refine hP.seq hP.bip fun here => hP.seq hP.fetchU8 fun byte => ?_
  split
  · exact hP.fail _
  · exact hP.dispatch E _ here (fun _ => hopen) (fun _ => hclose) fun _ => hbits

end Answers

/-! ## Frame conditions -/

section Keeps

variable {γ : Type} {f : Vm σ → γ}

lemma sequential_keeps : Sequential (σ := σ) (fun x => Keeps f x) where
  pure := keeps_pure
  bind := Keeps.bind
  throw := keeps_throw
  gets g _ := keeps_gets g
  hang := keeps_hang
  limit := keeps_limit

/-- What depends on neither the stack, nor the variables, nor the world outside is kept by every
primitive. -/
lemma compositional_keeps (hstack : ∀ vm st, f { vm with stack := st } = f vm)
    (hworld : ∀ vm host heap, f { vm with host, heap } = f vm)
    (htop : ∀ vm (bip : Frame → Nat) (locals : Frame → List (Option Slot)),
      f (modifyTop (fun fr => { fr with bip := bip fr, locals := locals fr }) vm) = f vm)
    (hlocal : ∀ vm k i s, f (setLocalAt k i s vm) = f vm)
    (hstatic : ∀ vm file script (g : List (Option Value) → List (Option Value)),
      f { vm with prog := (vm.prog.modifyScript file script fun s => { s with statics := g s.statics }) }
        = f vm) :
    Compositional (σ := σ) (fun x => Keeps f x) where
  toSequential := sequential_keeps
  setBip v := keeps_modify fun vm => htop vm (fun _ => v) Frame.locals
  push s := keeps_modify fun vm => hstack vm (s :: vm.stack)
  pop := keeps_lift fun vm => by
    cases vm.stack with
    | nil => rfl
    | cons s rest => exact hstack vm rest
  setTop v := keeps_modify fun vm => hstack vm (.val v :: vm.stack.tail)
  store := sequential_keeps.store
    (fun file sc i v => keeps_modify fun vm => hstatic vm file sc fun l => l.set i v)
    (fun _ _ => keeps_modify fun vm => hworld vm vm.host _)
    fun k i s => keeps_modify fun vm => hlocal vm k i s
  setSlot r s := by
    cases r with
    | const => exact keeps_throw _
    | static i =>
      refine (sequential_keeps.deref s).bind fun v => keeps_modify fun vm => ?_
      exact hstatic vm _ _ fun l => growSet l i.toNat v
    | «local» i =>
      exact keeps_modify fun vm =>
        htop vm Frame.bip fun fr => growSet fr.locals i.toNat s
  onHeap _ := keeps_zoom fun h vm => hworld vm vm.host h
  duplicate _ := keeps_focus fun h vm => hworld vm vm.host h
  zeroLike _ := keeps_focus fun h vm => hworld vm vm.host h
  alloc g := keeps_lift fun vm => hworld vm vm.host (g vm.heap).2
  setHeap h := keeps_modify fun vm => hworld vm vm.host h
  callHost E decl args := keeps_lift fun vm => hworld vm _ _

/-- What does not count errors either is kept by every handler. -/
lemma Compositional.answers_keeps (hP : Compositional (σ := σ) (fun x => Keeps f x))
    (herr : ∀ vm n, f { vm with errCount := n } = f vm) :
    Answers (σ := σ) (fun x => Keeps f x) (fun x => Keeps f x) where
  toCompositional := hP
  done := keeps_pure _
  fail := keeps_throw
  rte _ _ _ := Keeps.bind (keeps_modify fun vm => herr vm _) fun _ => keeps_pure _
  seq := Keeps.bind

lemma keeps_pushFrame (hframes : ∀ vm fs, f { vm with frames := fs } = f vm)
    (file script : Nat) : Keeps f (pushFrame file script : Exec σ Unit) :=
  sequential_keeps.pushFrame (fun _ => keeps_modify fun vm => hframes vm _) file script

end Keeps

end Exec

end Don.Bhs
