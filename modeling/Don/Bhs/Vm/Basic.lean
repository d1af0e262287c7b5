import Don.Bhs.Ops
import Don.Bhs.Program

/-!
# Vm — the stack machine

The operand stack is shared by all frames and holds *storage references*, not copies: a pushed
variable is a `Slot.ref`, an array element is a `Slot.cell`, and both are dereferenced only when an
instruction needs the value.  A local may itself hold such a reference (that is how a `ref` parameter
works), so dereferencing and storing follow chains.

Both stacks are lists with the top first; `BoundRef.frame` counts frames from the bottom.
-/

namespace Don.Bhs

open Foundation Proc

/-! ## References and slots -/

inductive VarRef where
  | const (i : UInt32)
  | static (i : UInt32)
  | «local» (i : UInt32)
  deriving DecidableEq

namespace VarRef

/-- The tag test of `get_value`. -/
def decode (raw : UInt32) : VarRef :=
  if raw &&& 0x20000000 ≠ 0 then
    .const (raw &&& 0xdfffffff)
  else if raw &&& 0x40000000 ≠ 0 then
    .static (raw &&& 0xbfffffff)
  else
    .local raw

def encode : VarRef → UInt32
  | .const i => i ||| 0x20000000
  | .static i => i ||| 0x40000000
  | .local i => i

end VarRef

/-- The storage a reference is bound to, independent of the frame that runs. -/
inductive BoundRef where
  | const (file : Nat) (index : UInt32)
  | static (file script : Nat) (index : UInt32)
  | «local» (frame : Nat) (index : UInt32)
  deriving DecidableEq

inductive Slot where
  | val (v : Value)
  | ref (r : BoundRef)
  | cell (c : CellId)
  deriving DecidableEq

structure Frame where
  file : Nat
  script : Nat
  bip : Nat
  locals : List (Option Slot)
  expectedStack : Nat
  voidReturn : Bool
  deriving DecidableEq

instance : Inhabited Frame := ⟨⟨0, 0, 0, [], 0, true⟩⟩

/-! ## The host boundary -/

structure BuiltinDecl where
  index : UInt32
  name : String
  arity : UInt8
  ret : ScriptTy
  params : List ScriptTy
  deriving DecidableEq

inductive HostError where
  | unimplemented
  | badArgs (reason : String)
  deriving DecidableEq

/-- What the machine is embedded in: the table of engine functions and the host that runs them.  A
host call may change the host and whatever aggregates it can reach, and it always returns. -/
structure Engine (σ : Type) where
  builtins : List BuiltinDecl
  call : BuiltinDecl → List Value → σ → Heap → Except HostError Value × σ × Heap

namespace Engine

variable {σ : Type}

def builtin (E : Engine σ) (index : UInt32) : Option BuiltinDecl :=
  E.builtins[index.toNat]?

def bare : Engine Unit :=
  ⟨[], fun _ _ u h => (.error .unimplemented, u, h)⟩

end Engine

inductive MissingBuiltinPolicy where
  | fail
  | survey
  deriving DecidableEq

/-! ## State, errors, outcomes -/

/-- Why the machine stopped when the reason is not one the language defines. -/
inductive VmError where
  | badOpcode (op : UInt8)
  | codeOverrun (at_ : Nat)
  | stackUnderflow
  | badVarRef (r : VarRef)
  | badBuiltinIndex (i : UInt32)
  | badFileIndex (i : Nat)
  | badScriptIndex (i : Nat)
  | unimplemented (what : String)
  | unimplementedBuiltin (index : UInt32) (name : String)
  | hostRejected (index : UInt32) (name reason : String)
  | budgetExhausted
  deriving DecidableEq

/-- An error of the language itself: it ends the run. -/
structure RuntimeError where
  message : String
  bip : Nat
  op : UInt8
  deriving DecidableEq

structure RunOutcome where
  returned : Option Value
  bytecodesExecuted : Nat
  errCount : Nat
  error : Option RuntimeError
  deriving DecidableEq

inductive Step where
  | continue
  | abort (e : RuntimeError)
  deriving DecidableEq

structure Vm (σ : Type) where
  prog : Program
  host : σ
  heap : Heap
  stack : List Slot
  frames : List Frame
  returned : Option Value
  bytecodesExecuted : Nat
  errCount : Nat
  budget : Nat
  missingBuiltinPolicy : MissingBuiltinPolicy
  deriving DecidableEq

abbrev Exec (σ : Type) := Proc (Vm σ) VmError

namespace Vm

variable {σ : Type}

/-- A machine over a program and a host; the aggregates of both are in the heap. -/
def new (prog : Program) (host : σ) (heap : Heap) : Vm σ :=
  { prog, host, heap, stack := [], frames := [], returned := none, bytecodesExecuted := 0,
    errCount := 0, budget := 50000000, missingBuiltinPolicy := .fail }

variable (vm : Vm σ)

def top : Frame :=
  vm.frames.headD default

def modifyTop (f : Frame → Frame) (vm : Vm σ) : Vm σ :=
  { vm with frames := vm.frames.modifyHead f }

def code : Bytes :=
  (vm.prog.file vm.top.file).code

def script : Script :=
  vm.prog.script vm.top.file vm.top.script

def modifyScript (f : Script → Script) (vm : Vm σ) : Vm σ :=
  { vm with prog := vm.prog.modifyScript vm.top.file vm.top.script f }

def localAt (frame : Nat) (index : UInt32) : Option Slot :=
  ((vm.frames.reverse[frame]?).bind (·.locals[index.toNat]?)).join

/-- Put a slot into a list of locals, growing it with empty ones. -/
def growSet {α : Type} (xs : List (Option α)) (i : Nat) (a : α) : List (Option α) :=
  (xs ++ List.replicate (i + 1 - xs.length) none).set i (some a)

def setLocalAt (frame : Nat) (index : UInt32) (s : Slot) (vm : Vm σ) : Vm σ :=
  { vm with
    frames := (vm.frames.reverse.modify frame fun f =>
      { f with locals := f.locals.set index.toNat (some s) }).reverse }

def setBip (v : Nat) (vm : Vm σ) : Vm σ :=
  vm.modifyTop fun f => { f with bip := v }

end Vm

namespace Exec

variable {σ : Type}

/-! ## Operands -/

def bip : Exec σ Nat :=
  Proc.gets (·.top.bip)

def setBip (v : Nat) : Exec σ Unit :=
  Proc.modify (Vm.setBip v)

def fetchU8 : Exec σ UInt8 := do
  let at_ ← bip
  let b ← Proc.ofOption (.codeOverrun at_) (← Proc.gets (·.code[at_]?))
  setBip (at_ + 1)
  return b

/-- A 32-bit operand at an offset. -/
def peekU32 (at_ : Nat) : Exec σ UInt32 := do
  match ← Proc.gets fun vm => (vm.code.drop at_).take 4 with
  | [b₀, b₁, b₂, b₃] => return u32FromLe b₀ b₁ b₂ b₃
  | _ => Proc.throw (.codeOverrun at_)

def fetchU32 : Exec σ UInt32 := do
  let at_ ← bip
  let v ← peekU32 at_
  setBip (at_ + 4)
  return v

def peekOp : Exec σ (Option UInt8) :=
  Proc.gets fun vm => vm.code[vm.top.bip]?

/-- Take the target operand and go there, or step over it. -/
def jumpIf (taken : Bool) : Exec σ Unit := do
  let at_ ← bip
  if taken then
    setBip (← peekU32 at_).toNat
  else
    setBip (at_ + 4)

/-! ## Values -/

def push (s : Slot) : Exec σ Unit :=
  Proc.modify fun vm => { vm with stack := s :: vm.stack }

def pop : Exec σ Slot :=
  Proc.lift fun vm =>
    match vm.stack with
    | s :: rest => .ok s { vm with stack := rest }
    | [] => .error .stackUnderflow vm

/-- Bind a decoded operand to the storage it names in the running frame. -/
def bindRef (r : VarRef) : Exec σ BoundRef := do
  let f ← Proc.gets (·.top)
  match r with
  | .const i =>
    let _ ← Proc.ofOption (.badVarRef r) (← Proc.gets fun vm =>
      (vm.prog.file f.file).constPool[i.toNat]?)
    return .const f.file i
  | .static i =>
    let _ ← Proc.ofOption (.badVarRef r) (← Proc.gets (·.script.statics[i.toNat]?))
    return .static f.file f.script i
  | .local i =>
    let _ ← Proc.ofOption (.badVarRef r) f.locals[i.toNat]?
    return .local (← Proc.gets (·.frames.length - 1)) i

def read : Slot → Exec σ Value
  | .val v => pure v
  | .ref (.const file index) => do
    Proc.ofOption (.badVarRef (.const index)) (← Proc.gets fun vm =>
      (vm.prog.file file).constPool[index.toNat]?)
  | .ref (.static file script index) => do
    let v ← Proc.ofOption (.badVarRef (.static index)) (← Proc.gets fun vm =>
      (vm.prog.script file script).statics[index.toNat]?)
    return v.getD .null
  | .ref (.local _ index) => Proc.throw (.badVarRef (.local index))
  | .cell c => Proc.gets (·.heap.cell c)

/-- `deref`, following a chain of locals to a given length. -/
def derefTo : Nat → Slot → Exec σ Value
  | 0, .ref (.local _ _) => Proc.hang
  | k + 1, .ref (.local frame index) => do
    let inner ← Proc.ofOption (.badVarRef (.local index)) (← Proc.gets (·.localAt frame index))
    derefTo k inner
  | _, s => read s

lemma derefTo_le : ∀ (k : Nat) (s : Slot),
    (derefTo k s : Exec σ Value).Le (derefTo (k + 1) s) := by
  intro k
  induction k with
  | zero =>
    intro s
    match s with
    | .val _ | .cell _ | .ref (.const _ _) | .ref (.static _ _ _) => exact Le.refl _
    | .ref (.local _ _) => exact hang_le _
  | succ k ih =>
    intro s
    match s with
    | .val _ | .cell _ | .ref (.const _ _) | .ref (.static _ _ _) => exact Le.refl _
    | .ref (.local frame index) =>
      exact bind_le (Le.refl _) fun _ => bind_le (Le.refl _) ih

def deref (s : Slot) : Exec σ Value :=
  Proc.limit (derefTo · s) (derefTo_le · s)

def popValue : Exec σ Value := do
  deref (← pop)

def peekValue : Exec σ Value := do
  let s ← Proc.ofOption .stackUnderflow (← Proc.gets (·.stack.head?))
  deref s

def write : Slot → Value → Exec σ Unit
  | .ref (.const _ index), _ => Proc.throw (.badVarRef (.const index))
  | .ref (.static file script index), v => do
    let _ ← Proc.ofOption (.badVarRef (.static index)) (← Proc.gets fun vm =>
      (vm.prog.script file script).statics[index.toNat]?)
    Proc.modify fun vm =>
      { vm with prog := vm.prog.modifyScript file script fun s =>
          { s with statics := s.statics.set index.toNat (some v) } }
  | .ref (.local _ index), _ => Proc.throw (.badVarRef (.local index))
  | .cell c, v => Proc.modify fun vm => { vm with heap := vm.heap.setCell c v }
  -- assigning to a temporary has no effect
  | .val _, _ => pure ()

/-- `store`, following a chain of locals to a given length. -/
def storeTo : Nat → Slot → Value → Exec σ Unit
  | 0, .ref (.local _ _), _ => Proc.hang
  | k + 1, .ref (.local frame index), v => do
    let inner ← Proc.ofOption (.badVarRef (.local index)) (← Proc.gets (·.localAt frame index))
    match inner with
    | .val _ => Proc.modify (Vm.setLocalAt frame index (.val v))
    | aliased => storeTo k aliased v
  | _, s, v => write s v

lemma storeTo_le : ∀ (k : Nat) (s : Slot) (v : Value),
    (storeTo k s v : Exec σ Unit).Le (storeTo (k + 1) s v) := by
  intro k
  induction k with
  | zero =>
    intro s v
    match s with
    | .val _ | .cell _ | .ref (.const _ _) | .ref (.static _ _ _) => exact Le.refl _
    | .ref (.local _ _) => exact hang_le _
  | succ k ih =>
    intro s v
    match s with
    | .val _ | .cell _ | .ref (.const _ _) | .ref (.static _ _ _) => exact Le.refl _
    | .ref (.local frame index) =>
      refine bind_le (Le.refl _) fun _ => bind_le (Le.refl _) fun inner => ?_
      cases inner with
      | val _ => exact Le.refl _
      | ref r => exact ih (.ref r) v
      | cell c => exact ih (.cell c) v

def store (s : Slot) (v : Value) : Exec σ Unit :=
  Proc.limit (storeTo · s v) (storeTo_le · s v)

/-- Install a slot in a variable, growing the table it lives in. -/
def setSlot (r : VarRef) (s : Slot) : Exec σ Unit :=
  match r with
  | .const _ => Proc.throw (.badVarRef r)
  | .static i => do
    -- a static holds a value, never a reference
    let v ← deref s
    Proc.modify (Vm.modifyScript fun sc => { sc with statics := Vm.growSet sc.statics i.toNat v })
  | .local i =>
    Proc.modify (Vm.modifyTop fun f => { f with locals := Vm.growSet f.locals i.toNat s })

/-- Run a procedure of the heap; its error is the caller's to handle. -/
def onHeap {α : Type} (x : OnHeap α) : Exec σ (Except OpError α) :=
  Proc.zoom (·.heap) (fun h vm => { vm with heap := h }) x

def alloc (f : Heap → Value × Heap) : Exec σ Value :=
  Proc.lift fun vm => let (v, h) := f vm.heap; .ok v { vm with heap := h }

def duplicate (v : Value) : Exec σ Value :=
  Proc.focus (·.heap) (fun h vm => { vm with heap := h }) v.duplicate

def zeroLike (v : Value) : Exec σ Value :=
  Proc.focus (·.heap) (fun h vm => { vm with heap := h }) v.zeroLike

/-! ## Runtime errors -/

def rte (message : String) (here : Nat) (op : UInt8) : Exec σ Step := do
  Proc.modify fun vm => { vm with errCount := vm.errCount + 1 }
  return .abort ⟨message, here, op⟩

/-- The text of an operator error; a type mismatch names the registered types. -/
def opErrorMessage (p : Program) : OpError → String
  | .divideByZero => "Can't Divide 0"
  | .typeMismatch lhs rhs =>
    "operator type mismatch: lhs " ++ (p.typeName lhs).getD (hex lhs.toNat) ++ ", rhs "
      ++ (p.typeName rhs).getD (hex rhs.toNat)
  | .badOperand m => m
  | .notAnArray => "variable is not an array"
  | .indexOutOfRange i => "array index " ++ toString i.toInt ++ " out of range"

def rteOp (e : OpError) (here : Nat) (op : UInt8) : Exec σ Step := do
  rte (opErrorMessage (← Proc.gets (·.prog)) e) here op

/-! ## Frames -/

/-- Open a frame for a script; its arguments stay on the shared stack. -/
def pushFrame (file script : Nat) : Exec σ Unit := do
  let f ← Proc.ofOption (.badFileIndex file) (← Proc.gets (·.prog.files[file]?))
  let s ← Proc.ofOption (.badScriptIndex script) f.scripts[script]?
  let voidReturn := s.returnType = ScriptTy.void.tag
  let len ← Proc.gets (·.stack.length)
  if len < s.arity then
    Proc.throw .stackUnderflow
  else
    let expected := len - s.arity + if voidReturn then 0 else 1
    Proc.modify fun vm =>
      { vm with frames := ⟨file, script, s.entry.toNat, [], expected, voidReturn⟩ :: vm.frames }

/-- Close the running frame: the stack must have the size the call promised. -/
def closeFrame : Exec σ Step := do
  let f ← Proc.gets (·.top)
  Proc.modify fun vm => { vm with frames := vm.frames.tail }
  let len ← Proc.gets (·.stack.length)
  if len ≠ f.expectedStack then
    Proc.modify fun vm => { vm with errCount := vm.errCount + 1 }
    return .abort ⟨"wrong number of params: stack " ++ toString len ++ " != expected "
      ++ toString f.expectedStack, f.bip, 0x3e⟩
  else if (← Proc.gets (·.frames.isEmpty)) && !f.voidReturn then
    -- the outermost frame hands its value to the caller of the machine
    match ← Proc.gets (·.stack) with
    | s :: rest =>
      Proc.modify fun vm => { vm with stack := rest }
      let v ← deref s
      Proc.modify fun vm => { vm with returned := some v }
    | [] => Proc.modify fun vm => { vm with returned := none }
    return .continue
  else
    return .continue

end Exec

end Don.Bhs
