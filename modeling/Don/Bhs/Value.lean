import Don.Foundation.Ascii
import Don.Foundation.Proc

/-!
# Value — the runtime values of the script language

Aggregates are shared by reference: an element slot is a cell that several stack entries may name,
and a struct or array is one object that several values may point to.  The model makes the identity
explicit: `CellId` and `ObjId` index a `Heap`.  Nothing is ever freed, which no instruction can
observe.

A real is its 32 bits.  What the standard library does with reals and with non-ASCII case is a
parameter, `StdLib`.
-/

namespace Don.Bhs

open Foundation Proc

/-- The functions on `f32` and `str` that come with the implementation language. -/
class StdLib where
  add : UInt32 → UInt32 → UInt32
  sub : UInt32 → UInt32 → UInt32
  mul : UInt32 → UInt32 → UInt32
  div : UInt32 → UInt32 → UInt32
  powf : UInt32 → UInt32 → UInt32
  trunc : UInt32 → UInt32
  lt : UInt32 → UInt32 → Bool
  le : UInt32 → UInt32 → Bool
  eq : UInt32 → UInt32 → Bool
  /-- `i as f32` -/
  ofInt : Int32 → UInt32
  /-- `f as i32` -/
  toInt : UInt32 → Int32
  /-- `f.to_string()` -/
  text : UInt32 → String
  /-- `s.parse::<f32>()` -/
  parse : List Char → Option UInt32
  /-- `s.to_lowercase()` -/
  toLowercase : String → String

/-- Reals as the implementation language of this model has them, for running concrete programs.  No
text is read as a real, and case folding is ASCII. -/
@[reducible] def nativeStd : StdLib where
  add a b := (Float32.ofBits a + Float32.ofBits b).toBits
  sub a b := (Float32.ofBits a - Float32.ofBits b).toBits
  mul a b := (Float32.ofBits a * Float32.ofBits b).toBits
  div a b := (Float32.ofBits a / Float32.ofBits b).toBits
  powf a b := (Float32.ofBits a ^ Float32.ofBits b).toBits
  trunc a :=
    let x := Float32.ofBits a
    (if x < 0 then x.ceil else x.floor).toBits
  lt a b := Float32.ofBits a < Float32.ofBits b
  le a b := Float32.ofBits a ≤ Float32.ofBits b
  eq a b := Float32.ofBits a == Float32.ofBits b
  ofInt i := i.toFloat32.toBits
  toInt f := (Float32.ofBits f).toInt32
  text f := (Float32.ofBits f).toString
  parse _ := none
  toLowercase := toAsciiLower

inductive ScriptTy where
  | int
  | real
  | str
  | void
  | any
  | params
  | group
  | array
  | stringArray
  | offer
  deriving DecidableEq

namespace ScriptTy

/-- The engine's 32-bit tag of a type. -/
def tag : ScriptTy → UInt32
  | int => 0x00057bad
  | real => 0x0012f35f
  | str => 0x00168174
  | void => 0x00084048
  | any => 0x0027b2c1
  | params => 0x0064ea2a
  | group => 0x0139fd8d
  | array => 0x00153c88
  | stringArray => 0x0020d693
  | offer => 0x1d0655f3

def all : List ScriptTy :=
  [int, real, str, void, any, params, group, array, stringArray, offer]

def fromTag (t : UInt32) : Option ScriptTy :=
  all.find? fun ty => ty.tag = t

end ScriptTy

/-- The identity of one storage slot of an aggregate. -/
abbrev CellId := Nat

abbrev ObjId := Nat

inductive Value where
  | int (i : Int32)
  | real (bits : UInt32)
  | str (s : String)
  | obj (o : ObjId)
  | null
  deriving DecidableEq

/-- A struct or an array: the engine has one object for both. -/
structure Obj where
  dataType : UInt32
  values : List CellId
  /-- The prototype element an array grows with; a struct has none. -/
  blankBase : Option Value
  isArray : Bool
  deriving DecidableEq

instance : Inhabited Obj := ⟨⟨0, [], none, false⟩⟩

structure Heap where
  cells : List Value
  objs : List Obj
  deriving DecidableEq

inductive OpError where
  | divideByZero
  | typeMismatch (lhs rhs : UInt32)
  | badOperand (msg : String)
  | notAnArray
  | indexOutOfRange (i : Int32)
  deriving DecidableEq

namespace Heap

def empty : Heap := ⟨[], []⟩

variable (h : Heap)

def cell (c : CellId) : Value :=
  h.cells.getD c .null

def obj (o : ObjId) : Obj :=
  h.objs.getD o default

def setCell (c : CellId) (v : Value) : Heap :=
  { h with cells := h.cells.set c v }

def setObj (o : ObjId) (x : Obj) : Heap :=
  { h with objs := h.objs.set o x }

def newCells (vs : List Value) : List CellId × Heap :=
  (List.range' h.cells.length vs.length, { h with cells := h.cells ++ vs })

def newObj (x : Obj) : Value × Heap :=
  (.obj h.objs.length, { h with objs := h.objs ++ [x] })

/-- An array of `count` slots, each holding the prototype. -/
def newArray (dataType : UInt32) (base : Value) (count : Nat) : Value × Heap :=
  let (cells, h) := h.newCells (List.replicate count base)
  h.newObj ⟨dataType, cells, some base, true⟩

def newStruct (dataType : UInt32) (fields : List Value) : Value × Heap :=
  let (cells, h) := h.newCells fields
  h.newObj ⟨dataType, cells, none, false⟩

/-- Grow an array with its prototype; shrink it only when asked to. -/
def resize (o : ObjId) (count : Nat) (growOnly : Bool) : Except OpError Heap :=
  let x := h.obj o
  match x.blankBase with
  | none => .error .notAnArray
  | some base =>
    if x.values.length < count then
      let (cells, h) := h.newCells (List.replicate (count - x.values.length) base)
      .ok (h.setObj o { x with values := x.values ++ cells })
    else if !growOnly then
      .ok (h.setObj o { x with values := x.values.take count })
    else
      .ok h

end Heap

namespace Value

def obj? : Value → Option ObjId
  | obj o => some o
  | _ => none

/-- The tag the type check of every operator compares. -/
def dataType (h : Heap) : Value → UInt32
  | int _ => ScriptTy.int.tag
  | real _ => ScriptTy.real.tag
  | str _ => ScriptTy.str.tag
  | obj o => (h.obj o).dataType
  | null => 0

section Conversions

variable [StdLib]

def asInt : Value → Int32
  | int i => i
  | real f => StdLib.toInt f
  | str s => (parseInt32 (trim s.toList)).getD 0
  | obj _ => 0
  | null => 0

def asReal : Value → UInt32
  | int i => StdLib.ofInt i
  | real f => f
  | str s => (StdLib.parse (trim s.toList)).getD 0
  | obj _ => 0
  | null => 0

def asString : Value → Except OpError String
  | int i => .ok (toString i.toInt)
  | real f => .ok (StdLib.text f)
  | str s => .ok s
  | obj _ => .error (.badOperand "ScriptObject::get_string is not recovered")
  | null => .error (.badOperand "get_string on a null ScriptType*")

/-- The condition every conditional instruction tests: a number is false when it is not positive. -/
def isFalse : Value → Bool
  | int i => i ≤ 0
  | real f => StdLib.le f 0
  | str s => s.isEmpty
  | obj _ => false
  | null => true

def isTrue (v : Value) : Bool :=
  !v.isFalse

end Conversions

end Value

/-! ## Deep copies -/

section Copies

variable {ε : Type}

/-- Apply a procedure to the contents of each slot and put the answers in fresh slots. -/
def mapCells (f : Value → Proc Heap ε Value) : List CellId → Proc Heap ε (List CellId)
  | [] => pure []
  | c :: cs => do
    let v ← f (← Proc.gets (·.cell c))
    let c' ← Proc.lift fun h => .ok (h.cells.length) { h with cells := h.cells ++ [v] }
    return c' :: (← mapCells f cs)

lemma mapCells_le {f g : Value → Proc Heap ε Value} (h : ∀ v, (f v).Le (g v)) :
    ∀ cs, (mapCells f cs).Le (mapCells g cs) := by
  intro cs
  induction cs with
  | nil => exact Le.refl _
  | cons c cs ih =>
    refine bind_le (Le.refl _) fun v => ?_
    refine bind_le (h v) fun v' => ?_
    refine bind_le (Le.refl _) fun c' => ?_
    exact bind_le ih fun _ => Le.refl _

/-- A copy of an aggregate in which every element went through `f`. -/
def copyObj (f : Value → Proc Heap ε Value) (o : ObjId) : Proc Heap ε Value := do
  let src ← Proc.gets (·.obj o)
  let values ← mapCells f src.values
  Proc.lift fun h => let (v, h) := h.newObj { src with values }; .ok v h

lemma copyObj_le {f g : Value → Proc Heap ε Value} (h : ∀ v, (f v).Le (g v)) (o : ObjId) :
    (copyObj f o).Le (copyObj g o) := by
  refine bind_le (Le.refl _) fun src => ?_
  exact bind_le (mapCells_le h src.values) fun _ => Le.refl _

namespace Value

/-- `duplicate`, exploring aggregates to a given depth. -/
def duplicateTo : Nat → Value → Proc Heap ε Value
  | 0, obj _ => Proc.hang
  | k + 1, obj o => copyObj (duplicateTo k) o
  | _, v => pure v

lemma duplicateTo_le : ∀ (k : Nat) (v : Value),
    (duplicateTo k v : Proc Heap ε Value).Le (duplicateTo (k + 1) v) := by
  intro k
  induction k with
  | zero =>
    intro v
    cases v with
    | obj => exact hang_le _
    | _ => exact Le.refl _
  | succ k ih =>
    intro v
    cases v with
    | obj o => exact copyObj_le ih o
    | _ => exact Le.refl _

/-- The engine's only deep copy; the prototype of an array stays shared. -/
def duplicate (v : Value) : Proc Heap ε Value :=
  Proc.limit (duplicateTo · v) (duplicateTo_le · v)

/-- `zero_like`, exploring aggregates to a given depth. -/
def zeroLikeTo : Nat → Value → Proc Heap ε Value
  | _, real _ => pure (real 0)
  | _, str _ => pure (str "")
  | 0, obj _ => Proc.hang
  | k + 1, obj o => copyObj (zeroLikeTo k) o
  | _, _ => pure (int 0)

lemma zeroLikeTo_le : ∀ (k : Nat) (v : Value),
    (zeroLikeTo k v : Proc Heap ε Value).Le (zeroLikeTo (k + 1) v) := by
  intro k
  induction k with
  | zero =>
    intro v
    cases v with
    | obj => exact hang_le _
    | _ => exact Le.refl _
  | succ k ih =>
    intro v
    cases v with
    | obj o => exact copyObj_le ih o
    | _ => exact Le.refl _

/-- A copy with every scalar cleared: the prototype of an array literal. -/
def zeroLike (v : Value) : Proc Heap ε Value :=
  Proc.limit (zeroLikeTo · v) (zeroLikeTo_le · v)

def zeroOf (tag : UInt32) : Value :=
  match ScriptTy.fromTag tag with
  | some .real => real 0
  | some .str => str ""
  | _ => int 0

end Value

end Copies

abbrev OnHeap := Proc Heap OpError

end Don.Bhs
