import Don.Bhs.Opcode
import Don.Bhs.Value

/-!
# Ops — `do_operator`

Every arithmetic, comparison, logical and assignment opcode goes through `doOperator`.  There is no
promotion: operands of different types are an error, never converted.
-/

namespace Don.Bhs

open Foundation Proc

def Value.ofBool (b : Bool) : Value :=
  .int (if b then 1 else 0)

/-! ## Scalars -/

/-- Integer division that refuses zero and wraps at the one overflow. -/
def intDiv (x y : Int32) : Except OpError Value :=
  if y = 0 then .error .divideByZero else .ok (.int (x / y))

def intRem (x y : Int32) : Except OpError Value :=
  if y = 0 then .error .divideByZero else .ok (.int (x % y))

section Scalars

variable [StdLib]

/-- `ScriptInt::do_operator` -/
def intOp (a : Int32) (op : Opcode) (rhs : Option Int32) : Except OpError Value :=
  match op with
  | .unaNot => .ok (.ofBool (a < 1))
  -- the right operand is never read
  | .andOp | .orOp => .ok (.ofBool (0 < a))
  | .incOp | .incOpPost => .ok (.int (a + 1))
  | .decOp | .decOpPost => .ok (.int (a - 1))
  | .unaNega => .ok (.int (-a))
  | .unaTild => .ok (.int (~~~a))
  | op =>
    match rhs with
    | none => .error (.badOperand "int binary opcode with no rhs")
    | some r =>
      -- both shifts mask the count to five bits
      let sh := r &&& 31
      match op with
      | .assign => .ok (.int r)
      | .eqOp => .ok (.ofBool (a = r))
      | .neOp => .ok (.ofBool (a ≠ r))
      | .addAssign | .add => .ok (.int (a + r))
      | .less => .ok (.ofBool (a < r))
      | .grea => .ok (.ofBool (r < a))
      | .leOp => .ok (.ofBool (a ≤ r))
      | .geOp => .ok (.ofBool (r ≤ a))
      | .mulAssign | .mul => .ok (.int (a * r))
      | .divAssign | .div => intDiv a r
      | .subAssign | .subt => .ok (.int (a - r))
      | .powOp | .powAssign =>
        .ok (.int (StdLib.toInt (StdLib.powf (StdLib.ofInt a) (StdLib.ofInt r))))
      | .modAssign | .mod => intRem a r
      | .leftAssign | .leftOp => .ok (.int (a <<< sh))
      | .rightAssign | .rightOp => .ok (.int (a >>> sh))
      | .andAssign | .andBit => .ok (.int (a &&& r))
      | .xorAssign | .xorBit => .ok (.int (a ^^^ r))
      | .orAssign | .orBit => .ok (.int (a ||| r))
      | _ => .error (.badOperand "opcode not defined for int")

/-- `1.0` -/
def realOne : UInt32 := 0x3f800000

/-- `ScriptFloat::do_operator` -/
def realOp (a : UInt32) (op : Opcode) (rhs : Option UInt32) : Except OpError Value :=
  match op with
  | .unaNot => .ok (.ofBool (StdLib.le a 0))
  | .andOp | .orOp => .ok (.ofBool (StdLib.lt 0 a))
  | .incOp | .incOpPost => .ok (.real (StdLib.add a realOne))
  | .decOp | .decOpPost => .ok (.real (StdLib.sub a realOne))
  | .unaNega => .ok (.real (a ^^^ 0x80000000))
  | op =>
    match rhs with
    | none => .error (.badOperand "real binary opcode with no rhs")
    | some r =>
      match op with
      | .assign => .ok (.real r)
      | .eqOp => .ok (.ofBool (StdLib.eq a r))
      | .neOp => .ok (.ofBool (!StdLib.eq a r))
      | .addAssign | .add => .ok (.real (StdLib.add a r))
      -- an unordered pair compares as true
      | .less => .ok (.ofBool (!StdLib.lt r a && !StdLib.eq r a))
      | .grea => .ok (.ofBool (!StdLib.lt a r && !StdLib.eq a r))
      | .leOp => .ok (.ofBool (StdLib.le a r))
      | .geOp => .ok (.ofBool (StdLib.le r a))
      | .mulAssign | .mul => .ok (.real (StdLib.mul a r))
      | .divAssign | .div =>
        if StdLib.eq r 0 then .error .divideByZero else .ok (.real (StdLib.div a r))
      | .subAssign | .subt => .ok (.real (StdLib.sub a r))
      | .powOp | .powAssign => .ok (.real (StdLib.trunc (StdLib.powf a r)))
      | _ => .error (.badOperand "opcode not defined for real")

/-- `ScriptString::do_operator`; comparisons ignore case. -/
def strOp (a : String) (op : Opcode) (rhs : Option Value) : Except OpError Value :=
  if op = .unaNot then
    .ok (.ofBool a.isEmpty)
  else
    match rhs with
    | none => .error (.badOperand "string binary opcode with no rhs")
    | some (.str r) =>
      let al := StdLib.toLowercase a
      let rl := StdLib.toLowercase r
      match op with
      | .assign => .ok (.str r)
      | .eqOp => .ok (.ofBool (al = rl))
      | .neOp => .ok (.ofBool (al ≠ rl))
      | .addAssign => .ok (.str (a ++ r))
      | .add => .ok (.str (a ++ r))
      | .less => .ok (.ofBool (al < rl))
      | .grea => .ok (.ofBool (rl < al))
      | .leOp => .ok (.ofBool (al < rl ∨ al = rl))
      | .geOp => .ok (.ofBool (rl < al ∨ al = rl))
      | .andOp => .ok (.ofBool (!a.isEmpty && !r.isEmpty))
      | .orOp => .ok (.ofBool (!a.isEmpty || !r.isEmpty))
      | _ => .error (.badOperand "opcode not defined for string")
    | some _ => .error (.badOperand "string operator with non-string rhs")

end Scalars

/-! ## Aggregates -/

/-- Whether all pairs of elements compare equal, from left to right up to the first that do not. -/
def allEqual (eq : Value → Value → OnHeap Bool) : List CellId → List CellId → OnHeap Bool
  | x :: xs, y :: ys => do
    if ← eq (← Proc.gets (·.cell x)) (← Proc.gets (·.cell y)) then
      allEqual eq xs ys
    else
      return false
  | _, _ => pure true

lemma allEqual_le {f g : Value → Value → OnHeap Bool} (h : ∀ v w, (f v w).Le (g v w)) :
    ∀ xs ys, (allEqual f xs ys).Le (allEqual g xs ys) := by
  intro xs
  induction xs with
  | nil =>
    intro ys
    cases ys <;> exact Le.refl _
  | cons x xs ih =>
    intro ys
    cases ys with
    | nil => exact Le.refl _
    | cons y ys =>
      refine bind_le (Le.refl _) fun v => ?_
      refine bind_le (Le.refl _) fun w => ?_
      refine bind_le (h v w) fun b => ?_
      cases b with
      | true => exact ih ys
      | false => exact Le.refl _

/-- Whether an element comparison answered exactly the integer one. -/
def isOne (x : OnHeap Value) : OnHeap Bool :=
  ⟨fun n h =>
    match x.run n h with
    | .ok v h => .ok (v = .int 1) h
    | .error _ h => .ok false h
    | .hang => .hang,
  fun h hle => by
    rcases x.mono h hle with h | h
    · exact Or.inl (by rw [h])
    · exact Or.inr (by rw [h])⟩

lemma isOne_le {x y : OnHeap Value} (h : x.Le y) : (isOne x).Le (isOne y) := by
  intro n s
  rcases h n s with hle | hle
  · exact Or.inl (by simp only [isOne, hle])
  · exact Or.inr (by simp only [isOne, hle])

/-- Whether two aggregates have equally many elements that compare equal in pairs. -/
def objEqual (eqElem : Value → Value → OnHeap Value) (this other : ObjId) : OnHeap Bool := do
  let xs ← Proc.gets fun h => (h.obj this).values
  let ys ← Proc.gets fun h => (h.obj other).values
  if xs.length = ys.length then
    allEqual (fun v w => isOne (eqElem v w)) xs ys
  else
    return false

lemma objEqual_le {f g : Value → Value → OnHeap Value} (h : ∀ v w, (f v w).Le (g v w))
    (this other : ObjId) : (objEqual f this other).Le (objEqual g this other) := by
  refine bind_le (Le.refl _) fun xs => ?_
  refine bind_le (Le.refl _) fun ys => ?_
  split
  · exact allEqual_le (fun v w => isOne_le (h v w)) xs ys
  · exact Le.refl _

/-- `ScriptArray::do_operator` and `ScriptObject::do_operator`: assign, equal and not-equal.  The
comparison of elements is a parameter; `doOperatorTo` ties the knot. -/
def objOp (eqElem : Value → Value → OnHeap Value) (this : ObjId) (op : Opcode)
    (rhs : Option Value) : OnHeap Value :=
  match rhs.bind Value.obj? with
  | none =>
    match op with
    | .eqOp => pure (.ofBool false)
    | .neOp => pure (.ofBool true)
    | _ => Proc.throw (.badOperand "aggregate operator with no aggregate rhs")
  | some other =>
    match op with
    | .assign => do
      -- the new elements are copies; the prototype of the target stays
      let src ← Proc.gets fun h => (h.obj other).values
      let cells ← mapCells Value.duplicate src
      Proc.modify fun h => h.setObj this { h.obj this with values := cells }
      return .obj this
    | .eqOp => return .ofBool (← objEqual eqElem this other)
    | .neOp => return .ofBool !(← objEqual eqElem this other)
    | _ => Proc.throw (.badOperand "opcode not defined for an aggregate")

lemma objOp_le {f g : Value → Value → OnHeap Value} (h : ∀ v w, (f v w).Le (g v w))
    (this : ObjId) (op : Opcode) (rhs : Option Value) :
    (objOp f this op rhs).Le (objOp g this op rhs) := by
  unfold objOp
  cases rhs.bind Value.obj? with
  | none => exact Le.refl _
  | some other =>
    by_cases heq : op = .eqOp
    · subst heq
      exact bind_le (objEqual_le h this other) fun _ => Le.refl _
    · by_cases hne : op = .neOp
      · subst hne
        exact bind_le (objEqual_le h this other) fun _ => Le.refl _
      · cases op <;> first | exact Le.refl _ | contradiction

/-! ## All values -/

section Operators

variable [StdLib]

/-- The answer of a scalar operator, as a procedure that leaves the heap alone. -/
def OnHeap.ofExcept : Except OpError Value → OnHeap Value
  | .ok a => pure a
  | .error e => Proc.throw e

/-- The type check, and then the operator of the left operand's type. -/
def operate (eqElem : Value → Value → OnHeap Value) (lhs : Value) (op : Opcode)
    (rhs : Option Value) : OnHeap Value := do
  let lt ← Proc.gets lhs.dataType
  let rt ← Proc.gets fun h => rhs.map (·.dataType h)
  if rt.all (· = lt) then
    match lhs with
    | .int a => OnHeap.ofExcept (intOp a op (rhs.map Value.asInt))
    | .real a => OnHeap.ofExcept (realOp a op (rhs.map Value.asReal))
    | .str a => OnHeap.ofExcept (strOp a op rhs)
    | .obj o => objOp eqElem o op rhs
    | .null => Proc.throw (.badOperand "do_operator on a null ScriptType*")
  else
    Proc.throw (.typeMismatch lt (rt.getD 0))

lemma operate_le {f g : Value → Value → OnHeap Value} (h : ∀ v w, (f v w).Le (g v w))
    (lhs : Value) (op : Opcode) (rhs : Option Value) :
    (operate f lhs op rhs).Le (operate g lhs op rhs) := by
  refine bind_le (Le.refl _) fun lt => bind_le (Le.refl _) fun rt => ?_
  split
  · cases lhs with
    | obj o => exact objOp_le h o op rhs
    | _ => exact Le.refl _
  · exact Le.refl _

/-- `do_operator`, comparing aggregates to a given depth. -/
def doOperatorTo : Nat → Value → Opcode → Option Value → OnHeap Value
  | 0 => operate fun _ _ => Proc.hang
  | k + 1 => operate fun v w => doOperatorTo k v .eqOp (some w)

lemma doOperatorTo_le : ∀ (k : Nat) (lhs : Value) (op : Opcode) (rhs : Option Value),
    (doOperatorTo k lhs op rhs).Le (doOperatorTo (k + 1) lhs op rhs) := by
  intro k
  induction k with
  | zero => exact operate_le fun _ _ => hang_le _
  | succ k ih => exact operate_le fun v w => ih v .eqOp (some w)

def doOperator (lhs : Value) (op : Opcode) (rhs : Option Value) : OnHeap Value :=
  Proc.limit (doOperatorTo · lhs op rhs) (doOperatorTo_le · lhs op rhs)

end Operators

end Don.Bhs
