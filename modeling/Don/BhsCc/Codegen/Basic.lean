import Don.BhsCc.Sema
import Don.Foundation.Text

/-!
# Codegen — syntax trees to bytecode

A file is compiled script by script into one code array.  Jumps are emitted with a zero operand and a
fixup; when the script is complete, the fixups are patched with the positions of their labels.

Emitting the default value of a struct follows its fields, and nothing keeps a struct from containing
itself, so code generation is a procedure that may not return (`Proc`); every other recursion here is
over the syntax tree.  The tables that only the checksum reads (line numbers, variable names) are
left out, except for their lengths.
-/

namespace Don.BhsCc

open Foundation Bhs

/-! ## State -/

/-- What stays fixed while a file is compiled. -/
structure Env where
  unit : CompilationUnit
  file : Nat
  builtins : List BuiltinDecl

/-- The lengths of the tables of a script that the machine does not read. -/
structure ScriptSizes where
  varNames : Nat
  staticVarNames : Nat
  deriving DecidableEq

instance : Inhabited ScriptSizes := ⟨⟨0, 0⟩⟩

structure FileGen where
  code : Bytes
  consts : List Value
  scripts : List Script
  sizes : List ScriptSizes
  diags : List Diag
  /-- implicit casts inserted -/
  autoCasts : Nat

/-- The state of the compilation of a script.  Scopes have the innermost first.  The return type and
the targets of `break` and `continue` are parameters of the functions that need them. -/
structure ScriptGen where
  localTy : List Ty
  staticTy : List Ty
  scopes : List (List (String × VarRef))
  labels : Labels
  triggers : List String
  triggerBits : List UInt8
  /-- jump operands to patch: where, and with the position of which label -/
  fixups : List (Nat × Nat)
  labelPos : List (Option UInt32)

structure GenState extends FileGen, ScriptGen

abbrev Gen := Proc GenState Empty

namespace ScriptGen

def start (labels : Labels) : ScriptGen :=
  { localTy := [], staticTy := [], scopes := [[]], labels, triggers := [], triggerBits := [],
    fixups := [], labelPos := [] }

/-- The storage of a name, from the innermost scope outwards. -/
def lookup (g : ScriptGen) (name : String) : Option VarRef :=
  g.scopes.findSome? fun scope => scope.lookup (toAsciiLower name)

def slotTy (g : ScriptGen) : VarRef → Ty
  | .local i => g.localTy.getD i.toNat .untyped
  | .static i => g.staticTy.getD i.toNat .untyped
  | .const _ => .untyped

def bindName (g : ScriptGen) (name : String) (r : VarRef) : ScriptGen :=
  { g with scopes := g.scopes.modifyHead ((toAsciiLower name, r) :: ·) }

end ScriptGen

namespace Gen

def declareLocal (name : String) (ty : Ty) : Gen VarRef :=
  Proc.lift fun s =>
    let r := VarRef.local (UInt32.ofNat s.localTy.length)
    .ok r { s with toScriptGen := { s.bindName name r with localTy := s.localTy ++ [ty] } }

def declareStatic (name : String) (ty : Ty) : Gen VarRef :=
  Proc.lift fun s =>
    let r := VarRef.static (UInt32.ofNat s.staticTy.length)
    .ok r { s with toScriptGen := { s.bindName name r with staticTy := s.staticTy ++ [ty] } }

/-- The bits with a new trigger's set; a fresh byte is all ones. -/
def enableNew (bits : List UInt8) (i : Nat) : List UInt8 :=
  let bits := if bits.length * 8 ≤ i then bits ++ [0xff] else bits
  bits.modify (i / 8) (· ||| 1 <<< UInt8.ofNat (i % 8))

/-- The bit of a trigger; the first mention of a name allocates one. -/
def triggerIndex (name : String) : Gen UInt32 :=
  Proc.lift fun s =>
    match s.triggers.findIdx? fun t => eqIgnoreAsciiCase t name with
    | some i => .ok (UInt32.ofNat i) s
    | none =>
      let i := s.triggers.length
      .ok (UInt32.ofNat i)
        { s with triggers := s.triggers ++ [name], triggerBits := enableNew s.triggerBits i }

/-! ## Emission -/

variable (op : Opcode)

def emit : Gen Unit :=
  Proc.modify fun s => { s with code := s.code ++ [op.code] }

def emitU32 (v : UInt32) : Gen Unit :=
  Proc.modify fun s => { s with code := s.code ++ u32ToLe v }

def emit1 (a : UInt32) : Gen Unit := do
  emit op
  emitU32 a

def emit2 (a c : UInt32) : Gen Unit := do
  emit op
  emitU32 a
  emitU32 c

/-- An operand that will be the position of a label. -/
def emitTarget (label : Nat) : Gen Unit := do
  Proc.modify fun s => { s with fixups := s.fixups ++ [(s.code.length, label)] }
  emitU32 0

def emitJump (label : Nat) : Gen Unit := do
  emit op
  emitTarget label

def emitJump2 (first : UInt32) (label : Nat) : Gen Unit := do
  emit op
  emitU32 first
  emitTarget label

def newLabel : Gen Nat :=
  Proc.lift fun s => .ok s.labelPos.length { s with labelPos := s.labelPos ++ [none] }

/-- A label stands for the current position, as a 32-bit offset. -/
def place (label : Nat) : Gen Unit :=
  Proc.modify fun s =>
    { s with labelPos := s.labelPos.set label (some (UInt32.ofNat s.code.length)) }

/-- The place of a constant in the pool.  Constants are shared when they are equal, reals by their
bits. -/
def intern (v : Value) : Gen UInt32 :=
  Proc.lift fun s =>
    match s.consts.findIdx? fun w => w = v with
    | some i => .ok (UInt32.ofNat i) s
    | none => .ok (UInt32.ofNat s.consts.length) { s with consts := s.consts ++ [v] }

def pushConst (v : Value) : Gen Unit := do
  let c ← intern v
  emit1 .push (VarRef.const c).encode

def inScope (x : Gen Unit) : Gen Unit := do
  Proc.modify fun s => { s with scopes := [] :: s.scopes }
  x
  Proc.modify fun s => { s with scopes := s.scopes.tail }

end Gen

/-! ## Type identities -/

/-- The primes of the engine's string hash. -/
def hashPrimes : List UInt32 :=
  [127, 811, 1597, 2131, 2749, 4759, 5527, 5953, 8117, 9539, 10273, 10753, 11159, 12301, 13217,
    14207, 15413, 17681, 18661, 19013, 21089, 22051, 25111, 25801, 27457, 28057, 29581, 30809, 32611,
    34469, 36067, 37511, 38723, 40093, 41983, 43321, 45083, 47431, 49667, 50767, 53453, 55469, 57193,
    59369, 61987, 65071, 73421, 77849, 84223, 89009]

def hashPrime (i : Nat) : UInt32 :=
  hashPrimes.getD (i % 50) 0

/-- The engine's case-insensitive hash of a type token, from the last character to the first. -/
def bhsTypeHash (name : String) : UInt32 :=
  let units := utf16Units name
  let step (acc : UInt32 × UInt32) (unit : UInt16 × Nat) : UInt32 × UInt32 :=
    let (hash, remaining) := acc
    let (u, index) := unit
    let c := (if 0x41 ≤ u ∧ u ≤ 0x5a then u + 0x20 else u).toUInt32
    (hash + hashPrime c.toNat * remaining + c * hashPrime index, remaining - 1)
  (units.zipIdx.reverse.foldl step (0, UInt32.ofNat units.length)).1

def retailTypeName (u : CompilationUnit) : Ty → Option String
  | .scalar .int => some "int"
  | .scalar .real => some "float"
  | .scalar .str => some "string"
  | .scalar .void => some "void"
  | .scalar _ => none
  | .struct si => some (u.struct si).name
  | .array inner => (retailTypeName u inner).map (· ++ "[]")
  | .untyped => none

/-- The token a struct is identified by: its name and the types of its fields. -/
def structUniqueToken (u : CompilationUnit) (si : Nat) : Option String := do
  let info ← u.structs[si]?
  let names ← info.fields.mapM fun f =>
    retailTypeName u (if f.fixedLen.isSome then .array f.ty else f.ty)
  return names.foldl (fun token name => token ++ name ++ "^") (info.name ++ "$")

def typeTag? (u : CompilationUnit) : Ty → Option UInt32
  | .struct si => (structUniqueToken u si).map bhsTypeHash
  | .array inner => (retailTypeName u inner).map fun name => bhsTypeHash ("@" ++ name)
  | .scalar s => some (Ty.scalar s).tag
  | .untyped => none

def arrayInner : Ty → Ty
  | .array inner => inner
  | other => other

/-! ## Static types of expressions -/

section Static

variable (G : Env)

def staticTy (s : GenState) : Expr → Option Ty
  | .str .. | .locStr .. => some (.scalar .str)
  | .int .. => some (.scalar .int)
  | .real .. => some (.scalar .real)
  | .cast ty _ _ => some (G.unit.resolveType (some ty))
  | .binary .plus lhs rhs _ =>
    match staticTy s lhs, staticTy s rhs with
    | some (.scalar .str), _ => some (.scalar .str)
    | _, some (.scalar .str) => some (.scalar .str)
    | a, _ => a
  | .name n _ => (s.lookup n).map s.slotTy
  | .index base _ _ =>
    match staticTy s base with
    | some (.array inner) => some inner
    | _ => none
  | .member base name _ =>
    match staticTy s base with
    | some (.array _) => some (.scalar .int)
    | some (.struct i) => do
      let info ← G.unit.structs[i]?
      let field ← info.fields[← info.fieldIndex name]?
      return if field.fixedLen.isSome then .array field.ty else field.ty
    | _ => none
  | .call name args _ =>
    ((G.unit.scriptByName name).map (·.ret)).or
      ((resolveBuiltin G.builtins name args.length).map fun d => .scalar d.ret)
  | _ => none

variable (s : GenState)

def structOf (e : Expr) : Option StructInfo :=
  match staticTy G s e with
  | some (.struct i) => G.unit.structs[i]?
  | _ => none

def isArray (e : Expr) : Bool :=
  match staticTy G s e with
  | some (.array _) => true
  | _ => false

def isStr (e : Expr) : Bool :=
  staticTy G s e = some (.scalar .str)

def isStructWithField (base : Expr) (name : String) : Bool :=
  ((structOf G s base).bind (·.fieldIndex name)).isSome

/-- The place of a field; when the type of the base is unknown, that of the only field of the unit
with this name. -/
def fieldIndex (base : Expr) (name : String) : Option Nat :=
  match structOf G s base with
  | some info => info.fieldIndex name
  | none =>
    match G.unit.structs.filterMap (·.fieldIndex name) with
    | [i] => some i
    | _ => none

/-- Whether a call leaves a value, as the compiler sees it in statement position. -/
def callLeavesValue (name : String) (argc : Nat) : Bool :=
  if eqIgnoreAsciiCase name "enable_trigger" || eqIgnoreAsciiCase name "disable_trigger" then
    false
  else
    match G.unit.scriptByName name with
    | some s => s.ret ≠ .scalar .void
    | none =>
      match resolveBuiltin G.builtins name argc with
      | some d => d.ret ≠ .void
      | none => true

def leavesValue : Expr → Bool
  | .call name args _ => callLeavesValue G name args.length
  | .methodCall _ name args _ => callLeavesValue G name (args.length + 1)
  | _ => true

end Static

/-! ## Operators -/

def unaryOp : P → Option Opcode
  | .not => some .unaNot
  | .minus => some .unaNega
  | .tilde => some .unaTild
  | _ => none

def binaryOp : P → Option Opcode
  | .eq => some .eqOp
  | .ne => some .neOp
  | .lt => some .less
  | .gt => some .grea
  | .le => some .leOp
  | .ge => some .geOp
  | .plus => some .add
  | .minus => some .subt
  | .star => some .mul
  | .slash => some .div
  | .percent => some .mod
  | .pow => some .powOp
  | .amp => some .andBit
  | .pipe => some .orBit
  | .caret => some .xorBit
  | .shl => some .leftOp
  | .shr => some .rightOp
  | _ => none

def assignOp : P → Option Opcode
  | .assign => some .assign
  | .addAssign => some .addAssign
  | .subAssign => some .subAssign
  | .mulAssign => some .mulAssign
  | .divAssign => some .divAssign
  | .modAssign => some .modAssign
  | .powAssign => some .powAssign
  | .leftAssign => some .leftAssign
  | .rightAssign => some .rightAssign
  | .andAssign => some .andAssign
  | .xorAssign => some .xorAssign
  | .orAssign => some .orAssign
  | _ => none

end Don.BhsCc
