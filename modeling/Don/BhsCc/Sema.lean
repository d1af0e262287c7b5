import Don.BhsCc.Ast
import Don.Bhs.Vm.Basic
import Mathlib.Data.List.GetD

/-!
# Sema — includes, structs, labels and the script table

Analysis turns a root file into a compilation unit.  Declared types are not checked: they only say
what a variable is allocated as.  What is checked is that includes resolve, that labels and struct
fields do not collide and that no script is defined twice; a script that is only declared is entered
in the table all the same.

Files are found and parsed by a `SourceTree`.  The 64-bit arithmetic of constants wraps.
-/

namespace Don.BhsCc

open Foundation Bhs List

/-! ## Diagnostics -/

inductive Severity where
  | note
  | warning
  | error
  deriving DecidableEq

structure Diag where
  severity : Severity
  file : String
  pos : Pos
  msg : String
  deriving DecidableEq

def hasError (ds : List Diag) : Bool :=
  ds.any fun d => d.severity = .error

/-! ## Types -/

/-- A type after name resolution; a struct is an index into the table of the unit. -/
inductive Ty where
  | scalar (s : ScriptTy)
  | struct (si : Nat)
  | array (inner : Ty)
  /-- a written name that did not resolve -/
  | untyped
  deriving DecidableEq

def Ty.tag : Ty → UInt32
  | .scalar s => s.tag
  | .array (.scalar .str) => ScriptTy.stringArray.tag
  | .array _ => ScriptTy.array.tag
  | .struct _ => ScriptTy.any.tag
  | .untyped => ScriptTy.any.tag

def scalarFromName (name : String) : Option ScriptTy :=
  match toAsciiLower name with
  | "int" => some .int
  | "bool" => some .int
  | "float" | "real" => some .real
  | "string" => some .str
  | "void" => some .void
  | "group" => some .group
  | "anytype" | "any" => some .any
  | "offer" => some .offer
  | _ => none

structure StructField where
  name : String
  ty : Ty
  fixedLen : Option Int64
  deriving DecidableEq

/-- A struct of the unit; the order of the fields is the layout. -/
structure StructInfo where
  name : String
  fields : List StructField
  deriving DecidableEq

instance : Inhabited StructInfo := ⟨⟨"", []⟩⟩

def StructInfo.fieldIndex (s : StructInfo) (name : String) : Option Nat :=
  s.fields.findIdx? fun f => eqIgnoreAsciiCase f.name name

/-! ## The compilation unit -/

structure ScriptInfo where
  name : String
  /-- the file that defines it, or that declares it when none does -/
  file : Nat
  /-- the operand of `OP_CALL` -/
  indexInFile : Nat
  arity : Nat
  ret : Ty
  hasBody : Bool
  deriving DecidableEq

/-- The constants in scope, newest first. -/
abbrev Labels := List (String × Int64)

structure FileUnit where
  path : String
  ast : SourceFile
  /-- the files this one includes; a position here is the file operand of `OP_CALL_INCLUDE` -/
  includes : List Nat
  /-- the scripts in the order of their declaration -/
  scriptNames : List String

instance : Inhabited FileUnit := ⟨⟨"", ⟨"", []⟩, [], []⟩⟩

structure CompilationUnit where
  files : List FileUnit
  structs : List StructInfo
  labels : Labels
  scripts : List ScriptInfo
  diags : List Diag

namespace CompilationUnit

def empty : CompilationUnit := ⟨[], [], [], [], []⟩

variable (u : CompilationUnit)

def file (i : Nat) : FileUnit :=
  u.files.getD i default

lemma file_mem {u : CompilationUnit} {i : Nat} (h : i < u.files.length) : u.file i ∈ u.files := by
  rw [file, getD_eq_getElem u.files default h]
  exact getElem_mem h

lemma exists_file_eq {u : CompilationUnit} {f : FileUnit} (h : f ∈ u.files) :
    ∃ i < u.files.length, u.file i = f := by
  obtain ⟨i, hi, rfl⟩ := mem_iff_getElem.1 h
  exact ⟨i, hi, getD_eq_getElem u.files default hi⟩

def struct (si : Nat) : StructInfo :=
  u.structs.getD si default

def structByName (name : String) : Option Nat :=
  u.structs.findIdx? fun s => eqIgnoreAsciiCase s.name name

def scriptByName (name : String) : Option ScriptInfo :=
  u.scripts.find? fun s => eqIgnoreAsciiCase s.name name

/-- An omitted type is `int`. -/
def resolveType : Option TypeRef → Ty
  | none => .scalar .int
  | some t =>
    let base :=
      match scalarFromName t.name with
      | some s => .scalar s
      | none =>
        match u.structByName t.name with
        | some i => .struct i
        | none => .untyped
    Nat.repeat .array t.arrayDepth.toNat base

def addDiag (d : Diag) : CompilationUnit :=
  { u with diags := u.diags ++ [d] }

end CompilationUnit

/-! ## Loading -/

structure SourceTree where
  /-- `canonicalize` -/
  canon : String → String
  parse : String → Except String SourceFile
  /-- the file an `include` in a file opens -/
  resolve : String → String → Option String
  maxDepth : Nat

/-- Files loaded so far, and where each canonical path stands. -/
structure LoadState where
  files : List FileUnit
  diags : List Diag
  seen : List (String × Nat)

namespace LoadState

def addDiag (st : LoadState) (severity : Severity) (file : String) (pos : Pos) (msg : String) :
    LoadState :=
  { st with diags := st.diags ++ [⟨severity, file, pos, msg⟩] }

def addInclude (st : LoadState) (idx child : Nat) : LoadState :=
  { st with files := st.files.modify idx fun f => { f with includes := f.includes ++ [child] } }

end LoadState

/-- A loader of one file: its index, and the state with everything it includes. -/
abbrev Loader := String → LoadState → Except String (Nat × LoadState)

/-- One `include` of a file; `none` stands for a nesting that is already at its limit. -/
def includeFile (S : SourceTree) (load : Option Loader) (path : String) (idx : Nat)
    (st : LoadState) (inc : String × Pos) : Except String LoadState := do
  let (name, pos) := inc
  match load with
  | none =>
    return st.addDiag .error path pos
      ("`include \"" ++ name ++ "\"` exceeds the retail nesting limit of " ++ toString S.maxDepth)
  | some load =>
    match S.resolve path name with
    | some p =>
      let already := (st.seen.lookup (S.canon p)).isSome
      let (child, st) ← load p st
      let st :=
        if already then
          st.addDiag .note path pos
            ("`include \"" ++ name ++ "\"` is already in this unit; retail's "
              ++ "`included_files` guard cannot fire, so retail may lex it again")
        else
          st
      return st.addInclude idx child
    | none =>
      return st.addDiag .error path pos
        ("cannot resolve `include \"" ++ name ++ "\"`: no candidate of "
          ++ "`Lexer::open_file` 0x009bff30 opens")

def SourceFile.includes (f : SourceFile) : List (String × Pos) :=
  f.items.filterMap fun
    | .include path pos => some (path, pos)
    | _ => none

/-- Load a file and what it includes, `left` levels deep.  A file is entered before its includes are
followed, so an include cycle ends at the file already entered. -/
def load (S : SourceTree) : Nat → Loader
  | left, path, st => do
    let key := S.canon path
    match st.seen.lookup key with
    | some i => return (i, st)
    | none =>
      let ast ← S.parse path
      let idx := st.files.length
      let st : LoadState :=
        { st with seen := (key, idx) :: st.seen, files := st.files ++ [⟨path, ast, [], []⟩] }
      let deeper : Option Loader :=
        match left with
        | 0 => none
        | left + 1 => some (load S left)
      let st ← ast.includes.foldlM (includeFile S deeper path idx) st
      return (idx, st)

/-! ## Structs -/

/-- The struct declarations of a file: at file scope and at the top of a body. -/
def SourceFile.structDefs (f : SourceFile) : List StructDef :=
  let ofStmts (stmts : List Stmt) := stmts.filterMap fun
    | .struct d => some d
    | _ => none
  f.items.flatMap fun
    | .struct d => [d]
    | .script ⟨_, some b⟩ => ofStmts b.stmts
    | .main m => ofStmts m.body.stmts
    | _ => []

variable (u : CompilationUnit)

/-- Enter a struct without its fields; the first declaration of a name wins. -/
def declareStruct (d : StructDef) : CompilationUnit :=
  if u.structs.any fun s => eqIgnoreAsciiCase s.name d.name then
    u
  else
    { u with structs := u.structs ++ [⟨d.name, []⟩] }

def addField (file : String) (d : StructDef) (acc : CompilationUnit × List StructField) (f : Field) :
    CompilationUnit × List StructField :=
  let (u, fields) := acc
  if fields.any fun x => eqIgnoreAsciiCase x.name f.name then
    (u.addDiag ⟨.error, file, f.pos,
      "duplicate field `" ++ f.name ++ "` in struct `" ++ d.name ++ "`"⟩, fields)
  else
    let ty := u.resolveType (some f.ty)
    match f.fixedLen with
    | some (.int n _) => (u, fields ++ [⟨f.name, ty, some n⟩])
    | some e =>
      (u.addDiag ⟨.error, file, e.pos, "struct field array length is not a literal; "
        ++ "dynamic substitution is not recovered"⟩, fields ++ [⟨f.name, ty, none⟩])
    | none => (u, fields ++ [⟨f.name, ty, none⟩])

/-- Fill in the fields of a struct that has none yet. -/
def defineStruct (file : String) (d : StructDef) : CompilationUnit :=
  match u.structByName d.name with
  | none => u
  | some si =>
    if (u.struct si).fields.isEmpty then
      let (u, fields) := d.fields.foldl (addField file d) (u, [])
      { u with structs := u.structs.modify si fun s => { s with fields } }
    else
      u

/-- Two passes, so that a struct may name one declared later. -/
def collectStructs : CompilationUnit :=
  let defs := u.files.flatMap fun f => f.ast.structDefs.map fun d => (f.path, d)
  let u := defs.foldl (fun u d => declareStruct u d.2) u
  defs.foldl (fun u d => defineStruct u d.1 d.2) u

/-! ## Labels -/

/-- Why an expression has no constant value: it is none, or its evaluation panics. -/
inductive ConstFault where
  | notConstant
  | panic
  deriving DecidableEq

/-- A quotient or remainder; that of the least integer by minus one overflows, which panics in every profile. -/
def constDiv (op : Int64 → Int64 → Int64) (a b : Int64) : Except ConstFault Int64 :=
  if b = 0 then .error .notConstant
  else if a = Int64.minValue ∧ b = -1 then .error .panic
  else .ok (op a b)

def constInt (env : Labels) : Expr → Except ConstFault Int64
  | .int v _ => .ok v
  | .name n _ => (env.lookup n).elim (.error .notConstant) .ok
  | .unary .minus e _ => (constInt env e).map (- ·)
  | .unary .not e _ => (constInt env e).map fun v => if v = 0 then 1 else 0
  | .unary .tilde e _ => (constInt env e).map (~~~ ·)
  | .binary op lhs rhs _ => do
    let a ← constInt env lhs
    let b ← constInt env rhs
    match op with
    | .plus => .ok (a + b)
    | .minus => .ok (a - b)
    | .star => .ok (a * b)
    | .slash => constDiv (· / ·) a b
    | .percent => constDiv (· % ·) a b
    | .shl => .ok (a <<< b)
    | .shr => .ok (a >>> b)
    | .amp => .ok (a &&& b)
    | .pipe => .ok (a ||| b)
    | .caret => .ok (a ^^^ b)
    | _ => .error .notConstant
  | _ => .error .notConstant

/-- The value of an entry; `none` is a panic, here and below. -/
def labelValue (env : Labels) (file : String) (next : Int64) (d : LabelDef) : Option (Int64 × List Diag) :=
  match d.value with
  | none => some (next, [])
  | some e =>
    match constInt env e with
    | .ok v => some (v, [])
    | .error .panic => none
    | .error .notConstant =>
      some (next, [⟨.error, file, d.pos,
        "`labels` entry `" ++ d.name ++ "` is not a constant expression"⟩])

/-- Numbering starts at `next`, and an entry without a value is one more than the entry before. -/
def evalLabelsFrom (file : String) :
    Int64 → List LabelDef → Labels → List Diag → Option (Labels × List Diag)
  | _, [], env, diags => some (env, diags)
  | next, d :: ds, env, diags => do
    let (v, complaint) ← labelValue env file next d
    let clash :=
      match env.lookup d.name with
      | some prev =>
        if prev = v then
          []
        else
          [⟨.error, file, d.pos, "label `" ++ d.name ++ "` redefined (" ++ toString prev.toInt
            ++ " -> " ++ toString v.toInt ++ ")"⟩]
      | none => []
    evalLabelsFrom file (v + 1) ds ((d.name, v) :: env) (diags ++ complaint ++ clash)

def evalLabels (file : String) (defs : List LabelDef) (env : Labels) (diags : List Diag) :
    Option (Labels × List Diag) :=
  evalLabelsFrom file 1 defs env diags

/-- The file-scope labels of all files share one scope. -/
def collectLabels : Option CompilationUnit := do
  let blocks := u.files.flatMap fun f => f.ast.items.filterMap fun
    | .labels defs _ => some (f.path, defs)
    | _ => none
  let (labels, diags) ← blocks.foldlM (fun acc b => evalLabels b.1 b.2 acc.1 acc.2) (u.labels, u.diags)
  return { u with labels := labels, diags := diags }

/-! ## Scripts -/

def fileName (path : String) : Option (List Char) :=
  let components := (path.toList.splitOn '/').filter fun c => c ≠ [] ∧ c ≠ ['.']
  components.getLast?.filter fun c => c ≠ ['.', '.']

/-- The name of a file's anonymous script: the name of the file without its extension. -/
def entryName (path : String) : String :=
  match fileName path with
  | none => "main"
  | some name =>
    -- a dot in front does not start an extension
    match (name.reverse.dropWhile (· ≠ '.')).tail.reverse with
    | [] => String.ofList name
    | stem => String.ofList stem

/-- The script an item declares: its name, signature and body, if any. -/
structure ScriptItem where
  sig : ScriptSig
  body : Option Block

def Item.script? (path : String) : Item → Option ScriptItem
  | .script d => some ⟨d.sig, d.body⟩
  | .main m => some ⟨⟨m.ret, some m.scriptType, entryName path, [], m.pos⟩, some m.body⟩
  | _ => none

def FileUnit.scriptItems (f : FileUnit) : List ScriptItem :=
  f.ast.items.filterMap (·.script? f.path)

/-- Names without repetition; the first spelling is kept. -/
def addName (names : List String) (name : String) : List String :=
  if names.any fun n => eqIgnoreAsciiCase n name then names else names ++ [name]

/-- First pass: the scripts of a file are numbered in the order of their declaration. -/
def indexScripts (f : FileUnit) : FileUnit :=
  { f with scriptNames := (f.scriptItems.map (·.sig.name)).foldl addName [] }

def scriptInfo (fi : Nat) (it : ScriptItem) : ScriptInfo :=
  { name := it.sig.name
    file := fi
    indexInFile :=
      ((u.file fi).scriptNames.findIdx? fun n => eqIgnoreAsciiCase n it.sig.name).getD 0
    arity := it.sig.params.length
    ret := u.resolveType it.sig.ret
    hasBody := it.body.isSome }

/-- Second pass, one entry: a definition wins over forward declarations, and a name is defined
once. -/
def addScript (acc : List ScriptInfo × List Diag) (entry : Nat × ScriptItem) :
    List ScriptInfo × List Diag :=
  let (scripts, diags) := acc
  let (fi, it) := entry
  let info := scriptInfo u fi it
  match scripts.findIdx? fun s => eqIgnoreAsciiCase s.name info.name with
  | none => (scripts ++ [info], diags)
  | some i =>
    let prev := scripts.getD i info
    if prev.hasBody && info.hasBody then
      (scripts, diags ++ [⟨.error, (u.file fi).path, it.sig.pos,
        "script `" ++ info.name ++ "` defined more than once"⟩])
    else if !prev.hasBody then
      (scripts.set i info, diags)
    else
      (scripts, diags)

def CompilationUnit.scriptItems : List (Nat × ScriptItem) :=
  u.files.zipIdx.flatMap fun f => f.1.scriptItems.map fun it => (f.2, it)

def collectScripts : CompilationUnit :=
  let u := { u with files := u.files.map indexScripts }
  let (scripts, diags) := u.scriptItems.foldl (addScript u) ([], u.diags)
  { u with scripts := scripts, diags := diags }

def analyze (S : SourceTree) (root : String) : Except String CompilationUnit := do
  let (_, st) ← load S S.maxDepth root ⟨[], [], []⟩
  let u : CompilationUnit := { CompilationUnit.empty with files := st.files, diags := st.diags }
  match collectLabels (collectStructs u) with
  | some u => return collectScripts u
  | none => throw "attempt to divide with overflow"

def unitOf (r : Except String CompilationUnit) : CompilationUnit :=
  r.toOption.getD CompilationUnit.empty

lemma eq_ok_unitOf {r : Except String CompilationUnit} (h : r.toOption.isSome = true) :
    r = .ok (unitOf r) := by
  cases r with
  | ok => rfl
  | error => simp [Except.toOption] at h

def SourceTree.single (f : SourceFile) : SourceTree :=
  { canon := id, parse := fun _ => .ok f, resolve := fun _ _ => none, maxDepth := 16 }

/-! ## The script table of a file -/

def ScriptItem.Listed (names : List String) (it : ScriptItem) : Prop :=
  ∃ n ∈ names, eqIgnoreAsciiCase n it.sig.name = true

lemma listed_foldl_addName {name : String} (added : List String) : ∀ names : List String,
    (∃ n ∈ names, eqIgnoreAsciiCase n name = true) ∨ name ∈ added →
    ∃ n ∈ added.foldl addName names, eqIgnoreAsciiCase n name = true := by
  induction added with
  | nil =>
    intro names h
    rcases h with h | h
    · exact h
    · exact (not_mem_nil h).elim
  | cons a added ih =>
    intro names h
    refine ih (addName names a) ?_
    -- an old name stays, and the name being added is there afterwards under some spelling
    rcases h with ⟨n, hn, heq⟩ | h
    · refine Or.inl ⟨n, ?_, heq⟩
      unfold addName
      split
      · exact hn
      · exact mem_append_left _ hn
    · rcases mem_cons.1 h with rfl | h
      · left
        unfold addName
        split
        · rename_i hany
          simpa using hany
        · exact ⟨name, by simp, by simp [eqIgnoreAsciiCase]⟩
      · exact Or.inr h

lemma listed_of_analyze {S : SourceTree} {root : String} {u : CompilationUnit}
    (h : analyze S root = .ok u) {f : FileUnit} (hf : f ∈ u.files) {it : ScriptItem}
    (hit : it ∈ f.scriptItems) : it.Listed f.scriptNames := by
  unfold analyze at h
  cases hload : load S S.maxDepth root ⟨[], [], []⟩ with
  | error =>
    rw [hload] at h
    cases h
  | ok =>
    rw [hload] at h
    dsimp only [bind, Except.bind] at h
    split at h
    all_goals cases h
    obtain ⟨f₀, -, rfl⟩ := mem_map.1 hf
    exact listed_foldl_addName _ [] (Or.inr (mem_map_of_mem hit))

/-! ## Builtins -/

section Builtins

variable (builtins : List BuiltinDecl)

/-- Every registration of a name, in index order. -/
def builtinOverloads (name : String) : List BuiltinDecl :=
  builtins.filter fun b => eqIgnoreAsciiCase b.name name

/-- The registration a call resolves to: by arity, or a variadic one with enough arguments. -/
def resolveBuiltin (name : String) (argc : Nat) : Option BuiltinDecl :=
  let cands := builtinOverloads builtins name
  match cands.find? fun d => d.arity.toNat = argc with
  | some d => some d
  | none =>
    cands.find? fun d => d.params.getLast? = some .params ∧ d.arity.toNat ≤ argc + 1

end Builtins

end Don.BhsCc
