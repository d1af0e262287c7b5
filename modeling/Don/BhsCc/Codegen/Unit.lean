import Don.BhsCc.Codegen.Stmt
import Don.Foundation.Assembly

/-!
# Unit — scripts, files and whole units

A script is compiled into the code array of its file, behind the scripts compiled before it, and its
jumps are patched when it is complete.
-/

namespace Don.BhsCc

open Foundation Bhs

namespace Gen

variable (G : Env)

/-! ## Scripts -/

mutual

/-- Labels of a body are visible throughout the script, so they are evaluated before it is
compiled. -/
def hoistLabels : Stmt → Gen Unit
  | .labels defs _ => Proc.lift fun s =>
    match evalLabels (G.unit.file G.file).path defs s.labels s.diags with
    | some (labels, diags) => .ok () { s with labels := labels, diags := diags }
    | none => .hang
  | .block stmts _ => hoistAll stmts
  | .runOnce body _ _ => hoistAll body
  | _ => pure ()

def hoistAll : List Stmt → Gen Unit
  | [] => pure ()
  | s :: ss => do
    hoistLabels s
    hoistAll ss

end

/-- The parameters take the first local slots; a `ref` parameter keeps the caller's storage. -/
def params : List Param → Gen Unit
  | [] => pure ()
  | p :: ps => do
    let slot ← declareLocal p.name (G.unit.resolveType p.ty)
    emit1 (if p.byRef then .init else .initCopy) slot.encode
    params ps

/-- Whether a body ends in a `return`. -/
def endsInReturn (stmts : List Stmt) : Bool :=
  match stmts.getLast? with
  | some (.return ..) => true
  | _ => false

def tailReturn (ret : Ty) (body : Block) : Gen Unit :=
  if endsInReturn body.stmts then
    pure ()
  else do
    defaultReturn G ret body.pos
    emit .returnOp

/-- Write the positions of the labels into the jump operands; a label without a position stands for
the end of the code. -/
def patch (labelPos : List (Option UInt32)) (code : Bytes) (fixups : List (Nat × Nat)) : Bytes :=
  Assembly.patchAll (fun l => ((labelPos[l]?).join).getD (UInt32.ofNat code.length)) code fixups

def paramTags : List Param → Gen (List UInt32)
  | [] => return []
  | p :: ps => do
    let tag ← resolvedTypeTag G (G.unit.resolveType p.ty) p.pos
    return tag :: (← paramTags ps)

def finishScript (si : Nat) (sig : ScriptSig) (entry returnType : UInt32) (params : List UInt32) : Gen Unit :=
  Proc.modify fun s =>
    { s with
      scripts := s.scripts.modify si fun sc =>
        { sc with arity := sig.params.length, params, refs := sig.params.map fun p => if p.byRef then 1 else 0,
                  entry, returnType, triggerNames := s.triggers,
                  statics := [], triggerBits := s.triggerBits,
                  triggerCount := Int32.ofNat s.triggers.length }
      sizes := s.sizes.set si ⟨s.localTy.length, s.staticTy.length⟩ }

/-- The code of a script: its marker, the parameters, the body and the tail return. -/
def scriptBody (si : Nat) (sig : ScriptSig) (ret : Ty) (body : Block) : Gen Unit := do
  emit1 .scriptMarker (UInt32.ofNat si)
  params G sig.params
  hoistAll G body.stmts
  stmtList G ret ⟨none, none⟩ body.stmts
  tailReturn G ret body

/-- Compile a script that has a place in the table of the file. -/
def scriptAt (si : Nat) (sig : ScriptSig) (body : Block) : Gen Unit := do
  let entry ← Proc.gets fun s => UInt32.ofNat s.code.length
  let ret := G.unit.resolveType sig.ret
  Proc.modify fun s => { s with toScriptGen := ScriptGen.start G.unit.labels }
  scriptBody G si sig ret body
  Proc.modify fun s => { s with code := patch s.labelPos s.code s.fixups, fixups := [] }
  let returnType ← resolvedTypeTag G ret body.pos
  let params ← paramTags G sig.params
  finishScript si sig entry returnType params

def script (sig : ScriptSig) (body : Block) : Gen Unit := do
  match ← Proc.gets (·.scripts.findIdx? fun sc => eqIgnoreAsciiCase sc.name sig.name) with
  | none => pure ()
  | some si => scriptAt G si sig body

/-- A script item; a forward declaration has no code. -/
def scriptItem (it : ScriptItem) : Gen Unit :=
  match it.body with
  | some body => script G it.sig body
  | none => pure ()

def scripts : List ScriptItem → Gen Unit
  | [] => pure ()
  | it :: its => do
    scriptItem G it
    scripts its

end Gen

/-! ## Files and units -/

/-- A file before any of its scripts is compiled. -/
def GenState.start (names : List String) : GenState :=
  { code := [], consts := [], scripts := names.map fun n => { (default : Script) with name := n },
    sizes := names.map fun _ => default, diags := [], autoCasts := 0,
    toScriptGen := ScriptGen.start [] }

def GenState.toScriptFile (s : GenState) : ScriptFile :=
  ⟨s.code, s.scripts, s.consts⟩

def compileFiles (u : CompilationUnit) (builtins : List BuiltinDecl) :
    List Nat → Proc Unit Empty (List GenState)
  | [] => return []
  | fi :: fis => do
    let f := u.file fi
    let (_, s) ← Proc.withState (GenState.start f.scriptNames)
      (Gen.scripts ⟨u, fi, builtins⟩ f.scriptItems)
    return s :: (← compileFiles u builtins fis)

/-- A table the engine can count. -/
def countable (n : Nat) : Bool :=
  n ≤ 2147483647

/-- The tables of a file that the checksum walks all have counts, and its constants are scalars. -/
def walkable (f : FileUnit) (s : GenState) : Bool :=
  (s.scripts.all fun sc => countable sc.params.length && countable sc.refs.length
      && countable sc.triggerNames.length)
    && (s.sizes.all fun z => countable z.varNames && countable z.staticVarNames)
    && (s.consts.all fun v => v.obj?.isNone && v ≠ .null)
    && (f.includes.all countable)
    && countable s.code.length && countable s.scripts.length && countable f.includes.length

/-- The link table that goes with the checksum data, if that can be made. -/
def compilerWalkMeta (u : CompilationUnit) (gens : List GenState) : Option (List (List Nat)) :=
  if u.files.length = gens.length ∧ (u.files.zip gens).all fun p => walkable p.1 p.2 then
    some (u.files.map (·.includes))
  else
    none

/-- A file that cannot be executed. -/
def ScriptFile.poison (f : ScriptFile) : ScriptFile :=
  { f with code := [Opcode.errorToken.code], scripts := f.scripts.map fun sc => { sc with entry := 0 } }

structure CompileOutput where
  prog : Program
  diags : List Diag
  autoCasts : Nat

/-- The program of a compiled unit: poisoned when analysis or code generation reported an error. -/
def assemble (u : CompilationUnit) (gens : List GenState) : CompileOutput :=
  let diags := gens.flatMap (·.diags)
  let files := gens.map (·.toScriptFile)
  let prog : Program :=
    if hasError (u.diags ++ diags) then
      { Program.empty with files := files.map ScriptFile.poison }
    else
      { Program.empty with files := files, linkedFiles := (compilerWalkMeta u gens).getD [] }
  ⟨prog, diags, (gens.map (·.autoCasts)).sum⟩

def compile (u : CompilationUnit) (builtins : List BuiltinDecl) : Proc Unit Empty CompileOutput := do
  return assemble u (← compileFiles u builtins (List.range u.files.length))

end Don.BhsCc
