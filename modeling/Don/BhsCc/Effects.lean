import Don.BhsCc.Codegen.Unit

/-!
# Effects — what code generation can do to its state

Code generation is a sequence of a few primitive operations.  A property of procedures that holds of
the primitives and is kept by sequencing (`Compositional`) therefore holds of the code of every
expression and statement, provided it holds of the default values and constants the statement asks for
(`demands`).
-/

namespace Don.BhsCc

open Foundation Bhs Gen List Stmt BhsCc.Expr

/-! ## Demands -/

/-- What is not emitted by recursion over the syntax: the default value of a type, or the value of a
constant. -/
inductive Demand where
  | default (ty : Ty)
  | constant (e : Expr)

def Declarator.demands (u : CompilationUnit) (ty : Option TypeRef) (d : Declarator) : List Demand :=
  match d.init with
  | some _ => []
  | none => [.default (u.resolveType ty)]

/-- The type of a value a script has to make up when it returns without one. -/
def returnDemands (ret : Ty) : List Demand :=
  if ret = .scalar .void then [] else [.default ret]

def constants (values : List (Option Expr)) : List Demand :=
  values.filterMap (·.map .constant)

mutual

/-- The types whose default value a statement of a script that returns `ret` emits, and the constants of its
cases and labels. -/
def Stmt.demands (u : CompilationUnit) (ret : Ty) : Stmt → List Demand
  | .decl d => d.decls.flatMap (Declarator.demands u d.ty)
  | .block stmts _ => demandsAll u ret stmts
  | .ifStmt _ thn none _ => Stmt.demands u ret thn
  | .ifStmt _ thn (some els) _ => Stmt.demands u ret thn ++ Stmt.demands u ret els
  | .while _ body _ => Stmt.demands u ret body
  | .doWhile body _ _ => Stmt.demands u ret body
  | .forStmt none _ _ body _ => Stmt.demands u ret body
  | .forStmt (some init) _ _ body _ => Stmt.demands u ret init ++ Stmt.demands u ret body
  | .switch _ arms _ => demandsArms u ret arms
  | .return none _ => returnDemands ret
  | .labels defs _ => constants (defs.map (·.value))
  | .trigger _ _ body _ => Stmt.demands u ret body
  | .runOnce body _ _ => demandsAll u ret body
  | _ => []

def demandsAll (u : CompilationUnit) (ret : Ty) : List Stmt → List Demand
  | [] => []
  | s :: ss => Stmt.demands u ret s ++ demandsAll u ret ss

def demandsArms (u : CompilationUnit) (ret : Ty) : List SwitchArm → List Demand
  | [] => []
  | .mk cs body :: arms =>
    constants (cs.map (·.value)) ++ (demandsAll u ret body ++ demandsArms u ret arms)

end

/-- What a script with a body demands: the demands of its statements, and its return type when the
body may run off its end. -/
def ScriptItem.demands (u : CompilationUnit) (it : ScriptItem) : List Demand :=
  match it.body with
  | none => []
  | some body =>
    let ret := u.resolveType it.sig.ret
    demandsAll u ret body.stmts ++ if Gen.endsInReturn body.stmts then [] else returnDemands ret

def CompilationUnit.demands (u : CompilationUnit) : List Demand :=
  u.files.flatMap fun f => f.scriptItems.flatMap (ScriptItem.demands u)

namespace Gen

/-- A property of procedures that holds of the primitives of code generation and is kept by
sequencing. -/
structure Compositional (G : Env) (Q : ∀ {α : Type}, Gen α → Prop) : Prop where
  pure : ∀ {α : Type} (a : α), Q (pure a)
  bind : ∀ {α β : Type} {x : Gen α} {f : α → Gen β}, Q x → (∀ a, Q (f a)) → Q (x >>= f)
  gets : ∀ {α : Type} (g : GenState → α), Q (Proc.gets g)
  emit : ∀ op, Q (emit op)
  emitU32 : ∀ v, Q (emitU32 v)
  fixup : ∀ l, Q (Proc.modify fun s => { s with fixups := s.fixups ++ [(s.code.length, l)] })
  newLabel : Q newLabel
  place : ∀ l, Q (place l)
  intern : ∀ v, Q (intern v)
  declareLocal : ∀ n ty, Q (declareLocal n ty)
  declareStatic : ∀ n ty, Q (declareStatic n ty)
  triggerIndex : ∀ n, Q (triggerIndex n)
  diag : ∀ severity pos msg, Q (diag G severity pos msg)
  enterScope : Q (Proc.modify fun s => { s with scopes := [] :: s.scopes })
  leaveScope : Q (Proc.modify fun s => { s with scopes := s.scopes.tail })
  countCast : Q (Proc.modify fun s => { s with autoCasts := s.autoCasts + 1 })
  labels : ∀ defs pos, (∀ d ∈ defs, ∀ e, d.value = some e → Q (constant e)) →
    Q (hoistLabels G (.labels defs pos))

def Demand.Meets (G : Env) (Q : ∀ {α : Type}, Gen α → Prop) : Demand → Prop
  | .default ty => ∀ pos, Q (emitDefaultValue G ty pos)
  | .constant e => Q (constant e)

/-- Every demand of the list has the property. -/
abbrev Defaults (G : Env) (Q : ∀ {α : Type}, Gen α → Prop) (demands : List Demand) : Prop :=
  ∀ x ∈ demands, Demand.Meets G Q x

lemma constant_mem {G : Env} {Q : ∀ {α : Type}, Gen α → Prop} {values : List (Option Expr)}
    (hdef : Defaults G Q (constants values)) {e : Expr} (he : some e ∈ values) : Q (constant e) :=
  hdef (.constant e) (mem_filterMap.2 ⟨_, he, rfl⟩)

namespace Compositional

variable {G : Env} {Q : ∀ {α : Type}, Gen α → Prop} (hP : Compositional G @Q)
include hP

lemma seq {α β : Type} {x : Gen α} {y : Gen β} (hx : Q x) (hy : Q y) : Q (do let _ ← x; y) :=
  hP.bind hx fun _ => hy

variable (op : Opcode)

lemma emit1 (a : UInt32) : Q (emit1 op a) :=
  hP.seq (hP.emit op) (hP.emitU32 a)

lemma emit2 (a c : UInt32) : Q (emit2 op a c) :=
  hP.seq (hP.emit op) (hP.seq (hP.emitU32 a) (hP.emitU32 c))

lemma emitTarget (l : Nat) : Q (emitTarget l) :=
  hP.seq (hP.fixup l) (hP.emitU32 0)

lemma emitJump (l : Nat) : Q (emitJump op l) :=
  hP.seq (hP.emit op) (hP.emitTarget l)

lemma emitJump2 (a : UInt32) (l : Nat) : Q (emitJump2 op a l) :=
  hP.seq (hP.emit op) (hP.seq (hP.emitU32 a) (hP.emitTarget l))

lemma pushConst (v : Value) : Q (pushConst v) :=
  hP.bind (hP.intern v) fun _ => hP.emit1 _ _

lemma inScope {x : Gen Unit} (hx : Q x) : Q (inScope x) :=
  hP.seq hP.enterScope (hP.seq hx hP.leaveScope)

lemma errorIf (c : Bool) (pos : Pos) (msg : String) : Q (Gen.errorIf G c pos msg) := by
  unfold Gen.errorIf
  split
  · exact hP.diag _ _ _
  · exact hP.pure _

lemma resolvedTypeTag (ty : Ty) (pos : Pos) : Q (Gen.resolvedTypeTag G ty pos) := by
  unfold Gen.resolvedTypeTag
  split
  · exact hP.pure _
  · exact hP.seq (hP.diag _ _ _) (hP.pure _)

lemma declareImplicit (n : String) (pos : Pos) : Q (declareImplicit G n pos) :=
  hP.seq (hP.diag _ _ _) (hP.declareLocal _ _)

lemma nameSlot (n : String) (pos : Pos) : Q (nameSlot G n pos) := by
  refine hP.bind (hP.gets _) fun r => ?_
  split
  · exact hP.pure _
  · refine hP.bind (hP.gets _) fun v => ?_
    split
    · exact hP.bind (hP.intern _) fun _ => hP.pure _
    · exact hP.declareImplicit n pos

lemma preinternList {es : List Expr} (h : ∀ e ∈ es, Q (preinternExprConstants e)) :
    Q (preinternAll es) := by
  induction es with
  | nil => exact hP.pure _
  | cons e es ih =>
    refine hP.seq (h e (by simp)) (ih fun e' he' => h e' ?_)
    exact mem_cons_of_mem e he'

lemma preinternExprConstants (e : Expr) : Q (preinternExprConstants e) := by
  induction e using Expr.induct with
  | leaf e =>
    match e with
    | .int .. => exact hP.bind (hP.intern _) fun _ => hP.pure _
    | .real .. => exact hP.bind (hP.intern _) fun _ => hP.pure _
    | .str .. => exact hP.bind (hP.intern _) fun _ => hP.pure _
    | .locStr .. => exact hP.bind (hP.intern _) fun _ => hP.pure _
    | .name n _ =>
      refine hP.bind (hP.gets _) fun v => ?_
      split
      · exact hP.bind (hP.intern _) fun _ => hP.pure _
      · exact hP.pure _
  | arrayLit items pos ih | call name args pos ih => exact hP.preinternList ih
  | cast ty e pos ih | unary op e pos ih | preIncDec inc e pos ih | postIncDec inc e pos ih
  | member base name pos ih => exact ih
  | binary op lhs rhs pos ihl ihr => exact hP.seq ihl ihr
  | assign op target value pos iht _ ihv => exact hP.seq iht ihv
  | methodCall recv name args pos ihr ih => exact hP.seq ihr (hP.preinternList ih)
  | index base idx pos ihb ihi => exact hP.seq ihb ihi

lemma preinternAll (es : List Expr) : Q (preinternAll es) :=
  hP.preinternList fun e _ => hP.preinternExprConstants e

/-! ## Expressions -/

lemma triggerIntrinsic (enable : Bool) (name : String) (arg : Expr) :
    Q (Gen.triggerIntrinsic G enable name arg) := by
  unfold Gen.triggerIntrinsic
  split
  · exact hP.bind (hP.triggerIndex _) fun _ => hP.emit1 _ _
  · exact hP.diag _ _ _

lemma callScript (info : ScriptInfo) (argc : Nat) (pos : Pos) :
    Q (callScript G info argc pos) := by
  refine hP.seq (hP.errorIf _ _ _) ?_
  unfold callInstr
  split
  · exact hP.emit1 _ _
  · split
    · exact hP.emit2 _ _ _
    · exact hP.diag _ _ _

lemma callBuiltin (name : String) (argc : Nat) (pos : Pos) :
    Q (Gen.callBuiltin G name argc pos) := by
  unfold Gen.callBuiltin
  split
  · split
    · exact hP.emit1 _ _
    · exact hP.emit2 _ _ _
  · split <;> exact hP.diag _ _ _

lemma call (name : String) (recv : Option Expr) (args : List Expr) {emitArgs emitRecv : Gen Unit}
    (hargs : Q emitArgs) (hrecv : Q emitRecv) (pos : Pos) :
    Q (Gen.call G name recv args emitArgs emitRecv pos) := by
  unfold Gen.call
  dsimp only
  split
  · exact hP.triggerIntrinsic _ _ _
  · refine hP.seq (hP.preinternAll _) (hP.seq hargs (hP.seq hrecv ?_))
    split
    · exact hP.callScript _ _ _
    · exact hP.callBuiltin _ _ _

lemma member (base : Expr) {emitBase : Gen Unit} (hbase : Q emitBase) (name : String) (pos : Pos) :
    Q (member G base emitBase name pos) := by
  refine hP.bind (hP.gets _) fun s => ?_
  split
  · exact hP.seq hbase (hP.emit _)
  · refine hP.seq hbase (hP.bind (hP.gets _) fun i => ?_)
    split
    · exact hP.emit1 _ _
    · exact hP.diag _ _ _

lemma shortCircuit {emitLhs emitRhs : Gen Unit} (hl : Q emitLhs) (hr : Q emitRhs) :
    Q (shortCircuit op emitLhs emitRhs) := by
  refine hP.bind hP.newLabel fun l => hP.seq hl (hP.seq (hP.emitJump _ _) (hP.seq hr ?_))
  exact hP.seq (hP.place _) (hP.emit _)

lemma autoCast (lhs rhs : Expr) : Q (autoCast G lhs rhs) := by
  refine hP.bind (hP.gets _) fun s => ?_
  split
  · exact hP.seq (hP.emit1 _ _) hP.countCast
  · exact hP.pure _

lemma emitOperator (op : Option Opcode) (kind : String) (p : P) (pos : Pos) :
    Q (emitOperator G op kind p pos) := by
  cases op with
  | some => exact hP.emit _
  | none => exact hP.diag _ _ _

lemma binary (p : P) (lhs rhs : Expr) {emitLhs emitRhs : Gen Unit} (hl : Q emitLhs)
    (hr : Q emitRhs) (pos : Pos) : Q (Gen.binary G p lhs rhs emitLhs emitRhs pos) := by
  unfold Gen.binary
  split
  · exact hP.shortCircuit _ hl hr
  · exact hP.shortCircuit _ hl hr
  · exact hP.seq hl (hP.seq hr (hP.seq (hP.autoCast _ _) (hP.emitOperator _ _ _ _)))

lemma assign (p : P) (target : Expr) {emitBase emitTarget emitValue : Gen Unit}
    (hbase : Q emitBase) (htarget : Q emitTarget) (hvalue : Q emitValue) (pos : Pos) :
    Q (Gen.assign G p target emitBase emitTarget emitValue pos) := by
  unfold Gen.assign
  split
  · exact hP.diag _ _ _
  refine hP.bind (hP.gets _) fun s => ?_
  split
  · split
    · exact hP.seq hvalue (hP.seq hbase (hP.emit _))
    · exact hP.diag _ _ _
  · exact hP.seq hvalue (hP.seq htarget (hP.emit _))

lemma elemTag (items : List Expr) (pos : Pos) : Q (elemTag G items pos) := by
  refine hP.bind (hP.gets _) fun t => ?_
  split
  · exact hP.resolvedTypeTag _ _
  · exact hP.pure _

lemma exprsRevOf {es : List Expr} (h : ∀ e ∈ es, Q (expr G e)) : Q (exprsRev G es) := by
  induction es with
  | nil => exact hP.pure _
  | cons e es ih =>
    refine hP.seq (ih fun e' he' => h e' ?_) (h e (by simp))
    exact mem_cons_of_mem e he'

lemma expr (e : Expr) : Q (expr G e) := by
  induction e using Expr.induct with
  | leaf e =>
    match e with
    | .int .. => exact hP.pushConst _
    | .real .. => exact hP.pushConst _
    | .str .. => exact hP.pushConst _
    | .locStr .. => exact hP.pushConst _
    | .name n pos => exact hP.bind (hP.nameSlot n pos) fun _ => hP.emit1 _ _
  | arrayLit items pos ih =>
    refine hP.seq (hP.preinternAll items) (hP.seq (hP.exprsRevOf ih) ?_)
    refine hP.bind (hP.elemTag items pos) fun tag => ?_
    exact hP.seq (hP.errorIf _ _ _) (hP.emit2 _ _ _)
  | cast ty e pos ih => exact hP.seq ih (hP.bind (hP.resolvedTypeTag _ _) fun _ => hP.emit1 _ _)
  | unary op e pos ih => exact hP.seq ih (hP.emitOperator _ _ _ _)
  | preIncDec inc e pos ih | postIncDec inc e pos ih => exact hP.seq ih (hP.emit _)
  | binary op lhs rhs pos ihl ihr => exact hP.binary op lhs rhs ihl ihr pos
  | assign op target value pos iht ihparts ihv =>
    -- a subscripted target is compiled by the assignment itself, from its parts
    match target with
    | .name .. => exact hP.assign op _ (hP.pure _) iht ihv pos
    | .member base _ _ => exact hP.assign op _ (ihparts base (by simp [targetParts])) iht ihv pos
    | .index base idx _ =>
      have hbase := ihparts base (by simp [targetParts])
      have hidx := ihparts idx (by simp [targetParts])
      exact hP.assign op _ (hP.pure _) (hP.seq hbase (hP.seq hidx (hP.emit _))) ihv pos
    | .int .. | .real .. | .str .. | .locStr .. | .arrayLit .. | .cast .. | .unary ..
    | .preIncDec .. | .postIncDec .. | .binary .. | .assign .. | .call .. | .methodCall .. =>
      exact hP.assign op _ (hP.pure _) (hP.seq (hP.diag _ _ _) iht) ihv pos
  | call name args pos ih => exact hP.call name none args (hP.exprsRevOf ih) (hP.pure _) pos
  | methodCall recv name args pos ihr ih => exact hP.call name _ args (hP.exprsRevOf ih) ihr pos
  | index base idx pos ihb ihi => exact hP.seq ihb (hP.seq ihi (hP.emit _))
  | member base name pos ih => exact hP.member base ih name pos

lemma exprsRev (es : List Expr) : Q (exprsRev G es) :=
  hP.exprsRevOf fun e _ => hP.expr e

/-! ## Default values -/

lemma emitDefaultFields {emitTy : Ty → Gen Unit} (pos : Pos) {fs : List StructField}
    (h : ∀ f ∈ fs, Q (emitTy f.ty)) : Q (emitDefaultFields G emitTy pos fs) := by
  induction fs with
  | nil => exact hP.pure _
  | cons f fs ih =>
    refine hP.seq ?_ (ih fun f' hf' => h f' (mem_cons_of_mem f hf'))
    unfold emitDefaultField
    split
    · refine hP.seq (h f (by simp)) (hP.seq (hP.pushConst _) ?_)
      exact hP.bind (hP.resolvedTypeTag _ _) fun _ => hP.emit1 _ _
    · exact h f (by simp)

lemma defaultStruct {pos : Pos} {k si : Nat}
    (h : ∀ f ∈ (G.unit.struct si).fields, Q (emitDefaultValueTo G pos k f.ty)) :
    Q (emitDefaultValueTo G pos (k + 1) (.struct si)) := by
  refine hP.seq (hP.emitDefaultFields pos fun f hf => h f (mem_reverse.1 hf)) ?_
  exact hP.bind (hP.resolvedTypeTag _ _) fun _ => hP.emit2 _ _ _

lemma defaultArray {pos : Pos} {k : Nat} {inner : Ty} (h : Q (emitDefaultValueTo G pos k inner)) :
    Q (emitDefaultValueTo G pos (k + 1) (.array inner)) :=
  hP.seq h (hP.bind (hP.resolvedTypeTag _ _) fun _ => hP.emit1 _ _)

lemma defaultSimple {pos : Pos} {ty : Ty} :
    Q (do Gen.emit1 .createSimple (← Gen.resolvedTypeTag G ty pos)) :=
  hP.bind (hP.resolvedTypeTag _ _) fun _ => hP.emit1 _ _

lemma emitDefaultValueTo (hhang : Q (Proc.hang : Gen Unit)) (pos : Pos) :
    ∀ (k : Nat) (ty : Ty), Q (emitDefaultValueTo G pos k ty) := by
  intro k
  induction k with
  | zero =>
    intro ty
    cases ty with
    | struct => exact hhang
    | array => exact hhang
    | scalar => exact hP.defaultSimple
    | untyped => exact hP.defaultSimple
  | succ k ih =>
    intro ty
    cases ty with
    | struct => exact hP.defaultStruct fun f _ => ih f.ty
    | array inner => exact hP.defaultArray (ih inner)
    | scalar => exact hP.defaultSimple
    | untyped => exact hP.defaultSimple

/-! ## Statements -/

lemma initValue (tyRef : Option TypeRef) (d : Declarator)
    (hdef : Defaults G Q (d.demands G.unit tyRef)) : Q (Gen.initValue G (declTy G tyRef d) d) := by
  have hinner : d.init = none → ∀ pos, Q (emitDefaultValue G (G.unit.resolveType tyRef) pos) := by
    intro hinit pos
    exact hdef (.default _) (by simp [Declarator.demands, hinit]) pos
  have hrest : ∀ x : Gen Unit, Q x → ∀ op ty pos (b : Bool), Q (do
      x
      Gen.emit1 op (← Gen.resolvedTypeTag G ty pos)
      return b) := fun x hx op ty pos b =>
    hP.seq hx (hP.bind (hP.resolvedTypeTag _ _) fun _ => hP.seq (hP.emit1 _ _) (hP.pure _))
  unfold Gen.initValue declTy
  split
  · refine hP.seq (hP.preinternAll _) (hP.seq (hP.exprsRev _) (hP.seq (hP.errorIf _ _ _) ?_))
    exact hP.bind (hP.resolvedTypeTag _ _) fun _ => hP.seq (hP.emit2 _ _ _) (hP.pure _)
  · exact hP.seq (hP.expr _) (hP.pure _)
  · rename_i hinit harr
    rw [harr]
    refine hP.seq (hinner hinit _) ?_
    exact hrest _ (hP.expr _) _ _ _ _
  · rename_i hinit harr
    rw [harr]
    exact hrest _ (hinner hinit _) _ _ _ _
  · rename_i hinit harr
    rw [harr]
    exact hP.seq (hinner hinit _) (hP.pure _)

lemma declarator (isStatic : Bool) (tyRef : Option TypeRef) (d : Declarator)
    (hdef : Defaults G Q (d.demands G.unit tyRef)) : Q (Gen.declarator G isStatic tyRef d) := by
  have hinit : ∀ slot, Q (initDeclarator G (declTy G tyRef d) d slot) := fun slot =>
    hP.bind (hP.initValue tyRef d hdef) fun _ => hP.emit1 _ _
  unfold Gen.declarator
  dsimp only
  split
  · refine hP.bind (hP.declareStatic _ _) fun slot => hP.bind hP.newLabel fun skip => ?_
    exact hP.seq (hP.emitJump2 _ _ _) (hP.seq (hinit slot) (hP.place _))
  · exact hP.bind (hP.declareLocal _ _) fun slot => hinit slot

lemma declarators (isStatic : Bool) (tyRef : Option TypeRef) (ds : List Declarator)
    (hdef : Defaults G Q (ds.flatMap (Declarator.demands G.unit tyRef))) :
    Q (declarators G isStatic tyRef ds) := by
  induction ds with
  | nil => exact hP.pure _
  | cons d ds ih =>
    rw [flatMap_cons] at hdef
    refine hP.seq (hP.declarator isStatic tyRef d fun ty hty => hdef ty ?_)
      (ih fun ty hty => hdef ty ?_)
    · exact mem_append_left _ hty
    · exact mem_append_right _ hty

lemma exprPop (e : Expr) : Q (exprPop G e) := by
  refine hP.seq (hP.expr e) ?_
  split
  · exact hP.emit _
  · exact hP.pure _

lemma exprStmt (e : Expr) : Q (Gen.exprStmt G e) := by
  unfold Gen.exprStmt
  split
  · refine hP.bind (hP.gets _) fun fresh => ?_
    split
    · refine hP.bind (hP.declareImplicit _ _) fun slot => ?_
      exact hP.seq (hP.expr _) (hP.emit1 _ _)
    · exact hP.exprPop e
  · exact hP.exprPop e

lemma switchCases (label : Nat) (cs : List SwitchCase) (hdef : Defaults G Q (constants (cs.map (·.value)))) :
    Q (Gen.switchCases G label cs) := by
  induction cs with
  | nil => exact hP.pure _
  | cons c cs ih =>
    have ih := ih fun x hx => hdef x (by
      obtain ⟨v, hv, hx⟩ := mem_filterMap.1 hx
      exact mem_filterMap.2 ⟨v, mem_cons_of_mem _ hv, hx⟩)
    rw [Gen.switchCases]
    split
    · rename_i e he
      have hconst : Q (constant e) := constant_mem hdef (mem_map.2 ⟨c, mem_cons_self, he⟩)
      refine hP.seq (hP.bind hconst fun v => ?_) ih
      split
      · exact hP.bind (hP.intern _) fun _ => hP.emitJump2 _ _ _
      · exact hP.diag _ _ _
    · exact hP.seq ih (hP.pure _)

lemma switchDispatch {ret : Ty} (arms : List SwitchArm) (labels : List Nat) (default : Option Nat)
    (hdef : Defaults G Q (demandsArms G.unit ret arms)) : Q (switchDispatch G arms labels default) := by
  induction arms generalizing labels default with
  | nil => exact hP.pure _
  | cons arm arms ih =>
    obtain ⟨ls, body⟩ := arm
    cases labels with
    | nil => exact hP.pure _
    | cons =>
      refine hP.bind (hP.switchCases _ _ fun x hx => hdef x (mem_append_left _ hx)) fun _ => ih _ _ ?_
      exact fun x hx => hdef x (mem_append_right _ (mem_append_right _ hx))

lemma newLabels (n : Nat) : Q (newLabels n) := by
  induction n with
  | zero => exact hP.pure _
  | succ n ih => exact hP.bind hP.newLabel fun _ => hP.bind ih fun _ => hP.pure _

lemma switch {ret : Ty} (outer : Targets) (subject : Expr) (arms : List SwitchArm)
    (hdef : Defaults G Q (demandsArms G.unit ret arms)) {emitArms : Targets → List Nat → Gen Unit} (harms : ∀ t ls, Q (emitArms t ls)) :
    Q (switch G outer subject arms emitArms) := by
  refine hP.seq (hP.expr _) (hP.bind hP.newLabel fun lEnd => ?_)
  refine hP.bind (hP.newLabels _) fun armLabels => ?_
  refine hP.bind (hP.switchDispatch _ _ _ hdef) fun default => ?_
  exact hP.seq (hP.emit _) (hP.seq (hP.emitJump _ _) (hP.seq (harms _ _) (hP.place _)))

lemma defaultReturn (ret : Ty) (pos : Pos)
    (hdef : Defaults G Q (returnDemands ret)) : Q (Gen.defaultReturn G ret pos) := by
  unfold Gen.defaultReturn
  split
  · exact hP.pure _
  · rename_i hret
    exact hdef (.default ret) (by simp [returnDemands, hret]) pos

lemma exitUnless (label : Nat) (cond : Option Expr) : Q (exitUnless G label cond) := by
  cases cond with
  | some c => exact hP.seq (hP.expr c) (hP.emitJump _ _)
  | none => exact hP.pure _

lemma stepStmt (step : Option Expr) : Q (stepStmt G step) := by
  cases step with
  | some e => exact hP.exprStmt e
  | none => exact hP.pure _

variable {emitBody : Targets → Gen Unit}

lemma forLoop (cond step : Option Expr) {emitInit : Gen Unit}
    (hinit : Q emitInit) (hbody : ∀ t, Q (emitBody t)) :
    Q (forLoop G cond step emitInit emitBody) := by
  refine hP.inScope (hP.seq hinit (hP.bind hP.newLabel fun lTop => ?_))
  refine hP.bind hP.newLabel fun lStep => hP.bind hP.newLabel fun lEnd => ?_
  refine hP.seq (hP.place _) (hP.seq (hP.exitUnless _ _) (hP.seq (hbody _) ?_))
  exact hP.seq (hP.place _) (hP.seq (hP.stepStmt _) (hP.seq (hP.emitJump _ _) (hP.place _)))

variable (cond : Expr)

lemma whileLoop (hbody : ∀ t, Q (emitBody t)) :
    Q (whileLoop G cond emitBody) := by
  refine hP.bind hP.newLabel fun lTop => hP.bind hP.newLabel fun lEnd => ?_
  refine hP.seq (hP.place _) (hP.seq (hP.expr _) (hP.seq (hP.emitJump _ _) ?_))
  exact hP.seq (hbody _) (hP.seq (hP.emitJump _ _) (hP.place _))

lemma doWhileLoop (hbody : ∀ t, Q (emitBody t)) :
    Q (doWhileLoop G cond emitBody) := by
  refine hP.bind hP.newLabel fun lTop => hP.bind hP.newLabel fun lCont => ?_
  refine hP.bind hP.newLabel fun lEnd => hP.seq (hP.place _) (hP.seq (hbody _) ?_)
  exact hP.seq (hP.place _) (hP.seq (hP.expr _) (hP.seq (hP.emitJump _ _) (hP.place _)))

lemma ifThen {emitThen : Gen Unit} (hthen : Q emitThen) :
    Q (ifThen G cond emitThen) := by
  refine hP.bind hP.newLabel fun lElse => hP.seq (hP.expr _) (hP.seq (hP.emitJump _ _) ?_)
  exact hP.seq hthen (hP.place _)

lemma ifThenElse {emitThen emitElse : Gen Unit} (hthen : Q emitThen)
    (helse : Q emitElse) : Q (ifThenElse G cond emitThen emitElse) := by
  refine hP.bind hP.newLabel fun lElse => hP.seq (hP.expr _) (hP.seq (hP.emitJump _ _) ?_)
  refine hP.seq hthen (hP.bind hP.newLabel fun lEnd => hP.seq (hP.emitJump _ _) ?_)
  exact hP.seq (hP.place _) (hP.seq helse (hP.place _))

lemma jumpOut (target : Option Nat) (pos : Pos) (msg : String) :
    Q (jumpOut G target pos msg) := by
  cases target with
  | some => exact hP.emitJump _ _
  | none => exact hP.diag _ _ _

lemma returnStmt (ret : Ty) (value : Option Expr) (pos : Pos)
    (hdef : Defaults G Q (demands G.unit ret (.return value pos))) :
    Q (returnStmt G ret value pos) := by
  refine hP.seq ?_ (hP.emit _)
  cases value with
  | some e =>
    refine hP.seq (hP.expr e) ?_
    split
    · exact hP.seq (hP.diag _ _ _) (hP.emit _)
    · exact hP.pure _
  | none => exact hP.defaultReturn ret pos hdef

lemma trigger (name : Option String) (cond : Option Expr) {emitBody : Gen Unit}
    (hbody : Q emitBody) (pos : Pos) : Q (trigger G name cond emitBody pos) := by
  refine hP.bind (hP.triggerIndex _) fun idx => hP.bind hP.newLabel fun lEnd => ?_
  refine hP.seq (hP.emitJump2 _ _ _) (hP.seq (hP.exitUnless _ _) ?_)
  exact hP.seq (hP.inScope hbody) (hP.place _)

lemma runOnce {emitBody : Gen Unit} (hbody : Q emitBody) : Q (runOnce emitBody) := by
  refine hP.bind (hP.triggerIndex _) fun idx => hP.bind hP.newLabel fun lEnd => ?_
  refine hP.seq (hP.emitJump2 _ _ _) (hP.seq (hP.emit1 _ _) ?_)
  exact hP.seq (hP.inScope hbody) (hP.place _)

variable {ret : Ty}

lemma stmtListOf {t : Targets} {ss : List Stmt}
    (h : ∀ s ∈ ss, Defaults G Q (demands G.unit ret s) →
      Q (stmt G ret t s))
    (hdef : Defaults G Q (demandsAll G.unit ret ss)) : Q (stmtList G ret t ss) := by
  induction ss with
  | nil => exact hP.pure _
  | cons s ss ih =>
    refine hP.seq (h s (by simp) fun ty hty => hdef ty ?_)
      (ih (fun s' hs' => h s' ?_) fun ty hty => hdef ty ?_)
    · exact mem_append_left _ hty
    · exact mem_cons_of_mem s hs'
    · exact mem_append_right _ hty

lemma switchArmsOf {t : Targets} {arms : List SwitchArm} (labels : List Nat)
    (h : ∀ a ∈ arms, ∀ s ∈ a.body,
      Defaults G Q (demands G.unit ret s) →
      Q (stmt G ret t s))
    (hdef : Defaults G Q (demandsArms G.unit ret arms)) : Q (switchArms G ret t arms labels) := by
  induction arms generalizing labels with
  | nil => exact hP.pure _
  | cons arm arms ih =>
    obtain ⟨ls, body⟩ := arm
    cases labels with
    | nil => exact hP.pure _
    | cons l labels =>
      refine hP.seq (hP.place l) (hP.seq (hP.inScope
        (hP.stmtListOf (h (.mk ls body) (by simp)) ?_)) ?_)
      · exact fun ty hty => hdef ty (mem_append_right _ (mem_append_left _ hty))
      · refine ih labels (fun a ha => h a (mem_cons_of_mem _ ha)) fun ty hty => ?_
        exact hdef ty (mem_append_right _ (mem_append_right _ hty))

lemma stmt (t : Targets) (s : Stmt)
    (hdef : Defaults G Q (demands G.unit ret s)) : Q (stmt G ret t s) := by
  induction s using Stmt.induct generalizing t with
  | empty | labels | struct => exact hP.pure _
  | expr e => exact hP.exprStmt e
  | decl d => exact hP.declarators d.isStatic d.ty d.decls hdef
  | block stmts pos ih => exact hP.inScope (hP.stmtListOf (fun s hs => ih s hs t) hdef)
  | ifStmt cond thn els pos iht ihe =>
    cases els with
    | none => exact hP.ifThen cond (iht t hdef)
    | some els =>
      refine hP.ifThenElse cond (iht t fun ty hty => hdef ty ?_)
        (ihe els rfl t fun ty hty => hdef ty ?_)
      · exact mem_append_left _ hty
      · exact mem_append_right _ hty
  | while_ cond body pos ih => exact hP.whileLoop cond fun t => ih t hdef
  | doWhile body cond pos ih => exact hP.doWhileLoop cond fun t => ih t hdef
  | forStmt init cond step body pos ihi ihb =>
    cases init with
    | none => exact hP.forLoop cond step (hP.pure _) fun t => ihb t hdef
    | some init =>
      refine hP.forLoop cond step (ihi init rfl t fun ty hty => hdef ty ?_) fun t =>
        ihb t fun ty hty => hdef ty ?_
      · exact mem_append_left _ hty
      · exact mem_append_right _ hty
  | switch subject arms pos ih =>
    exact hP.switch t subject arms hdef fun t ls =>
      hP.switchArmsOf ls (fun a ha s hs => ih a ha s hs t) hdef
  | break_ | continue_ => exact hP.jumpOut _ _ _
  | return_ value pos => exact hP.returnStmt ret value pos hdef
  | trigger name cond body pos ih => exact hP.trigger name cond (ih t hdef) pos
  | runOnce body bodyPos pos ih =>
    exact hP.runOnce (hP.stmtListOf (fun s hs => ih s hs t) hdef)

lemma stmtList (t : Targets) (ss : List Stmt)
    (hdef : Defaults G Q (demandsAll G.unit ret ss)) : Q (stmtList G ret t ss) :=
  hP.stmtListOf (fun s _ h => hP.stmt t s h) hdef

/-! ## Scripts -/

lemma params (ps : List Param) : Q (params G ps) := by
  induction ps with
  | nil => exact hP.pure _
  | cons p ps ih => exact hP.bind (hP.declareLocal _ _) fun _ => hP.seq (hP.emit1 _ _) ih

lemma paramTags (ps : List Param) : Q (paramTags G ps) := by
  induction ps with
  | nil => exact hP.pure _
  | cons p ps ih => exact hP.bind (hP.resolvedTypeTag _ _) fun _ => hP.bind ih fun _ => hP.pure _

lemma hoistListOf {ss : List Stmt}
    (h : ∀ s ∈ ss, Defaults G Q (demands G.unit ret s) → Q (hoistLabels G s))
    (hdef : Defaults G Q (demandsAll G.unit ret ss)) : Q (hoistAll G ss) := by
  induction ss with
  | nil => exact hP.pure _
  | cons s ss ih =>
    refine hP.seq (h s (by simp) fun x hx => hdef x (mem_append_left _ hx)) ?_
    exact ih (fun s' hs' => h s' (mem_cons_of_mem s hs')) fun x hx => hdef x (mem_append_right _ hx)

lemma hoistLabels (s : Stmt) (hdef : Defaults G Q (demands G.unit ret s)) : Q (hoistLabels G s) := by
  induction s using Stmt.induct with
  | labels defs pos =>
    exact hP.labels defs pos fun d hd e he => constant_mem hdef (mem_map.2 ⟨d, hd, he⟩)
  | block stmts pos ih | runOnce body bodyPos pos ih => exact hP.hoistListOf ih hdef
  | _ => exact hP.pure _

lemma tailReturn (ret : Ty) (body : Block)
    (hdef : Defaults G Q (if endsInReturn body.stmts then [] else returnDemands ret)) :
    Q (Gen.tailReturn G ret body) := by
  unfold Gen.tailReturn
  split
  · exact hP.pure _
  · rename_i hend
    rw [if_neg hend] at hdef
    exact hP.seq (hP.defaultReturn ret _ hdef) (hP.emit _)

lemma scriptBody (si : Nat) (sig : ScriptSig) (body : Block)
    (hdef : Defaults G Q (ScriptItem.demands G.unit ⟨sig, body⟩)) :
    Q (scriptBody G si sig (G.unit.resolveType sig.ret) body) := by
  refine hP.seq (hP.emit1 _ _) (hP.seq (hP.params _) (hP.seq ?_ (hP.seq ?_ ?_)))
  · exact hP.hoistListOf (fun s _ => hP.hoistLabels s) fun x hx => hdef x (mem_append_left _ hx)
  · exact hP.stmtList _ _ fun ty hty => hdef ty (mem_append_left _ hty)
  · exact hP.tailReturn _ _ fun ty hty => hdef ty (mem_append_right _ hty)

end Compositional

end Gen

end Don.BhsCc
