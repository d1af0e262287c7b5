import Mathlib.Data.UInt

/-!
# Ast — the syntax trees of the script language

What the parser hands to the later passes.  Expressions, and statements with their switch arms, are
recursive through lists, so this module also gives each of them an induction principle whose
hypotheses for a list of subtrees are `∀ e ∈ list, …`.
-/

namespace Don.BhsCc

open List

structure Pos where
  line : UInt32
  col : UInt32
  deriving DecidableEq

instance : Inhabited Pos := ⟨⟨0, 0⟩⟩

/-- Punctuation tokens; the syntax tree keeps the operators among them. -/
inductive P where
  | lParen
  | rParen
  | lBrace
  | rBrace
  | lBrack
  | rBrack
  | semi
  | comma
  | dot
  | colon
  | assign
  | addAssign
  | subAssign
  | mulAssign
  | divAssign
  | modAssign
  | powAssign
  | leftAssign
  | rightAssign
  | andAssign
  | xorAssign
  | orAssign
  | eq
  | ne
  | lt
  | gt
  | le
  | ge
  | plus
  | minus
  | star
  | slash
  | percent
  | pow
  | andAnd
  | orOr
  | not
  | amp
  | pipe
  | caret
  | tilde
  | shl
  | shr
  | inc
  | dec
  deriving DecidableEq

def P.asStr : P → String
  | lParen => "("
  | rParen => ")"
  | lBrace => "\x7b"
  | rBrace => "\x7d"
  | lBrack => "["
  | rBrack => "]"
  | semi => ";"
  | comma => ","
  | dot => "."
  | colon => ":"
  | assign => "="
  | addAssign => "+="
  | subAssign => "-="
  | mulAssign => "*="
  | divAssign => "/="
  | modAssign => "%="
  | powAssign => "**="
  | leftAssign => "<<="
  | rightAssign => ">>="
  | andAssign => "&="
  | xorAssign => "^="
  | orAssign => "|="
  | eq => "=="
  | ne => "!="
  | lt => "<"
  | gt => ">"
  | le => "<="
  | ge => ">="
  | plus => "+"
  | minus => "-"
  | star => "*"
  | slash => "/"
  | percent => "%"
  | pow => "**"
  | andAnd => "&&"
  | orOr => "||"
  | not => "!"
  | amp => "&"
  | pipe => "|"
  | caret => "^"
  | tilde => "~"
  | shl => "<<"
  | shr => ">>"
  | inc => "++"
  | dec => "--"

structure TypeRef where
  name : String
  arrayDepth : UInt8
  pos : Pos
  deriving DecidableEq

/-! ## Expressions -/

inductive Expr where
  | int (v : Int64) (pos : Pos)
  /-- a real literal, as its 32 bits -/
  | real (bits : UInt32) (pos : Pos)
  | str (s : String) (pos : Pos)
  /-- a localisable string -/
  | locStr (s : String) (pos : Pos)
  | name (n : String) (pos : Pos)
  | arrayLit (items : List Expr) (pos : Pos)
  | cast (ty : TypeRef) (expr : Expr) (pos : Pos)
  | unary (op : P) (expr : Expr) (pos : Pos)
  | preIncDec (inc : Bool) (expr : Expr) (pos : Pos)
  | postIncDec (inc : Bool) (expr : Expr) (pos : Pos)
  | binary (op : P) (lhs rhs : Expr) (pos : Pos)
  | assign (op : P) (target value : Expr) (pos : Pos)
  | call (name : String) (args : List Expr) (pos : Pos)
  | methodCall (recv : Expr) (name : String) (args : List Expr) (pos : Pos)
  | index (base index : Expr) (pos : Pos)
  | member (base : Expr) (name : String) (pos : Pos)

namespace Expr

def pos : Expr → Pos
  | int _ p | real _ p | str _ p | locStr _ p | name _ p | arrayLit _ p | cast _ _ p | unary _ _ p
  | preIncDec _ _ p | postIncDec _ _ p | binary _ _ _ p | assign _ _ _ p | call _ _ p
  | methodCall _ _ _ p | index _ _ p | member _ _ p => p

/-- Literals and names: the expressions that compile to one `OP_PUSH`. -/
def isLeaf : Expr → Bool
  | int .. | real .. | str .. | locStr .. | name .. => true
  | _ => false

/-- The parts of a subscript or a member, from which an assignment to it is compiled. -/
def targetParts : Expr → List Expr
  | index base idx _ => [base, idx]
  | member base _ _ => [base]
  | _ => []

/-- Induction over expressions.  The target of an assignment comes with its parts. -/
@[elab_as_elim]
lemma induct {motive : Expr → Prop} (leaf : ∀ e, e.isLeaf = true → motive e)
    (arrayLit : ∀ items pos, (∀ e ∈ items, motive e) → motive (arrayLit items pos))
    (cast : ∀ ty e pos, motive e → motive (cast ty e pos))
    (unary : ∀ op e pos, motive e → motive (unary op e pos))
    (preIncDec : ∀ inc e pos, motive e → motive (preIncDec inc e pos))
    (postIncDec : ∀ inc e pos, motive e → motive (postIncDec inc e pos))
    (binary : ∀ op lhs rhs pos, motive lhs → motive rhs → motive (binary op lhs rhs pos))
    (assign : ∀ op target value pos, motive target → (∀ e ∈ target.targetParts, motive e) →
      motive value → motive (assign op target value pos))
    (call : ∀ name args pos, (∀ e ∈ args, motive e) → motive (call name args pos))
    (methodCall : ∀ recv name args pos, motive recv → (∀ e ∈ args, motive e) →
      motive (methodCall recv name args pos))
    (index : ∀ base idx pos, motive base → motive idx → motive (index base idx pos))
    (member : ∀ base name pos, motive base → motive (member base name pos)) :
    ∀ e, motive e := by
  intro e
  have hnone : ∀ e : Expr, e.targetParts = [] → ∀ c ∈ e.targetParts, motive c := by
    intro e he c hc
    rw [he] at hc
    exact (not_mem_nil hc).elim
  have hleaf : ∀ e : Expr, e.isLeaf = true → e.targetParts = [] →
      motive e ∧ ∀ c ∈ e.targetParts, motive c :=
    fun e he hparts => ⟨leaf e he, hnone e hparts⟩
  -- the recursor has a second motive for lists of expressions
  refine (@Expr.rec (fun e => motive e ∧ ∀ c ∈ e.targetParts, motive c)
    (fun es => ∀ e ∈ es, motive e) (fun _ _ => hleaf _ rfl rfl) (fun _ _ => hleaf _ rfl rfl)
    (fun _ _ => hleaf _ rfl rfl) (fun _ _ => hleaf _ rfl rfl) (fun _ _ => hleaf _ rfl rfl)
    ?_ ?_ ?_ ?_ ?_ ?_ ?_ ?_ ?_ ?_ ?_ ?_ ?_ e).1
  · exact fun items pos ih => ⟨arrayLit items pos ih, hnone _ rfl⟩
  · exact fun ty e pos ih => ⟨cast ty e pos ih.1, hnone _ rfl⟩
  · exact fun op e pos ih => ⟨unary op e pos ih.1, hnone _ rfl⟩
  · exact fun inc e pos ih => ⟨preIncDec inc e pos ih.1, hnone _ rfl⟩
  · exact fun inc e pos ih => ⟨postIncDec inc e pos ih.1, hnone _ rfl⟩
  · exact fun op lhs rhs pos ihl ihr => ⟨binary op lhs rhs pos ihl.1 ihr.1, hnone _ rfl⟩
  · exact fun op t v pos iht ihv => ⟨assign op t v pos iht.1 iht.2 ihv.1, hnone _ rfl⟩
  · exact fun name args pos ih => ⟨call name args pos ih, hnone _ rfl⟩
  · exact fun recv name args pos ihr ih => ⟨methodCall recv name args pos ihr.1 ih, hnone _ rfl⟩
  · intro base idx pos ihb ihi
    refine ⟨index base idx pos ihb.1 ihi.1, fun c hc => ?_⟩
    rcases mem_cons.1 hc with rfl | hc
    · exact ihb.1
    · rw [mem_singleton.1 hc]
      exact ihi.1
  · intro base name pos ih
    refine ⟨member base name pos ih.1, fun c hc => ?_⟩
    rw [mem_singleton.1 hc]
    exact ih.1
  · exact fun _ h => (not_mem_nil h).elim
  · intro head tail hhead htail e he
    rcases mem_cons.1 he with rfl | he
    · exact hhead.1
    · exact htail e he

end Expr

/-! ## Declarations -/

/-- A struct field; `int grid[8]` has a fixed length. -/
structure Field where
  ty : TypeRef
  name : String
  fixedLen : Option Expr
  pos : Pos

structure StructDef where
  name : String
  fields : List Field
  pos : Pos

/-- One entry of a `labels` block. -/
structure LabelDef where
  name : String
  value : Option Expr
  pos : Pos

inductive ArraySuffix where
  | dynamic
  | sized (n : Expr)

structure Declarator where
  name : String
  array : Option ArraySuffix
  init : Option Expr
  pos : Pos

structure VarDecl where
  isStatic : Bool
  ty : Option TypeRef
  decls : List Declarator
  pos : Pos

/-- A `case` label, or `default` without a value. -/
structure SwitchCase where
  value : Option Expr
  pos : Pos

/-! ## Statements -/

mutual

inductive Stmt where
  | empty (pos : Pos)
  | expr (e : Expr)
  | decl (d : VarDecl)
  | block (stmts : List Stmt) (pos : Pos)
  | ifStmt (cond : Expr) (thn : Stmt) (els : Option Stmt) (pos : Pos)
  | while (cond : Expr) (body : Stmt) (pos : Pos)
  | doWhile (body : Stmt) (cond : Expr) (pos : Pos)
  | forStmt (init : Option Stmt) (cond step : Option Expr) (body : Stmt) (pos : Pos)
  | switch (subject : Expr) (arms : List SwitchArm) (pos : Pos)
  | break (pos : Pos)
  | continue (pos : Pos)
  | return (value : Option Expr) (pos : Pos)
  | labels (defs : List LabelDef) (pos : Pos)
  | trigger (name : Option String) (cond : Option Expr) (body : Stmt) (pos : Pos)
  | runOnce (body : List Stmt) (bodyPos pos : Pos)
  | struct (d : StructDef)

inductive SwitchArm where
  | mk (labels : List SwitchCase) (body : List Stmt)

end

namespace SwitchArm

def labels : SwitchArm → List SwitchCase
  | mk l _ => l

def body : SwitchArm → List Stmt
  | mk _ b => b

end SwitchArm

namespace Stmt

/-- Induction over statements. -/
@[elab_as_elim]
lemma induct {motive : Stmt → Prop} (empty : ∀ pos, motive (empty pos))
    (expr : ∀ e, motive (expr e))
    (decl : ∀ d, motive (decl d))
    (block : ∀ stmts pos, (∀ s ∈ stmts, motive s) → motive (block stmts pos))
    (ifStmt : ∀ cond thn els pos, motive thn → (∀ e ∈ els, motive e) →
      motive (ifStmt cond thn els pos))
    (while_ : ∀ cond body pos, motive body → motive (.while cond body pos))
    (doWhile : ∀ body cond pos, motive body → motive (doWhile body cond pos))
    (forStmt : ∀ init cond step body pos, (∀ i ∈ init, motive i) → motive body →
      motive (forStmt init cond step body pos))
    (switch : ∀ subject arms pos, (∀ a ∈ arms, ∀ s ∈ a.body, motive s) →
      motive (switch subject arms pos))
    (break_ : ∀ pos, motive (.break pos))
    (continue_ : ∀ pos, motive (.continue pos))
    (return_ : ∀ value pos, motive (.return value pos))
    (labels : ∀ defs pos, motive (labels defs pos))
    (trigger : ∀ name cond body pos, motive body → motive (trigger name cond body pos))
    (runOnce : ∀ body bodyPos pos, (∀ s ∈ body, motive s) → motive (runOnce body bodyPos pos))
    (struct : ∀ d, motive (struct d)) :
    ∀ s, motive s := by
  intro s
  -- one motive each for arms, statement lists, optional statements and lists of arms
  refine @Stmt.rec motive (fun a => ∀ s ∈ a.body, motive s) (fun ss => ∀ s ∈ ss, motive s)
    (fun o => ∀ s ∈ o, motive s) (fun as => ∀ a ∈ as, ∀ s ∈ a.body, motive s)
    empty expr decl block ifStmt while_ doWhile forStmt switch break_ continue_ return_ labels
    trigger runOnce struct ?_ ?_ ?_ ?_ ?_ ?_ ?_ s
  · exact fun _ _ h => h
  · exact fun _ h => (not_mem_nil h).elim
  · intro head tail hhead htail s hs
    rcases mem_cons.1 hs with rfl | hs
    · exact hhead
    · exact htail s hs
  · exact fun _ h => nomatch h
  · intro s hs t ht
    cases ht
    exact hs
  · exact fun _ h => (not_mem_nil h).elim
  · intro head tail hhead htail a ha
    rcases mem_cons.1 ha with rfl | ha
    · exact hhead
    · exact htail a ha

end Stmt

/-! ## Files -/

structure Param where
  byRef : Bool
  ty : Option TypeRef
  name : String
  pos : Pos

structure ScriptSig where
  ret : Option TypeRef
  scriptType : Option String
  name : String
  params : List Param
  pos : Pos

structure Block where
  stmts : List Stmt
  pos : Pos

structure ScriptDef where
  sig : ScriptSig
  body : Option Block

structure MainScript where
  scriptType : String
  ret : Option TypeRef
  body : Block
  pos : Pos

inductive Item where
  | include (path : String) (pos : Pos)
  | labels (defs : List LabelDef) (pos : Pos)
  | struct (d : StructDef)
  | script (d : ScriptDef)
  | main (m : MainScript)
  | var (d : VarDecl)

structure SourceFile where
  path : String
  items : List Item

end Don.BhsCc
