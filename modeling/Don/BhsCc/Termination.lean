import Don.BhsCc.Effects

/-!
# Termination — when compilation ends

Loading ends because nesting is limited, and everything else in the compiler recurses over syntax,
with one exception: the default value of a struct contains the default values of its fields, and the
table of structs may have a struct that contains itself.  If no constant panics, compilation ends exactly
when every type whose default value it has to emit is grounded, that is, unfolds to scalars in finitely many
steps.
-/

namespace Don.BhsCc

open Foundation Bhs Proc List Stmt CompilationUnit

/-- A type whose fields and elements lead to scalars in finitely many steps. -/
inductive Grounded (u : CompilationUnit) : Ty → Prop where
  | scalar (s : ScriptTy) : Grounded u (.scalar s)
  | untyped : Grounded u .untyped
  | array {inner : Ty} : Grounded u inner → Grounded u (.array inner)
  | struct {si : Nat} : (∀ f ∈ (u.struct si).fields, Grounded u f.ty) → Grounded u (.struct si)

/-- Some type of a list of demands is not grounded. -/
def Endless (u : CompilationUnit) (demands : List Demand) : Prop :=
  ∃ ty, .default ty ∈ demands ∧ ¬ Grounded u ty

lemma endless_append {u : CompilationUnit} {l l' : List Demand} :
    Endless u (l ++ l') ↔ Endless u l ∨ Endless u l' := by
  simp only [Endless, mem_append, or_and_right, exists_or]

lemma not_endless_constants {u : CompilationUnit} {values : List (Option Expr)} :
    ¬ Endless u (constants values) := by
  simp [Endless, constants]

/-- A constant that does not panic, whatever the labels stand for. -/
def Safe (e : Expr) : Prop :=
  ∀ env, constInt env e ≠ .error .panic

/-- What lets code generation go on. -/
def Demand.Met (u : CompilationUnit) : Demand → Prop
  | .default ty => Grounded u ty
  | .constant e => Safe e

/-- The values of labels do not panic if those of their entries do not. -/
lemma evalLabels_isSome {file : String} {defs : List LabelDef}
    (h : ∀ d ∈ defs, ∀ e, d.value = some e → Safe e) (env : Labels) (diags : List Diag) :
    (evalLabels file defs env diags).isSome = true := by
  unfold evalLabels
  generalize (1 : Int64) = next
  induction defs generalizing next env diags with
  | nil => rfl
  | cons d ds ih =>
    obtain ⟨r, hr⟩ : ∃ r, labelValue env file next d = some r := by
      unfold labelValue
      split
      · exact ⟨_, rfl⟩
      · rename_i e he
        split
        · exact ⟨_, rfl⟩
        · rename_i hpanic
          exact absurd hpanic (h d mem_cons_self e he env)
        · exact ⟨_, rfl⟩
    rw [evalLabelsFrom, hr]
    exact ih (fun d' hd' => h d' (mem_cons_of_mem d hd')) _ _ _

namespace Gen

variable {G : Env}

lemma constValue_panic_iff {env : Labels} {e : Expr} :
    constValue env e = .error .panic ↔ constInt env e = .error .panic := by
  have hmap : ∀ r : Except ConstFault Int64,
      r.map (fun v => Value.int v.toInt32) = .error .panic ↔ r = .error .panic := by
    intro r
    cases r <;> simp [Except.map]
  unfold constValue
  split
  case h_4 => exact hmap _
  all_goals simp [constInt]

/-- A constant ends in every state if and only if it panics under no labels. -/
lemma halts_constant_iff {e : Expr} : (constant e).Halts ↔ Safe e := by
  have hrun : ∀ n s, (constant e).run n s = .hang ↔ constInt s.labels e = .error .panic := by
    intro n s
    rw [← constValue_panic_iff]
    simp only [constant, run_lift]
    split <;> simp_all
  constructor
  · intro h env hpanic
    obtain ⟨n, hn⟩ := h { GenState.start [] with labels := env }
    exact hn ((hrun n _).2 hpanic)
  · exact fun h s => ⟨0, fun hhang => h s.labels ((hrun 0 s).1 hhang)⟩

lemma compositional_halts : Compositional G (fun x => Halts x) where
  pure := halts_pure
  bind := Halts.bind
  gets := halts_gets
  emit _ := halts_modify _
  emitU32 _ := halts_modify _
  fixup _ := halts_modify _
  newLabel := halts_lift fun s => by simp
  place _ := halts_modify _
  intern v := halts_lift fun s => by split <;> simp
  declareLocal _ _ := halts_lift fun s => by simp
  declareStatic _ _ := halts_lift fun s => by simp
  triggerIndex n := halts_lift fun s => by split <;> simp
  diag _ _ _ := halts_modify _
  enterScope := halts_modify _
  leaveScope := halts_modify _
  countCast := halts_modify _
  labels defs pos h := by
    -- the constants end under any labels, so none of them panics
    have hsafe : ∀ d ∈ defs, ∀ e, d.value = some e → Safe e := fun d hd e he =>
      halts_constant_iff.1 (h d hd e he)
    refine halts_lift fun s => ?_
    obtain ⟨r, hr⟩ := Option.isSome_iff_exists.1 (evalLabels_isSome hsafe s.labels s.diags)
    rw [hr]
    simp

/-- Code generation for bodies leaves the script table alone. -/
lemma compositional_keeps_scripts {γ : Type} (f : List Script → γ) :
    Compositional G (fun x => Keeps (fun s => f s.scripts) x) where
  pure := keeps_pure
  bind := Keeps.bind
  gets := keeps_gets
  emit _ := keeps_modify fun _ => rfl
  emitU32 _ := keeps_modify fun _ => rfl
  fixup _ := keeps_modify fun _ => rfl
  newLabel := keeps_lift fun _ => rfl
  place _ := keeps_modify fun _ => rfl
  intern v := keeps_lift fun s => by split <;> rfl
  declareLocal _ _ := keeps_lift fun _ => rfl
  declareStatic _ _ := keeps_lift fun _ => rfl
  triggerIndex n := keeps_lift fun s => by split <;> rfl
  diag _ _ _ := keeps_modify fun _ => rfl
  enterScope := keeps_modify fun _ => rfl
  leaveScope := keeps_modify fun _ => rfl
  countCast := keeps_modify fun _ => rfl
  labels _ _ _ := keeps_lift fun s => by split <;> trivial

/-! ## Default values -/

variable {ty : Ty}

lemma halts_defaultValueTo_of_le {pos : Pos} {k k' : Nat} (hle : k ≤ k')
    (h : (emitDefaultValueTo G pos k ty).Halts) : (emitDefaultValueTo G pos k' ty).Halts := by
  obtain ⟨j, rfl⟩ := Nat.exists_eq_add_of_le hle
  induction j with
  | zero => exact h
  | succ j ih =>
    intro s
    obtain ⟨n, hn⟩ := ih (Nat.le_add_right k j) s
    refine ⟨n, fun hhang => hn ?_⟩
    have happrox := emitDefaultValueTo_le G pos (k + j) ty n s
    rw [show k + (j + 1) = k + j + 1 from rfl] at hhang
    rw [hhang] at happrox
    exact Result.le_hang_iff.1 happrox

lemma exists_halts_defaultValueTo (h : Grounded G.unit ty) (pos : Pos) :
    ∃ k, (emitDefaultValueTo G pos k ty).Halts := by
  induction h with
  | scalar | untyped => exact ⟨0, compositional_halts.defaultSimple⟩
  | array _ ih =>
    obtain ⟨k, hk⟩ := ih
    exact ⟨k + 1, compositional_halts.defaultArray hk⟩
  | @struct si _ ih =>
    -- one depth that is enough for every field
    have hdepth : ∀ fs : List StructField,
        (∀ f ∈ fs, ∃ k, (emitDefaultValueTo G pos k f.ty).Halts) →
        ∃ k, ∀ f ∈ fs, (emitDefaultValueTo G pos k f.ty).Halts := by
      intro fs
      induction fs with
      | nil => exact fun _ => ⟨0, by simp⟩
      | cons f fs ihfs =>
        intro hfs
        obtain ⟨k, hk⟩ := hfs f (by simp)
        obtain ⟨k', hk'⟩ := ihfs fun f' hf' => hfs f' (mem_cons_of_mem f hf')
        refine ⟨max k k', fun f' hf' => ?_⟩
        rcases mem_cons.1 hf' with rfl | hf'
        · exact halts_defaultValueTo_of_le (Nat.le_max_left k k') hk
        · exact halts_defaultValueTo_of_le (Nat.le_max_right k k') (hk' f' hf')
    obtain ⟨k, hk⟩ := hdepth _ ih
    exact ⟨k + 1, compositional_halts.defaultStruct hk⟩

lemma halts_emitDefaultValue (h : Grounded G.unit ty) (pos : Pos) :
    (emitDefaultValue G ty pos).Halts := by
  obtain ⟨k, hk⟩ := exists_halts_defaultValueTo h pos
  exact fun s => (total_limit (hk.total s)).returns

lemma stuck_emitDefaultFields {emitTy : Ty → Gen Unit} (pos : Pos) {fs : List StructField}
    (h : ∃ f ∈ fs, (emitTy f.ty).Stuck) : (emitDefaultFields G emitTy pos fs).Stuck := by
  induction fs with
  | nil => simp at h
  | cons f fs ih =>
    obtain ⟨f', hmem, hstuck⟩ := h
    rcases mem_cons.1 hmem with rfl | hmem
    · refine stuck_bind_left ?_
      unfold emitDefaultField
      split
      · exact stuck_bind_left hstuck
      · exact hstuck
    · exact stuck_bind_right fun _ => ih ⟨f', hmem, hstuck⟩

/-- No depth is enough for a type that is not grounded. -/
lemma stuck_defaultValueTo (pos : Pos) : ∀ (k : Nat) {ty : Ty}, ¬ Grounded G.unit ty →
    (emitDefaultValueTo G pos k ty).Stuck := by
  intro k
  induction k with
  | zero =>
    intro ty hty
    cases ty with
    | scalar s => exact (hty (.scalar s)).elim
    | untyped => exact (hty .untyped).elim
    | struct => exact fun _ _ => rfl
    | array => exact fun _ _ => rfl
  | succ k ih =>
    intro ty hty
    cases ty with
    | scalar s => exact (hty (.scalar s)).elim
    | untyped => exact (hty .untyped).elim
    | struct si =>
      have hfield : ∃ f ∈ (G.unit.struct si).fields, ¬ Grounded G.unit f.ty := by
        by_contra hall
        push Not at hall
        exact hty (.struct hall)
      obtain ⟨f, hf, hnot⟩ := hfield
      refine stuck_bind_left (stuck_emitDefaultFields pos ⟨f, ?_, ih hnot⟩)
      exact mem_reverse.2 hf
    | array => exact stuck_bind_left (ih fun h => hty (.array h))

lemma stuck_emitDefaultValue (h : ¬ Grounded G.unit ty) (pos : Pos) :
    (emitDefaultValue G ty pos).Stuck :=
  fun n s => stuck_defaultValueTo pos n h n s

/-! ## Statements -/

lemma stuck_declarator {isStatic : Bool} {tyRef : Option TypeRef} {d : Declarator}
    (h : Endless G.unit (d.demands G.unit tyRef)) : (declarator G isStatic tyRef d).Stuck := by
  obtain ⟨ty, hmem, hnot⟩ := h
  have hvalue : (initValue G (declTy G tyRef d) d).Stuck := by
    unfold initValue declTy
    unfold Declarator.demands at hmem
    split
    · rename_i hinit
      simp [hinit] at hmem
    · rename_i hinit
      simp [hinit] at hmem
    all_goals
      rename_i hinit harr
      obtain rfl : ty = G.unit.resolveType tyRef := by simpa [hinit] using hmem
      rw [harr]
      exact stuck_bind_left (stuck_emitDefaultValue hnot _)
  have hinit : ∀ slot, (initDeclarator G (declTy G tyRef d) d slot).Stuck :=
    fun _ => stuck_bind_left hvalue
  unfold declarator
  dsimp only
  split
  · refine stuck_bind_right fun slot => stuck_bind_right fun skip => ?_
    exact stuck_bind_right fun _ => stuck_bind_left (hinit slot)
  · exact stuck_bind_right fun slot => hinit slot

lemma stuck_declarators {isStatic : Bool} {tyRef : Option TypeRef} {ds : List Declarator}
    (h : Endless G.unit (ds.flatMap (Declarator.demands G.unit tyRef))) :
    (declarators G isStatic tyRef ds).Stuck := by
  induction ds with
  | nil => simp [Endless] at h
  | cons d ds ih =>
    rw [flatMap_cons] at h
    rcases endless_append.1 h with h | h
    · exact stuck_bind_left (stuck_declarator h)
    · exact stuck_bind_right fun _ => ih h

variable {ret : Ty}

lemma stuck_defaultReturn (pos : Pos) (h : Endless G.unit (returnDemands ret)) :
    (defaultReturn G ret pos).Stuck := by
  obtain ⟨ty, hmem, hnot⟩ := h
  unfold returnDemands at hmem
  unfold defaultReturn
  split at hmem
  · simp at hmem
  · rename_i hret
    obtain rfl : ty = ret := by simpa using hmem
    rw [if_neg hret]
    exact stuck_emitDefaultValue hnot pos

lemma stuck_inScope {x : Gen Unit} (h : x.Stuck) : (inScope x).Stuck :=
  stuck_bind_right fun _ => stuck_bind_left h

lemma stuck_stmtListOf {t : Targets} {ss : List Stmt}
    (h : ∀ s ∈ ss, Endless G.unit (demands G.unit ret s) → (stmt G ret t s).Stuck)
    (hbad : Endless G.unit (demandsAll G.unit ret ss)) :
    (stmtList G ret t ss).Stuck := by
  induction ss with
  | nil => simp [demandsAll, Endless] at hbad
  | cons s ss ih =>
    rw [demandsAll] at hbad
    rcases endless_append.1 hbad with hbad | hbad
    · exact stuck_bind_left (h s (by simp) hbad)
    · refine stuck_bind_right fun _ => ih (fun s' hs' => h s' ?_) hbad
      exact mem_cons_of_mem s hs'

lemma stuck_switchArmsOf {t : Targets} {arms : List SwitchArm} {labels : List Nat}
    (h : ∀ a ∈ arms, ∀ s ∈ a.body, Endless G.unit (demands G.unit ret s) →
      (stmt G ret t s).Stuck)
    (hbad : Endless G.unit (demandsArms G.unit ret arms))
    (hlen : labels.length = arms.length) : (switchArms G ret t arms labels).Stuck := by
  induction arms generalizing labels with
  | nil => simp [demandsArms, Endless] at hbad
  | cons arm arms ih =>
    obtain ⟨ls, body⟩ := arm
    cases labels with
    | nil => simp at hlen
    | cons =>
      rw [demandsArms] at hbad
      refine stuck_bind_right fun _ => ?_
      rcases endless_append.1 ((endless_append.1 hbad).resolve_left not_endless_constants) with hbad | hbad
      · refine stuck_bind_left (stuck_inScope (stuck_stmtListOf ?_ hbad))
        exact h (.mk ls body) (by simp)
      · refine stuck_bind_right fun _ => ih (fun a ha => h a ?_) hbad ?_
        · exact mem_cons_of_mem _ ha
        · simpa using hlen

lemma length_newLabels (k n : Nat) (s : GenState) :
    ((newLabels k).run n s).Sat (fun ls _ => ls.length = k) (fun _ _ => True) True := by
  induction k generalizing s with
  | zero => rfl
  | succ k ih =>
    unfold newLabels
    rw [sat_bind]
    refine sat_bind.2 ((ih _).mono ?_ (fun _ _ _ => trivial) id)
    intro ls s' hls
    exact congrArg Nat.succ hls

/-- A statement that demands a type that is not grounded is compiled forever. -/
lemma stuck_stmt (t : Targets) (s : Stmt)
    (h : Endless G.unit (demands G.unit ret s)) : (stmt G ret t s).Stuck := by
  induction s using induct generalizing t with
  | labels => exact absurd h not_endless_constants
  | empty | struct | expr | break_ | continue_ => simp [Stmt.demands, Endless] at h
  | decl => exact stuck_declarators h
  | block stmts pos ih => exact stuck_inScope (stuck_stmtListOf (fun s hs => ih s hs t) h)
  | ifStmt cond thn els pos iht ihe =>
    cases els with
    | none =>
      refine stuck_bind_right fun lElse => stuck_bind_right fun _ => ?_
      exact stuck_bind_right fun _ => stuck_bind_left (iht t h)
    | some els =>
      refine stuck_bind_right fun lElse => stuck_bind_right fun _ => ?_
      refine stuck_bind_right fun _ => ?_
      rcases endless_append.1 h with h | h
      · exact stuck_bind_left (iht t h)
      · refine stuck_bind_right fun _ => stuck_bind_right fun lEnd => ?_
        refine stuck_bind_right fun _ => stuck_bind_right fun _ => ?_
        exact stuck_bind_left (ihe els rfl t h)
  | while_ cond body pos ih =>
    refine stuck_bind_right fun lTop => stuck_bind_right fun lEnd => ?_
    refine stuck_bind_right fun _ => stuck_bind_right fun _ => ?_
    exact stuck_bind_right fun _ => stuck_bind_left (ih _ h)
  | doWhile body cond pos ih =>
    refine stuck_bind_right fun lTop => stuck_bind_right fun lCont => ?_
    refine stuck_bind_right fun lEnd => stuck_bind_right fun _ => ?_
    exact stuck_bind_left (ih _ h)
  | forStmt init cond step body pos ihi ihb =>
    have hbody : Endless G.unit (demands G.unit ret body) →
        ∀ emitInit, (forLoop G cond step emitInit fun t => stmt G ret t body).Stuck := by
      intro hbad emitInit
      refine stuck_inScope (stuck_bind_right fun _ => stuck_bind_right fun lTop => ?_)
      refine stuck_bind_right fun lStep => stuck_bind_right fun lEnd => ?_
      refine stuck_bind_right fun _ => stuck_bind_right fun _ => ?_
      exact stuck_bind_left (ihb _ hbad)
    cases init with
    | none => exact hbody h _
    | some init =>
      rcases endless_append.1 h with h | h
      · exact stuck_inScope (stuck_bind_left (ihi init rfl t h))
      · exact hbody h _
  | switch subject arms pos ih =>
    refine stuck_bind_right fun _ => stuck_bind_right fun lEnd => ?_
    refine stuck_bind_of (length_newLabels arms.length) fun armLabels hlen => ?_
    refine stuck_bind_right fun default => stuck_bind_right fun _ => ?_
    refine stuck_bind_right fun _ => stuck_bind_left ?_
    exact stuck_switchArmsOf (fun a ha s hs => ih a ha s hs _) h hlen
  | return_ value pos =>
    cases value with
    | some => simp [Stmt.demands, Endless] at h
    | none => exact stuck_bind_left (stuck_defaultReturn pos h)
  | trigger name cond body pos ih =>
    refine stuck_bind_right fun idx => stuck_bind_right fun lEnd => ?_
    refine stuck_bind_right fun _ => stuck_bind_right fun _ => ?_
    exact stuck_bind_left (stuck_inScope (ih t h))
  | runOnce body bodyPos pos ih =>
    refine stuck_bind_right fun idx => stuck_bind_right fun lEnd => ?_
    refine stuck_bind_right fun _ => stuck_bind_right fun _ => ?_
    refine stuck_bind_left (stuck_inScope ?_)
    exact stuck_stmtListOf (fun s hs => ih s hs t) h

/-! ## Scripts and files -/

lemma meets_of_met {x : Demand} (h : x.Met G.unit) : Demand.Meets G (fun x => Halts x) x := by
  cases x with
  | default ty => exact halts_emitDefaultValue h
  | constant e => exact halts_constant_iff.2 h

lemma halts_scriptItem {it : ScriptItem} (h : ∀ x ∈ it.demands G.unit, x.Met G.unit) :
    (scriptItem G it).Halts := by
  obtain ⟨sig, body⟩ := it
  cases body with
  | none => exact halts_pure _
  | some body =>
    refine Halts.bind (halts_gets _) fun found => ?_
    cases found with
    | none => exact halts_pure _
    | some si =>
      have hbody := (compositional_halts (G := G)).scriptBody si sig body fun x hx => meets_of_met (h x hx)
      refine (halts_gets _).bind fun entry => (halts_modify _).bind fun _ => ?_
      refine hbody.bind fun _ => (halts_modify _).bind fun _ => ?_
      refine (compositional_halts.resolvedTypeTag _ _).bind fun returnType => ?_
      exact (compositional_halts.paramTags _).bind fun _ => halts_modify _

lemma stuck_scriptAt {si : Nat} {sig : ScriptSig} {body : Block}
    (h : Endless G.unit (ScriptItem.demands G.unit ⟨sig, body⟩)) :
    (scriptAt G si sig body).Stuck := by
  have hbody : (scriptBody G si sig (G.unit.resolveType sig.ret) body).Stuck := by
    refine stuck_bind_right fun _ => stuck_bind_right fun _ => ?_
    refine stuck_bind_right fun _ => ?_
    rcases endless_append.1 h with h | h
    · exact stuck_bind_left (stuck_stmtListOf (fun s _ h => stuck_stmt _ s h) h)
    refine stuck_bind_right fun _ => ?_
    unfold tailReturn
    split
    · rename_i hend
      simp [hend, Endless] at h
    · rename_i hend
      rw [if_neg hend] at h
      exact stuck_bind_left (stuck_defaultReturn _ h)
  refine stuck_bind_right fun entry => stuck_bind_right fun _ => ?_
  exact stuck_bind_left hbody

/-- A change of one entry is not seen by what does not depend on it. -/
lemma map_modify_of_eq {α β : Type} {f : α → α} {g : α → β} (l : List α) (i : Nat)
    (h : ∀ a, g (f a) = g a) : (l.modify i f).map g = l.map g := by
  refine ext_getElem? fun j => ?_
  simp only [getElem?_map, getElem?_modify]
  split
  · cases l[j]? <;> simp [h]
  · simp

/-- The names of the scripts of a file do not change while it is compiled. -/
lemma keeps_names_scriptItem (it : ScriptItem) :
    Keeps (fun s : GenState => s.scripts.map (·.name)) (scriptItem G it) := by
  obtain ⟨sig, body⟩ := it
  have hP := compositional_keeps_scripts (G := G) fun scs => scs.map (·.name)
  have hdef : ∀ ty pos, Keeps (fun s : GenState => s.scripts.map (·.name))
      (emitDefaultValue G ty pos) :=
    fun ty pos => keeps_limit fun k => hP.emitDefaultValueTo keeps_hang pos k ty
  cases body with
  | none => exact keeps_pure _
  | some body =>
    refine (keeps_gets _).bind fun found => ?_
    cases found with
    | none => exact keeps_pure _
    | some si =>
      have hbody := hP.scriptBody si sig body fun x _ => by
        cases x with
        | default ty => exact hdef ty
        | constant e => exact keeps_lift fun s => by split <;> trivial
      refine (keeps_gets _).bind fun entry => ?_
      refine Keeps.bind (keeps_modify fun _ => rfl) fun _ => hbody.bind fun _ => ?_
      refine Keeps.bind (keeps_modify fun _ => rfl) fun _ => ?_
      refine (hP.resolvedTypeTag _ _).bind fun returnType => (hP.paramTags _).bind fun _ => ?_
      exact keeps_modify fun s => map_modify_of_eq _ _ fun _ => rfl

lemma stuck_scriptItem {names : List String} {it : ScriptItem} (hlisted : it.Listed names)
    (h : Endless G.unit (it.demands G.unit)) (n : Nat) {s : GenState}
    (hnames : s.scripts.map (·.name) = names) : (scriptItem G it).run n s = .hang := by
  obtain ⟨sig, body⟩ := it
  cases body with
  | none => simp [ScriptItem.demands, Endless] at h
  | some =>
    have hfound : ∃ si, s.scripts.findIdx? (fun sc => eqIgnoreAsciiCase sc.name sig.name)
        = some si := by
      obtain ⟨name, hmem, heq⟩ := hlisted
      rw [← hnames] at hmem
      obtain ⟨sc, hsc, rfl⟩ := mem_map.1 hmem
      rw [← Option.isSome_iff_exists, findIdx?_isSome, any_eq_true]
      exact ⟨sc, hsc, heq⟩
    obtain ⟨si, hsi⟩ := hfound
    simp only [scriptItem, script, run_bind, run_gets, Result.bind_ok, hsi]
    exact stuck_scriptAt h n s

lemma halts_scripts {its : List ScriptItem}
    (h : ∀ it ∈ its, ∀ x ∈ it.demands G.unit, x.Met G.unit) : (scripts G its).Halts := by
  induction its with
  | nil => exact halts_pure _
  | cons it its ih =>
    refine (halts_scriptItem (h it (by simp))).bind fun _ => ih fun it' hit' => h it' ?_
    exact mem_cons_of_mem it hit'

lemma stuck_scripts {names : List String} {its : List ScriptItem}
    (hlisted : ∀ it ∈ its, it.Listed names)
    (h : ∃ it ∈ its, Endless G.unit (it.demands G.unit)) (n : Nat) {s : GenState}
    (hnames : s.scripts.map (·.name) = names) : (scripts G its).run n s = .hang := by
  induction its generalizing s with
  | nil => simp at h
  | cons it its ih =>
    obtain ⟨it', hmem, hbad⟩ := h
    rw [scripts, run_bind]
    rcases mem_cons.1 hmem with rfl | hmem
    · rw [stuck_scriptItem (hlisted it' (by simp)) hbad n hnames]
      rfl
    have hkept := keeps_names_scriptItem (G := G) it n s
    cases hrun : (scriptItem G it).run n s with
    | ok =>
      rw [hrun] at hkept
      refine ih (fun it hit => hlisted it ?_) ⟨it', hmem, hbad⟩ (Eq.trans hkept hnames)
      exact mem_cons_of_mem _ hit
    | error e => exact e.elim
    | hang => rfl

end Gen

/-! ## Units -/

variable {u : CompilationUnit} {builtins : List BuiltinDecl}

lemma halts_compileFiles {fis : List Nat}
    (h : ∀ fi ∈ fis, ∀ it ∈ (u.file fi).scriptItems, ∀ x ∈ it.demands u, x.Met u) :
    (compileFiles u builtins fis).Halts := by
  induction fis with
  | nil => exact halts_pure _
  | cons fi fis ih =>
    have hfile : (Gen.scripts ⟨u, fi, builtins⟩ (u.file fi).scriptItems).Halts :=
      Gen.halts_scripts (h fi (by simp))
    refine Halts.bind (fun _ => returns_withState.2 (hfile _)) fun r => ?_
    refine Halts.bind (ih fun fi' hfi' => h fi' ?_) fun rest => halts_pure _
    exact mem_cons_of_mem fi hfi'

lemma stuck_compileFiles {fis : List Nat}
    (hlisted : ∀ fi ∈ fis, ∀ it ∈ (u.file fi).scriptItems, it.Listed (u.file fi).scriptNames)
    (h : ∃ fi ∈ fis, ∃ it ∈ (u.file fi).scriptItems, Endless u (it.demands u)) :
    (compileFiles u builtins fis).Stuck := by
  induction fis with
  | nil => simp at h
  | cons fi fis ih =>
    obtain ⟨fi', hmem, hbad⟩ := h
    rcases mem_cons.1 hmem with rfl | hmem
    · refine stuck_bind_left fun n _ => ?_
      have hnames : (GenState.start (u.file fi').scriptNames).scripts.map (·.name)
          = (u.file fi').scriptNames := by
        simp [GenState.start, Function.comp_def]
      have hhang := Gen.stuck_scripts (G := ⟨u, fi', builtins⟩) (hlisted fi' (by simp)) hbad n
        hnames
      simp only [withState, hhang]
    · refine stuck_bind_right fun r => stuck_bind_left (ih (fun fi hfi => ?_) ?_)
      · exact hlisted fi (mem_cons_of_mem _ hfi)
      · exact ⟨fi', hmem, hbad⟩

lemma mem_demands {x : Demand} : x ∈ u.demands ↔ ∃ fi ∈ range u.files.length,
    ∃ it ∈ (u.file fi).scriptItems, x ∈ it.demands u := by
  simp only [CompilationUnit.demands, mem_flatMap, mem_range]
  constructor
  · rintro ⟨f, hf, it, hit, hty⟩
    obtain ⟨fi, hlt, rfl⟩ := CompilationUnit.exists_file_eq hf
    exact ⟨fi, hlt, it, hit, hty⟩
  · rintro ⟨fi, hlt, it, hit, hty⟩
    exact ⟨u.file fi, CompilationUnit.file_mem hlt, it, hit, hty⟩

lemma not_grounded_of_self {u : CompilationUnit} {si : Nat}
    (h : ∃ f ∈ (u.struct si).fields, f.ty = .struct si) : ¬ Grounded u (.struct si) := by
  obtain ⟨f, hf, hty⟩ := h
  have hcycle : ∀ ty, Grounded u ty → ty ≠ .struct si := by
    intro ty hty'
    induction hty' with
    | scalar | untyped | array => simp
    | struct _ ih =>
      rintro heq
      cases heq
      exact ih f hf hty
  exact fun hg => hcycle _ hg rfl

/-- `6 / 2` -/
def three : Expr :=
  .binary .slash (.int 6 ⟨1, 1⟩) (.int 2 ⟨1, 1⟩) ⟨1, 1⟩

/-- `struct A { <field> x; }; void f() { labels { n = 6 / 2 } A v; }` -/
def structSource (field : String) : SourceFile :=
  let pos : Pos := ⟨1, 1⟩
  let ty (name : String) : TypeRef := ⟨name, 0, pos⟩
  ⟨"t.bhs",
    [.struct ⟨"A", [⟨ty field, "x", none, pos⟩], pos⟩,
     .script ⟨⟨some (ty "void"), none, "f", [], pos⟩,
       some ⟨[.labels [⟨"n", some three, pos⟩] pos, .decl ⟨false, some (ty "A"), [⟨"v", none, none, pos⟩], pos⟩], pos⟩⟩]⟩

def structUnit (field : String) : CompilationUnit :=
  unitOf (analyze (.single (structSource field)) "t.bhs")

end Don.BhsCc
