import Don.Bhs.Vm.Effects
import Don.Bhs.Vm.Safe

/-!
# Termination — every call returns within its budget

The budget bounds the instructions of a run, not what one instruction does.  An instruction returns
in a sound machine, and soundness is an invariant of every instruction but two.  `OP_INIT` closes a
cycle when the popped slot leads to the local it is stored in; an aggregate `OP_ASSIGN` closes one
when the target is contained in a prototype that the copies share.  A run whose instructions do
neither returns.
-/

namespace Don.Bhs

open Foundation Proc List Exec Result VarRef Vm Heap Proc Engine

variable {σ : Type}

/-! ## What an instruction must not do -/

namespace Vm

def opcode (vm : Vm σ) : Option Opcode :=
  (vm.code[vm.top.bip]?).bind Opcode.decode

def operand (vm : Vm σ) : Option UInt32 :=
  match (vm.code.drop (vm.top.bip + 1)).take 4 with
  | [b₀, b₁, b₂, b₃] => some (u32FromLe b₀ b₁ b₂ b₃)
  | _ => none

/-- The value behind a slot is `v`. -/
def Reads (vm : Vm σ) (s : Slot) (v : Value) : Prop :=
  ∃ n, (Exec.deref s).run n vm = .ok v vm

/-- The next instruction closes no cycle: an `OP_INIT` of a local does not store a reference that
leads to that local, and an aggregate `OP_ASSIGN` is one that `Heap.SafeAssign` allows. -/
structure Careful (vm : Vm σ) : Prop where
  init : vm.opcode = some .init → ∀ raw i k j rest, vm.operand = some raw →
    VarRef.decode raw = .local i → vm.stack = .ref (.local k j) :: rest →
      ¬ Relation.ReflTransGen vm.Chain (k, j) (vm.frames.length - 1, i)
  assign : vm.opcode = some .assign → ∀ target source rest this other,
    vm.stack = target :: source :: rest → vm.Reads target (.obj this) →
      vm.Reads source (.obj other) → vm.heap.SafeAssign this other

lemma deref_congr {vm vm' : Vm σ} (hlocal : vm'.localAt = vm.localAt) (hprog : vm'.prog = vm.prog)
    (hheap : vm'.heap = vm.heap) {s : Slot} {v : Value} (h : vm'.Reads s v) : vm.Reads s v := by
  have hread : ∀ s n, (read s).run n vm' = .ok v vm' → (read s).run n vm = .ok v vm := by
    intro s n hrun
    rcases s with w | (⟨f, i⟩ | ⟨f, sc, i⟩ | ⟨k, i⟩) | c
    · simpa [Exec.read] using hrun
    · simp only [Exec.read, run_bind, run_gets, Result.bind_ok, hprog] at hrun ⊢
      cases hc : (vm.prog.file f).constPool[i.toNat]? with
      | none => simp [hc] at hrun
      | some => simpa [hc] using hrun
    · simp only [Exec.read, run_bind, run_gets, Result.bind_ok, hprog] at hrun ⊢
      cases hc : (vm.prog.script f sc).statics[i.toNat]? with
      | none => simp [hc] at hrun
      | some => simpa [hc] using hrun
    · simp [Exec.read] at hrun
    · simpa [Exec.read, hheap] using hrun
  have hfollow : ∀ k s n, (derefTo k s).run n vm' = .ok v vm' →
      (derefTo k s).run n vm = .ok v vm := by
    intro k
    induction k with
    | zero =>
      intro s n hrun
      rcases s with _ | (_ | _ | ⟨k, i⟩) | _
      case ref.local => simp [derefTo] at hrun
      all_goals exact hread _ n hrun
    | succ m ih =>
      intro s n hrun
      rcases s with _ | (_ | _ | ⟨k, i⟩) | _
      case ref.local =>
        simp only [derefTo, run_bind, run_gets, bind_ok, hlocal] at hrun ⊢
        cases hc : vm.localAt k i with
        | none => simp [hc] at hrun
        | some inner =>
          simp only [hc, run_ofOption_some, bind_ok] at hrun ⊢
          exact ih inner n hrun
      all_goals exact hread _ n hrun
  obtain ⟨n, hn⟩ := h
  exact ⟨n, hfollow n s n hn⟩

lemma setBip_code (vm : Vm σ) (v : Nat) : (vm.setBip v).code = vm.code := by
  cases hframes : vm.frames <;> simp [code, setBip, modifyTop, top, hframes]

lemma setBip_bip {vm : Vm σ} (hne : vm.frames ≠ []) (v : Nat) : (vm.setBip v).top.bip = v := by
  obtain ⟨f, rest, hframes⟩ := exists_cons_of_ne_nil hne
  simp [setBip, modifyTop, top, hframes]

end Vm

namespace Exec

section Steps

variable [StdLib] {E : Engine σ} {vm : Vm σ}

omit [StdLib] in
/-- `OP_INIT`, when the slot does not lead back to the local it is stored in. -/
lemma opInit_total (hs : vm.Sound) (hne : vm.frames ≠ [])
    (hfree : ∀ raw i k j rest, vm.operand = some raw → decode raw = .local i →
      vm.stack = .ref (.local k j) :: rest →
        ¬ Relation.ReflTransGen vm.Chain (k, j) (vm.frames.length - 1, i)) :
    Total opInit (vm.setBip (vm.top.bip + 1)) (fun _ vm' => vm'.Sound) (fun _ _ => True) := by
  have hs₁ : (vm.setBip (vm.top.bip + 1)).Sound := hs.setBip _
  cases hstack : vm.stack with
  | nil =>
    refine Total.bind (total_lift ?_)
    rw [show (vm.setBip (vm.top.bip + 1)).stack = [] from hstack]
    trivial
  | cons s rest =>
    have hmem : ∀ t ∈ s :: rest, t.Below vm.heap := hstack ▸ hs.stack
    refine Total.bind (total_lift ?_)
    rw [show (vm.setBip (vm.top.bip + 1)).stack = s :: rest from hstack]
    let vm₂ : Vm σ := { vm.setBip (vm.top.bip + 1) with stack := rest }
    have hs₂ : vm₂.Sound := hs₁.setStack fun t ht => hmem t (mem_cons_of_mem _ ht)
    change Total _ vm₂ _ _
    -- the operand is the one that follows the opcode
    refine Total.bind (Total.bind (total_gets ?_))
    have hcode : vm₂.code = vm.code := setBip_code vm _
    have hbip : vm₂.top.bip = vm.top.bip + 1 := setBip_bip hne _
    refine Total.bind (Total.bind (total_gets ?_))
    rw [hcode, hbip]
    split
    · rename_i b₀ b₁ b₂ b₃ hbytes
      have hoperand : vm.operand = some (u32FromLe b₀ b₁ b₂ b₃) := by
        rw [operand, hbytes]
      refine total_pure (Total.bind (total_modify (total_pure ?_)))
      let vm₃ : Vm σ := vm₂.setBip (vm.top.bip + 1 + 4)
      have hlocal₃ : vm₃.localAt = vm.localAt :=
        (localAt_setBip vm₂ _).trans (localAt_setBip vm _)
      have hs₃ : vm₃.Sound := hs₂.setBip _
      refine Total.bind (α := Step) (β := Unit) ?_
      change Total (setSlot (decode (u32FromLe b₀ b₁ b₂ b₃)) s) vm₃ _ _
      have hdone : ∀ vm' : Vm σ, vm'.Sound → Total (pure .continue : Exec σ Step) vm'
          (fun _ vm' => vm'.Sound) (fun _ _ => True) := fun vm' h => total_pure h
      have hbelow : s.Below vm₃.heap := hmem s mem_cons_self
      cases hdecode : decode (u32FromLe b₀ b₁ b₂ b₃) with
      | const => exact total_throw trivial
      | static i =>
        refine (safe_setStatic i hbelow vm₃ hs₃ (Le.refl _)).post ?_
        rintro _ vm' ⟨hs', _, _⟩
        exact hdone vm' hs'
      | «local» i =>
        refine total_modify (hdone _ (hs₃.setTopLocal hbelow ?_))
        rintro k j rfl
        have hnot := hfree _ i k j rest hoperand hdecode hstack
        have hchain : vm₃.Chain = vm.Chain := by
          funext a b
          rw [Vm.Chain, hlocal₃]
          rfl
        have hlen : vm₃.frames.length = vm.frames.length := by
          simp [vm₃, vm₂, Vm.setBip, Vm.modifyTop]
        rwa [hchain, hlen]
    · exact total_throw trivial

/-- `OP_ASSIGN`, when the assignment of an aggregate makes none contain itself. -/
lemma opAssign_total (hs : vm.Sound) (here : Nat)
    (hsafe : ∀ target source rest this other, vm.stack = target :: source :: rest →
      vm.Reads target (.obj this) → vm.Reads source (.obj other) → vm.heap.SafeAssign this other) :
    Total (opAssignment .assign here) (vm.setBip (vm.top.bip + 1)) (fun _ vm' => vm'.Sound)
      (fun _ _ => True) := by
  have hs₁ : (vm.setBip (vm.top.bip + 1)).Sound := hs.setBip _
  cases hstack : vm.stack with
  | nil =>
    refine Total.bind (total_lift ?_)
    rw [show (vm.setBip (vm.top.bip + 1)).stack = [] from hstack]
    trivial
  | cons target below =>
    refine Total.bind (total_lift ?_)
    rw [show (vm.setBip (vm.top.bip + 1)).stack = target :: below from hstack]
    cases below with
    | nil => exact Total.bind (Total.bind (total_lift trivial))
    | cons source rest =>
      have hmem : ∀ t ∈ target :: source :: rest, t.Below vm.heap := hstack ▸ hs.stack
      let vm₃ : Vm σ := { vm.setBip (vm.top.bip + 1) with stack := rest }
      have hs₃ : vm₃.Sound := hs₁.setStack fun t ht =>
        hmem t (mem_cons_of_mem _ (mem_cons_of_mem _ ht))
      have hlocal₃ : vm₃.localAt = vm.localAt := localAt_setBip vm _
      have hsource : source.Below vm₃.heap := hmem source (by simp)
      have htarget : target.Below vm₃.heap := hmem target (by simp)
      refine Total.bind (Total.bind (total_lift ?_))
      change Total (deref source) vm₃ _ _
      refine (deref_total hs₃ hsource).attained.mono ?_ fun _ _ h => h
      rintro rhs _ ⟨⟨rfl, _, _⟩, n, hrun⟩
      refine (updateThrough_total hs₃ htarget (some rhs) ?_ here
        (k := fun _ _ => do push target; return .continue) fun _ _ h' hle _ =>
          safe_pushAndContinue (htarget.mono hle)).post ?_
      · intro _ this other hthis hother
        obtain rfl := Option.some.inj hother
        exact hsafe target source rest this other hstack
          (deref_congr hlocal₃ rfl rfl hthis) (deref_congr hlocal₃ rfl rfl ⟨n, hrun⟩)
      · rintro st vm' ⟨hs', _⟩
        exact hs'

/-- An instruction that closes no cycle returns and keeps the machine sound. -/
lemma step_total (hE : E.Tame) (hs : vm.Sound) (hne : vm.frames ≠ []) (hcareful : vm.Careful) :
    Total (step E) vm (fun _ vm' => vm'.Sound) (fun _ _ => True) := by
  refine .gets_bind ?_
  refine Total.bind (Total.bind (total_gets (Total.bind (total_gets ?_))))
  refine Total.bind (total_ofOption ?_ fun _ => trivial)
  intro byte hbyte
  refine .modify_bind (total_pure ?_)
  cases hop : Opcode.decode byte with
  | none => exact total_throw trivial
  | some op =>
    have hopcode : vm.opcode = some op := by
      rw [opcode, hbyte]
      exact hop
    by_cases hlinks : op.links = false
    · have hs₁ : (vm.setBip (vm.top.bip + 1)).Sound := hs.setBip _
      refine (safe_dispatch hE hlinks vm.top.bip _ hs₁ (Le.refl _)).post ?_
      rintro st vm' ⟨hs', _, _⟩
      exact hs'
    · cases op <;> simp only [Opcode.links, not_true_eq_false] at hlinks
      case init => exact opInit_total hs hne (hcareful.init hopcode)
      case assign => exact opAssign_total hs vm.top.bip (hcareful.assign hopcode)

/-! ## Runs -/

/-- `vm'` is the state after `k` instructions of a run from `vm`, none of which ended it. -/
inductive Runs (E : Engine σ) (vm : Vm σ) : Nat → Vm σ → Prop where
  | start : Runs E vm 0 vm
  | step {k n : Nat} {vm₁ vm₂ : Vm σ} (hruns : Runs E vm k vm₁) (hframes : vm₁.frames ≠ [])
      (hstep : (step E).run n vm₁ = .ok .continue vm₂) :
      Runs E vm (k + 1) { vm₂ with bytecodesExecuted := vm₂.bytecodesExecuted + 1 }

omit [StdLib] in
lemma Vm.Sound.counted (hs : vm.Sound) (n : Nat) : { vm with bytecodesExecuted := n }.Sound :=
  hs.update rfl rfl (Le.refl _) hs.heap hs.stack

/-- Along a run whose instructions close no cycle the machine stays sound. -/
lemma runs_sound (hE : E.Tame) (hs : vm.Sound) {k : Nat} {vm' : Vm σ}
    (hruns : Runs E vm k vm') (hcareful : ∀ j vm₁, j < k → Runs E vm j vm₁ → vm₁.Careful) :
    vm'.Sound := by
  induction hruns with
  | start => exact hs
  | @step k n vm₁ vm₂ hruns hframes hstep ih =>
    have hs₁ := ih fun j vm₁ hj => hcareful j vm₁ (Nat.lt_succ_of_lt hj)
    obtain ⟨m, hm⟩ := step_total hE hs₁ hframes (hcareful k vm₁ (Nat.lt_succ_self k) hruns)
    have hsame : (step E).run m vm₁ = (step E).run n vm₁ := by
      refine run_unique (fun hhang => ?_) (by simp [hstep])
      rw [hhang] at hm
      exact hm
    rw [hsame, hstep] at hm
    exact hm.update rfl rfl (Le.refl _) hm.heap hm.stack

lemma keeps_executed_step (E : Engine σ) : Keeps bytecodesExecuted (step E) := by
  have hP := (compositional_keeps (σ := σ) (f := bytecodesExecuted) (fun _ _ => rfl)
    (fun _ _ _ => rfl) (fun _ _ _ => rfl) (fun _ _ _ _ => rfl) fun _ _ _ _ => rfl).answers_keeps
    fun _ _ => rfl
  exact hP.step E (keeps_pushFrame fun _ _ => rfl)
    (hP.closeFrame (keeps_modify fun _ => rfl) (fun _ => keeps_modify fun _ => rfl)
      fun _ => keeps_modify fun _ => rfl)
    fun _ _ => keeps_modify fun _ => rfl

lemma loop_continue {left n : Nat} {vm vm₁ : Vm σ} (hne : vm.frames ≠ [])
    (hstep : (step E).run n vm = .ok .continue vm₁) :
    (loop E (left + 1)).run n vm =
      (loop E left).run n { vm₁ with bytecodesExecuted := vm₁.bytecodesExecuted + 1 } := by
  simp [loop, tick, hne, hstep]

lemma loop_hang {left n : Nat} {vm : Vm σ} (hne : vm.frames ≠ [])
    (hstep : (step E).run n vm = .hang) : (loop E (left + 1)).run n vm = .hang := by
  simp [loop, tick, hne, hstep]

lemma loop_total (hE : E.Tame) : ∀ (left : Nat) {vm : Vm σ}, vm.Sound →
    (∀ k vm', k < left → Runs E vm k vm' → vm'.Careful) →
    Total (loop E left) vm
      (fun _ vm' => vm'.bytecodesExecuted ≤ vm.bytecodesExecuted + left)
      (fun _ vm' => vm'.bytecodesExecuted ≤ vm.bytecodesExecuted + left) := by
  intro left
  induction left with
  | zero =>
    intro vm hs _
    refine .gets_bind ?_
    split
    · exact total_pure le_rfl
    · exact total_throw le_rfl
  | succ left ih =>
    intro vm hs hcareful
    refine .gets_bind ?_
    split
    · exact total_pure (Nat.le_add_right _ _)
    rename_i hframes
    have hne : vm.frames ≠ [] := by simpa using hframes
    have hkeeps := keeps_executed_step E
    obtain ⟨n, hn⟩ := step_total hE hs hne (hcareful 0 vm (Nat.succ_pos _) .start)
    have hcount := hkeeps n vm
    cases hrun : (step E).run n vm with
    | hang =>
      rw [hrun] at hn
      exact hn.elim
    | error =>
      rw [hrun] at hcount
      refine Total.bind (Total.bind ⟨n, ?_⟩)
      rw [hrun]
      exact (Nat.le_of_eq hcount).trans (Nat.le_add_right _ _)
    | ok st vm₁ =>
      rw [hrun] at hcount hn
      refine Total.bind (Total.bind ⟨n, ?_⟩)
      rw [hrun]
      cases st with
      | abort =>
        refine .modify_bind (total_pure (total_pure ?_))
        exact (Nat.le_of_eq hcount).trans (Nat.le_add_right _ _)
      | «continue» =>
        refine .modify_bind (total_pure ?_)
        have hnext : ∀ k vm', k < left → Runs E
            { vm₁ with bytecodesExecuted := vm₁.bytecodesExecuted + 1 } k vm' →
              vm'.Careful := by
          intro k vm' hk hruns
          refine hcareful (k + 1) vm' (Nat.succ_lt_succ hk) ?_
          clear hk
          induction hruns with
          | start => exact .step .start hne hrun
          | step _ hframes' hstep ih' => exact .step ih' hframes' hstep
        have hloop := ih (Vm.Sound.counted hn (vm₁.bytecodesExecuted + 1)) hnext
        have hbound : vm₁.bytecodesExecuted + 1 + left
            = vm.bytecodesExecuted + (left + 1) := by
          have heq : vm₁.bytecodesExecuted = vm.bytecodesExecuted := hcount
          omega
        exact hloop.mono (fun _ _ h => h.trans_eq hbound) fun _ _ h => h.trans_eq hbound

/-- The machine when the frame of a call has been opened: the first instruction is next. -/
def Opens (vm : Vm σ) (file script : Nat) (args : List Value) (vm₀ : Vm σ) : Prop :=
  (pushFrame file script).run 0 { vm with returned := none, stack := args.map Slot.val ++ vm.stack }
    = .ok () vm₀

omit [StdLib] in
lemma sound_of_args (hs : vm.Sound) {args : List Value} (hargs : ∀ v ∈ args, v.Below vm.heap) :
    { vm with returned := none, stack := args.map Slot.val ++ vm.stack }.Sound := by
  refine hs.update rfl rfl (Le.refl _) hs.heap fun s hmem => ?_
  rcases mem_append.1 hmem with harg | hold
  · obtain ⟨v, hv, rfl⟩ := mem_map.1 harg
    exact hargs v hv
  · exact hs.stack s hold

omit [StdLib] in
/-- Opening a frame needs no fuel and leaves the counters and the budget alone. -/
lemma pushFrame_opens (hs : vm.Sound) (file script n : Nat) :
    ((pushFrame file script).run n vm).Sat
      (fun _ vm₀ => (pushFrame file script).run 0 vm = .ok () vm₀ ∧ vm₀.Sound ∧
        vm₀.budget = vm.budget ∧ vm₀.bytecodesExecuted = vm.bytecodesExecuted)
      (fun _ vm₀ => vm₀.bytecodesExecuted = vm.bytecodesExecuted) False := by
  simp only [pushFrame, run_bind, run_gets, bind_ok]
  cases vm.prog.files[file]? with
  | none => rfl
  | some f =>
    simp only [run_ofOption_some, bind_ok]
    cases f.scripts[script]? with
    | none => rfl
    | some =>
      simp only [run_ofOption_some, bind_ok]
      split
      · rfl
      · exact ⟨rfl, hs.push rfl, rfl, rfl⟩

/-- A call returns after at most `budget + 2` instructions: it counts at most `budget + 1`, and an
instruction that ends the run with an error is not counted.  In every state on the way no chain of
locals is cyclic, so following one returns.  The counter, of 64 bits, has to have room for these
instructions.  The other assumptions are on the states before each instruction: an `OP_INIT` stores no
reference that leads back to its own local, an aggregate assignment puts its target into none of the
shared prototypes, and the aggregates the call starts with and those the host makes contain themselves
nowhere. -/
theorem run_returns (hE : E.Tame) {vm : Vm σ} (hs : vm.Sound) (file script : Nat)
    {args : List Value} (hargs : ∀ v ∈ args, v.Below vm.heap)
    (hroom : vm.bytecodesExecuted + (vm.budget + 1) < 2 ^ 64)
    (hcareful : ∀ vm₀ k vm', Opens vm file script args vm₀ → k ≤ vm.budget →
      Runs E vm₀ k vm' → vm'.Careful) :
    Proc.Total (runScriptIndex E file script args) vm
        (fun out vm' => out.bytecodesExecuted ≤ vm.budget + 1 ∧ vm'.bytecodesExecuted < 2 ^ 64)
        (fun _ vm' => vm'.bytecodesExecuted ≤ vm.bytecodesExecuted + (vm.budget + 1) ∧
          vm'.bytecodesExecuted < 2 ^ 64) ∧
      ∀ vm₀ k vm', Opens vm file script args vm₀ → k ≤ vm.budget + 1 → Runs E vm₀ k vm' →
        (∀ a, ¬ Relation.TransGen vm'.Chain a a) ∧
          ∀ s, (deref s).Returns vm' ∧ ∀ v, (store s v).Returns vm' := by
  have hstart := sound_of_args hs hargs
  have hopened : ∀ vm₀, Opens vm file script args vm₀ → vm₀.Sound ∧ vm₀.budget = vm.budget ∧
      vm₀.bytecodesExecuted = vm.bytecodesExecuted := by
    intro vm₀ hvm₀
    have hsat := pushFrame_opens hstart file script 0
    rw [hvm₀] at hsat
    exact hsat.2
  constructor
  · refine Total.bind (total_gets (Total.bind (total_modify ?_)))
    refine Total.bind ⟨0, (pushFrame_opens hstart file script 0).mono ?_ ?_ id⟩
    · rintro _ vm₀ ⟨hvm₀, hs₀, hbudget, hcount⟩
      replace hbudget : vm₀.budget = vm.budget := hbudget
      refine .gets_bind ?_
      have hloop := loop_total hE (vm₀.budget + 1) hs₀ fun k vm' hk hruns =>
        hcareful vm₀ k vm' hvm₀ (by omega) hruns
      rw [hbudget, hcount] at hloop
      rw [hbudget]
      refine Total.bind (hloop.mono ?_ fun _ _ h => ⟨h, h.trans_lt hroom⟩)
      intro error vm₁ hbound
      refine Total.bind (total_gets (Total.bind (total_modify ?_)))
      refine total_pure ?_
      have hcounted : vm₁.bytecodesExecuted ≤ vm.bytecodesExecuted + (vm.budget + 1) := hbound
      refine ⟨?_, hcounted.trans_lt hroom⟩
      change vm₁.bytecodesExecuted - vm.bytecodesExecuted ≤ vm.budget + 1
      omega
    · intro e vm₀ hcount
      have hbound : vm₀.bytecodesExecuted ≤ vm.bytecodesExecuted + (vm.budget + 1) :=
        (Nat.le_of_eq hcount).trans (Nat.le_add_right _ _)
      exact ⟨hbound, hbound.trans_lt hroom⟩
  · intro vm₀ k vm' hvm₀ hk hruns
    have hs' := runs_sound hE (hopened vm₀ hvm₀).1 hruns fun j vm₁ hj hruns₁ =>
      hcareful vm₀ j vm₁ hvm₀ (by omega) hruns₁
    exact ⟨hs'.chains.not_cyclic, fun s =>
      ⟨deref_returns hs'.chains s, store_returns hs'.chains s⟩⟩

end Steps

/-! ## A local that refers to itself -/

/-- One script of one parameter.  Its prologue stores the argument in local 0; then it pushes local 0,
stores what it pushed in local `i`, and pushes local `i`. -/
def knotProgram (i : UInt8) : Program :=
  .single
    { code := [0x33, 0, 0, 0, 0, 0x26, 0, 0, 0, 0, 0x33, i, 0, 0, 0, 0x26, i, 0, 0, 0]
      scripts := [{ (default : Script) with arity := 1, returnType := ScriptTy.void.tag }]
      constPool := [] }

def knotStart (i : UInt8) : Vm Unit :=
  { Vm.new (knotProgram i) () Heap.empty with budget := 3 }

/-- The machine with the frame of the script open. -/
def knotVm (i : UInt8) (bip executed : Nat) (stack : List Slot) (locals : List (Option Slot)) : Vm Unit :=
  { knotStart i with
    stack, bytecodesExecuted := executed
    frames := [⟨0, 0, bip, locals, 0, true⟩] }

lemma knotStart_sound (i : UInt8) : (knotStart i).Sound := by
  have hnew : (Vm.new (knotProgram i) () empty).Sound := by
    refine sound_new ?_ ?_ ()
    · rintro (_ | f) i v h
      all_goals cases h
    · rintro (_ | f) (_ | s) i v h <;> cases h
  exact hnew.update rfl rfl (Le.refl _) hnew.heap hnew.stack

section

variable (n : Nat)

lemma knot_init {i : UInt8} (hi : i = 0 ∨ i = 1) :
    (@step _ nativeStd bare).run (n + 1) (knotVm i 0 0 [.val (.int 7)] []) =
      .ok .continue (knotVm i 5 0 [] [some (.val (.int 7))]) := by
  rcases hi with rfl | rfl <;> exact run_of_le (by decide) (Nat.succ_le_succ (Nat.zero_le n))

lemma knot_push {i : UInt8} (hi : i = 0 ∨ i = 1) :
    (@step _ nativeStd bare).run (n + 1) (knotVm i 5 1 [] [some (.val (.int 7))]) =
      .ok .continue (knotVm i 10 1 [.ref (.local 0 0)] [some (.val (.int 7))]) := by
  rcases hi with rfl | rfl <;> exact run_of_le (by decide) (Nat.succ_le_succ (Nat.zero_le n))

lemma knot_tie : (@step _ nativeStd bare).run (n + 1)
        (knotVm 0 10 2 [.ref (.local 0 0)] [some (.val (.int 7))]) =
      .ok .continue (knotVm 0 15 2 [] [some (.ref (.local 0 0))]) :=
  run_of_le (by decide) (Nat.succ_le_succ (Nat.zero_le n))

lemma knot_chain : (@step _ nativeStd bare).run (n + 1)
        (knotVm 1 10 2 [.ref (.local 0 0)] [some (.val (.int 7))]) =
      .ok .continue (knotVm 1 15 2 [] [some (.val (.int 7)), some (.ref (.local 0 0))]) :=
  run_of_le (by decide) (Nat.succ_le_succ (Nat.zero_le n))

end

/-- An instruction that is known to go on has one outcome. -/
lemma next_eq {vm vm₁ vm₂ : Vm Unit} {n : Nat}
    (h : ∀ n, (@step _ nativeStd bare).run (n + 1) vm = .ok .continue vm₁)
    (hstep : (@step _ nativeStd bare).run n vm = .ok .continue vm₂) : vm₁ = vm₂ := by
  have heq := run_of_le hstep (Nat.le_succ n)
  rw [h n] at heq
  cases heq
  rfl

/-- The states before the four instructions of the script, when it stores in local 1. -/
def chainStates : List (Vm Unit) :=
  [knotVm 1 0 0 [.val (.int 7)] [], knotVm 1 5 1 [] [some (.val (.int 7))],
    knotVm 1 10 2 [.ref (.local 0 0)] [some (.val (.int 7))],
    knotVm 1 15 3 [] [some (.val (.int 7)), some (.ref (.local 0 0))]]

lemma chainStates_of_runs {k : Nat} {vm : Vm Unit}
    (h : @Runs _ nativeStd bare (knotVm 1 0 0 [.val (.int 7)] []) k vm) (hk : k ≤ 3) :
    chainStates[k]? = some vm := by
  induction h with
  | start => rfl
  | @step k n vm₁ vm₂ _ _ hstep ih =>
    have hprev := ih (Nat.le_of_succ_le hk)
    obtain rfl | rfl | rfl : k = 0 ∨ k = 1 ∨ k = 2 := by omega
    all_goals obtain rfl := Option.some_inj.1 hprev
    · obtain rfl := next_eq (fun n => knot_init n (.inr rfl)) hstep
      rfl
    · obtain rfl := next_eq (fun n => knot_push n (.inr rfl)) hstep
      rfl
    · obtain rfl := next_eq knot_chain hstep
      rfl

/-- With another local than its own the script makes a chain, and returns. -/
theorem run_returns_chain :
    Proc.Total (@runScriptIndex _ nativeStd Engine.bare 0 0 [.int 7]) (knotStart 1)
      (fun out vm' => out.bytecodesExecuted ≤ 4 ∧ vm'.bytecodesExecuted < 2 ^ 64)
      (fun _ vm' => vm'.bytecodesExecuted ≤ 0 + 4 ∧ vm'.bytecodesExecuted < 2 ^ 64) := by
  refine (@run_returns _ nativeStd bare ?_ (knotStart 1) (knotStart_sound 1) 0 0 [.int 7] ?_ (by decide) ?_).1
  · intro decl args host heap hs _
    exact ⟨hs, Le.refl _, fun _ h => nomatch h⟩
  · intro v hv
    obtain rfl := mem_singleton.1 hv
    exact Value.below_of_scalar _ rfl
  intro vm₀ k vm' hopens hk hruns
  obtain rfl : knotVm 1 0 0 [.val (.int 7)] [] = vm₀ := by
    simpa using (show ok () (knotVm 1 0 0 [.val (.int 7)] []) = ok () vm₀ from hopens)
  replace hk : k ≤ 3 := hk
  have hstate := chainStates_of_runs hruns hk
  obtain rfl | rfl | rfl | rfl : k = 0 ∨ k = 1 ∨ k = 2 ∨ k = 3 := by omega
  all_goals
    obtain rfl := Option.some_inj.1 hstate
    refine ⟨?_, fun hop => absurd hop (by decide)⟩
  · rintro - raw i k j rest - - hstack
    cases hstack
  · exact fun hop => absurd hop (by decide)
  · -- the stored reference leads to local 0 and no further
    rintro - raw i k j rest hraw hlocal hstack hchain
    cases hstack
    obtain rfl := Option.some_inj.1 ((by decide : (chainStates[2]).operand = some 1).symm.trans hraw)
    obtain rfl : i = 1 := by
      have hone : VarRef.decode 1 = .local 1 := by decide
      cases hone.symm.trans hlocal
      rfl
    rcases Relation.ReflTransGen.cases_head hchain with heq | ⟨c, hnext, -⟩
    · cases heq
    · cases hnext
  · exact fun hop => absurd hop (by decide)

lemma derefTo_self {vm : Vm σ} {k : Nat} {i : UInt32}
    (h : vm.localAt k i = some (.ref (.local k i))) :
    ∀ m n, (derefTo m (.ref (.local k i))).run n vm = .hang := by
  intro m
  induction m with
  | zero => exact fun _ => rfl
  | succ m ih =>
    intro n
    simp only [derefTo, run_bind, run_gets, bind_ok, h, run_ofOption_some]
    exact ih n

lemma knot_hangs (n : Nat) :
    (@step _ nativeStd bare).run n (knotVm 0 15 3 [] [some (.ref (.local 0 0))]) = .hang := by
  have hself : (deref (.ref (.local 0 0))).run n (knotVm 0 20 3 [] [some (.ref (.local 0 0))]) = .hang :=
    derefTo_self rfl n n
  change ((deref (.ref (.local 0 0))).run n (knotVm 0 20 3 [] [some (.ref (.local 0 0))])).bind _ = _
  rw [hself]
  rfl

/-- The call never returns, although its budget is three instructions. -/
theorem self_reference_never_returns :
    ¬ (@runScriptIndex _ nativeStd Engine.bare 0 0 [.int 7]).Returns (knotStart 0) := by
  rintro ⟨n, hn⟩
  have hrun : (@runScriptIndex _ nativeStd bare 0 0 [.int 7]).run (n + 1) (knotStart 0)
      = .hang := by
    change ((@loop _ nativeStd bare 4).run (n + 1) (knotVm 0 0 0 [.val (.int 7)] [])).bind _ = _
    have hloop : (@loop _ nativeStd bare 4).run (n + 1) (knotVm 0 0 0 [.val (.int 7)] [])
        = .hang := by
      let _ := nativeStd
      have hopen : ∀ bip executed stack locals, (knotVm 0 bip executed stack locals).frames ≠ [] :=
        fun _ _ _ _ => cons_ne_nil _ _
      refine (loop_continue (hopen _ _ _ _) (knot_init n (.inl rfl))).trans ?_
      refine (loop_continue (hopen _ _ _ _) (knot_push n (.inl rfl))).trans ?_
      refine (loop_continue (hopen _ _ _ _) (knot_tie n)).trans ?_
      exact loop_hang (hopen _ _ _ _) (knot_hangs (n + 1))
    rw [hloop]
    rfl
  exact hn (le_hang_iff.1 (hrun ▸ Proc.mono _ _ (Nat.le_succ n)))

end Exec

end Don.Bhs
