import Don.Bhs.Vm.Effects

/-!
# Isolation — one run after another on the same machine

The operand stack and the frame stack outlive a call.  A call that ends normally leaves both empty,
and from empty stacks a run does exactly what it does on a fresh machine: only the two lifetime
counters differ.  A call that ends in a `VmError` leaves its frames behind, and the next call then
runs on top of them.
-/

namespace Don.Bhs

open Foundation Proc Vm Result List Bhs.Frame

variable {σ : Type}

/-! ## The counters are never read -/

def Vm.shift (errors executed : Nat) (vm : Vm σ) : Vm σ :=
  { vm with errCount := vm.errCount + errors,
            bytecodesExecuted := vm.bytecodesExecuted + executed }

namespace Exec

lemma sequential_commutes (a b : Nat) :
    Sequential (σ := σ) (fun x => Commutes (shift a b) x) where
  pure := commutes_pure
  bind := Commutes.bind
  throw := commutes_throw
  gets _ h := commutes_gets fun vm => h vm _ _
  hang := fun _ _ => rfl
  limit hx := fun n s => hx n n s

lemma commutes_setSlot (a b : Nat) (r : VarRef) (s : Slot) :
    Commutes (shift a b) (setSlot r s : Exec σ Unit) := by
  cases r with
  | const => exact commutes_throw _
  | static => exact ((sequential_commutes a b).deref s).bind fun _ => commutes_modify fun _ => rfl
  | «local» i => exact commutes_modify fun _ => rfl

lemma compositional_commutes (a b : Nat) :
    Compositional (σ := σ) (fun x => Commutes (shift a b) x) where
  toSequential := sequential_commutes a b
  setBip _ := commutes_modify fun _ => rfl
  push _ := commutes_modify fun _ => rfl
  pop := commutes_lift fun vm => by
    cases h : vm.stack <;> simp [shift, h, mapState]
  setTop _ := commutes_modify fun _ => rfl
  store := (sequential_commutes a b).store (fun _ _ _ _ => commutes_modify fun _ => rfl)
    (fun _ _ => commutes_modify fun _ => rfl) fun _ _ _ => commutes_modify fun _ => rfl
  setSlot := commutes_setSlot a b
  onHeap _ := commutes_zoom (fun _ => rfl) fun _ _ => rfl
  duplicate _ := commutes_focus (fun _ => rfl) fun _ _ => rfl
  zeroLike _ := commutes_focus (fun _ => rfl) fun _ _ => rfl
  alloc _ := commutes_lift fun _ => rfl
  setHeap _ := commutes_modify fun _ => rfl
  callHost _ _ _ := commutes_lift fun _ => rfl

lemma commutes_countError (a b : Nat) : Commutes (shift a b)
      (Proc.modify fun vm => { vm with errCount := vm.errCount + 1 } : Exec σ Unit) := by
  refine commutes_modify fun vm => ?_
  simp only [shift, Vm.mk.injEq, true_and, and_true]
  omega

lemma answers_commutes (a b : Nat) : Answers (σ := σ) (fun x => Commutes (shift a b) x)
      (fun x => Commutes (shift a b) x) where
  toCompositional := compositional_commutes a b
  done := commutes_pure _
  fail := commutes_throw
  rte _ _ _ := (commutes_countError a b).bind fun _ => commutes_pure _
  seq := Commutes.bind

lemma commutes_pushFrame (a b file script : Nat) :
    Commutes (shift a b) (pushFrame file script : Exec σ Unit) :=
  (sequential_commutes a b).pushFrame (fun _ => commutes_modify fun _ => rfl) file script

variable [StdLib]

lemma commutes_step (E : Engine σ) (a b : Nat) : Commutes (shift a b) (step E) := by
  have hclose := (answers_commutes (σ := σ) a b).closeFrame (commutes_modify fun _ => rfl)
    (fun _ => commutes_modify fun _ => rfl) fun _ => commutes_modify fun _ => rfl
  exact (answers_commutes a b).step E (commutes_pushFrame a b) hclose
    fun _ _ => commutes_modify fun _ => rfl

lemma commutes_loop (E : Engine σ) (a b : Nat) :
    ∀ left, Commutes (shift a b) (loop E left) := by
  intro left
  induction left with
  | zero =>
    refine Commutes.bind (commutes_gets fun _ => rfl) fun done => ?_
    cases done with
    | true => exact commutes_pure _
    | false => exact commutes_throw _
  | succ left ih =>
    refine Commutes.bind (commutes_gets fun _ => rfl) fun done => ?_
    cases done with
    | true => exact commutes_pure _
    | false =>
      have htick : Commutes (shift a b) (tick E) := by
        refine (commutes_step E a b).bind fun st => ?_
        cases st with
        | «continue» =>
          refine Commutes.bind (commutes_modify fun vm => ?_) fun _ => commutes_pure _
          simp only [shift, Vm.mk.injEq, true_and, and_true]
          omega
        | abort => exact Commutes.bind (commutes_modify fun _ => rfl) fun _ => commutes_pure _
      refine htick.bind fun r => ?_
      cases r with
      | none => exact ih
      | some => exact commutes_pure _

end Exec

/-! ## A completed call leaves the machine idle -/

/-- What a frame keeps from the call that opened it to the return that closes it. -/
structure Frame.Signature where
  file : Nat
  script : Nat
  expectedStack : Nat
  voidReturn : Bool
  deriving DecidableEq

def Frame.signature (f : Frame) : Frame.Signature :=
  ⟨f.file, f.script, f.expectedStack, f.voidReturn⟩

def Vm.skeleton (vm : Vm σ) : List Frame.Signature :=
  vm.frames.map Frame.signature

lemma map_modify_eq {α β : Type} {g : α → β} {f : α → α} (h : ∀ x, g (f x) = g x) (k : Nat)
    (l : List α) : (l.modify k f).map g = l.map g := by
  refine ext_getElem? fun i => ?_
  rw [getElem?_map, getElem?_map, getElem?_modify]
  split
  · cases l[i]? <;> simp [h]
  · simp

lemma Vm.skeleton_modifyTop {f : Frame → Frame} (h : ∀ x, (f x).signature = x.signature)
    (vm : Vm σ) : (vm.modifyTop f).skeleton = vm.skeleton := by
  unfold skeleton modifyTop
  cases vm.frames with
  | nil => rfl
  | cons => simp [h]

lemma Vm.skeleton_setLocalAt (frame : Nat) (index : UInt32) (s : Slot) (vm : Vm σ) :
    (vm.setLocalAt frame index s).skeleton = vm.skeleton := by
  have hmodify := map_modify_eq (g := signature)
    (f := fun f => { f with locals := f.locals.set index.toNat (some s) }) (fun _ => rfl) frame
    vm.frames.reverse
  unfold skeleton setLocalAt
  rw [map_reverse, hmodify, map_reverse, reverse_reverse]

namespace Exec

/-- Nothing but opening and closing frames changes the skeleton. -/
lemma compositional_skeleton : Compositional (σ := σ) (fun x => Keeps skeleton x) :=
  compositional_keeps (fun _ _ => rfl) (fun _ _ _ => rfl)
    (fun vm bip locals => skeleton_modifyTop
      (f := fun fr => { fr with bip := bip fr, locals := locals fr }) (fun _ => rfl) vm)
    (fun vm k i s => skeleton_setLocalAt k i s vm) fun _ _ _ _ => rfl

lemma answers_skeleton :
    Answers (σ := σ) (fun x => Keeps skeleton x) (fun x => Keeps skeleton x) :=
  compositional_skeleton.answers_keeps fun _ _ => rfl

/-- The bottom frame was opened with exactly its own arguments on the stack; with no frame left the
stack is empty. -/
def Settling (vm : Vm σ) : Prop :=
  match vm.skeleton.getLast? with
  | none => vm.stack = []
  | some g => g.expectedStack = if g.voidReturn then 0 else 1

variable {vm : Vm σ}

lemma Settling.of_skeleton {vm' : Vm σ} (h : Settling vm) (hne : vm.skeleton ≠ [])
    (hsk : vm'.skeleton = vm.skeleton) : Settling vm' := by
  unfold Settling at h ⊢
  rw [hsk]
  cases hlast : vm.skeleton.getLast? with
  | none => exact absurd (getLast?_eq_none_iff.1 hlast) hne
  | some => rwa [hlast] at h

lemma pushFrame_settling (h : Settling vm) (hne : vm.skeleton ≠ []) (n : Nat)
    (file script : Nat) :
    ((pushFrame file script).run n vm).Sat (fun _ vm' => Settling vm') (fun _ _ => True) True := by
  refine (keeps_gets (f := id) _).sat_bind fun o vm₁ h₁ => ?_
  refine (keeps_ofOption (f := id) _ _).sat_bind fun f vm₂ h₂ => ?_
  refine (keeps_ofOption (f := id) _ _).sat_bind fun s vm₃ h₃ => ?_
  refine (keeps_gets (f := id) _).sat_bind fun len vm₄ h₄ => ?_
  obtain rfl : vm₄ = vm := (h₄.trans h₃).trans (h₂.trans h₁)
  dsimp only
  split
  · trivial
  · -- the bottom frame is still the bottom frame
    unfold Settling at h
    simp only [run_modify, sat_ok, Settling, skeleton, map_cons]
    rw [getLast?_cons_of_ne_nil (by simpa [skeleton] using hne)]
    exact h

lemma closeFrame_settling (h : Settling vm) (hne : vm.frames ≠ []) (n : Nat) :
    (closeFrame.run n vm).Sat (fun st vm' => st = .continue → Settling vm') (fun _ _ => True)
      True := by
  obtain ⟨f, rest, hframes⟩ := exists_cons_of_ne_nil hne
  have htop : vm.top = f := by simp [top, hframes]
  simp only [closeFrame, run_bind, run_gets, bind_ok, run_modify, htop,
    hframes, tail_cons]
  by_cases hlen : vm.stack.length = f.expectedStack
  · rw [if_neg (by simpa using hlen)]
    simp only [run_bind, run_gets, bind_ok]
    cases rest with
    | cons =>
      -- the bottom frame stays, and with it what is expected of it
      simp only [isEmpty_cons, Bool.false_and, Bool.false_eq_true, if_false, run_pure,
        sat_ok]
      intro _
      unfold Settling at h ⊢
      simp only [skeleton, hframes, map_cons, getLast?_cons_cons] at h ⊢
      exact h
    | nil =>
      -- the bottom frame closes: the stack has the size it promised
      have hexp : f.expectedStack = if f.voidReturn then 0 else 1 := by
        unfold Settling at h
        simpa [skeleton, hframes, signature] using h
      cases hvoid : f.voidReturn with
      | true =>
        simp only [Bool.not_true, Bool.and_false, Bool.false_eq_true, if_false,
          run_pure, sat_ok]
        intro _
        have hnil : vm.stack = [] := by
          rw [← length_eq_zero_iff, hlen, hexp, hvoid]
          rfl
        simpa [Settling, skeleton] using hnil
      | false =>
        have hone : vm.stack.length = 1 := by
          rw [hlen, hexp, hvoid]
          rfl
        obtain ⟨s, hs⟩ := length_eq_one_iff.1 hone
        simp only [isEmpty_nil, Bool.not_false, Bool.and_self, if_true, run_bind,
          run_gets, bind_ok, hs, run_modify]
        have hkeep := (sequential_keeps (f := fun vm => (vm.frames, vm.stack))).deref s n
          { vm with frames := [], stack := [] }
        cases hd : (deref s).run n { vm with frames := [], stack := [] } with
        | ok =>
          rw [hd] at hkeep
          obtain ⟨hf, hst⟩ := Prod.mk.inj hkeep
          simp only [bind_ok, run_pure, sat_ok]
          intro _
          simpa [Settling, skeleton, hf] using hst
        | error => trivial
        | hang => trivial
  · rw [if_pos (by simpa using hlen)]
    simp

lemma skeleton_ne_nil : vm.skeleton ≠ [] ↔ vm.frames ≠ [] := by
  simp [skeleton]

lemma opReturn_settling (h : Settling vm) (hne : vm.skeleton ≠ []) (n : Nat) :
    (opReturn.run n vm).Sat (fun st vm' => st = .continue → Settling vm') (fun _ _ => True)
      True := by
  have hP := answers_skeleton (σ := σ)
  refine (keeps_gets (f := skeleton) _).sat_bind fun void vm₁ h₁ => ?_
  have hclose : ∀ vm' : Vm σ, vm'.skeleton = vm.skeleton →
      (closeFrame.run n vm').Sat (fun st vm' => st = .continue → Settling vm') (fun _ _ => True)
        True := fun vm' hsk =>
    closeFrame_settling (h.of_skeleton hne hsk) (skeleton_ne_nil.1 (hsk ▸ hne)) n
  cases void with
  | true => exact hclose vm₁ h₁
  | false =>
    refine hP.peekValue.sat_bind fun v vm₂ h₂ => ?_
    refine (hP.duplicate v).sat_bind fun v' vm₃ h₃ => ?_
    refine (hP.setTop v').sat_bind fun _ vm₄ h₄ => ?_
    exact hclose vm₄ (((h₄.trans h₃).trans h₂).trans h₁)

/-- An instruction that does not abort counts no error. -/
lemma answers_errCount : Answers (σ := σ) (fun x => Keeps errCount x) (fun x => ∀ n vm,
      (x.run n vm).Sat (fun st vm' => st = .continue → vm'.errCount = vm.errCount)
        (fun _ _ => True) True) where
  toCompositional := compositional_keeps (fun _ _ => rfl) (fun _ _ _ => rfl) (fun _ _ _ => rfl)
    (fun _ _ _ _ => rfl) fun _ _ _ _ => rfl
  done _ _ _ := rfl
  fail _ _ _ := trivial
  rte _ _ _ _ _ h := nomatch h
  seq hx hf n vm := hx.sat_bind fun a vm' h => by
    refine (hf a n vm').mono ?_ (fun _ _ _ => trivial) id
    intro st vm'' h' hst
    exact (h' hst).trans h

section Steps

variable [StdLib]

lemma step_settling {vm : Vm σ} (E : Engine σ) (h : Settling vm) (hne : vm.frames ≠ []) (n : Nat) :
    ((step E).run n vm).Sat (fun st vm' => st = .continue → Settling vm') (fun _ _ => True)
      True := by
  have hP := answers_skeleton (σ := σ)
  rw [← skeleton_ne_nil] at hne
  refine hP.bip.sat_bind fun here vm₁ h₁ => hP.fetchU8.sat_bind fun byte vm₂ h₂ => ?_
  have hsk : vm₂.skeleton = vm.skeleton := h₂.trans h₁
  have hset : Settling vm₂ := h.of_skeleton hne hsk
  have hne₂ : vm₂.skeleton ≠ [] := hsk ▸ hne
  cases hop : Opcode.decode byte with
  | none => trivial
  | some op =>
    by_cases hopen : op.opensFrame = true
    · -- a call: the frame that is opened is not the bottom one
      cases op <;> simp only [Opcode.opensFrame, Bool.false_eq_true] at hopen
      case call =>
        refine hP.fetchU32.sat_bind fun script vm₃ h₃ => ?_
        refine (keeps_gets (f := skeleton) _).sat_bind fun file vm₄ h₄ => ?_
        have hsk₄ : vm₄.skeleton = vm₂.skeleton := h₄.trans h₃
        rw [sat_bind]
        refine (pushFrame_settling (hset.of_skeleton hne₂ hsk₄) (hsk₄ ▸ hne₂) n _ _).mono
          (fun _ vm' hvm' _ => hvm') (fun _ _ _ => trivial) id
      case callInclude =>
        refine hP.fetchU32.sat_bind fun script vm₃ h₃ => ?_
        refine hP.fetchU32.sat_bind fun link vm₄ h₄ => ?_
        refine (keeps_gets (f := skeleton) _).sat_bind fun current vm₅ h₅ => ?_
        refine (keeps_gets (f := skeleton) _).sat_bind fun o vm₆ h₆ => ?_
        refine (hP.ofOption _ o).sat_bind fun links vm₇ h₇ => ?_
        refine (hP.ofOption _ _).sat_bind fun file vm₈ h₈ => ?_
        have hsk₈ : vm₈.skeleton = vm₂.skeleton :=
          h₈.trans (h₇.trans (h₆.trans (h₅.trans (h₄.trans h₃))))
        rw [sat_bind]
        refine (pushFrame_settling (hset.of_skeleton hne₂ hsk₈) (hsk₈ ▸ hne₂) n _ _).mono
          (fun _ vm' hvm' _ => hvm') (fun _ _ _ => trivial) id
    · by_cases hret : op = .returnOp
      · subst hret
        exact opReturn_settling hset hne₂ n
      · have hkeeps := hP.dispatch E op here (fun ho => absurd ho hopen)
          (fun hr => absurd hr hret) fun _ _ _ => keeps_modify fun _ => rfl
        refine (hkeeps n vm₂).mono ?_ (fun _ _ _ => trivial) id
        intro st vm' hvm' _
        exact hset.of_skeleton hne₂ hvm'

lemma step_errCount (E : Engine σ) (n : Nat) (vm : Vm σ) :
    ((step E).run n vm).Sat (fun st vm' => st = .continue → vm'.errCount = vm.errCount)
      (fun _ _ => True) True := by
  have hclose := answers_errCount.closeFrame (σ := σ) (keeps_modify fun _ => rfl)
    (fun _ => keeps_modify fun _ => rfl) fun _ => keeps_modify fun _ => rfl
  exact answers_errCount.step E (keeps_pushFrame fun _ _ => rfl) hclose
    (fun _ _ => keeps_modify fun _ => rfl) n vm

/-- The run loop ends without an error only when every frame has been closed, and then nothing is
left on the stack. -/
lemma loop_settling (E : Engine σ) (n : Nat) : ∀ (left : Nat) {vm : Vm σ}, Settling vm →
    ((loop E left).run n vm).Sat
      (fun r vm' => r = none → vm'.frames = [] ∧ vm'.stack = [] ∧ vm'.errCount = vm.errCount)
      (fun _ _ => True) True := by
  have hdone : ∀ {vm : Vm σ}, Settling vm → vm.frames = [] → vm.stack = [] := by
    intro vm h hnil
    simpa [Settling, skeleton, hnil] using h
  intro left
  induction left with
  | zero =>
    intro vm h
    simp only [loop, run_bind, run_gets, bind_ok]
    cases hframes : vm.frames with
    | nil =>
      intro _
      exact ⟨hframes, hdone h hframes, rfl⟩
    | cons => trivial
  | succ left ih =>
    intro vm h
    simp only [loop, run_bind, run_gets, bind_ok]
    cases hframes : vm.frames with
    | nil =>
      intro _
      exact ⟨hframes, hdone h hframes, rfl⟩
    | cons =>
      simp only [isEmpty_cons, Bool.false_eq_true, if_false, run_bind, tick]
      have hset := step_settling E h (by simp [hframes]) n
      have herr := step_errCount E n vm
      cases hstep : (step E).run n vm with
      | hang => trivial
      | error => trivial
      | ok st vm₁ =>
        rw [hstep] at hset herr
        cases st with
        | abort =>
          intro hr
          cases hr
        | «continue» =>
          have hnext : Settling { vm₁ with bytecodesExecuted := vm₁.bytecodesExecuted + 1 } :=
            hset rfl
          refine (ih hnext).mono ?_ (fun _ _ _ => trivial) id
          intro r vm' hr hnone
          obtain ⟨hf, hs, he⟩ := hr hnone
          exact ⟨hf, hs, he.trans (herr rfl)⟩

end Steps

end Exec

/-! ## Calls on one machine -/

/-- A top-level call: a script of the program and its arguments. -/
structure Call where
  file : Nat
  script : Nat
  args : List Value
  deriving DecidableEq

namespace Vm

/-- A machine just created over the same program, host and aggregates, with the same settings. -/
def restart (vm : Vm σ) : Vm σ :=
  { new vm.prog vm.host vm.heap with
    budget := vm.budget, missingBuiltinPolicy := vm.missingBuiltinPolicy }

/-- Nothing of an earlier run is left that a later run could see. -/
def Idle (vm : Vm σ) : Prop :=
  vm.frames = [] ∧ vm.stack = [] ∧ vm.errCount = 0

end Vm

section Calls

variable [StdLib]

def Call.run (E : Engine σ) (c : Call) : Exec σ RunOutcome :=
  Exec.runScriptIndex E c.file c.script c.args

/-- The call, with the errors counted before it in its answer. -/
def Call.runAfter (E : Engine σ) (errors : Nat) (c : Call) : Exec σ RunOutcome := do
  let out ← c.run E
  return { out with errCount := out.errCount + errors }

/-- Some call was made on the first machine and left the second. -/
def Called (E : Engine σ) (vm vm' : Vm σ) : Prop :=
  ∃ (c : Call) (n : Nat), (∃ out, (c.run E).run n vm = .ok out vm') ∨
    ∃ e, (c.run E).run n vm = .error e vm'

/-- A call with as many arguments as its script has parameters ran to its end. -/
def Completed (E : Engine σ) (vm vm' : Vm σ) : Prop :=
  ∃ (c : Call) (n : Nat) (out : RunOutcome),
    c.args.length = (vm.prog.script c.file c.script).arity ∧
      (c.run E).run n vm = .ok out vm' ∧ out.error = none

namespace Exec

lemma runAfter_zero (E : Engine σ) (c : Call) (n : Nat) (vm : Vm σ) :
    (c.runAfter E 0).run n vm = (c.run E).run n vm := by
  simp only [Call.runAfter, run_bind]
  cases (c.run E).run n vm <;> rfl

/-- A call sees nothing of the counters, and answers with the errors of all calls. -/
lemma run_shift (E : Engine σ) (a b : Nat) (c : Call) (n : Nat) (vm : Vm σ) :
    (c.run E).run n (vm.shift a b) = ((c.runAfter E a).run n vm).mapState (shift a b) := by
  let start : Vm σ := { vm with returned := none, stack := c.args.map .val ++ vm.stack }
  have hopen := commutes_pushFrame a b c.file c.script n start
  have hstart : { vm.shift a b with returned := none, stack := c.args.map .val ++ (vm.shift a b).stack }
      = start.shift a b := rfl
  simp only [Call.runAfter, Call.run, runScriptIndex, runScriptSlots, run_bind, run_gets, bind_ok,
    run_modify, run_pure]
  rw [hstart, hopen]
  change _ = (((pushFrame c.file c.script).run n start |>.bind _).bind _).mapState _
  cases (pushFrame c.file c.script).run n start with
  | hang | error => rfl
  | ok u vm₁ =>
    have hloop := commutes_loop E a b (vm₁.budget + 1) n vm₁
    simp only [mapState, bind_ok]
    change ((loop E (vm₁.budget + 1)).run n (vm₁.shift a b)).bind _ = _
    rw [hloop]
    cases (loop E (vm₁.budget + 1)).run n vm₁ with
    | hang => rfl
    | error => rfl
    | ok => simp [mapState, shift, Nat.add_sub_add_right]

lemma idle_of_completed {E : Engine σ} {vm vm' : Vm σ} (h : vm.Idle) (hcall : Completed E vm vm') :
    vm'.Idle := by
  obtain ⟨hframes, hstack, herr⟩ := h
  obtain ⟨c, n, out, harity, hrun, hnone⟩ := hcall
  simp only [Call.run, runScriptIndex, runScriptSlots, run_bind, run_gets, bind_ok,
    run_modify, run_pure, hstack, append_nil] at hrun
  -- the frame is opened with its own arguments on the stack and nothing else
  have hset : ((pushFrame c.file c.script).run n
      { vm with returned := none, stack := c.args.map .val }).Sat
        (fun _ vm₁ => Settling vm₁ ∧ vm₁.errCount = 0) (fun _ _ => True) True := by
    simp only [pushFrame, run_bind, run_gets, bind_ok]
    cases hfile : vm.prog.files[c.file]? with
    | none => trivial
    | some f =>
      simp only [run_ofOption_some, bind_ok]
      cases hscript : f.scripts[c.script]? with
      | none => trivial
      | some s =>
        have hs : vm.prog.script c.file c.script = s := by
          simp [Program.script, Program.file, getD, hfile, hscript]
        rw [hs] at harity
        simp only [run_ofOption_some, bind_ok, length_map, harity, lt_irrefl,
          if_false, run_modify, sat_ok, Nat.sub_self, Nat.zero_add, hframes]
        refine ⟨?_, herr⟩
        simp [Settling, skeleton, signature]
  cases hopen : (pushFrame c.file c.script).run n
      { vm with returned := none, stack := c.args.map .val } with
  | hang | error e vm₁ => rw [hopen] at hrun; cases hrun
  | ok u vm₁ =>
    rw [hopen] at hrun hset
    obtain ⟨hset, herr₁⟩ := hset
    have hloop := loop_settling E n (vm₁.budget + 1) hset
    simp only [bind_ok] at hrun
    cases hend : (loop E (vm₁.budget + 1)).run n vm₁ with
    | hang => rw [hend] at hrun; cases hrun
    | error => rw [hend] at hrun; cases hrun
    | ok =>
      rw [hend] at hrun hloop
      simp only [bind_ok, ok.injEq] at hrun
      obtain ⟨rfl, rfl⟩ := hrun
      obtain ⟨hf, hs, he⟩ := hloop hnone
      exact ⟨hf, hs, he.trans herr₁⟩

lemma run_of_empty (E : Engine σ) {vm : Vm σ} (hframes : vm.frames = []) (hstack : vm.stack = [])
    (c : Call) (n : Nat) : (c.run E).run n vm =
      ((c.runAfter E vm.errCount).run n vm.restart).mapState (shift vm.errCount vm.bytecodesExecuted) := by
  have hshift : { vm with returned := none } = vm.restart.shift vm.errCount vm.bytecodesExecuted := by
    simp [restart, new, shift, hframes, hstack]
  calc (c.run E).run n vm
      = (c.run E).run n { vm with returned := none } := rfl
    _ = (c.run E).run n (vm.restart.shift vm.errCount vm.bytecodesExecuted) := by rw [hshift]
    _ = ((c.runAfter E vm.errCount).run n vm.restart).mapState (shift vm.errCount vm.bytecodesExecuted) :=
        run_shift E _ _ c n vm.restart

lemma run_of_idle (E : Engine σ) {vm : Vm σ} (h : vm.Idle) (c : Call) (n : Nat) :
    (c.run E).run n vm =
      ((c.run E).run n vm.restart).mapState (shift 0 vm.bytecodesExecuted) := by
  obtain ⟨hframes, hstack, herr⟩ := h
  have hrun := run_of_empty E hframes hstack c n
  rwa [herr, runAfter_zero] at hrun

/-- Isolation of runs.  After any number of completed calls the machine is idle, and a call on an
idle machine answers, and leaves the program's statics and trigger bits, the host and the
aggregates, exactly as on a fresh machine; what the host was asked is part of the host.  With errors
counted before, empty stacks are enough, and the answer then has these errors added. -/
theorem run_isolated (E : Engine σ) {vm₀ vm : Vm σ} (hfresh : vm₀.Idle) :
    (Relation.ReflTransGen (Completed E) vm₀ vm → vm.Idle) ∧
      (vm.Idle → ∀ (c : Call) (n : Nat),
        (c.run E).run n vm =
          ((c.run E).run n vm.restart).mapState (Vm.shift 0 vm.bytecodesExecuted)) ∧
      (vm.frames = [] → vm.stack = [] → ∀ (c : Call) (n : Nat),
        (c.run E).run n vm = ((c.runAfter E vm.errCount).run n vm.restart).mapState
          (Vm.shift vm.errCount vm.bytecodesExecuted)) := by
  refine ⟨?_, run_of_idle E, run_of_empty E⟩
  intro hcalls
  induction hcalls with
  | refl => exact hfresh
  | tail _ hcall ih => exact idle_of_completed ih hcall

end Exec

end Calls

/-! ## A run that was cut off -/

namespace Exec

/-- `spin` jumps to itself for ever; `seven` returns the constant 7. -/
def spinProgram : Program :=
  .single
    { code := [0x3f, 0, 0, 0, 0, 0x26, 0, 0, 0, 0x20, 0x3e]
      scripts := [{ (default : Script) with name := "spin", entry := 0, returnType := ScriptTy.void.tag },
        { (default : Script) with name := "seven", entry := 5, returnType := ScriptTy.int.tag }]
      constPool := [.int 7] }

/-- A machine over that program that gives a run ten instructions. -/
def spinVm : Vm Unit :=
  { Vm.new spinProgram () ⟨[], []⟩ with budget := 10 }

def leftBy (c : Call) (vm : Vm Unit) : Vm Unit :=
  match (@Call.run _ nativeStd Engine.bare c).run 1 vm with
  | .ok _ vm' | .error _ vm' => vm'
  | .hang => vm

theorem run_isolated_seven :
    (@Call.run _ nativeStd Engine.bare ⟨0, 1, []⟩).run 1 (leftBy ⟨0, 1, []⟩ spinVm) =
      ((@Call.run _ nativeStd Engine.bare ⟨0, 1, []⟩).run 1 (leftBy ⟨0, 1, []⟩ spinVm).restart).mapState
        (Vm.shift 0 (leftBy ⟨0, 1, []⟩ spinVm).bytecodesExecuted) := by
  have h := @run_isolated _ nativeStd Engine.bare spinVm (leftBy ⟨0, 1, []⟩ spinVm) ⟨rfl, rfl, rfl⟩
  refine h.2.1 (h.1 (.single ⟨⟨0, 1, []⟩, 1, ⟨some (.int 7), 2, 0, none⟩, rfl, ?_, rfl⟩)) _ 1
  decide

/-- A run that exhausts its budget leaves its frame; the next run, of a script that would return 7 on
a fresh machine, goes on to execute that frame too and exhausts the budget in turn. -/
theorem budget_exhaustion_leaves_frames :
    ¬ ∀ vm : Vm Unit, Relation.ReflTransGen (@Called _ nativeStd Engine.bare) spinVm vm →
      ∀ (c : Call) (n : Nat),
        ((@Call.run _ nativeStd Engine.bare c).run n vm).answer =
          ((@Call.run _ nativeStd Engine.bare c).run n vm.restart).answer := by
  intro h
  have hspin : @Called _ nativeStd Engine.bare spinVm (leftBy ⟨0, 0, []⟩ spinVm) :=
    ⟨⟨0, 0, []⟩, 1, .inr ⟨.budgetExhausted, by decide⟩⟩
  have hseven := h _ (.single hspin) ⟨0, 1, []⟩ 1
  revert hseven
  decide

end Exec

end Don.Bhs
