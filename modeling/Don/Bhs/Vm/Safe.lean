import Don.Bhs.Vm.Sound
import Don.Bhs.Vm.Step

/-!
# Safe — instructions that return and keep the machine sound

`SafeAt` is a triple whose precondition is a sound machine and whose postcondition is a sound
machine and a returned value that refers to something.  Every handler is safe but two: `OP_INIT`
installs the popped slot as it is, and an aggregate `OP_ASSIGN` shares prototypes; each can close a
cycle.
-/

namespace Don.Bhs

open Foundation Proc List Heap Proc Value Option Except

variable {σ : Type}

namespace Exec

/-! ## Safe procedures -/

variable {α β : Type}

/-- From a sound machine whose heap has grown beyond `h`, the procedure returns and leaves a sound
machine; what it returns refers to something. -/
def SafeAt (h : Heap) (x : Exec σ α) (G : Heap → α → Prop) : Prop :=
  ∀ vm : Vm σ, vm.Sound → h.Le vm.heap →
    Proc.Total x vm (fun a vm' => vm'.Sound ∧ vm.heap.Le vm'.heap ∧ G vm'.heap a) (fun _ _ => True)

abbrev Any (_ : Heap) (_ : α) : Prop := True

/-- An instruction that is safe from `h` on. -/
abbrev SafeStep (σ : Type) (h : Heap) (x : Exec σ Step) : Prop :=
  SafeAt h x Any

section Safe

variable {h : Heap} {G : Heap → α → Prop} {G' : Heap → β → Prop}

lemma SafeAt.bind {x : Exec σ α} {f : α → Exec σ β} (hx : SafeAt h x G)
    (hf : ∀ a h', h.Le h' → G h' a → SafeAt h' (f a) G') : SafeAt h (x >>= f) G' := by
  intro vm hs hle
  refine (hx vm hs hle).seq ?_
  rintro a vm₁ ⟨hs₁, hle₁, ha⟩
  refine (hf a vm₁.heap (hle.trans hle₁) ha vm₁ hs₁ (Le.refl _)).post ?_
  rintro b vm₂ ⟨hs₂, hle₂, hb⟩
  exact ⟨hs₂, hle₁.trans hle₂, hb⟩

lemma safe_pure {a : α} (ha : ∀ h', h.Le h' → G h' a) : SafeAt h (pure a : Exec σ α) G :=
  fun vm hs hle => total_pure ⟨hs, Le.refl _, ha vm.heap hle⟩

lemma safe_throw (e : VmError) : SafeAt h (throw e : Exec σ α) G :=
  fun _ _ _ => total_throw trivial

lemma safe_gets {g : Vm σ → α} (hg : ∀ vm : Vm σ, vm.Sound → h.Le vm.heap → G vm.heap (g vm)) :
    SafeAt h (gets g) G :=
  fun vm hs hle => total_gets ⟨hs, Le.refl _, hg vm hs hle⟩

lemma safe_read (g : Vm σ → α) : SafeAt h (gets g : Exec σ α) Any :=
  safe_gets fun _ _ _ => trivial

lemma safe_ofOption (e : VmError) (o : Option α) :
    SafeAt h (ofOption e o : Exec σ α) fun _ a => o = some a :=
  fun _ hs _ => total_ofOption (fun _ ha => ⟨hs, Le.refl _, ha⟩) fun _ => trivial

variable {s : Slot}

lemma safe_push (hb : s.Below h) : SafeAt h (push s : Exec σ Unit) Any := by
  intro vm hs hle
  refine total_modify ⟨hs.setStack ?_, Le.refl _, trivial⟩
  intro t ht
  rcases mem_cons.1 ht with rfl | hmem
  · exact hb.mono hle
  · exact hs.stack t hmem

lemma safe_pop : SafeAt h (pop : Exec σ Slot) Slot.Below := by
  intro vm hs hle
  refine total_lift ?_
  cases hstack : vm.stack with
  | nil => trivial
  | cons s rest =>
    have hmem : ∀ t ∈ s :: rest, t.Below vm.heap := hstack ▸ hs.stack
    exact ⟨hs.setStack fun t ht => hmem t (mem_cons_of_mem _ ht), Le.refl _,
      hmem s mem_cons_self⟩

variable {v : Value}

lemma safe_setTop (hv : v.Below h) :
    SafeAt h (modify fun vm => { vm with stack := .val v :: vm.stack.tail } : Exec σ Unit)
      Any := by
  intro vm hs hle
  refine total_modify ⟨hs.setStack ?_, Le.refl _, trivial⟩
  intro t ht
  rcases mem_cons.1 ht with rfl | hmem
  · exact Below.mono hv hle
  · exact hs.stack t (mem_of_mem_tail hmem)

lemma safe_setBip (v : Nat) : SafeAt h (setBip v : Exec σ Unit) Any := by
  intro vm hs _
  exact total_modify ⟨hs.setBip v, Le.refl _, trivial⟩

lemma safe_bip : SafeAt h (bip : Exec σ Nat) Any :=
  safe_read _

lemma safe_peekU32 (i : Nat) : SafeAt h (peekU32 i : Exec σ UInt32) Any := by
  refine (safe_read _).bind fun bs _ _ _ => ?_
  split
  · exact safe_pure fun _ _ => trivial
  · exact safe_throw _

lemma safe_fetchU32 : SafeAt h (fetchU32 : Exec σ UInt32) Any := by
  refine safe_bip.bind fun i _ _ _ => (safe_peekU32 i).bind fun v _ _ _ => ?_
  exact (safe_setBip _).bind fun _ _ _ _ => safe_pure fun _ _ => trivial

lemma safe_jumpIf (taken : Bool) : SafeAt h (jumpIf taken : Exec σ Unit) Any := by
  refine safe_bip.bind fun i _ _ _ => ?_
  cases taken with
  | true => exact (safe_peekU32 i).bind fun t _ _ _ => safe_setBip _
  | false => exact safe_setBip _

lemma safe_deref (hb : s.Below h) : SafeAt h (deref s : Exec σ Value) Below := by
  intro vm hs hle
  refine (deref_total hs (hb.mono hle)).post ?_
  rintro v vm' ⟨rfl, hv, _⟩
  exact ⟨hs, Le.refl _, hv⟩

lemma safe_popValue : SafeAt h (popValue : Exec σ Value) Below :=
  safe_pop.bind fun _ _ _ hs => safe_deref hs

lemma safe_peekValue : SafeAt h (peekValue : Exec σ Value) Below := by
  have hhead : SafeAt h (gets (·.stack.head?) : Exec σ (Option Slot))
      fun h' o => ∀ s, o = some s → s.Below h' :=
    safe_gets fun vm hs _ s hhead => hs.stack s (mem_of_mem_head? hhead)
  refine hhead.bind fun o _ _ ho => (safe_ofOption _ o).bind fun s _ hle hs => ?_
  exact safe_deref ((ho s hs).mono hle)

lemma safe_bindRef (r : VarRef) : SafeAt h (bindRef r : Exec σ BoundRef) Any := by
  refine (safe_read _).bind fun f _ _ _ => ?_
  cases r with
  | const | static =>
    refine (safe_read _).bind fun o _ _ _ => (safe_ofOption _ o).bind fun _ _ _ _ => ?_
    exact safe_pure fun _ _ => trivial
  | «local» i =>
    refine (safe_ofOption _ _).bind fun _ _ _ _ => (safe_read _).bind fun _ _ _ _ => ?_
    exact safe_pure fun _ _ => trivial

lemma safe_setStatic (i : UInt32) (hb : s.Below h) :
    SafeAt h (setSlot (.static i) s : Exec σ Unit) Any := by
  refine (safe_deref hb).bind fun w h' _ hw => ?_
  intro vm hs hle
  refine total_modify ⟨hs.modifyScript _ _ ?_, Le.refl _, trivial⟩
  intro s j u hu
  have hjoin := congrArg join hu
  simp only [Vm.growSet_join] at hjoin
  split at hjoin
  · obtain rfl := some.inj hjoin
    exact .inl (hw.mono hle)
  · refine .inr ?_
    cases hcase : s.statics[j]? with
    | none => simp [hcase] at hjoin
    | some => simpa [hcase] using hjoin

/-- Installing a value, not a reference, in a variable. -/
lemma safe_setSlot (r : VarRef) (hv : v.Below h) :
    SafeAt h (setSlot r (.val v) : Exec σ Unit) Any := by
  cases r with
  | const => exact safe_throw _
  | static i => exact safe_setStatic i (s := .val v) hv
  | «local» i =>
    intro vm hs hle
    refine total_modify ⟨hs.setTopLocal (Below.mono hv hle) ?_, Le.refl _, trivial⟩
    intro k j href
    cases href

lemma safe_alloc {f : Heap → Value × Heap}
    (hf : ∀ h', h'.Sound → h.Le h' → (f h').2.Sound ∧ h'.Le (f h').2 ∧ (f h').1.Below (f h').2) :
    SafeAt h (alloc f : Exec σ Value) Below := by
  intro vm hs hle
  obtain ⟨hs', hle', hv⟩ := hf vm.heap hs.heap hle
  exact total_lift ⟨hs.setHeap hs' hle', hle', hv⟩

lemma safe_focus_copy {f : Value → Proc Heap VmError Value}
    (hf : ∀ h' : Heap, h'.Sound → h.Le h' → Copies h' f v) :
    SafeAt h (focus (·.heap) (fun h vm => { vm with heap := h }) (f v) : Exec σ Value)
      Below := by
  intro vm hs hle
  obtain ⟨n, hn⟩ := hf vm.heap hs.heap hle vm.heap (Extends.refl _) hs.heap
  refine ⟨n, sat_focus.2 (hn.mono ?_ (fun _ _ => False.elim) id)⟩
  rintro v' h' ⟨hs', he, hv', _⟩
  exact ⟨hs.setHeap hs' he.toLe, he.toLe, hv'⟩

lemma safe_duplicate (hv : v.Below h) : SafeAt h (duplicate v : Exec σ Value) Below :=
  safe_focus_copy fun _ hs hle => duplicate_copies hs (hv.mono hle)

lemma safe_zeroLike (hv : v.Below h) : SafeAt h (zeroLike v : Exec σ Value) Below :=
  safe_focus_copy fun _ hs hle => zeroLike_copies hs (hv.mono hle)

lemma safe_rte (m : String) (here : Nat) (op : UInt8) :
    SafeStep σ h (rte m here op) := by
  intro vm hs _
  refine .modify_bind (total_pure ⟨?_, Le.refl _, trivial⟩)
  exact hs.update rfl rfl (Le.refl _) hs.heap hs.stack

lemma safe_rteOp (e : OpError) (here : Nat) (op : UInt8) :
    SafeStep σ h (rteOp e here op) :=
  (safe_read _).bind fun _ _ _ _ => safe_rte _ _ _

lemma safe_continue : SafeStep σ h (pure .continue) :=
  safe_pure fun _ _ => trivial

lemma SafeAt.continues {x : Exec σ α} (hx : SafeAt h x G) :
    SafeStep σ h (do let _ ← x; return .continue) :=
  hx.bind fun _ _ _ _ => safe_continue

lemma safe_pushAndContinue (hb : s.Below h) :
    SafeStep σ h (do push s; return .continue) :=
  (safe_push hb).continues

lemma safe_jumpAndContinue (taken : Bool) :
    SafeStep σ h (do jumpIf taken; return .continue) :=
  (safe_jumpIf taken).continues

end Safe

/-! ## Operators and variables -/

section Handlers

variable [StdLib] {h : Heap}

lemma safe_doOperator {lhs : Value} {op : Opcode} (rhs : Option Value) (hl : lhs.Below h)
    (hop : op ≠ .assign) :
    SafeAt h (onHeap (doOperator lhs op rhs) : Exec σ _)
      fun h' r => ∀ out, r = .ok out → out.Below h' := by
  intro vm hs hle
  refine total_zoom ?_
  refine (doOperator_total hs.heap (hl.mono hle) fun h => absurd h hop).mono ?_ ?_
  · intro out h' hpost
    refine ⟨hs.setHeap hpost.sound hpost.le, hpost.le, ?_⟩
    rintro _ ⟨⟩
    rcases hpost.answer with rfl | hscalar
    · exact hl.mono (hle.trans hpost.le)
    · exact below_of_scalar _ hscalar
  · rintro e h' rfl
    exact ⟨hs, Le.refl _, fun _ h => nomatch h⟩

lemma safe_operator {lhs : Value} {op : Opcode} {rhs : Option Value} (hl : lhs.Below h)
    (hop : op ≠ .assign) {k : Value → Exec σ Step} (here : Nat)
    (hk : ∀ out h', h.Le h' → out.Below h' → SafeAt h' (k out) Any) :
    SafeAt h (do
      match ← onHeap (doOperator lhs op rhs) with
      | .ok out => k out
      | .error e => rteOp e here op.code) Any := by
  refine (safe_doOperator rhs hl hop).bind fun r h' hle hr => ?_
  cases r with
  | ok out => exact hk out h' hle (hr out rfl)
  | error e => exact safe_rteOp e here op.code

omit [StdLib] in
lemma safe_opPush : SafeStep σ h opPush := by
  refine safe_fetchU32.bind fun raw _ _ _ => (safe_bindRef _).bind fun bound _ _ _ => ?_
  exact (safe_deref (s := .ref bound) trivial).bind fun _ _ _ _ =>
    safe_pushAndContinue (s := .ref bound) trivial

variable {op : Opcode}

lemma safe_opBinary (hop : op ≠ .assign) (here : Nat) :
    SafeStep σ h (opBinary op here) := by
  refine safe_popValue.bind fun rhs _ _ _ => safe_popValue.bind fun lhs _ _ hl => ?_
  exact safe_operator hl hop here fun out _ _ hout => safe_pushAndContinue hout

lemma safe_opUnary (hop : op ≠ .assign) (here : Nat) :
    SafeStep σ h (opUnary op here) := by
  refine safe_popValue.bind fun v _ _ hv => ?_
  exact safe_operator hv hop here fun out _ _ hout => safe_pushAndContinue hout

omit [StdLib] in
lemma safe_pushUnlessPopped {s : Slot} (hb : s.Below h) :
    SafeStep σ h (pushUnlessPopped s) := by
  refine (safe_read _).bind fun next _ hle _ => ?_
  split
  · exact safe_bip.bind fun i _ _ _ => (safe_setBip _).continues
  · exact safe_pushAndContinue (hb.mono hle)

lemma updateThrough_total {vm : Vm σ} (hs : vm.Sound) {target : Slot}
    (htarget : target.Below vm.heap) {op : Opcode} (rhs : Option Value)
    (hassign : op = .assign → ∀ this other, (∃ n, (deref target).run n vm = .ok (.obj this) vm) →
      rhs = some (.obj other) → vm.heap.SafeAssign this other)
    {k : Value → Value → Exec σ Step} (here : Nat)
    (hk : ∀ cur out h', vm.heap.Le h' → cur.Below h' → SafeAt h' (k cur out) Any) :
    Total (do
      let cur ← deref target
      match ← onHeap (doOperator cur op rhs) with
      | .ok out =>
        store target out
        k cur out
      | .error e => rteOp e here op.code) vm
      (fun _ vm' => vm'.Sound ∧ vm.heap.Le vm'.heap) (fun _ _ => True) := by
  obtain ⟨n, hn⟩ := deref_total hs htarget
  cases hrun : (deref target).run n vm with
  | hang =>
    rw [hrun] at hn
    exact hn.elim
  | error =>
    refine Total.bind ⟨n, ?_⟩
    rw [hrun]
    trivial
  | ok cur vm' =>
    rw [hrun] at hn
    obtain ⟨rfl, hcur, hleads⟩ := hn
    refine Total.bind ⟨n, ?_⟩
    rw [hrun]
    refine Total.bind (total_zoom ?_)
    refine (doOperator_total hs.heap hcur ?_).mono ?_ ?_
    · rintro rfl this other rfl hrhs
      exact hassign rfl this other ⟨n, hrun⟩ hrhs
    · intro out h' hpost
      have hs' : { vm' with heap := h' }.Sound := hs.setHeap hpost.sound hpost.le
      have hout : out.Below h' := by
        rcases hpost.answer with rfl | hscalar
        · exact hcur.mono hpost.le
        · exact below_of_scalar _ hscalar
      -- a slot that held the aggregate holds it still, so writing it back changes nothing
      have hsame : ∀ c, { vm' with heap := h' }.Leads target c →
          out.obj? = none ∨ h'.cell c = out := by
        intro c hc
        have hold : vm'.Leads target c :=
          @Vm.Leads.congr σ target vm' { vm' with heap := h' } rfl c hc
        rcases hpost.answer with rfl | hscalar
        · right
          rw [hpost.cell c (hs.leads_below hold htarget)]
          exact (hleads c hold).symm
        · exact .inl hscalar
      refine ((store_returns hs'.chains target out).total (store_sat hs' hout hsame)).seq ?_
      rintro _ vm₂ ⟨hs₂, hle₂⟩
      refine (hk cur out vm₂.heap (hpost.le.trans hle₂) (hcur.mono (hpost.le.trans hle₂)) vm₂ hs₂
        (Le.refl _)).post ?_
      rintro st vm₃ ⟨hs₃, hle₃, _⟩
      exact ⟨hs₃, (hpost.le.trans hle₂).trans hle₃⟩
    · rintro e h' rfl
      refine (safe_rteOp e here op.code vm' hs (Le.refl _)).post ?_
      rintro st vm₂ ⟨hs₂, hle₂, _⟩
      exact ⟨hs₂, hle₂⟩

section

variable (hop : op ≠ .assign)
include hop

lemma safe_updateThrough {rhs : Option Value} {target : Slot}
    (htarget : target.Below h) {k : Value → Value → Exec σ Step} (here : Nat)
    (hk : ∀ cur out h', h.Le h' → cur.Below h' → SafeAt h' (k cur out) Any) :
    SafeAt h (do
      let cur ← deref target
      match ← onHeap (doOperator cur op rhs) with
      | .ok out =>
        store target out
        k cur out
      | .error e => rteOp e here op.code) Any := by
  intro vm hs hle
  refine (updateThrough_total hs (htarget.mono hle) rhs (fun h => absurd h hop) here
    fun cur out h' hle' hcur => hk cur out h' (hle.trans hle') hcur).post ?_
  rintro st vm' ⟨hs', hle'⟩
  exact ⟨hs', hle', trivial⟩

variable (here : Nat)

lemma safe_opAssignment : SafeStep σ h (opAssignment op here) := by
  refine safe_pop.bind fun target _ _ htarget => safe_popValue.bind fun rhs _ hle _ => ?_
  exact safe_updateThrough hop (htarget.mono hle) here fun _ _ _ hle' _ =>
    safe_pushAndContinue ((htarget.mono hle).mono hle')

lemma safe_opPreIncDec : SafeStep σ h (opPreIncDec op here) := by
  refine safe_pop.bind fun target _ _ htarget => ?_
  exact safe_updateThrough hop htarget here fun _ _ _ hle _ =>
    safe_pushUnlessPopped (htarget.mono hle)

lemma safe_opPostIncDec : SafeStep σ h (opPostIncDec op here) := by
  refine safe_pop.bind fun target _ _ htarget => ?_
  exact safe_updateThrough hop htarget here fun _ _ _ _ hcur => safe_pushUnlessPopped hcur

end

omit [StdLib] in
lemma safe_opInitCopy : SafeStep σ h opInitCopy := by
  refine safe_popValue.bind fun v _ _ hv => (safe_duplicate hv).bind fun v' _ _ hv' => ?_
  refine safe_fetchU32.bind fun raw _ hle _ => ?_
  exact (safe_setSlot _ (hv'.mono hle)).continues

lemma castTo_below {tag : UInt32} {v out : Value} (hv : v.Below h) (hc : castTo tag v = .ok out) :
    out.Below h := by
  unfold castTo at hc
  split at hc
  · obtain rfl := ok.inj hc
    exact below_of_scalar _ rfl
  · obtain rfl := ok.inj hc
    exact below_of_scalar _ rfl
  · split at hc
    · obtain rfl := ok.inj hc
      exact below_of_scalar _ rfl
    · cases hc
  · obtain rfl := ok.inj hc
    exact hv

lemma safe_opCast : SafeStep σ h opCast := by
  refine safe_popValue.bind fun v _ _ hv => safe_fetchU32.bind fun tag _ hle _ => ?_
  split
  · rename_i out hc
    exact safe_pushAndContinue (castTo_below (hv.mono hle) hc)
  · exact safe_throw _

lemma safe_opCastBool : SafeStep σ h opCastBool :=
  safe_popValue.bind fun _ _ _ _ => safe_pushAndContinue (below_of_scalar _ rfl)

/-! ## Aggregates -/

omit [StdLib] in
lemma safe_allocAndPush {f : Heap → Value × Heap}
    (hf : ∀ h', h'.Sound → h.Le h' → (f h').2.Sound ∧ h'.Le (f h').2 ∧ (f h').1.Below (f h').2) :
    SafeStep σ h (do push (.val (← alloc f)); return .continue) :=
  (safe_alloc hf).bind fun _ _ _ hv => safe_pushAndContinue hv

omit [StdLib] in
lemma safe_opCreateSimple : SafeStep σ h opCreateSimple := by
  refine safe_fetchU32.bind fun tag _ _ _ => safe_pushAndContinue (below_of_scalar _ ?_)
  unfold zeroOf
  split <;> rfl

omit [StdLib] in
lemma newArray_below {base : Value} (hb : base.Below h) (tag : UInt32) (n : Nat) :
    ∀ h', h'.Sound → h.Le h' → (h'.newArray tag base n).2.Sound ∧ h'.Le (h'.newArray tag base n).2 ∧
      (h'.newArray tag base n).1.Below (h'.newArray tag base n).2 := by
  intro h' hs hle
  exact newArray_spec hs (hb.mono hle) tag n

omit [StdLib] in
lemma safe_opCreateArray : SafeStep σ h opCreateArray := by
  refine safe_popValue.bind fun base _ _ hb => safe_fetchU32.bind fun tag _ hle _ => ?_
  exact safe_allocAndPush (newArray_below (hb.mono hle) tag 0)

variable (op) (here : Nat)

lemma safe_opCreateArrayDyn :
    SafeStep σ h (opCreateArrayDyn op here) := by
  refine safe_popValue.bind fun n _ _ _ => safe_popValue.bind fun base _ _ hb => ?_
  refine safe_fetchU32.bind fun tag _ hle _ => ?_
  split
  · exact safe_rte _ _ _
  · exact safe_allocAndPush (newArray_below (hb.mono hle) tag _)

omit [StdLib] in
lemma safe_popCopies : ∀ (n : Nat) {h : Heap},
    SafeAt h (popCopies n : Exec σ (List Value)) fun h' vs => ∀ v ∈ vs, v.Below h' := by
  intro n
  induction n with
  | zero => exact safe_pure fun _ _ _ hv => nomatch hv
  | succ n ih =>
    refine safe_popValue.bind fun v _ _ hv => (safe_duplicate hv).bind fun v' _ _ hv' => ?_
    refine ih.bind fun vs _ hle hvs => safe_pure fun h' hle' w hw => ?_
    rcases mem_cons.1 hw with rfl | hmem
    · exact hv'.mono (hle.trans hle')
    · exact (hvs w hmem).mono hle'

omit [StdLib] in
lemma safe_popValues : ∀ (n : Nat) {h : Heap},
    SafeAt h (popValues n : Exec σ (List Value)) fun h' vs => ∀ v ∈ vs, v.Below h' := by
  intro n
  induction n with
  | zero => exact safe_pure fun _ _ _ hv => nomatch hv
  | succ n ih =>
    refine safe_popValue.bind fun v _ _ hv => ?_
    refine ih.bind fun vs _ hle hvs => safe_pure fun h' hle' w hw => ?_
    rcases mem_cons.1 hw with rfl | hmem
    · exact hv.mono (hle.trans hle')
    · exact (hvs w hmem).mono hle'

omit [StdLib] in
lemma safe_opCreateArrayIniter :
    SafeStep σ h (opCreateArrayIniter op here) := by
  refine safe_fetchU32.bind fun count _ _ _ => safe_fetchU32.bind fun tag _ _ _ => ?_
  refine (safe_popCopies _).bind fun vals _ _ hvals => ?_
  cases vals with
  | nil => exact safe_rte _ _ _
  | cons v =>
    refine (safe_zeroLike (hvals v mem_cons_self)).bind fun base _ hle hbase => ?_
    refine (safe_alloc fun h' hs hle' => ?_).bind fun arr _ _ harr => safe_pushAndContinue harr
    refine newAggregate_spec hs (fun w hw => (hvals w hw).mono (hle.trans hle')) tag ?_ true
    rintro w ⟨⟩
    exact hbase.mono hle'

omit [StdLib] in
lemma safe_opCreateStruct : SafeStep σ h opCreateStruct := by
  refine safe_fetchU32.bind fun count _ _ _ => safe_fetchU32.bind fun tag _ _ _ => ?_
  refine (safe_popCopies _).bind fun vals _ _ hvals => safe_allocAndPush fun h' hs hle' => ?_
  refine newAggregate_spec hs (fun w hw => (hvals w hw).mono hle') tag ?_ false
  intro v hv
  cases hv

omit [StdLib] in
lemma safe_values (o : ObjId) :
    SafeAt h (gets fun vm => (vm.heap.obj o).values : Exec σ (List CellId))
      fun h' cs => ∀ c ∈ cs, c < h'.cells.length :=
  safe_gets fun _ hs _ c hc => hs.heap.values o c hc

omit [StdLib] in
lemma getD_below {cs : List CellId} (hcs : ∀ c ∈ cs, c < h.cells.length) {i : Nat}
    (hi : i < cs.length) : Slot.Below h (.cell (cs.getD i 0)) := by
  rw [getD_eq_getElem?_getD, List.getElem?_eq_getElem hi]
  exact hcs _ (getElem_mem hi)

omit [StdLib] in
lemma index_lt_length {idx : Int32} {n : Nat} (hidx : ¬(Int32.ofNat n ≤ idx ∨ idx < 0)) :
    idx.toNatClampNeg < n := by
  simp only [not_or, Int32.le_iff_toInt_le, Int32.lt_iff_toInt_lt, not_le, not_lt] at hidx
  obtain ⟨hlt, hge⟩ := hidx
  -- a length past the 32-bit range only looks shorter
  have hmod : (n : Int).bmod Int32.size ≤ n := by
    rw [Int.bmod_def, Int32.size]
    split <;> omega
  have hzero : (0 : Int32).toInt = 0 := rfl
  have hclamp : idx.toNatClampNeg = idx.toInt.toNat := rfl
  rw [Int32.toInt_ofNat'] at hlt
  rw [hzero] at hge
  rw [hclamp]
  omega

lemma safe_opPushArrayIndex :
    SafeStep σ h (opPushArrayIndex op here) := by
  refine safe_popValue.bind fun idx _ _ _ => safe_popValue.bind fun base _ _ _ => ?_
  split
  · exact safe_rte _ _ _
  rename_i o _
  refine (safe_values o).bind fun values _ _ hvalues => ?_
  dsimp only
  split
  · exact safe_rte _ _ _
  · rename_i hidx
    exact safe_pushAndContinue (getD_below hvalues (index_lt_length hidx))

omit [StdLib] in
lemma pushElem_total {vm : Vm σ} (hs : vm.Sound) {o : ObjId} {i : Nat}
    (hi : i < (vm.heap.obj o).values.length) :
    Total (do
      push (.cell (← gets fun vm => (vm.heap.obj o).values.getD i 0))
      return .continue : Exec σ Step) vm
      (fun _ vm' => vm'.Sound ∧ vm.heap.Le vm'.heap ∧ True) (fun _ _ => True) := by
  refine .gets_bind ?_
  exact safe_pushAndContinue (getD_below (hs.heap.values o) hi) vm hs (Le.refl _)

lemma safe_opCreateArrayIndex :
    SafeStep σ h (opCreateArrayIndex op here) := by
  refine safe_popValue.bind fun idx _ _ _ => safe_popValue.bind fun base _ _ _ => ?_
  refine (safe_read _).bind fun arr _ _ _ => ?_
  cases arr with
  | none => exact safe_rte _ _ _
  | some o =>
    dsimp only
    split
    · exact safe_rte _ _ _
    intro vm hs hle
    refine .gets_bind ?_
    split
    · -- the array grows to hold the subscript
      rename_i hgrow
      refine .gets_bind ?_
      cases hr : vm.heap.resize o (idx.asInt.toNatClampNeg + 1) true with
      | error e => exact safe_rteOp e here op.code vm hs hle
      | ok h' =>
        obtain ⟨hs', hle'⟩ := resize_spec hs.heap hr
        have hlen := resize_length hr (Nat.lt_succ_of_le hgrow)
        refine .modify_bind ?_
        refine (pushElem_total (hs.setHeap hs' hle') (by
          change _ < (h'.obj o).values.length
          rw [hlen]
          exact Nat.lt_succ_self _)).post ?_
        rintro st vm' ⟨hsound, hle'', _⟩
        exact ⟨hsound, hle'.trans hle'', trivial⟩
    · rename_i hin
      exact pushElem_total hs (Nat.lt_of_not_le hin)

omit [StdLib] in
lemma safe_opPushStructField :
    SafeStep σ h (opPushStructField op here) := by
  refine safe_popValue.bind fun base _ _ _ => safe_fetchU32.bind fun idx _ _ _ => ?_
  dsimp only
  split
  · exact safe_rte _ _ _
  rename_i o _
  refine (safe_values o).bind fun values _ _ hvalues => ?_
  split
  · exact safe_rte _ _ _
  · rename_i hidx
    exact safe_pushAndContinue (getD_below hvalues (Nat.lt_of_not_le hidx))

omit [StdLib] in
lemma safe_opPushArrayLength :
    SafeStep σ h (opPushArrayLength op here) := by
  refine safe_popValue.bind fun base _ _ _ => ?_
  split
  · refine (safe_read _).bind fun n _ _ _ => ?_
    exact safe_pushAndContinue (below_of_scalar _ rfl)
  · refine (safe_push (s := .val (.int 0)) (below_of_scalar _ rfl)).bind fun _ _ _ _ => ?_
    exact safe_rte _ _ _

lemma safe_opSetArrayLength :
    SafeStep σ h (opSetArrayLength op here) := by
  refine safe_popValue.bind fun arr _ _ _ => safe_popValue.bind fun nv h₁ _ hnv => ?_
  intro vm hs hle
  refine .gets_bind ?_
  split
  · rename_i h' hr
    have hresize : ∃ o, vm.heap.resize o nv.asInt.toNatClampNeg false = .ok h' := by
      split at hr
      · split at hr
        · cases hr
        · rename_i o _ _
          cases hcase : vm.heap.resize o nv.asInt.toNatClampNeg false with
          | error => simp [hcase, Except.toOption] at hr
          | ok =>
            refine ⟨o, ?_⟩
            simp only [hcase, Except.toOption, Option.some.injEq] at hr
            rw [hcase, hr]
      · cases hr
    obtain ⟨o, hr'⟩ := hresize
    obtain ⟨hs', hle'⟩ := Heap.resize_spec hs.heap hr'
    refine .modify_bind ?_
    refine (safe_pushAndContinue (s := .val nv) hnv _ (hs.setHeap hs' hle') (hle.trans hle')).post ?_
    rintro st vm' ⟨hsound, hle'', _⟩
    exact ⟨hsound, hle'.trans hle'', trivial⟩
  · exact ((safe_push (s := .val nv) hnv).bind fun _ _ _ _ => safe_rte _ here op.code) vm hs hle

/-! ## Calls, jumps, trigger bits -/

omit [StdLib] in
lemma safe_modifyScript {f : Script → Script} (hf : ∀ s, (f s).statics = s.statics) :
    SafeAt h (modify (Vm.modifyScript f) : Exec σ Unit) Any := by
  intro vm hs _
  refine total_modify ⟨hs.modifyScript _ _ ?_, Le.refl _, trivial⟩
  intro s i v hv
  rw [hf] at hv
  exact .inr hv

lemma safe_callTriggerUtil (decl : BuiltinDecl) (args : List Value) :
    SafeAt h (callTriggerUtil decl args : Exec σ (Option Value))
      fun h' o => ∀ v, o = some v → v.Below h' := by
  have hsome : ∀ {h : Heap} (v : Value), v.obj? = none →
      SafeAt h (pure (some v) : Exec σ (Option Value)) fun h' o => ∀ v, o = some v → v.Below h' := by
    intro h v hv
    refine safe_pure fun h' _ w hw => ?_
    obtain rfl := some.inj hw
    exact below_of_scalar h' hv
  unfold callTriggerUtil
  split
  · refine SafeAt.bind (safe_modifyScript ?_) fun _ _ _ _ => hsome .null rfl
    exact fun _ => rfl
  split
  · refine SafeAt.bind (safe_modifyScript ?_) fun _ _ _ _ => hsome .null rfl
    exact fun _ => rfl
  split
  · refine (safe_read _).bind fun s _ _ _ => ?_
    split
    · exact hsome _ rfl
    · split
      all_goals exact hsome _ rfl
  · exact safe_pure fun _ _ _ h => nomatch h

omit [StdLib] in
lemma safe_pushReturn (decl : BuiltinDecl) {v : Value} (hv : v.Below h) :
    SafeAt h (pushReturn decl v : Exec σ Unit) Any := by
  unfold pushReturn
  split
  · exact safe_pure fun _ _ => trivial
  · exact safe_push (s := .val v) hv

end Handlers

end Exec

/-- The two opcodes that can close a cycle. -/
def Opcode.links : Opcode → Bool
  | .init | .assign => true
  | _ => false

/-- A host that leaves the aggregates in order: it returns what exists, frees nothing and makes no
aggregate contain itself. -/
def Engine.Tame (E : Engine σ) : Prop :=
  ∀ decl args host heap, heap.Sound → (∀ v ∈ args, v.Below heap) →
    (E.call decl args host heap).2.2.Sound ∧ heap.Le (E.call decl args host heap).2.2 ∧
      ∀ v, (E.call decl args host heap).1 = .ok v → v.Below (E.call decl args host heap).2.2

namespace Exec

section Handlers

variable [StdLib] {h : Heap} {E : Engine σ}

omit [StdLib] in
lemma safe_callHost (hE : E.Tame) (decl : BuiltinDecl) {args : List Value}
    (hargs : ∀ v ∈ args, v.Below h) :
    SafeAt h (callHost E decl args) fun h' r => ∀ v, r = .ok v → v.Below h' := by
  intro vm hs hle
  obtain ⟨hs', hle', hv⟩ := hE decl args vm.host vm.heap hs.heap fun v hv => (hargs v hv).mono hle
  refine total_lift ⟨?_, hle', hv⟩
  exact hs.update rfl rfl hle' hs' fun s hmem => (hs.stack s hmem).mono hle'

lemma safe_callBuiltin (hE : E.Tame) (decl : BuiltinDecl) (argc : Nat) :
    SafeAt h (callBuiltin E decl argc) Any := by
  refine (safe_popValues argc).bind fun args _ _ hargs => ?_
  refine (safe_callTriggerUtil decl args).bind fun answered _ hle hanswered => ?_
  cases answered with
  | some v => exact safe_pushReturn decl (hanswered v rfl)
  | none =>
    refine (safe_callHost hE decl fun v hv => (hargs v hv).mono hle).bind fun r _ _ hr => ?_
    match r with
    | .ok v => exact safe_pushReturn decl (hr v rfl)
    | .error .unimplemented =>
      refine (safe_read _).bind fun policy _ _ _ => ?_
      cases policy with
      | fail => exact safe_throw _
      | survey =>
        refine safe_pushReturn decl (below_of_scalar _ ?_)
        cases decl.ret <;> rfl
    | .error (.badArgs reason) => exact safe_throw _

lemma safe_opCallGame (hE : E.Tame) : SafeAt h (opCallGame E) Any := by
  refine safe_fetchU32.bind fun idx _ _ _ => (safe_ofOption _ _).bind fun decl _ _ _ => ?_
  exact (safe_callBuiltin hE decl _).continues

lemma safe_opCallGameVaried (hE : E.Tame) : SafeAt h (opCallGameVaried E) Any := by
  refine safe_fetchU32.bind fun idx _ _ _ => safe_fetchU32.bind fun argc _ _ _ => ?_
  refine (safe_ofOption _ _).bind fun decl _ _ _ => ?_
  exact (safe_callBuiltin hE decl _).continues

omit [StdLib] in
lemma safe_pushFrame (file script : Nat) : SafeAt h (pushFrame file script : Exec σ Unit) Any := by
  refine (safe_read _).bind fun o _ _ _ => (safe_ofOption _ o).bind fun f _ _ _ => ?_
  refine (safe_ofOption _ _).bind fun s _ _ _ => (safe_read _).bind fun len _ _ _ => ?_
  dsimp only
  split
  · exact safe_throw _
  · exact fun vm hs _ => total_modify ⟨hs.push rfl, Le.refl _, trivial⟩

omit [StdLib] in
lemma safe_opCall : SafeStep σ h opCall := by
  refine safe_fetchU32.bind fun script _ _ _ => (safe_read _).bind fun file _ _ _ => ?_
  exact (safe_pushFrame _ _).continues

omit [StdLib] in
lemma safe_opCallInclude : SafeStep σ h opCallInclude := by
  refine safe_fetchU32.bind fun script _ _ _ => safe_fetchU32.bind fun link _ _ _ => ?_
  refine (safe_read _).bind fun current _ _ _ => (safe_read _).bind fun o _ _ _ => ?_
  refine (safe_ofOption _ o).bind fun links _ _ _ => (safe_ofOption _ _).bind fun file _ _ _ => ?_
  exact (safe_pushFrame _ _).continues

omit [StdLib] in
lemma safe_setReturned (r : Option Value) :
    SafeAt h (modify fun vm => { vm with returned := r } : Exec σ Unit) Any :=
  fun _ hs _ => total_modify
    ⟨hs.update rfl rfl (Le.refl _) hs.heap hs.stack, Le.refl _, trivial⟩

omit [StdLib] in
lemma safe_closeFrame : SafeStep σ h closeFrame := by
  refine (safe_read _).bind fun f h₁ _ _ => ?_
  have hpop : SafeAt h₁ (modify fun vm => { vm with frames := vm.frames.tail } : Exec σ Unit)
      Any := fun vm hs _ => total_modify ⟨hs.pop, Le.refl _, trivial⟩
  refine hpop.bind fun _ _ _ _ => (safe_read _).bind fun len _ _ _ => ?_
  split
  · exact safe_rte _ _ _
  refine (safe_read _).bind fun last h₂ _ _ => ?_
  split
  · intro vm hs hle
    refine .gets_bind ?_
    cases hstack : vm.stack with
    | nil => exact ((safe_setReturned none).continues) vm hs hle
    | cons s rest =>
      have hmem : ∀ t ∈ s :: rest, t.Below vm.heap := hstack ▸ hs.stack
      refine .modify_bind ?_
      exact ((safe_deref (hmem s mem_cons_self)).bind fun v _ _ _ =>
        (safe_setReturned (some v)).continues) _
        (hs.setStack fun t ht => hmem t (mem_cons_of_mem _ ht)) (Le.refl _)
  · exact safe_continue

omit [StdLib] in
lemma safe_opReturn : SafeStep σ h opReturn := by
  refine (safe_read _).bind fun void _ _ _ => ?_
  split
  · exact safe_closeFrame
  · refine safe_peekValue.bind fun v _ _ hv => (safe_duplicate hv).bind fun v' _ _ hv' => ?_
    exact (safe_setTop hv').bind fun _ _ _ _ => safe_closeFrame

lemma safe_opJumpIfSc (on : Bool) : SafeStep σ h (opJumpIfSc on) := by
  refine safe_pop.bind fun s _ _ hs => (safe_deref hs).bind fun v _ hle _ => ?_
  split
  · exact (safe_push (hs.mono hle)).bind fun _ _ _ _ => safe_jumpAndContinue true
  · exact safe_jumpAndContinue false

lemma safe_opCase (op : Opcode) (here : Nat) : SafeStep σ h (opCase op here) := by
  refine safe_fetchU32.bind fun raw _ _ _ => (safe_read _).bind fun file _ _ _ => ?_
  refine (safe_read _).bind fun o _ _ _ => (safe_ofOption _ o).bind fun k _ _ _ => ?_
  refine safe_peekValue.bind fun subject _ _ hsubject => ?_
  refine (safe_doOperator (some k) hsubject (by decide)).bind fun r _ _ _ => ?_
  cases r with
  | error e => exact safe_rteOp e here op.code
  | ok =>
    dsimp only
    split
    · refine (safe_jumpIf true).bind fun _ _ _ _ => ?_
      exact safe_pop.continues
    · exact safe_jumpAndContinue false

omit [StdLib] in
lemma safe_modifyBits {f : Int32 → Script → Script} (hf : ∀ i s, (f i s).statics = s.statics) :
    SafeAt h (do
      let i := (← fetchU32).toInt32
      modify (Vm.modifyScript (f i))
      return .continue : Exec σ Step) Any := by
  refine safe_fetchU32.bind fun raw _ _ _ => ?_
  exact (safe_modifyScript (hf raw.toInt32)).continues

/-! ## One instruction -/

lemma safe_dispatch (hE : E.Tame) {op : Opcode} (hop : op.links = false) (here : Nat) :
    SafeAt h (dispatch E op here) Any := by
  cases op
  case eqOp | neOp | add | less | grea | leOp | geOp | andOp | orOp | mul | div | subt | powOp
      | mod | leftOp | rightOp | andBit | xorBit | orBit => exact safe_opBinary (by decide) here
  case addAssign | mulAssign | divAssign | subAssign | powAssign | modAssign | leftAssign
      | rightAssign | andAssign | xorAssign | orAssign => exact safe_opAssignment (by decide) here
  case unaNot | unaNega | unaTild => exact safe_opUnary (by decide) here
  case incOp | decOp => exact safe_opPreIncDec (by decide) here
  case incOpPost | decOpPost => exact safe_opPostIncDec (by decide) here
  case assign | init => cases hop
  case push => exact safe_opPush
  case pop => exact safe_pop.continues
  case createSimple => exact safe_opCreateSimple
  case createArray => exact safe_opCreateArray
  case createArrayDyn => exact safe_opCreateArrayDyn _ here
  case createArrayIniter => exact safe_opCreateArrayIniter _ here
  case createStruct => exact safe_opCreateStruct
  case pushArrayIndex => exact safe_opPushArrayIndex _ here
  case createArrayIndex => exact safe_opCreateArrayIndex _ here
  case pushStructField => exact safe_opPushStructField _ here
  case pushArrayLength => exact safe_opPushArrayLength _ here
  case setArrayLength => exact safe_opSetArrayLength _ here
  case initCopy => exact safe_opInitCopy
  case cast => exact safe_opCast
  case castBool => exact safe_opCastBool
  case call => exact safe_opCall
  case callInclude => exact safe_opCallInclude
  case callGame => exact safe_opCallGame hE
  case callGameVaried => exact safe_opCallGameVaried hE
  case caseOp => exact safe_opCase _ here
  case breakOp => exact safe_throw _
  case bitSet => exact safe_modifyBits (f := fun i s => s.triggerBitClear i) fun _ _ =>
    Script.statics_modifyTrigger _ _ _
  case bitUnset => exact safe_modifyBits (f := fun i s => s.triggerBitSet i) fun _ _ =>
    Script.statics_modifyTrigger _ _ _
  case returnOp => exact safe_opReturn
  case jump => exact safe_fetchU32.bind fun t _ _ _ => (safe_setBip _).continues
  case jumpIf => exact safe_popValue.bind fun v _ _ _ => safe_jumpAndContinue _
  case jumpIfNot => exact safe_popValue.bind fun v _ _ _ => safe_jumpAndContinue _
  case jumpIfScTrue => exact safe_opJumpIfSc true
  case jumpIfScFalse => exact safe_opJumpIfSc false
  case jumpIfInited =>
    refine safe_fetchU32.bind fun i _ _ _ => (safe_read _).bind fun inited _ _ _ => ?_
    exact safe_jumpAndContinue _
  case jumpIfBitset =>
    refine safe_fetchU32.bind fun i _ _ _ => (safe_read _).bind fun on _ _ _ => ?_
    exact safe_jumpAndContinue _
  case marker => exact safe_continue
  case scriptMarker => exact safe_fetchU32.continues
  case errorToken => exact safe_throw _

end Handlers

end Exec

end Don.Bhs
