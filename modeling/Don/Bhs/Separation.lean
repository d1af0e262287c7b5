import Don.Bhs.Paths

/-!
# Separation — a copy and its original

`duplicate` copies the elements of an aggregate at every depth, but keeps its prototypes.  So a copy is
separate from the original exactly when no array in the original grows with an aggregate.  Values that
are apart stay apart whatever is done to one of them, as long as nothing is assigned to it whose copies
grow with a part of the other.
-/

namespace Don.Bhs

open Foundation Proc Heap List Option Holds

/-- The operators that change the slot they are applied to. -/
def Opcode.updates (op : Opcode) : Bool :=
  op.handler = .assignment || op.handler = .preIncDec || op.handler = .postIncDec

/-! ## Updates -/

/-- What an updating operator does: a scalar gives a scalar, and an aggregate gets copies of the
elements of another. -/
inductive Update (h : Heap) (lhs : Value) (rhs : Option Value) : Value → Heap → Prop
  | scalar {out : Value} (hl : lhs.obj? = none) (ho : out.obj? = none) : Update h lhs rhs out h
  | replace {o other : ObjId} {cs : List CellId} {h₁ : Heap} (hl : lhs = .obj o)
      (hr : rhs = some (.obj other)) (hs : SlotCopies h h h₁ (h.obj other).values cs) :
      Update h lhs rhs (.obj o) (h₁.setValues o cs)

section Operators

variable [StdLib] {h h' : Heap} {lhs out : Value} {op : Opcode} {rhs : Option Value} {n : Nat}

omit [StdLib] in
lemma update_ofExcept {r : Except OpError Value} (hl : lhs.obj? = none) (hr : ScalarAnswer r)
    (hrun : (OnHeap.ofExcept r).run n h = .ok out h') : Update h lhs rhs out h' := by
  cases r with
  | error => cases hrun
  | ok =>
    simp only [OnHeap.ofExcept, run_pure, Result.ok.injEq] at hrun
    obtain ⟨rfl, rfl⟩ := hrun
    exact .scalar hl (hr _ rfl)

omit [StdLib] in
lemma update_objOp (hc : h.Closed) {eqElem : Value → Value → OnHeap Value} {o : ObjId}
    (hop : op.updates = true) (hrun : (objOp eqElem o op rhs).run n h = .ok out h') :
    Update h (.obj o) rhs out h' := by
  unfold objOp at hrun
  split at hrun
  · split at hrun
    · cases hop
    · cases hop
    · cases hrun
  · rename_i other hother
    obtain rfl : rhs = some (.obj other) := by
      cases rhs with
      | none => cases hother
      | some w =>
        cases w with
        | obj => exact congrArg (some ∘ Value.obj) (Option.some.inj hother)
        | int | real | str | null => cases hother
    split at hrun
    · obtain ⟨src, s₁, hget, hrun⟩ := run_bind_ok_iff.1 hrun
      simp only [run_gets, Result.ok.injEq] at hget
      obtain ⟨rfl, rfl⟩ := hget
      obtain ⟨cs, h₁, hcopy, hrun⟩ := run_bind_ok_iff.1 hrun
      simp only [run_bind, run_modify, Result.bind, run_pure, Result.ok.injEq] at hrun
      obtain ⟨rfl, rfl⟩ := hrun
      refine .replace rfl rfl (mapCells_mirrors (fun c hmem => ⟨hc.values other c hmem, ?_⟩) n h cs h₁
        (Heap.Extends.refl h) hc hcopy)
      exact duplicate_mirrors hc _ (hc.cells c)
    · cases hop
    · cases hop
    · cases hrun

lemma update_of_run (hc : h.Closed) (hop : op.updates = true)
    (hrun : (doOperator lhs op rhs).run n h = .ok out h') : Update h lhs rhs out h' := by
  -- at every depth the operator is `operate` of some comparison
  obtain ⟨eqElem, hdepth⟩ : ∃ eqElem, doOperatorTo n lhs op rhs = operate eqElem lhs op rhs := by
    cases n with
    | zero | succ => exact ⟨_, rfl⟩
  rw [doOperator, run_limit, hdepth] at hrun
  unfold operate at hrun
  simp only [run_bind, run_gets, Result.bind] at hrun
  split at hrun
  · cases lhs with
    | int a => exact update_ofExcept rfl (intOp_scalar a op _) hrun
    | real a => exact update_ofExcept rfl (realOp_scalar a op _) hrun
    | str a => exact update_ofExcept rfl (strOp_scalar a op _) hrun
    | obj => exact update_objOp hc hop hrun
    | null => cases hrun
  · cases hrun

end Operators

/-! ## Values that are apart -/

namespace Heap

/-- Nothing is part of both values. -/
structure Apart (h : Heap) (v w : Value) : Prop where
  objs : ∀ x, h.Holds v x → ¬ h.Holds w x
  cells : ∀ x y c, h.Holds v x → h.Holds w y → c ∈ (h.obj x).values → c ∉ (h.obj y).values

variable {h h' h₁ : Heap} {v w keep : Value}

lemma Apart.symm (ha : h.Apart v w) : h.Apart w v :=
  ⟨fun x hw hv => ha.objs x hv hw, fun x y c hw hv hcx hcy => ha.cells y x c hv hw hcy hcx⟩

/-- To stay apart it is enough to bound what one value can reach now, when nothing of the other was
touched. -/
lemma apart_of_region (S : ObjId → Prop) (hroot : ∀ o, v = .obj o → S o)
    (hstep : ∀ x y, S x → h'.Child x y → S y) (hobjs : ∀ x, S x → ¬ h.Holds keep x)
    (hcells : ∀ x y c, S x → h.Holds keep y → c ∈ (h'.obj x).values → c ∉ (h.obj y).values)
    (hagree : h.Agree h' keep) : h'.Apart v keep := by
  have hregion : ∀ x, h'.Holds v x → S x := by
    rintro x ⟨o, rfl, hr⟩
    induction hr with
    | refl => exact hroot o rfl
    | tail _ hchild ih => exact hstep _ _ ih hchild
  refine ⟨fun x hx hk => hobjs x (hregion x hx) ((hagree.holds_iff x).1 hk), ?_⟩
  intro x y c hx hk hcx
  have hk' := (hagree.holds_iff y).1 hk
  rw [(hagree y hk').1]
  exact hcells x y c (hregion x hx) hk' hcx

/-! ## Single changes -/

lemma cell_setCell_ne {c d : CellId} (hne : d ≠ c) (s : Value) :
    (h.setCell c s).cell d = h.cell d := by
  simp [setCell, cell, getElem?_set_ne (Ne.symm hne)]

lemma cell_setCell_or (c d : CellId) (s : Value) :
    (h.setCell c s).cell d = s ∨ (h.setCell c s).cell d = h.cell d := by
  by_cases hne : d = c
  · subst hne
    by_cases hlt : d < h.cells.length
    · left
      simp [setCell, cell, hlt]
    · right
      simp only [setCell, cell, set_eq_of_length_le (Nat.le_of_not_lt hlt)]
  · exact .inr (cell_setCell_ne hne s)

lemma setCell_same (h : Heap) (c : CellId) : h.setCell c (h.cell c) = h := by
  by_cases hlt : c < h.cells.length
  · simp [setCell, cell, hlt]
  · simp [setCell, set_eq_of_length_le (Nat.le_of_not_lt hlt)]

variable {o : ObjId}

lemma obj_setValues_self (ho : o < h.objs.length) (cs : List CellId) :
    (h.setValues o cs).obj o = { h.obj o with values := cs } := by
  simp [setValues, setObj, obj, ho]

lemma obj_setValues_ne {x : ObjId} (hne : x ≠ o) (cs : List CellId) :
    (h.setValues o cs).obj x = h.obj x := by
  simp [setValues, setObj, obj, getElem?_set_ne (Ne.symm hne)]

lemma setValues_same (ho : o < h.objs.length) : h.setValues o (h.obj o).values = h := by
  change h.setObj o (h.obj o) = h
  simp [setObj, obj, ho]

lemma length_setValues (h : Heap) (o : ObjId) (cs : List CellId) :
    (h.setValues o cs).objs.length = h.objs.length := by
  simp [setValues, setObj]

lemma Closed.setCell (hc : h.Closed) (c : CellId) {s : Value} (hs : s.Below h) :
    (h.setCell c s).Closed := by
  refine ⟨fun d => ?_, fun o d hd => ?_, hc.protos⟩
  · rcases cell_setCell_or (h := h) c d s with heq | heq
    · rw [heq]
      exact hs
    · rw [heq]
      exact hc.cells d
  · have hlt := hc.values o d hd
    simpa [Heap.setCell] using hlt

lemma Closed.setValues (hc : h.Closed) (o : ObjId) {cs : List CellId}
    (hcs : ∀ c ∈ cs, c < h.cells.length) : (h.setValues o cs).Closed := by
  have hbelow : ∀ {v : Value}, v.Below h → v.Below (h.setValues o cs) := fun hv =>
    hv.mono ⟨le_rfl, (length_setValues h o cs).ge⟩
  have hobj : ∀ x, (h.setValues o cs).obj x = h.obj x ∨
      (h.setValues o cs).obj x = { h.obj x with values := cs } := by
    intro x
    by_cases hx : x = o
    · subst hx
      by_cases hlt : x < h.objs.length
      · exact .inr (obj_setValues_self hlt cs)
      · left
        simp only [Heap.setValues, setObj, obj, set_eq_of_length_le (Nat.le_of_not_lt hlt)]
    · exact .inl (obj_setValues_ne hx cs)
  refine ⟨fun c => hbelow (hc.cells c), fun x c hmem => ?_, fun x v hv => ?_⟩
  · rcases hobj x with heq | heq
    · rw [heq] at hmem
      exact hc.values x c hmem
    · rw [heq] at hmem
      exact hcs c hmem
  · rcases hobj x with heq | heq
    all_goals
      rw [heq] at hv
      exact hbelow (hc.protos x v hv)

lemma resize_cases {count : Nat} {growOnly : Bool} (hr : h.resize o count growOnly = .ok h') :
    ∃ base, (h.obj o).blankBase = some base ∧
      (((h.obj o).values.length < count ∧
          h' = (h.newCells (replicate (count - (h.obj o).values.length) base)).2.setValues o
            ((h.obj o).values
              ++ (h.newCells (replicate (count - (h.obj o).values.length) base)).1)) ∨
        (growOnly = false ∧ h' = h.setValues o ((h.obj o).values.take count)) ∨ h' = h) := by
  unfold resize at hr
  dsimp only at hr
  split at hr
  · cases hr
  rename_i base hbase
  refine ⟨base, hbase, ?_⟩
  split at hr
  · rename_i hlt
    exact .inl ⟨hlt, (Except.ok.inj hr).symm⟩
  · split at hr
    · rename_i hshrink
      exact .inr (.inl ⟨by simpa using hshrink, (Except.ok.inj hr).symm⟩)
    · exact .inr (.inr (Except.ok.inj hr).symm)

lemma lt_of_proto {base : Value} (hb : (h.obj o).blankBase = some base) : o < h.objs.length := by
  by_contra hge
  have hdefault : h.obj o = default := getD_eq_default _ _ (Nat.le_of_not_lt hge)
  rw [hdefault] at hb
  cases hb

lemma cell_newCells {vs : List Value} {c : CellId} (hc : c ∈ (h.newCells vs).1) :
    h.cells.length ≤ c ∧ c < (h.newCells vs).2.cells.length ∧ (h.newCells vs).2.cell c ∈ vs := by
  have hrange : h.cells.length ≤ c ∧ c < h.cells.length + vs.length := mem_range'_1.1 hc
  have hlt : c - h.cells.length < vs.length := Nat.sub_lt_left_of_lt_add hrange.1 hrange.2
  refine ⟨hrange.1, by simpa [newCells] using hrange.2, ?_⟩
  simp only [newCells, cell, getD_eq_getElem?_getD, getElem?_append_right hrange.1,
    getElem?_eq_getElem hlt, getD_some]
  exact getElem_mem hlt

lemma Closed.resize (hc : h.Closed) {count : Nat} {growOnly : Bool}
    (hr : h.resize o count growOnly = .ok h') : h'.Closed ∧ h.Le h' := by
  obtain ⟨base, hbase, ⟨_, rfl⟩ | ⟨_, rfl⟩ | rfl⟩ := resize_cases hr
  · have hg := newCells_grown h (replicate (count - (h.obj o).values.length) base)
    have hc₁ : (h.newCells (replicate (count - (h.obj o).values.length) base)).2.Closed := by
      refine hc.newCells fun v hv => ?_
      rw [eq_of_mem_replicate hv]
      exact hc.protos o base hbase
    refine ⟨hc₁.setValues o fun c hmem => ?_, ⟨hg.cells, (length_setValues _ _ _).ge⟩⟩
    rcases mem_append.1 hmem with hold | hnew
    · exact (hc.values o c hold).trans_le hg.cells
    · exact (cell_newCells hnew).2.1
  · refine ⟨hc.setValues o fun c hmem => ?_, ⟨le_rfl, (length_setValues _ _ _).ge⟩⟩
    exact hc.values o c (mem_of_mem_take hmem)
  · exact ⟨hc, Le.refl h'⟩

/-! ## Work on one value -/

/-- Copies of `w` have no part of `keep`: what their arrays grow with is apart from it. -/
def ClearOf (h : Heap) (w keep : Value) : Prop :=
  ∀ p x z, h.walk w (elems p) = some (.obj x) → h.Proto x z → h.Apart (.obj z) keep

end Heap

/-- One operation of the machine on an aggregate: an update of one of its slots, at any depth, or of an
aggregate in it; growing or shrinking an array in it; or an allocation.  What is assigned is clear of
the value to keep. -/
inductive Work [StdLib] (h : Heap) (v keep : Value) : Heap → Prop
  | write {x : ObjId} {c : CellId} {op : Opcode} {rhs : Option Value} {n : Nat} {out : Value} {h₁ : Heap}
      (hx : h.Holds v x) (hc : c ∈ (h.obj x).values) (hop : op.updates = true)
      (hclear : ∀ w, rhs = some w → h.ClearOf w keep)
      (hrun : (doOperator (h.cell c) op rhs).run n h = .ok out h₁) : Work h v keep (h₁.setCell c out)
  | operate {x : ObjId} {op : Opcode} {rhs : Option Value} {n : Nat} {out : Value} {h₁ : Heap}
      (hx : h.Holds v x) (hop : op.updates = true) (hclear : ∀ w, rhs = some w → h.ClearOf w keep)
      (hrun : (doOperator (.obj x) op rhs).run n h = .ok out h₁) : Work h v keep h₁
  | resize {x : ObjId} {count : Nat} {growOnly : Bool} {h' : Heap} (hx : h.Holds v x)
      (hr : h.resize x count growOnly = .ok h') : Work h v keep h'
  | allocate {h' : Heap} (hg : h.Grown h') (hc : h'.Closed) : Work h v keep h'

inductive Works [StdLib] (h : Heap) (v keep : Value) : Heap → Prop
  | refl : Works h v keep h
  | step {h₁ h₂ : Heap} (before : Works h v keep h₁) (next : Work h₁ v keep h₂) : Works h v keep h₂

namespace Heap

variable {h h' h₁ : Heap} {v keep : Value}

/-- What work on one of two values that are apart leaves behind. -/
structure Kept (h h' : Heap) (v keep : Value) : Prop where
  closed : h'.Closed
  le : h.Le h'
  apart : h'.Apart v keep
  agree : h.Agree h' keep

lemma kept_setCell (hc : h.Closed) (ha : h.Apart v keep) {x : ObjId} {c : CellId} {s : Value}
    (hx : h.Holds v x) (hmem : c ∈ (h.obj x).values) (hs : s.obj? = none) :
    Kept h (h.setCell c s) v keep := by
  have hagree : h.Agree (h.setCell c s) keep := fun y hy => by
    refine ⟨rfl, fun d hd => cell_setCell_ne (fun hdc => ?_) s⟩
    subst hdc
    exact ha.cells x y d hx hy hmem hd
  refine ⟨hc.setCell c (Value.below_of_scalar h hs), ⟨by simp [setCell], le_rfl⟩, ?_, hagree⟩
  refine apart_of_region (h.Holds v) (fun o ho => ho ▸ self o) (fun a b hS hchild => ?_) ha.objs
    (fun a b d hS hk hd => ha.cells a b d hS hk hd) hagree
  rcases hchild with ⟨d, hd, hcell⟩ | hproto
  · rcases cell_setCell_or (h := h) c d s with heq | heq
    · rw [heq] at hcell
      rw [hcell] at hs
      cases hs
    · exact hS.child (.inl ⟨d, hd, heq.symm.trans hcell⟩)
  · exact hS.child (.inr hproto)

lemma kept_replace (hc : h.Closed) (hv : v.Below h) (hk : keep.Below h) (ha : h.Apart v keep)
    {o other : ObjId} {cs : List CellId} (ho : h.Holds v o)
    (hs : SlotCopies h h h₁ (h.obj other).values cs) (hclear : h.ClearOf (.obj other) keep) :
    Kept h (h₁.setValues o cs) v keep := by
  have holt : o < h.objs.length := hc.holds_below hv ho
  have hold : ∀ x < h.objs.length, x ≠ o → (h₁.setValues o cs).obj x = h.obj x := fun x hlt hne => by
    rw [obj_setValues_ne hne, hs.grown.obj x hlt]
  have hself : (h₁.setValues o cs).obj o = { h.obj o with values := cs } := by
    rw [obj_setValues_self (holt.trans_le hs.grown.objs), hs.grown.obj o holt]
  have hagree : h.Agree (h₁.setValues o cs) keep := fun y hy => by
    have hylt := hc.holds_below hk hy
    have hne : y ≠ o := fun heq => ha.objs o ho (heq ▸ hy)
    exact ⟨hold y hylt hne, fun c hmem => hs.grown.cell c (hc.values y c hmem)⟩
  -- what can be reached through a copied element
  have hcopied : ∀ c ∈ cs, ∀ y, h₁.Holds (h₁.cell c) y →
      h.objs.length ≤ y ∨ ∃ z, h.Apart (.obj z) keep ∧ h.Holds (.obj z) y := by
    intro c hmem y hy
    obtain ⟨i, hi⟩ := getElem?_of_mem hmem
    have hlen := hs.twins.length_eq
    have hilt : i < cs.length := (List.getElem?_eq_some_iff.1 hi).1
    have htwins := (forall₂_iff_get.1 hs.twins).2 i (hlen ▸ hilt) hilt
    have hci : cs.get ⟨i, hilt⟩ = c := (List.getElem?_eq_some_iff.1 hi).2
    rw [hci] at htwins
    rcases htwins.holds hc hs.grown.toExtends hy with ⟨p, hp⟩ | ⟨p, x, z, hx, hproto, hz⟩
    · exact .inl (htwins.fresh hp)
    · refine .inr ⟨z, hclear (i :: p) x z ?_ hproto, z, rfl, hz⟩
      have hgetElem : (h.obj other).values[i]? = some ((h.obj other).values.get ⟨i, hlen ▸ hilt⟩) :=
        getElem?_eq_getElem _
      simp only [elems, map_cons, walk, hop, hgetElem, map_some, bind_some]
      exact hx
  refine ⟨hs.closed.setValues o fun c hmem => (hs.fresh c hmem).2,
    ⟨hs.grown.cells, hs.grown.objs.trans (length_setValues _ _ _).ge⟩, ?_, hagree⟩
  refine apart_of_region (fun x => h.Holds v x ∨ ∃ c ∈ cs, h₁.Holds (h₁.cell c) x)
    (fun x hx => .inl (hx ▸ self x)) ?_ ?_ ?_ hagree
  · intro x y hx hchild
    by_cases hxo : x = o
    · subst hxo
      rcases hchild with ⟨c, hmem, hcell⟩ | hproto
      · rw [hself] at hmem
        exact .inr ⟨c, hmem, hcell ▸ self y⟩
      · rw [Proto, hself] at hproto
        exact .inl (ho.child (.inr hproto))
    · rcases hx with hx | ⟨c, hmem, hx⟩
      · have hxlt := hc.holds_below hv hx
        refine .inl (hx.child ?_)
        rcases hchild with ⟨c, hmem, hcell⟩ | hproto
        · rw [hold x hxlt hxo] at hmem
          exact .inl ⟨c, hmem, (hs.grown.cell c (hc.values x c hmem)).symm.trans hcell⟩
        · rw [Proto, hold x hxlt hxo] at hproto
          exact .inr hproto
      · refine .inr ⟨c, hmem, hx.child ?_⟩
        have hcell : (h₁.setValues o cs).cell = h₁.cell := rfl
        simpa only [Child, Elem, Proto, obj_setValues_ne hxo, hcell] using hchild
  · rintro x (hx | ⟨c, hmem, hx⟩) hkx
    · exact ha.objs x hx hkx
    · rcases hcopied c hmem x hx with hfresh | ⟨z, hz, hzx⟩
      · exact absurd (hc.holds_below hk hkx) (Nat.not_lt.2 hfresh)
      · exact hz.objs x hzx hkx
  · intro x y c hS hky hcx hcy
    have hclt := hc.values y c hcy
    by_cases hxo : x = o
    · subst hxo
      rw [hself] at hcx
      exact absurd (hs.fresh c hcx).1 (Nat.not_le.2 hclt)
    rcases hS with hx | ⟨d, hmem, hx⟩
    · rw [hold x (hc.holds_below hv hx) hxo] at hcx
      exact ha.cells x y c hx hky hcx hcy
    rw [obj_setValues_ne hxo] at hcx
    rcases hcopied d hmem x hx with hfresh | ⟨z, hz, hzx⟩
    · exact absurd (hs.grown.fresh x hfresh c hcx) (Nat.not_le.2 hclt)
    · by_cases hxlt : x < h.objs.length
      · rw [hs.grown.obj x hxlt] at hcx
        exact hz.cells x y c hzx hky hcx hcy
      · exact absurd (hs.grown.fresh x (Nat.le_of_not_lt hxlt) c hcx) (Nat.not_le.2 hclt)

lemma kept_resize (hc : h.Closed) (ha : h.Apart v keep) {o : ObjId}
    (ho : h.Holds v o) {count : Nat} {growOnly : Bool} (hr : h.resize o count growOnly = .ok h') :
    Kept h h' v keep := by
  obtain ⟨hc', hle⟩ := hc.resize hr
  obtain ⟨base, hbase, hcases⟩ := resize_cases hr
  have holt := lt_of_proto hbase
  -- all that changes is the list of slots of one aggregate, and new slots hold its prototype
  obtain ⟨cs, h₁, rfl, hobjs, hcell, hcs⟩ : ∃ (cs : List CellId) (h₁ : Heap),
      h' = h₁.setValues o cs ∧ h₁.objs = h.objs ∧
      (∀ c < h.cells.length, h₁.cell c = h.cell c) ∧
      ∀ c ∈ cs, c ∈ (h.obj o).values ∨ (h.cells.length ≤ c ∧ h₁.cell c = base) := by
    rcases hcases with ⟨_, heq⟩ | ⟨_, heq⟩ | heq
    · refine ⟨_, _, heq, rfl, (newCells_grown h _).cell, fun c hmem => ?_⟩
      rcases mem_append.1 hmem with hold | hnew
      · exact .inl hold
      · obtain ⟨hge, _, hval⟩ := cell_newCells hnew
        exact .inr ⟨hge, eq_of_mem_replicate hval⟩
    · exact ⟨_, _, heq, rfl, fun _ _ => rfl, fun c hmem => .inl (mem_of_mem_take hmem)⟩
    · refine ⟨(h.obj o).values, h, ?_, rfl, fun _ _ => rfl, fun c hmem => .inl hmem⟩
      rw [heq, setValues_same holt]
  have hobj : h₁.obj = h.obj := by
    funext x
    simp [obj, hobjs]
  have hself : (h₁.setValues o cs).obj o = { h.obj o with values := cs } := by
    rw [obj_setValues_self (by rw [hobjs]; exact holt), hobj]
  have hother : ∀ x, x ≠ o → (h₁.setValues o cs).obj x = h.obj x := fun x hne => by
    rw [obj_setValues_ne hne, hobj]
  have hagree : h.Agree (h₁.setValues o cs) keep := fun y hy => by
    have hne : y ≠ o := fun heq => ha.objs o ho (heq ▸ hy)
    exact ⟨hother y hne, fun c hmem => hcell c (hc.values y c hmem)⟩
  refine ⟨hc', hle, ?_, hagree⟩
  refine apart_of_region (h.Holds v) (fun x hx => hx ▸ self x) (fun x y hx hchild => ?_) ha.objs
    (fun x y c hx hky hcx hcy => ?_) hagree
  · by_cases hxo : x = o
    · subst hxo
      refine hx.child ?_
      rcases hchild with ⟨c, hmem, hval⟩ | hproto
      · rw [hself] at hmem
        rcases hcs c hmem with hold | ⟨_, hnew⟩
        · exact .inl ⟨c, hold, (hcell c (hc.values x c hold)).symm.trans hval⟩
        · exact .inr (hbase.trans (congrArg some (hnew.symm.trans hval)))
      · rw [Proto, hself] at hproto
        exact .inr hproto
    · refine hx.child ?_
      rcases hchild with ⟨c, hmem, hval⟩ | hproto
      · rw [hother x hxo] at hmem
        exact .inl ⟨c, hmem, (hcell c (hc.values x c hmem)).symm.trans hval⟩
      · rw [Proto, hother x hxo] at hproto
        exact .inr hproto
  · by_cases hxo : x = o
    · subst hxo
      rw [hself] at hcx
      rcases hcs c hcx with hold | ⟨hge, _⟩
      · exact ha.cells x y c hx hky hold hcy
      · exact absurd (hc.values y c hcy) (Nat.not_lt.2 hge)
    · rw [hother x hxo] at hcx
      exact ha.cells x y c hx hky hcx hcy

lemma kept_allocate (hc : h.Closed) (hv : v.Below h) (hk : keep.Below h) (ha : h.Apart v keep)
    (he : h.Extends h') (hc' : h'.Closed) : Kept h h' v keep := by
  have hv' := he.agree hc hv
  have hk' := he.agree hc hk
  refine ⟨hc', he.toLe, ⟨fun x hx hkx => ?_, fun x y c hx hky hcx => ?_⟩, hk'⟩
  · exact ha.objs x ((hv'.holds_iff x).1 hx) ((hk'.holds_iff x).1 hkx)
  · have hx' := (hv'.holds_iff x).1 hx
    have hky' := (hk'.holds_iff y).1 hky
    rw [(hv' x hx').1] at hcx
    rw [(hk' y hky').1]
    exact ha.cells x y c hx' hky' hcx

end Heap

section

variable [StdLib] {h h' : Heap} {v keep : Value}

/-- What an update through a slot does.  A slot that holds an aggregate is written back as it was. -/
lemma write_cases {c : CellId} {op : Opcode} {rhs : Option Value} {n : Nat} {out : Value}
    {h₁ : Heap}
    (hc : h.Closed) (hop : op.updates = true)
    (hrun : (doOperator (h.cell c) op rhs).run n h = .ok out h₁) :
    ((h.cell c).obj? = none ∧ out.obj? = none ∧ h₁ = h) ∨
    ∃ o other cs h₂, h.cell c = .obj o ∧ rhs = some (.obj other) ∧
      SlotCopies h h h₂ (h.obj other).values cs ∧ h₁.setCell c out = h₂.setValues o cs := by
  cases hcase : update_of_run hc hop hrun with
  | scalar hl ho => exact .inl ⟨hl, ho, rfl⟩
  | @replace o other cs h₂ hl hr hs =>
    refine .inr ⟨o, other, cs, h₂, hl, hr, hs, ?_⟩
    have hlt : c < h.cells.length := by
      by_contra hge
      simp [cell, getElem?_eq_none (Nat.le_of_not_lt hge)] at hl
    have hsame : (h₂.setValues o cs).cell c = .obj o := (hs.grown.cell c hlt).trans hl
    rw [← hsame, setCell_same]

lemma Work.kept (hw : Work h v keep h') (hc : h.Closed) (hv : v.Below h) (hk : keep.Below h)
    (ha : h.Apart v keep) : h.Kept h' v keep := by
  cases hw with
  | write hx hmem hop hclear hrun =>
    rcases write_cases hc hop hrun with ⟨_, ho, rfl⟩ | ⟨o, other, cs, h₂, hl, hr, hs, heq⟩
    · exact kept_setCell hc ha hx hmem ho
    · rw [heq]
      exact kept_replace hc hv hk ha (hx.child (.inl ⟨_, hmem, hl⟩)) hs (hclear _ hr)
  | @operate x op rhs n out h₁ hx hop hclear hrun =>
    cases hcase : update_of_run hc hop hrun with
    | scalar hl => cases hl
    | replace hl hr hs =>
      obtain rfl := Value.obj.inj hl
      exact kept_replace hc hv hk ha hx hs (hclear _ hr)
  | resize hx hr => exact kept_resize hc ha hx hr
  | allocate hg hc' => exact kept_allocate hc hv hk ha hg.toExtends hc'

lemma Works.kept (hw : Works h v keep h') (hc : h.Closed) (hv : v.Below h) (hk : keep.Below h)
    (ha : h.Apart v keep) : h.Kept h' v keep := by
  induction hw with
  | refl => exact ⟨hc, Heap.Le.refl h, ha, Heap.Agree.refl h keep⟩
  | step _ next ih =>
    have hnext := next.kept ih.closed (hv.mono ih.le) (hk.mono ih.le) ih.apart
    exact ⟨hnext.closed, ih.le.trans hnext.le, hnext.apart, ih.agree.trans hnext.agree⟩

/-! ## Deep copies -/

omit [StdLib] in
lemma Twins.look {h₀ h' : Heap} {v v' : Value} (ht : Twins h₀ h' v v') (hc₀ : h₀.Closed)
    (he : h₀.Extends h') (path : List Hop) : h'.look v' path = h₀.look v path := by
  have hroot := ht []
  simp only [elems, map_nil, walk] at hroot
  cases hroot with
  | some htwin =>
    induction path generalizing v v' with
    | nil => simp only [Heap.look, walk, Option.map_some, htwin.seen]
    | cons s path ih =>
      cases htwin with
      | scalar hv => simp only [Heap.look, walk_scalar hv, Option.map_none]
      | @aggregate x x' hfresh htype harray hproto hlen =>
        cases s with
        | elem i =>
          have hstep := ht [i]
          simp only [elems, map_cons, map_nil, walk] at hstep
          simp only [Heap.look, walk]
          cases hw : h₀.hop (.obj x) (.elem i) with
          | none =>
            cases hw' : h'.hop (.obj x') (.elem i) with
            | none => rfl
            | some =>
              simp only [hw, hw', bind_none, bind_some] at hstep
              cases hstep
          | some w =>
            cases hw' : h'.hop (.obj x') (.elem i) with
            | none =>
              simp only [hw, hw', bind_none, bind_some] at hstep
              cases hstep
            | some w' =>
              simp only [hw, hw', bind_some] at hstep
              have hsub : Twins h₀ h' w w' := fun p => by
                have hp := ht (i :: p)
                simpa only [elems, map_cons, walk, hw, hw', bind_some] using hp
              cases hstep with
              | some hone => exact ih hsub hone
        | proto =>
          simp only [Heap.look, walk, hop, hproto]
          cases hz : (h₀.obj x).blankBase with
          | none => rfl
          | some z => exact (he.agree hc₀ (hc₀.protos x z hz)).look path

/-- A deep copy: it reads like the original, has no part in common with it, and neither notices what is
done to the other. -/
structure DeepCopy (h : Heap) (v : Value) (h' : Heap) (v' : Value) : Prop where
  equal : ∀ path, h'.look v' path = h.look v path
  apart : h'.Apart v v'
  original : ∀ h'', Works h' v' v h'' → ∀ path, h''.look v path = h'.look v path
  copy : ∀ h'', Works h' v v' h'' → ∀ path, h''.look v' path = h'.look v' path

/-- No array in a value grows with an aggregate. -/
def ScalarProtos (h : Heap) (v : Value) : Prop :=
  ∀ p x z, h.walk v (elems p) = some (.obj x) → ¬ h.Proto x z

omit [StdLib] in
/-- Without aggregates to grow with, a copy is all fresh. -/
lemma Twins.apart {h₀ h' : Heap} {v v' : Value} (ht : Twins h₀ h' v v') (hc₀ : h₀.Closed)
    (hg : h₀.Grown h') (hv : v.Below h₀) (hp : ScalarProtos h₀ v) : h'.Apart v v' := by
  have hfresh : ∀ y, h'.Holds v' y → h₀.objs.length ≤ y := by
    intro y hy
    rcases ht.holds hc₀ hg.toExtends hy with ⟨p, hw⟩ | ⟨p, x, z, hw, hproto, _⟩
    · exact ht.fresh hw
    · exact (hp p x z hw hproto).elim
  have hagree := hg.toExtends.agree hc₀ hv
  refine ⟨fun x hx hx' => ?_, fun x y c hx hy hcx hcy => ?_⟩
  · exact absurd (hc₀.holds_below hv ((hagree.holds_iff x).1 hx)) (Nat.not_lt.2 (hfresh x hx'))
  · have hx₀ := (hagree.holds_iff x).1 hx
    rw [(hagree x hx₀).1] at hcx
    exact absurd (hc₀.values x c hcx) (Nat.not_lt.2 (hg.fresh y (hfresh y hy) c hcy))

omit [StdLib] in
lemma Twins.shared {h₀ h' : Heap} {v v' : Value} (ht : Twins h₀ h' v v') (hc₀ : h₀.Closed)
    (he : h₀.Extends h') (hv : v.Below h₀) {p : List Nat} {x z : ObjId}
    (hw : h₀.walk v (elems p) = some (.obj x)) (hproto : h₀.Proto x z) :
    h'.Holds v z ∧ h'.Holds v' z := by
  have hagree := he.agree hc₀ hv
  refine ⟨(hagree.holds_iff z).2 ((holds_of_walk hw).child (.inr hproto)), ?_⟩
  have hp := ht p
  rw [hw] at hp
  generalize hw' : h'.walk v' (elems p) = w at hp
  cases hp with
  | some htwin =>
    cases htwin with
    | scalar hs => cases hs
    | aggregate _ _ _ hblank =>
      exact (holds_of_walk hw').child (.inr (hblank.trans hproto))

/-- `duplicate` returns on every heap a run can have, and what it returns is a deep copy exactly when
no array in the original grows with an aggregate. -/
theorem duplicate_deep_copy_iff {ε : Type} (h : Heap) (v : Value) (hc : h.Closed) (hv : v.Below h) :
    (h.Sound → (v.duplicate : Proc Heap ε Value).Returns h) ∧
    ∀ n v' h', (v.duplicate : Proc Heap ε Value).run n h = .ok v' h' →
      (DeepCopy h v h' v' ↔ ScalarProtos h v) := by
  refine ⟨fun hs => (duplicate_copies hs hv h (Heap.Extends.refl h) hs).returns, ?_⟩
  intro n v' h' hrun
  obtain ⟨hg, hc', hv', htwins⟩ := duplicate_mirrors hc v hv n h v' h' (Heap.Extends.refl h) hc hrun
  have hvb : v.Below h' := hv.mono hg.toLe
  constructor
  · intro hcopy p x z hw hproto
    obtain ⟨hold, hnew⟩ := htwins.shared hc hg.toExtends hv hw hproto
    exact hcopy.apart.objs z hold hnew
  · intro hp
    have hapart := htwins.apart hc hg hv hp
    refine ⟨htwins.look hc hg.toExtends, hapart, fun h'' hworks => ?_, fun h'' hworks => ?_⟩
    · exact (hworks.kept hc' hv' hvb hapart.symm).agree.look
    · exact (hworks.kept hc' hvb hv' hapart).agree.look

end

/-! ## An array of structs -/

/-- An empty array (1) that grows with a struct (0) of one field. -/
def structArray : Heap :=
  ⟨[.int 7], [⟨1, [0], none, false⟩, ⟨2, [], some (.obj 0), true⟩]⟩

/-- An array of one integer, which grows with zeros. -/
def intArray : Heap :=
  ⟨[.int 7], [⟨2, [0], some (.int 0), true⟩]⟩

lemma closed_of_all {h : Heap} (hcells : ∀ v ∈ h.cells, v.Below h)
    (hobjs : ∀ x ∈ h.objs, (∀ c ∈ x.values, c < h.cells.length) ∧
      ∀ v, x.blankBase = some v → v.Below h) : h.Closed := by
  have hobj : ∀ o, h.obj o ∈ h.objs ∨ h.obj o = default := by
    intro o
    by_cases hlt : o < h.objs.length
    · left
      simp [obj, hlt]
    · right
      exact getD_eq_default _ _ (Nat.le_of_not_lt hlt)
  refine ⟨fun c => ?_, fun o c hmem => ?_, fun o v hv => ?_⟩
  · by_cases hlt : c < h.cells.length
    · refine hcells _ ?_
      simp [cell, hlt]
    · intro o ho
      simp [cell, getElem?_eq_none (Nat.le_of_not_lt hlt)] at ho
  · rcases hobj o with hin | hdef
    · exact (hobjs _ hin).1 c hmem
    · rw [hdef] at hmem
      cases hmem
  · rcases hobj o with hin | hdef
    · exact (hobjs _ hin).2 v hv
    · rw [hdef] at hv
      cases hv

/-- The copy of an array of integers is deep. -/
theorem int_array_deep_copy : ∃ n v' h',
    ((Value.obj 0).duplicate : OnHeap Value).run n intArray = .ok v' h' ∧
      @DeepCopy nativeStd intArray (.obj 0) h' v' := by
  have hc : intArray.Closed := by
    refine closed_of_all (fun v hv => ?_) fun x hx => ?_
    · obtain rfl : v = .int 7 := by simpa [intArray] using hv
      exact Value.below_of_scalar _ rfl
    · obtain rfl : x = ⟨2, [0], some (.int 0), true⟩ := by simpa [intArray] using hx
      refine ⟨by decide, fun v hv => ?_⟩
      obtain rfl := some.inj hv
      exact Value.below_of_scalar _ rfl
  have hv : (Value.obj 0).Below intArray := by
    intro o ho
    obtain rfl := Value.obj.inj ho
    decide
  have hrun : ((Value.obj 0).duplicate : OnHeap Value).run 2 intArray
      = .ok (.obj 1) ⟨[.int 7, .int 7], [⟨2, [0], some (.int 0), true⟩, ⟨2, [1], some (.int 0), true⟩]⟩ := by
    rfl
  refine ⟨2, _, _, hrun, ((@duplicate_deep_copy_iff nativeStd OpError intArray (.obj 0) hc hv).2 2 _ _ hrun).2 ?_⟩
  intro p x z hw hproto
  -- the only aggregate grows with a scalar
  have hscalar : ∀ x, intArray.Proto x z → False := by
    intro x hx
    have hlt := Heap.lt_of_proto hx
    obtain rfl : x = 0 := by
      simp only [intArray, List.length_singleton] at hlt
      exact Nat.lt_one_iff.1 hlt
    cases hx
  exact hscalar x hproto

/-- The copy of an array of structs grows with the struct of the original. -/
theorem struct_array_shares_prototype : ∃ n v' h',
    ((Value.obj 1).duplicate : OnHeap Value).run n structArray = .ok v' h' ∧
      ¬ @DeepCopy nativeStd structArray (.obj 1) h' v' := by
  have hrun : ((Value.obj 1).duplicate : OnHeap Value).run 1 structArray
      = .ok (.obj 2) ⟨[.int 7], [⟨1, [0], none, false⟩, ⟨2, [], some (.obj 0), true⟩,
        ⟨2, [], some (.obj 0), true⟩]⟩ := by
    rfl
  refine ⟨1, _, _, hrun, fun hcopy => ?_⟩
  have hboth : ∀ o, o = 1 ∨ o = 2 → Heap.Holds ⟨[.int 7], [⟨1, [0], none, false⟩,
      ⟨2, [], some (.obj 0), true⟩, ⟨2, [], some (.obj 0), true⟩]⟩ (.obj o) 0 := by
    rintro o (rfl | rfl)
    · exact (Heap.Holds.self 1).child (.inr rfl)
    · exact (Heap.Holds.self 2).child (.inr rfl)
  have hapart := @DeepCopy.apart nativeStd _ _ _ _ hcopy
  exact hapart.objs 0 (hboth 1 (.inl rfl)) (hboth 2 (.inr rfl))

end Don.Bhs
