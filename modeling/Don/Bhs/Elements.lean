import Don.Bhs.Separation

/-!
# Elements — the elements of an array

An array is filled, when it is made and whenever it grows, with its prototype itself and not with
copies of it.  Elements are therefore independent of each other exactly when the prototype is a scalar:
then every slot that growing has added belongs to one place of one array and holds a scalar for ever.
-/

namespace Don.Bhs

open Foundation Proc Heap List Option

/-! ## Independence -/

/-- The slot `c` is that of element `i` of the array `o`, or one inside it. -/
def PartOf (h : Heap) (o : ObjId) (i : Nat) (c : CellId) : Prop :=
  ∃ d, (h.obj o).values[i]? = some d ∧
    (c = d ∨ ∃ p x, h.walk (h.cell d) (elems p) = some (.obj x) ∧ c ∈ (h.obj x).values)

/-- Element `i` contains the array itself, so that its parts include all other elements. -/
def SelfIn (h : Heap) (o : ObjId) (i : Nat) : Prop :=
  ∃ d, (h.obj o).values[i]? = some d ∧ h.Holds (h.cell d) o

section

variable [StdLib]

/-- An update through the slot `c`. -/
def Assigns (h : Heap) (c : CellId) (h' : Heap) : Prop :=
  ∃ op rhs n out h₁, Opcode.updates op = true ∧ (doOperator (h.cell c) op rhs).run n h = .ok out h₁ ∧
    h' = h₁.setCell c out

/-- An update through element `i`, or through a part of it, is not noticed in another element, where one
of the two was added after the array had `m` of them; nor in one that is appended later. -/
def IndependentFrom (m : Nat) (h : Heap) (o : ObjId) : Prop :=
  ∀ i c h', PartOf h o i c → Assigns h c h' → ¬ SelfIn h o i →
    (∀ j, j ≠ i → m ≤ i ∨ m ≤ j → ¬ SelfIn h o j → ∀ path,
      h'.look (.obj o) (.elem j :: path) = h.look (.obj o) (.elem j :: path)) ∧
    (∀ count g g', h.resize o count true = .ok g → h'.resize o count true = .ok g' →
      ∀ j, (h.obj o).values.length ≤ j → ∀ path,
        g'.look (.obj o) (.elem j :: path) = g.look (.obj o) (.elem j :: path))

/-- What can happen to a heap while an array stays the one it is: updates, growing and shrinking, and
allocation, but no assignment to the array as a whole. -/
inductive Change (o : ObjId) (h : Heap) : Heap → Prop
  | write {c : CellId} {op : Opcode} {rhs : Option Value} {n : Nat} {out : Value} {h₁ : Heap}
      (hne : h.cell c ≠ .obj o) (hop : op.updates = true)
      (hrun : (doOperator (h.cell c) op rhs).run n h = .ok out h₁) : Change o h (h₁.setCell c out)
  | operate {x : ObjId} {op : Opcode} {rhs : Option Value} {n : Nat} {out : Value} {h₁ : Heap}
      (hne : x ≠ o) (hx : x < h.objs.length) (hop : op.updates = true)
      (hrun : (doOperator (.obj x) op rhs).run n h = .ok out h₁) : Change o h h₁
  | resize {x : ObjId} {count : Nat} {growOnly : Bool} {h' : Heap}
      (hr : h.resize x count growOnly = .ok h') : Change o h h'
  | allocate {h' : Heap} (hg : h.Grown h') (hc : h'.Closed) : Change o h h'

inductive Changes (o : ObjId) (h : Heap) : Heap → Prop
  | refl : Changes o h h
  | step {h₁ h₂ : Heap} (before : Changes o h h₁) (next : Change o h₁ h₂) : Changes o h h₂

end

/-! ## Slots added by growing -/

/-- The places of `o` from `m` on hold scalars, in slots that occur nowhere else. -/
structure Appended (m : Nat) (base : Value) (h : Heap) (o : ObjId) : Prop where
  closed : h.Closed
  proto : (h.obj o).blankBase = some base
  scalar : ∀ (p : Nat) (c : CellId), m ≤ p → (h.obj o).values[p]? = some c → (h.cell c).obj? = none
  only : ∀ (p : Nat) (c : CellId), m ≤ p → (h.obj o).values[p]? = some c →
    ∀ (x : ObjId) (q : Nat), (h.obj x).values[q]? = some c → x = o ∧ q = p

/-- What a change leaves of the slots there were, and how it adds slots to the array `o`. -/
structure Shape (o : ObjId) (base : Value) (h h' : Heap) : Prop where
  closed : h'.Closed
  proto : (h'.obj o).blankBase = (h.obj o).blankBase
  cells : ∀ c < h.cells.length, (h.cell c).obj? = none → (h'.cell c).obj? = none
  values : ∀ (x : ObjId) (q : Nat) (c : CellId), (h'.obj x).values[q]? = some c →
    (h.obj x).values[q]? = some c ∨ h.cells.length ≤ c
  own : ∀ (q : Nat) (c : CellId), (h'.obj o).values[q]? = some c → h.cells.length ≤ c →
    h'.cell c = base ∧ ∀ (x : ObjId) (q' : Nat), (h'.obj x).values[q']? = some c → x = o ∧ q' = q

namespace Shape

variable {o : ObjId} {base : Value} {h h' h₁ : Heap}

lemma appended {m : Nat} (hs : Shape o base h h') (hbase : base.obj? = none)
    (ha : Appended m base h o) : Appended m base h' o where
  closed := hs.closed
  proto := hs.proto.trans ha.proto
  scalar p c hp hc := by
    rcases hs.values o p c hc with hold | hnew
    · exact hs.cells c (ha.closed.values o c (mem_of_getElem? hold)) (ha.scalar p c hp hold)
    · rw [(hs.own p c hc hnew).1]
      exact hbase
  only p c hp hc x q hx := by
    by_cases hnew : h.cells.length ≤ c
    · exact (hs.own p c hc hnew).2 x q hx
    · exact ha.only p c hp ((hs.values o p c hc).resolve_right hnew) x q
        ((hs.values x q c hx).resolve_right hnew)

section

variable (hc : h.Closed)
include hc

/-- A change that gives the array itself no new slots. -/
lemma of_same (hc' : h'.Closed) (hobj : h'.obj o = h.obj o)
    (hcells : ∀ c < h.cells.length, (h.cell c).obj? = none → (h'.cell c).obj? = none)
    (hvalues : ∀ (x : ObjId) (q : Nat) (c : CellId), (h'.obj x).values[q]? = some c →
      (h.obj x).values[q]? = some c ∨ h.cells.length ≤ c) : Shape o base h h' where
  closed := hc'
  proto := by rw [hobj]
  cells := hcells
  values := hvalues
  own q c hq hge := by
    rw [hobj] at hq
    exact absurd (hc.values o c (mem_of_getElem? hq)) (Nat.not_lt.2 hge)

lemma of_setCell (c : CellId) {s : Value} (hs : s.obj? = none) :
    Shape o base h (h.setCell c s) := by
  refine of_same hc (hc.setCell c (Value.below_of_scalar h hs)) rfl (fun d _ hd => ?_)
    fun _ _ _ hq => .inl hq
  rcases cell_setCell_or (h := h) c d s with heq | heq
  · rw [heq]
    exact hs
  · rw [heq]
    exact hd

lemma of_grown (ho : o < h.objs.length) (hg : h.Grown h') (hc' : h'.Closed) :
    Shape o base h h' := by
  refine of_same hc hc' (hg.obj o ho) (fun c hlt hs => by rw [hg.cell c hlt]; exact hs) fun x q c hq => ?_
  by_cases hx : x < h.objs.length
  · rw [hg.obj x hx] at hq
    exact .inl hq
  · exact .inr (hg.fresh x (Nat.le_of_not_lt hx) c (mem_of_getElem? hq))

lemma of_replace (ho : o < h.objs.length) {x : ObjId} {src cs : List CellId}
    (hne : x ≠ o) (hx : x < h.objs.length) (hs : SlotCopies h h h₁ src cs) :
    Shape o base h (h₁.setValues x cs) := by
  have hc' := hs.closed.setValues x fun c hmem => (hs.fresh c hmem).2
  have hshape : Shape o base h h₁ := of_grown hc ho hs.grown hs.closed
  refine of_same hc hc' ?_ hshape.cells fun y q c hq => ?_
  · rw [obj_setValues_ne (Ne.symm hne), hs.grown.obj o ho]
  · by_cases hy : y = x
    · subst hy
      rw [obj_setValues_self (hx.trans_le hs.grown.objs)] at hq
      exact .inr (hs.fresh c (mem_of_getElem? hq)).1
    · rw [obj_setValues_ne hy] at hq
      exact hshape.values y q c hq

lemma of_take (x : ObjId) (hx : x < h.objs.length) (count : Nat) :
    Shape o base h (h.setValues x ((h.obj x).values.take count)) := by
  have hself := obj_setValues_self hx ((h.obj x).values.take count)
  have hvalues : ∀ (y : ObjId) (q : Nat) (c : CellId), ((h.setValues x ((h.obj x).values.take count)).obj y).values[q]? = some c →
      (h.obj y).values[q]? = some c := by
    intro y q c hq
    by_cases hy : y = x
    · subst hy
      rw [hself] at hq
      simp only [getElem?_take] at hq
      split at hq
      · exact hq
      · cases hq
    · rwa [obj_setValues_ne hy] at hq
  refine ⟨hc.setValues x fun c hmem => hc.values x c (mem_of_mem_take hmem), ?_, fun _ _ hs => hs,
    fun y q c hq => .inl (hvalues y q c hq), fun q c hq hge => ?_⟩
  · by_cases ho : o = x
    · subst ho
      rw [hself]
    · rw [obj_setValues_ne ho]
  · exact absurd (hc.values o c (mem_of_getElem? (hvalues o q c hq))) (Nat.not_lt.2 hge)

lemma of_append (hproto : (h.obj o).blankBase = some base) {x : ObjId} {proto : Value}
    (hx : (h.obj x).blankBase = some proto) (k : Nat) :
    Shape o base h ((h.newCells (replicate k proto)).2.setValues x
      ((h.obj x).values ++ (h.newCells (replicate k proto)).1)) := by
  have hxlt := lt_of_proto hx
  have hg := newCells_grown h (replicate k proto)
  have hself := obj_setValues_self (h := (h.newCells (replicate k proto)).2) hxlt
    ((h.obj x).values ++ (h.newCells (replicate k proto)).1)
  have hc₁ : (h.newCells (replicate k proto)).2.Closed := hc.newCells fun v hv => by
    rw [eq_of_mem_replicate hv]
    exact hc.protos x proto hx
  have hcs : ∀ c ∈ (h.obj x).values ++ (h.newCells (replicate k proto)).1,
      c < (h.newCells (replicate k proto)).2.cells.length := by
    intro c hmem
    rcases mem_append.1 hmem with hold | hnew
    · exact (hc.values x c hold).trans_le hg.cells
    · exact (cell_newCells hnew).2.1
  -- a place of `x` has its old slot, or the slot that was made for it
  have hplace : ∀ (q : Nat) (c : CellId),
      ((h.obj x).values ++ (h.newCells (replicate k proto)).1)[q]? = some c →
        (h.obj x).values[q]? = some c ∨
          ((h.obj x).values.length ≤ q ∧ c = h.cells.length + (q - (h.obj x).values.length)) := by
    intro q c hq
    by_cases hlt : q < (h.obj x).values.length
    · rw [getElem?_append_left hlt] at hq
      exact .inl hq
    rw [getElem?_append_right (Nat.le_of_not_lt hlt)] at hq
    simp only [newCells, length_replicate] at hq
    have hk : q - (h.obj x).values.length < k := by
      simpa using (List.getElem?_eq_some_iff.1 hq).1
    rw [getElem?_range' hk] at hq
    exact .inr ⟨Nat.le_of_not_lt hlt, by simpa using (some.inj hq).symm⟩
  refine ⟨hc₁.setValues x hcs, ?_, fun c hlt hs => ?_, fun y q c hq => ?_, fun q c hq hge => ?_⟩
  · by_cases ho : o = x
    · subst ho
      rw [hself]
      rfl
    · rw [obj_setValues_ne ho]
      rfl
  · exact (congrArg Value.obj? (hg.cell c hlt)).trans hs
  · by_cases hy : y = x
    · subst hy
      rw [hself] at hq
      rcases hplace q c hq with hold | ⟨_, hnew⟩
      · exact .inl hold
      · exact .inr (hnew ▸ Nat.le_add_right _ _)
    · rw [obj_setValues_ne hy] at hq
      exact .inl hq
  · have hnotold : ∀ (y : ObjId) (q' : Nat), (h.obj y).values[q']? ≠ some c := fun y q' hold =>
      absurd (hc.values y c (mem_of_getElem? hold)) (Nat.not_lt.2 hge)
    by_cases ho : o = x
    · subst ho
      obtain rfl : base = proto := some.inj (hproto.symm.trans hx)
      rw [hself] at hq
      obtain ⟨hle, hceq⟩ := (hplace q c hq).resolve_left (hnotold o q)
      refine ⟨?_, fun y q' hy' => ?_⟩
      · have hmem : c ∈ (h.newCells (replicate k base)).1 :=
          (mem_append.1 (mem_of_getElem? hq)).resolve_left fun hold =>
            absurd (hc.values o c hold) (Nat.not_lt.2 hge)
        exact eq_of_mem_replicate (cell_newCells hmem).2.2
      · by_cases hy : y = o
        · subst hy
          rw [hself] at hy'
          obtain ⟨hle', hceq'⟩ := (hplace q' c hy').resolve_left (hnotold y q')
          have hoff := Nat.add_left_cancel (hceq.symm.trans hceq')
          exact ⟨rfl, by omega⟩
        · rw [obj_setValues_ne hy] at hy'
          exact (hnotold y q' hy').elim
    · rw [obj_setValues_ne ho] at hq
      exact (hnotold o q hq).elim

lemma of_resize (hproto : (h.obj o).blankBase = some base) {x : ObjId} {count : Nat}
    {growOnly : Bool} (hr : h.resize x count growOnly = .ok h') : Shape o base h h' := by
  obtain ⟨proto, hx, ⟨_, rfl⟩ | ⟨_, rfl⟩ | rfl⟩ := resize_cases hr
  · exact of_append hc hproto hx _
  · exact of_take hc x (lt_of_proto hx) count
  · exact of_same hc hc rfl (fun _ _ hs => hs) fun _ _ _ hq => .inl hq

end

end Shape

section

variable [StdLib] {m : Nat} {base : Value} {h h' : Heap} {o : ObjId}

open Shape

lemma Change.shape (hch : Change o h h') (hc : h.Closed)
    (hproto : (h.obj o).blankBase = some base) : Shape o base h h' := by
  have ho := lt_of_proto hproto
  cases hch with
  | @write c op rhs n out h₁ hne hop hrun =>
    rcases write_cases hc hop hrun with ⟨_, hout, rfl⟩ | ⟨x, other, cs, h₂, hl, _, hs, heq⟩
    · exact of_setCell hc c hout
    · rw [heq]
      refine of_replace hc ho (fun hxo => hne (hxo ▸ hl)) ?_ hs
      exact hc.cells c x hl
  | operate hne hx hop hrun =>
    cases hcase : update_of_run hc hop hrun with
    | scalar hl => cases hl
    | replace hl hr hs =>
      obtain rfl := Value.obj.inj hl
      exact of_replace hc ho hne hx hs
  | resize hr => exact of_resize hc hproto hr
  | allocate hg hc' => exact of_grown hc ho hg hc'

lemma Changes.appended (hch : Changes o h h') (hbase : base.obj? = none)
    (ha : Appended m base h o) : Appended m base h' o := by
  induction hch with
  | refl => exact ha
  | step _ next ih => exact (next.shape ih.closed ih.proto).appended hbase ih

/-! ## Scalar prototypes -/

variable {i : Nat} {c : CellId}

omit [StdLib] in
/-- A part of element `i` is the slot of a scalar, or belongs to an aggregate in the element. -/
lemma PartOf.holds (hp : PartOf h o i c) {x : ObjId} (hx : h.cell c = .obj x) :
    ∃ d, (h.obj o).values[i]? = some d ∧ h.Holds (h.cell d) x := by
  obtain ⟨d, hd, rfl | ⟨p, y, hw, hmem⟩⟩ := hp
  · exact ⟨c, hd, hx ▸ Heap.Holds.self x⟩
  · exact ⟨d, hd, (holds_of_walk hw).child (.inl ⟨c, hmem, hx⟩)⟩

variable {j : Nat}

omit [StdLib] in
/-- The element at a place that growing added is not touched through another element. -/
lemma Appended.not_part (ha : Appended m base h o) (hj : m ≤ j) (hne : j ≠ i)
    (hp : PartOf h o i c) (hself : ¬ SelfIn h o i) : (h.obj o).values[j]? ≠ some c := by
  intro hc
  obtain ⟨d, hd, rfl | ⟨p, x, hw, hmem⟩⟩ := hp
  · exact hne (ha.only j c hj hc o i hd).2.symm
  · obtain ⟨q, hq⟩ := getElem?_of_mem hmem
    obtain ⟨rfl, _⟩ := ha.only j c hj hc x q hq
    exact hself ⟨d, hd, holds_of_walk hw⟩

omit [StdLib] in
lemma look_elem {e : CellId} (hobj : h'.obj o = h.obj o)
    (he : (h.obj o).values[j]? = some e) (hcell : h'.cell e = h.cell e)
    (hagree : h.Agree h' (h.cell e)) (path : List Hop) :
    h'.look (.obj o) (.elem j :: path) = h.look (.obj o) (.elem j :: path) := by
  have hlook := hagree.look path
  simpa only [look, walk, hop, hobj, he, map_some, bind_some, hcell]
    using hlook

omit [StdLib] in
lemma look_missing (hobj : (h'.obj o).values[j]? = none) (path : List Hop) :
    h'.look (.obj o) (.elem j :: path) = none := by
  simp [look, walk, hop, hobj]

omit [StdLib] in
lemma look_appended {count : Nat} (hproto : (h.obj o).blankBase = some base)
    (hbase : base.obj? = none) (hr : h.resize o count true = .ok h')
    (hj : (h.obj o).values.length ≤ j) (path : List Hop) :
    h'.look (.obj o) (.elem j :: path) = if j < count then h.look base path else none := by
  have ho := lt_of_proto hproto
  obtain ⟨b, hb, ⟨hlt, rfl⟩ | ⟨hfalse, _⟩ | rfl⟩ := resize_cases hr
  · obtain rfl : base = b := some.inj (hproto.symm.trans hb)
    have hself := obj_setValues_self
      (h := (h.newCells (replicate (count - (h.obj o).values.length) base)).2) ho
      ((h.obj o).values ++ (h.newCells (replicate (count - (h.obj o).values.length) base)).1)
    split
    · rename_i hjlt
      -- the slot at this place is one of the new ones
      have hslot : ((h.obj o).values ++
          (h.newCells (replicate (count - (h.obj o).values.length) base)).1)[j]?
            = some (h.cells.length + (j - (h.obj o).values.length)) := by
        rw [getElem?_append_right hj]
        simp only [newCells, length_replicate]
        rw [getElem?_range' (by omega)]
        simp
      have hmem : h.cells.length + (j - (h.obj o).values.length) ∈
          (h.newCells (replicate (count - (h.obj o).values.length) base)).1 := by
        simp only [newCells, length_replicate, mem_range'_1]
        omega
      have hcell := eq_of_mem_replicate (cell_newCells hmem).2.2
      simp only [look, walk, hop, hself, hslot, map_some, bind_some]
      change Option.map _ (walk _ ((h.newCells _).2.cell _) path) = _
      rw [hcell]
      cases path with
      | nil => simp only [walk, map_some, seen_scalar hbase]
      | cons => simp only [walk_scalar hbase, map_none]
    · rename_i hjge
      refine look_missing ?_ path
      rw [hself]
      refine getElem?_eq_none ?_
      simp only [newCells, length_append, length_range', length_replicate]
      omega
  · cases hfalse
  · have hlen : count ≤ (h'.obj o).values.length := by
      by_contra hlt
      have hgrown := resize_length hr (Nat.lt_of_not_le hlt)
      omega
    rw [look_missing (getElem?_eq_none hj), if_neg (by omega)]

lemma Appended.independent (ha : Appended m base h o) (hbase : base.obj? = none) :
    IndependentFrom m h o := by
  intro i c h' hp hassign hself
  obtain ⟨op, rhs, n, out, h₁, hop, hrun, rfl⟩ := hassign
  have ho := lt_of_proto ha.proto
  -- the array keeps its slots and its prototype
  have hcases := write_cases ha.closed hop hrun
  have hobj : (h₁.setCell c out).obj o = h.obj o := by
    rcases hcases with ⟨_, _, rfl⟩ | ⟨x, other, cs, h₂, hl, _, hs, heq⟩
    · rfl
    · have hne : o ≠ x := by
        rintro rfl
        exact hself (hp.holds hl)
      rw [heq, obj_setValues_ne hne, hs.grown.obj o ho]
  refine ⟨fun j hne hm hselfj path => ?_, fun count g g' hr hr' j hj path => ?_⟩
  · cases he : (h.obj o).values[j]? with
    | none =>
      rw [look_missing he, look_missing (by rw [hobj]; exact he)]
    | some e =>
      have helt := ha.closed.values o e (mem_of_getElem? he)
      have hec : e ≠ c := by
        rintro rfl
        rcases hm with hi | hj
        · obtain ⟨d, hd, rfl | ⟨p, x, hw, hmem⟩⟩ := hp
          · exact hne (ha.only i e hi hd o j he).2
          · have hscalar := ha.scalar i d hi hd
            cases p with
            | nil =>
              rw [some.inj hw] at hscalar
              cases hscalar
            | cons =>
              rw [elems, map_cons, walk_scalar hscalar] at hw
              cases hw
        · exact ha.not_part hj hne hp hself he
      rcases hcases with ⟨_, hout, rfl⟩ | ⟨x, other, cs, h₂, hl, _, hs, heq⟩
      · refine look_elem hobj he (cell_setCell_ne hec out) (fun y hy => ?_) path
        refine ⟨rfl, fun d hd => cell_setCell_ne (fun hdc => ?_) out⟩
        subst hdc
        obtain ⟨q, hq⟩ := getElem?_of_mem hd
        rcases hm with hi | hj
        · -- the slot belongs to place `i` of the array, which element `j` does not contain
          obtain ⟨d', hd', rfl | ⟨p, x, hw, hmem⟩⟩ := hp
          · obtain ⟨rfl, _⟩ := ha.only i d hi hd' y q hq
            exact hselfj ⟨e, he, hy⟩
          · have hscalar := ha.scalar i d' hi hd'
            exact not_holds_scalar hscalar x (holds_of_walk hw)
        · exact not_holds_scalar (ha.scalar j e hj he) y hy
      · rw [heq] at hobj ⊢
        rcases hm with hi | hj
        · obtain ⟨d, hd, hx⟩ := hp.holds hl
          exact (not_holds_scalar (ha.scalar i d hi hd) x hx).elim
        · refine look_elem hobj he (hs.grown.cell e helt) (fun y hy => ?_) path
          exact (not_holds_scalar (ha.scalar j e hj he) y hy).elim
  · have hproto' : ((h₁.setCell c out).obj o).blankBase = some base := by rw [hobj]; exact ha.proto
    rw [look_appended hproto' hbase hr' (by rw [hobj]; exact hj),
      look_appended ha.proto hbase hr hj]
    split
    · cases path with
      | nil => simp only [look, walk, map_some, seen_scalar hbase]
      | cons => simp only [look, walk_scalar hbase, map_none]
    · rfl

/-! ## Aggregate prototypes -/

omit [StdLib] in
lemma run_mapCells_scalar {ε : Type} (n : Nat) : ∀ (cs : List CellId) (h : Heap),
    (∀ c ∈ cs, c < h.cells.length ∧ (h.cell c).obj? = none) →
      (mapCells Value.duplicate cs : Proc Heap ε (List CellId)).run n h
        = .ok (h.newCells (cs.map h.cell)).1 (h.newCells (cs.map h.cell)).2 := by
  intro cs
  induction cs with
  | nil => simp [mapCells, newCells]
  | cons c cs ih =>
    intro h hcs
    obtain ⟨hlt, hscalar⟩ := hcs c mem_cons_self
    have hdup : (Value.duplicate (h.cell c) : Proc Heap ε Value).run n h = .ok (h.cell c) h := by
      rw [Value.duplicate, run_limit]
      cases hv : h.cell c with
      | obj =>
        rw [hv] at hscalar
        cases hscalar
      | int | real | str | null => cases n <;> rfl
    -- the slots that are still to be copied are those of the old heap
    have hold : ∀ d ∈ cs, ({ h with cells := h.cells ++ [h.cell c] } : Heap).cell d = h.cell d := by
      intro d hd
      have hdlt := (hcs d (mem_cons_of_mem _ hd)).1
      simp [cell, getElem?_append_left hdlt]
    have hrest := ih { h with cells := h.cells ++ [h.cell c] } fun d hd => by
      obtain ⟨hdlt, hd0⟩ := hcs d (mem_cons_of_mem _ hd)
      refine ⟨hdlt.trans_le (by simp), ?_⟩
      rw [hold d hd]
      exact hd0
    simp only [mapCells, run_bind, run_gets, Result.bind, hdup, run_lift, hrest,
      run_pure, map_congr_left hold]
    simp [newCells, range'_succ]

variable {b : ObjId}

lemma run_assign_scalars {w : ObjId} (n : Nat) (htype : (h.obj w).dataType = (h.obj b).dataType)
    (hw : ∀ c ∈ (h.obj w).values, c < h.cells.length ∧ (h.cell c).obj? = none) :
    (doOperator (.obj b) .assign (some (.obj w))).run n h
      = .ok (.obj b) ((h.newCells ((h.obj w).values.map h.cell)).2.setValues b
          (h.newCells ((h.obj w).values.map h.cell)).1) := by
  have hcopy := run_mapCells_scalar (ε := OpError) n (h.obj w).values h hw
  have hdepth : ∀ f, (operate f (.obj b) .assign (some (.obj w))).run n h
      = .ok (.obj b) ((h.newCells ((h.obj w).values.map h.cell)).2.setValues b
          (h.newCells ((h.obj w).values.map h.cell)).1) := by
    intro f
    simp only [operate, run_bind, run_gets, Result.bind, map_some, all_some,
      Value.dataType, htype, decide_true, if_true, objOp, bind_some, Value.obj?, hcopy,
      run_modify, run_pure]
    rfl
  rw [doOperator, run_limit]
  cases n with
  | zero | succ => exact hdepth _

omit [StdLib] in
lemma Heap.newStruct_obj (tag : UInt32) (vs : List Value) :
    (h.newStruct tag vs).2.obj h.objs.length = ⟨tag, (h.newCells vs).1, none, false⟩ :=
  newObj_self (h := (h.newCells vs).2)

omit [StdLib] in
lemma Heap.newStruct_grown (h : Heap) (tag : UInt32) (vs : List Value) :
    h.Grown (h.newStruct tag vs).2 where
  toExtends := (newCells_grown h vs).toExtends.trans (newObj_extends _ _)
  fresh x hx c hc := by
    by_cases hnew : x = h.objs.length
    · rw [hnew, newStruct_obj] at hc
      exact (cell_newCells hc).1
    · have hobj : (h.newStruct tag vs).2.obj x = h.obj x := newObj_other (h := (h.newCells vs).2) hnew
      rw [hobj] at hc
      exact (Grown.refl h).fresh x hx c hc

omit [StdLib] in
lemma Heap.Sound.newStruct (hs : h.Sound) (tag : UInt32) {vs : List Value}
    (hvs : ∀ v ∈ vs, v.obj? = none) : (h.newStruct tag vs).2.Sound := by
  refine (newAggregate_spec hs (fun v hv => Value.below_of_scalar _ (hvs v hv)) tag ?_ false).1
  exact fun _ hv => nomatch hv

omit [StdLib] in
lemma look_aggregate {d : CellId} (hj : (h.obj o).values[j]? = some d)
    (hd : h.cell d = .obj b) : h.look (.obj o) [.elem j]
      = some (.aggregate (h.obj b).dataType (h.obj b).values.length (h.obj b).isArray) := by
  simp [look, walk, hop, hj, hd, seen]

omit [StdLib] in
lemma Heap.Sound.not_selfIn (hs : h.Sound)
    (hi : (h.obj o).values[i]? = some c) (hc : h.cell c = .obj b) : ¬ SelfIn h o i := by
  rintro ⟨d, hd, y, hy, hback⟩
  obtain rfl := some.inj (hi.symm.trans hd)
  obtain rfl := Value.obj.inj (hc.symm.trans hy)
  exact hs.ranked.not_back (.inl ⟨c, mem_of_getElem? hi, hc⟩) hback

lemma dependent_of_longer (hs : h.Sound) {w : ObjId} {d : CellId} (hne : j ≠ i)
    (hi : (h.obj o).values[i]? = some c) (hj : (h.obj o).values[j]? = some d)
    (hc : h.cell c = .obj b) (hd : h.cell d = .obj b) (hm : m ≤ i)
    (htype : (h.obj w).dataType = (h.obj b).dataType)
    (hw : ∀ e ∈ (h.obj w).values, e < h.cells.length ∧ (h.cell e).obj? = none)
    (hlen : (h.obj w).values.length ≠ (h.obj b).values.length) : ¬ IndependentFrom m h o := by
  intro hind
  have hb : b < h.objs.length := hs.cells c b hc
  have hob : o ≠ b := by
    rintro rfl
    exact hs.ranked.not_back (.inl ⟨c, mem_of_getElem? hi, hc⟩) .refl
  have hrun := run_assign_scalars 0 htype hw
  obtain ⟨g, hg⟩ : ∃ g, g = (h.newCells ((h.obj w).values.map h.cell)).2.setValues b
    (h.newCells ((h.obj w).values.map h.cell)).1 := ⟨_, rfl⟩
  have hgrown := newCells_grown h ((h.obj w).values.map h.cell)
  rw [← hg, ← hc] at hrun
  -- the slot keeps its aggregate, which has the new elements
  have hcell : ∀ e < h.cells.length, g.cell e = h.cell e := fun e he => by
    rw [hg]
    exact hgrown.cell e he
  have hgc := hcell c (hs.values o c (mem_of_getElem? hi))
  have hassign : Assigns h c g :=
    ⟨.assign, _, 0, _, _, rfl, hrun, by rw [← hgc, setCell_same]⟩
  have hgo : (g.obj o).values[j]? = some d := by
    rw [hg, obj_setValues_ne hob]
    exact hj
  have hgd : g.cell d = .obj b := (hcell d (hs.values o d (mem_of_getElem? hj))).trans hd
  have hgb : (g.obj b).values.length = (h.obj w).values.length := by
    rw [hg, obj_setValues_self (h := (h.newCells _).2) hb]
    simp [newCells]
  have hlook := (hind i c g ⟨c, hi, .inl rfl⟩ hassign (hs.not_selfIn hi hc)).1 j hne (.inl hm)
    (hs.not_selfIn hj hd) []
  rw [look_aggregate hgo hgd, look_aggregate hj hd] at hlook
  injection hlook with hseen
  injection hseen with _ hsame
  exact hlen (hgb.symm.trans hsame)

/-- Two elements that are one aggregate are not independent: assigning to one a longer aggregate of
its type makes the other longer too. -/
lemma dependent_of_shared (hs : h.Sound) {d : CellId} (hne : j ≠ i)
    (hi : (h.obj o).values[i]? = some c) (hj : (h.obj o).values[j]? = some d)
    (hc : h.cell c = .obj b) (hd : h.cell d = .obj b) (hm : m ≤ i) :
    ∃ h', Change o h h' ∧ ¬ IndependentFrom m h' o := by
  have ho : o < h.objs.length := by
    by_contra hge
    simp [obj, getElem?_eq_none (Nat.le_of_not_lt hge), default] at hi
  -- a struct of the element's type with one field more
  have hzero : ∀ v ∈ replicate ((h.obj b).values.length + 1) (Value.int 0), v.obj? = none :=
    fun v hv => by rw [eq_of_mem_replicate hv]; rfl
  have hgrown := newStruct_grown h (h.obj b).dataType
    (replicate ((h.obj b).values.length + 1) (.int 0))
  have hgs := hs.newStruct (h.obj b).dataType hzero
  refine ⟨_, .allocate hgrown hgs.closed, ?_⟩
  have hgo := hgrown.obj o ho
  have hgb := hgrown.obj b (hs.cells c b hc)
  refine dependent_of_longer (w := h.objs.length) hgs hne (by rw [hgo]; exact hi) (by rw [hgo]; exact hj)
    ((hgrown.cell c (hs.values o c (mem_of_getElem? hi))).trans hc)
    ((hgrown.cell d (hs.values o d (mem_of_getElem? hj))).trans hd) hm ?_ ?_ ?_
  · rw [newStruct_obj, hgb]
  · intro e he
    rw [newStruct_obj] at he
    obtain ⟨_, hlt, hmem⟩ := cell_newCells he
    exact ⟨hlt, hzero _ hmem⟩
  · rw [newStruct_obj, hgb]
    simp [newCells]

lemma dependent_of_aggregate (hs : h.Sound) (hproto : (h.obj o).blankBase = some (.obj b))
    (hm : m ≤ (h.obj o).values.length) : ∃ h', Changes o h h' ∧ ¬ IndependentFrom m h' o := by
  obtain ⟨g, hr⟩ : ∃ g, h.resize o ((h.obj o).values.length + 2) true = .ok g := by
    simp [resize, hproto]
  have hslot : ∀ k < 2, ∃ c, (g.obj o).values[(h.obj o).values.length + k]? = some c ∧ g.cell c = .obj b := by
    intro k hk
    obtain ⟨base, hbase, ⟨_, rfl⟩ | ⟨hfalse, _⟩ | rfl⟩ := resize_cases hr
    · obtain rfl : base = .obj b := some.inj (hbase.symm.trans hproto)
      rw [obj_setValues_self (h := (h.newCells _).2) (lt_of_proto hproto)]
      have hcount : (h.obj o).values.length + 2 - (h.obj o).values.length = 2 := by omega
      rw [hcount]
      have hget : (h.newCells (replicate 2 (Value.obj b))).1[k]? = some (h.cells.length + k) := by
        simp only [newCells, length_replicate, getElem?_range' hk, Nat.one_mul]
      refine ⟨h.cells.length + k, ?_, ?_⟩
      · rw [getElem?_append_right (Nat.le_add_right _ _), Nat.add_sub_cancel_left]
        exact hget
      · exact eq_of_mem_replicate (cell_newCells (mem_of_getElem? hget)).2.2
    · cases hfalse
    · have hlen := resize_length hr (Nat.lt_add_of_pos_right (by decide))
      omega
  obtain ⟨c, hc, hcb⟩ := hslot 0 (by decide)
  obtain ⟨d, hd, hdb⟩ := hslot 1 (by decide)
  obtain ⟨g', hchange, hdep⟩ := dependent_of_shared (m := m) (resize_spec hs hr).1 (by omega)
    hc hd hcb hdb hm
  exact ⟨g', (Changes.refl.step (.resize hr)).step hchange, hdep⟩

/-! ## Arrays that are made, and arrays that grow -/

omit [StdLib] in
lemma eq_obj_of_not_scalar {v : Value} (hv : v.obj? ≠ none) : ∃ b, v = .obj b := by
  cases v with
  | obj b => exact ⟨b, rfl⟩
  | int | real | str | null => exact (hv rfl).elim

omit [StdLib] in
lemma newArray_obj (tag : UInt32) (base : Value) (n : Nat) :
    (h.newArray tag base n).2.obj h.objs.length
      = ⟨tag, (h.newCells (replicate n base)).1, some base, true⟩ :=
  newObj_self (h := (h.newCells (replicate n base)).2)

omit [StdLib] in
lemma newArray_appended (hs : h.Sound) (hb : base.Below h) (hbase : base.obj? = none) (tag : UInt32)
    (n : Nat) : Appended 0 base (h.newArray tag base n).2 h.objs.length where
  closed := (newArray_spec hs hb tag n).1.closed
  proto := by rw [newArray_obj]
  scalar p c _ hc := by
    rw [newArray_obj] at hc
    have hcell := (cell_newCells (mem_of_getElem? hc)).2.2
    exact (congrArg Value.obj? (eq_of_mem_replicate hcell)).trans hbase
  only p c _ hc x q hx := by
    rw [newArray_obj] at hc
    have hge := (cell_newCells (mem_of_getElem? hc)).1
    by_cases hnew : x = h.objs.length
    · -- the slots of the array are all different
      subst hnew
      rw [newArray_obj] at hx
      have hnodup : (h.newCells (replicate n base)).1.Nodup := nodup_range'
      have hlt := (List.getElem?_eq_some_iff.1 hx).1
      exact ⟨rfl, (getElem?_inj hlt hnodup).1 (hx.trans hc.symm)⟩
    · have hold : (h.newArray tag base n).2.obj x = h.obj x :=
        newObj_other (h := (h.newCells (replicate n base)).2) hnew
      rw [hold] at hx
      exact absurd (hs.values x c (mem_of_getElem? hx)) (Nat.not_lt.2 hge)

omit [StdLib] in
lemma appended_here (hc : h.Closed) (hproto : (h.obj o).blankBase = some base) :
    Appended (h.obj o).values.length base h o where
  closed := hc
  proto := hproto
  scalar p c hp hget := by
    rw [getElem?_eq_none hp] at hget
    cases hget
  only p c hp hget := by
    rw [getElem?_eq_none hp] at hget
    cases hget

/-- The elements of an array are independent of each other for as long as it lives, when it is made from a
prototype and from when it grows, exactly when the prototype is a scalar. -/
theorem array_elements_independent_iff :
    (∀ (h : Heap) (tag : UInt32) (base : Value) (n : Nat), h.Sound → base.Below h →
      ((∀ h', Changes h.objs.length (h.newArray tag base n).2 h' →
          IndependentFrom 0 h' h.objs.length) ↔ base.obj? = none)) ∧
    (∀ (h : Heap) (o : ObjId) (base : Value), h.Sound → (h.obj o).blankBase = some base →
      ((∀ h', Changes o h h' → IndependentFrom (h.obj o).values.length h' o) ↔ base.obj? = none)) := by
  refine ⟨fun h tag base n hs hb => ⟨fun hind => ?_, fun hbase h' hch => ?_⟩,
    fun h o base hs hproto => ⟨fun hind => ?_, fun hbase h' hch => ?_⟩⟩
  · by_contra hagg
    obtain ⟨b, rfl⟩ := eq_obj_of_not_scalar hagg
    obtain ⟨h', hch, hdep⟩ := dependent_of_aggregate (b := b)
      (Heap.newArray_spec hs hb tag n).1 (by rw [newArray_obj]) (Nat.zero_le _)
    exact hdep (hind h' hch)
  · exact (hch.appended hbase (newArray_appended hs hb hbase tag n)).independent hbase
  · by_contra hagg
    obtain ⟨b, rfl⟩ := eq_obj_of_not_scalar hagg
    obtain ⟨h', hch, hdep⟩ := dependent_of_aggregate hs hproto le_rfl
    exact hdep (hind h' hch)
  · exact (hch.appended hbase (appended_here hs.closed hproto)).independent hbase

end

/-- An array made of two integers has independent elements. -/
theorem int_array_independent : (Value.int 5).Below Heap.empty ∧
    ∀ h', @Changes nativeStd 0 (Heap.empty.newArray 2 (.int 5) 2).2 h' →
      @IndependentFrom nativeStd 0 h' 0 := by
  have hb : (Value.int 5).Below Heap.empty := Value.below_of_scalar _ rfl
  exact ⟨hb, ((@array_elements_independent_iff nativeStd).1 _ 2 _ 2 Heap.empty_sound hb).2 rfl⟩

/-- A struct with one field, from which arrays are made. -/
def pointHeap : Heap :=
  (Heap.empty.newStruct 1 [.int 7]).2

/-- In an array made of two structs, adding to the field of the first changes the second. -/
theorem struct_elements_shared :
    ¬ @IndependentFrom nativeStd 0 (pointHeap.newArray 2 (.obj 0) 2).2 1 := by
  intro hind
  have hpoint : pointHeap.Sound :=
    Heap.empty_sound.newStruct 1 fun v hv => by rw [List.mem_singleton.1 hv]; rfl
  have hbelow : (Value.obj 0).Below pointHeap := by
    intro o ho
    obtain rfl := Value.obj.inj ho
    decide
  have hs := (Heap.newArray_spec hpoint hbelow 2 2).1
  have hpart : PartOf (pointHeap.newArray 2 (.obj 0) 2).2 1 0 0 :=
    ⟨1, rfl, .inr ⟨[], 0, rfl, List.mem_singleton.2 rfl⟩⟩
  have hassign : @Assigns nativeStd (pointHeap.newArray 2 (.obj 0) 2).2 0
      ((pointHeap.newArray 2 (.obj 0) 2).2.setCell 0 (.int 9)) :=
    ⟨.assign, some (.int 9), 0, .int 9, _, rfl, rfl, rfl⟩
  have hlook := (hind 0 0 _ hpart hassign (hs.not_selfIn (c := 1) rfl rfl)).1 1 (by decide) (.inl le_rfl)
    (hs.not_selfIn (c := 2) rfl rfl) [.elem 0]
  exact absurd hlook (by decide)

end Don.Bhs
