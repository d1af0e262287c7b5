import Mathlib.Data.List.GetD
import Don.Foundation.Ranked
import Don.Bhs.Ops

/-!
# Acyclic — aggregates that contain themselves nowhere

Copying and comparing aggregates follow the element slots of arrays and structs, and a growing array
fills its new slots with its prototype.  Both end on a heap whose containment graph (elements and
prototypes) has no cycle.  Every operation on aggregates keeps the graph acyclic but one: assigning
to an aggregate gives it copies whose *prototypes* are still those of the source, so the target must
not be contained in one of these.
-/

namespace Don.Bhs

open Foundation Proc List Heap Value Except

/-! ## The containment graph -/

namespace Heap

/-- `o'` is an element of `o`. -/
def Elem (h : Heap) (o o' : ObjId) : Prop :=
  ∃ c ∈ (h.obj o).values, h.cell c = .obj o'

/-- `o'` is the prototype of `o`. -/
def Proto (h : Heap) (o o' : ObjId) : Prop :=
  (h.obj o).blankBase = some (.obj o')

def Child (h : Heap) (o o' : ObjId) : Prop :=
  h.Elem o o' ∨ h.Proto o o'

/-- `o` is the aggregate `t`, or contains it at some depth. -/
abbrev Reaches (h : Heap) (o t : ObjId) : Prop :=
  Relation.ReflTransGen h.Child o t

end Heap

def Value.Below (h : Heap) (v : Value) : Prop :=
  ∀ o, v = .obj o → o < h.objs.length

namespace Heap

/-- A heap a run can have: references lead to something, and nothing contains itself. -/
structure Sound (h : Heap) : Prop where
  cells : ∀ c, (h.cell c).Below h
  values : ∀ o, ∀ c ∈ (h.obj o).values, c < h.cells.length
  protos : ∀ o v, (h.obj o).blankBase = some v → v.Below h
  ranked : Ranked h.Child

/-- Nothing is ever freed. -/
structure Le (h h' : Heap) : Prop where
  cells : h.cells.length ≤ h'.cells.length
  objs : h.objs.length ≤ h'.objs.length

lemma Le.refl (h : Heap) : h.Le h :=
  ⟨le_rfl, le_rfl⟩

lemma Le.trans {h₁ h₂ h₃ : Heap} (h : h₁.Le h₂) (h' : h₂.Le h₃) : h₁.Le h₃ :=
  ⟨h.cells.trans h'.cells, h.objs.trans h'.objs⟩

/-- Everything there was is as it was. -/
structure Extends (h h' : Heap) : Prop extends Le h h' where
  cell : ∀ c < h.cells.length, h'.cell c = h.cell c
  obj : ∀ o < h.objs.length, h'.obj o = h.obj o

lemma Extends.refl (h : Heap) : h.Extends h :=
  ⟨Le.refl h, fun _ _ => rfl, fun _ _ => rfl⟩

lemma Extends.trans {h₁ h₂ h₃ : Heap} (h : h₁.Extends h₂) (h' : h₂.Extends h₃) :
    h₁.Extends h₃ where
  toLe := h.toLe.trans h'.toLe
  cell c hc := (h'.cell c (hc.trans_le h.cells)).trans (h.cell c hc)
  obj o ho := (h'.obj o (ho.trans_le h.objs)).trans (h.obj o ho)

lemma empty_sound : empty.Sound where
  cells c o h := by simp [empty, cell] at h
  values o c h := by simp [empty, obj, default] at h
  protos o v h := by simp [empty, obj, default] at h
  ranked := ⟨fun _ => 0, fun o o' h => by simp [empty, Child, Elem, Proto, obj, default] at h⟩

end Heap

lemma Value.Below.mono {h h' : Heap} {v : Value} (hv : v.Below h) (hle : h.Le h') : v.Below h' :=
  fun o ho => (hv o ho).trans_le hle.objs

lemma Value.below_of_scalar (h : Heap) {v : Value} (hv : v.obj? = none) : v.Below h := by
  intro o ho
  subst ho
  cases hv

namespace Heap

variable {h h' : Heap} {o : ObjId}

lemma Sound.below_of_child (hs : h.Sound) {o' : ObjId} (hc : h.Child o o') :
    o' < h.objs.length := by
  rcases hc with ⟨c, hc, hcell⟩ | hproto
  · exact hs.cells c o' hcell
  · exact hs.protos o _ hproto o' rfl

/-- An aggregate that does not exist contains nothing. -/
lemma lt_of_child {o' : ObjId} (hc : h.Child o o') : o < h.objs.length := by
  by_contra hlt
  have hdefault : h.obj o = default := getD_eq_default _ _ (Nat.le_of_not_lt hlt)
  rcases hc with ⟨c, hmem, _⟩ | hproto
  · rw [hdefault] at hmem
    cases hmem
  · rw [Proto, hdefault] at hproto
    cases hproto

lemma newObj_other {x : Obj} {o : ObjId} (ho : o ≠ h.objs.length) :
    (h.newObj x).2.obj o = h.obj o := by
  simp only [newObj, obj, getD_eq_getElem?_getD]
  rcases Nat.lt_or_gt_of_ne ho with hlt | hgt
  · rw [getElem?_append_left hlt]
  · rw [getElem?_eq_none (by simpa using Nat.succ_le_of_lt hgt), getElem?_eq_none hgt.le]

lemma newObj_self {x : Obj} : (h.newObj x).2.obj h.objs.length = x := by
  simp [newObj, obj]

section

variable (hs : h.Sound)
include hs

lemma Extends.child_iff (he : h.Extends h') {o' : ObjId}
    (ho : o < h.objs.length) : h.Child o o' ↔ h'.Child o o' := by
  have hcell : ∀ c ∈ (h.obj o).values, h'.cell c = h.cell c :=
    fun c hc => he.cell c (hs.values o c hc)
  simp only [Child, Elem, Proto, he.obj o ho]
  refine or_congr_left ?_
  constructor
  · rintro ⟨c, hc, hv⟩
    exact ⟨c, hc, (hcell c hc).trans hv⟩
  · rintro ⟨c, hc, hv⟩
    exact ⟨c, hc, (hcell c hc).symm.trans hv⟩

/-- What an old aggregate contains is not affected by allocation. -/
lemma Extends.reaches_iff (he : h.Extends h') {t : ObjId}
    (ho : o < h.objs.length) : h.Reaches o t ↔ h'.Reaches o t :=
  reaches_congr (S := (· < h.objs.length)) (fun _ _ _ hc => hs.below_of_child hc)
    (fun _ _ ha => he.child_iff hs ha) ho

lemma Sound.reaches_below {t : ObjId} (ho : o < h.objs.length)
    (hr : h.Reaches o t) : t < h.objs.length := by
  induction hr with
  | refl => exact ho
  | tail _ hc => exact hs.below_of_child hc

/-! ## Allocation -/

lemma newCells_spec {vs : List Value} (hvs : ∀ v ∈ vs, v.Below h) :
    (h.newCells vs).2.Sound ∧ h.Extends (h.newCells vs).2 ∧
      ∀ c ∈ (h.newCells vs).1, c < (h.newCells vs).2.cells.length ∧
        (h.newCells vs).2.cell c ∈ vs := by
  have hold : ∀ c < h.cells.length, (h.newCells vs).2.cell c = h.cell c := by
    intro c hc
    simp [newCells, cell, getElem?_append_left hc]
  have hext : h.Extends (h.newCells vs).2 :=
    ⟨⟨by simp [newCells], le_rfl⟩, hold, fun _ _ => rfl⟩
  have hcell : ∀ c, (h.newCells vs).2.cell c ∈ vs ∨ (h.newCells vs).2.cell c = h.cell c := by
    intro c
    by_cases hc : c < h.cells.length
    · exact .inr (hold c hc)
    simp only [newCells, cell, getD_eq_getElem?_getD,
      getElem?_append_right (Nat.le_of_not_lt hc),
      getElem?_eq_none (Nat.le_of_not_lt hc)]
    cases hv : vs[c - h.cells.length]? with
    | none => exact .inr rfl
    | some => exact .inl (mem_of_getElem? hv)
  refine ⟨⟨?_, ?_, ?_, ?_⟩, hext, ?_⟩
  · intro c
    rcases hcell c with hmem | hsame
    · exact hvs _ hmem
    · rw [hsame]
      exact hs.cells c
  · intro o c hc
    exact (hs.values o c hc).trans_le hext.cells
  · exact hs.protos
  · refine hs.ranked.mono fun o o' hc => ?_
    have ho : o < h.objs.length := lt_of_child (h := (h.newCells vs).2) hc
    exact (hext.child_iff hs ho).2 hc
  · intro c hc
    have hrange : h.cells.length ≤ c ∧ c < h.cells.length + vs.length := mem_range'_1.1 hc
    obtain ⟨hge, hlt'⟩ := hrange
    refine ⟨by simpa [newCells] using hlt', ?_⟩
    have hlt : c - h.cells.length < vs.length := Nat.sub_lt_left_of_lt_add hge hlt'
    simp only [newCells, cell, getD_eq_getElem?_getD,
      getElem?_append_right hge, getElem?_eq_getElem hlt, Option.getD_some]
    exact getElem_mem hlt

lemma newObj_spec {x : Obj} (hvalues : ∀ c ∈ x.values, c < h.cells.length)
    (hproto : ∀ v, x.blankBase = some v → v.Below h) :
    (h.newObj x).2.Sound ∧ h.Extends (h.newObj x).2 ∧ (h.newObj x).1 = .obj h.objs.length ∧
      (h.newObj x).2.obj h.objs.length = x ∧ (h.newObj x).2.objs.length = h.objs.length + 1 := by
  have hlen : (h.newObj x).2.objs.length = h.objs.length + 1 := by simp [newObj]
  have hext : h.Extends (h.newObj x).2 :=
    ⟨⟨le_rfl, by omega⟩, fun _ _ => rfl, fun o ho => newObj_other ho.ne⟩
  refine ⟨⟨?_, ?_, ?_, ?_⟩, hext, rfl, newObj_self, hlen⟩
  · intro c
    exact (hs.cells c).mono hext.toLe
  · intro o c hc
    by_cases ho : o = h.objs.length
    · rw [ho, newObj_self] at hc
      exact hvalues c hc
    · rw [newObj_other ho] at hc
      exact hs.values o c hc
  · intro o v hv
    by_cases ho : o = h.objs.length
    · rw [ho, newObj_self] at hv
      exact (hproto v hv).mono hext.toLe
    · rw [newObj_other ho] at hv
      exact (hs.protos o v hv).mono hext.toLe
  · -- the edges out of the fresh aggregate lead to old ones, and no old one leads to it
    have hold : ∀ o, (h.newObj x).2.Child h.objs.length o → o < h.objs.length := by
      rintro o (⟨c, _, hc⟩ | hc)
      · exact hs.cells c o hc
      · rw [Proto, newObj_self] at hc
        exact hproto _ hc o rfl
    refine hs.ranked.redirect h.objs.length (range h.objs.length) ?_ ?_ ?_
    · intro o o' ho hc
      have hcell : (h.newObj x).2.cell = h.cell := rfl
      simpa only [Child, Elem, Proto, newObj_other ho, hcell] using hc
    · intro o hc
      exact mem_range.2 (hold o hc)
    · intro o hc hback
      exact lt_irrefl _ (hs.reaches_below (hold o hc) hback)

lemma newAggregate_spec {vs : List Value} (hvs : ∀ v ∈ vs, v.Below h)
    (dataType : UInt32) {proto : Option Value} (hproto : ∀ v, proto = some v → v.Below h)
    (isArray : Bool) :
    ((h.newCells vs).2.newObj ⟨dataType, (h.newCells vs).1, proto, isArray⟩).2.Sound ∧
      h.Le ((h.newCells vs).2.newObj ⟨dataType, (h.newCells vs).1, proto, isArray⟩).2 ∧
      ((h.newCells vs).2.newObj ⟨dataType, (h.newCells vs).1, proto, isArray⟩).1.Below
        ((h.newCells vs).2.newObj ⟨dataType, (h.newCells vs).1, proto, isArray⟩).2 := by
  obtain ⟨hs₁, he₁, hcells⟩ := newCells_spec hs hvs
  obtain ⟨hs₂, he₂, hval, _, hlen⟩ := newObj_spec
    (x := ⟨dataType, (h.newCells vs).1, proto, isArray⟩) hs₁ (fun c hc => (hcells c hc).1)
    fun v hv => (hproto v hv).mono he₁.toLe
  refine ⟨hs₂, he₁.toLe.trans he₂.toLe, ?_⟩
  intro o ho
  rw [hval] at ho
  obtain rfl := obj.inj ho
  rw [hlen]
  exact Nat.lt_succ_self _

lemma newArray_spec {base : Value} (hb : base.Below h) (tag : UInt32) (n : Nat) :
    (h.newArray tag base n).2.Sound ∧ h.Le (h.newArray tag base n).2 ∧
      (h.newArray tag base n).1.Below (h.newArray tag base n).2 := by
  refine newAggregate_spec hs ?_ tag ?_ true
  · intro v hv
    rw [eq_of_mem_replicate hv]
    exact hb
  · rintro v ⟨⟩
    exact hb

/-- Writing to a slot what contains nothing, or what it held already. -/
lemma setCell_spec {c : CellId} {v : Value} (hv : v.Below h)
    (hold : v.obj? = none ∨ h.cell c = v) : (h.setCell c v).Sound ∧ h.Le (h.setCell c v) := by
  have hcell : ∀ c', (h.setCell c v).cell c' = v ∧ c' = c ∨
      (h.setCell c v).cell c' = h.cell c' := by
    intro c'
    by_cases hc' : c' = c
    · subst hc'
      by_cases hlt : c' < h.cells.length
      · left
        simp [setCell, cell, hlt]
      · right
        simp only [setCell, cell, set_eq_of_length_le (Nat.le_of_not_lt hlt)]
    · right
      simp [setCell, cell, getElem?_set_ne (Ne.symm hc')]
  have hle : h.Le (h.setCell c v) := ⟨by simp [setCell], le_rfl⟩
  refine ⟨⟨?_, ?_, hs.protos, ?_⟩, hle⟩
  · intro c'
    rcases hcell c' with ⟨heq, _⟩ | heq
    · rw [heq]
      exact hv
    · rw [heq]
      exact hs.cells c'
  · intro o c' hc'
    exact (hs.values o c' hc').trans_le hle.cells
  · refine hs.ranked.mono fun a b hedge => ?_
    rcases hedge with ⟨c', hmem, hval⟩ | hproto
    · left
      rcases hcell c' with ⟨heq, rfl⟩ | heq
      · rw [heq] at hval
        subst hval
        exact ⟨c', hmem, hold.resolve_left (fun h => nomatch h)⟩
      · exact ⟨c', hmem, heq.symm.trans hval⟩
    · exact .inr hproto

end

def setValues (h : Heap) (o : ObjId) (cs : List CellId) : Heap :=
  h.setObj o { h.obj o with values := cs }

/-- The slots of an aggregate may be replaced by slots whose contents do not contain it. -/
lemma setValues_spec (hs : h.Sound) {cs : List CellId} (hcs : ∀ c ∈ cs, c < h.cells.length)
    (hfree : ∀ c ∈ cs, ∀ o', h.cell c = .obj o' → ¬ h.Reaches o' o) :
    (h.setValues o cs).Sound := by
  have hlen : (h.setValues o cs).objs.length = h.objs.length := by
    simp [setValues, setObj]
  have hbelow : ∀ v : Value, v.Below h → v.Below (h.setValues o cs) :=
    fun v hv => hv.mono ⟨le_rfl, hlen.ge⟩
  have hother : ∀ o', o' ≠ o →
      (h.setValues o cs).obj o' = h.obj o' := by
    intro o' ho'
    simp [setValues, setObj, obj, getElem?_set_ne ho'.symm]
  have hthis : (h.setValues o cs).obj o = { h.obj o with values := cs } ∨
      (h.setValues o cs).obj o = h.obj o := by
    by_cases ho : o < h.objs.length
    · left
      simp [setValues, setObj, obj, ho]
    · right
      simp only [setValues, setObj, obj, set_eq_of_length_le (Nat.le_of_not_lt ho)]
  have hvalues : ∀ c ∈ ((h.setValues o cs).obj o).values,
      c ∈ cs ∨ c ∈ (h.obj o).values := by
    intro c hc
    rcases hthis with heq | heq
    · rw [heq] at hc
      exact .inl hc
    · rw [heq] at hc
      exact .inr hc
  have hproto : ((h.setValues o cs).obj o).blankBase
      = (h.obj o).blankBase := by
    rcases hthis with heq | heq <;> rw [heq]
  refine ⟨fun c => hbelow _ (hs.cells c), ?_, ?_, ?_⟩
  · intro o' c hc
    by_cases ho' : o' = o
    · subst ho'
      rcases hvalues c hc with hmem | hmem
      · exact hcs c hmem
      · exact hs.values o' c hmem
    · rw [hother o' ho'] at hc
      exact hs.values o' c hc
  · intro o' v hv
    by_cases ho' : o' = o
    · subst ho'
      rw [hproto] at hv
      exact hbelow v (hs.protos o' v hv)
    · rw [hother o' ho'] at hv
      exact hbelow v (hs.protos o' v hv)
  · have hcell : (h.setValues o cs).cell = h.cell := rfl
    refine hs.ranked.redirect o (range h.objs.length) ?_ ?_ ?_
    · intro a b ha hc
      simpa only [Child, Elem, Proto, hother a ha, hcell] using hc
    · rintro b (⟨c, _, hc⟩ | hc)
      · exact mem_range.2 (hs.cells c b hc)
      · rw [Proto, hproto] at hc
        exact mem_range.2 (hs.protos o _ hc b rfl)
    · rintro b (⟨c, hmem, hc⟩ | hc)
      · rcases hvalues c hmem with hnew | hold
        · exact hfree c hnew b hc
        · exact hs.ranked.not_back (.inl ⟨c, hold, hc⟩)
      · rw [Proto, hproto] at hc
        exact hs.ranked.not_back (.inr hc)

/-- Growing an array adds containment only where the prototype was contained already; shrinking
removes some. -/
lemma resize_spec (hs : h.Sound) {count : Nat} {growOnly : Bool}
    (hr : h.resize o count growOnly = .ok h') : h'.Sound ∧ h.Le h' := by
  unfold resize at hr
  dsimp only at hr
  split at hr
  · cases hr
  rename_i base hbase
  split at hr
  · have hbelow : ∀ v ∈ replicate (count - (h.obj o).values.length) base, v.Below h := by
      intro v hv
      rw [eq_of_mem_replicate hv]
      exact hs.protos o base hbase
    obtain ⟨hs', he, hcells⟩ := newCells_spec hs hbelow
    obtain rfl := ok.inj hr
    refine ⟨setValues_spec (o := o) hs' ?_ ?_, ⟨he.cells, by simp [setObj, newCells]⟩⟩
    · intro c hc
      rcases mem_append.1 hc with hold | hnew
      · exact (hs.values o c hold).trans_le he.cells
      · exact (hcells c hnew).1
    · intro c hc o' hcell
      rcases mem_append.1 hc with hold | hnew
      · exact hs'.ranked.not_back (.inl ⟨c, hold, hcell⟩)
      · -- a new slot holds the prototype, which the array contained already
        rw [eq_of_mem_replicate (hcells c hnew).2] at hcell
        exact hs'.ranked.not_back (.inr (by rw [Proto, ← hcell]; exact hbase))
  · split at hr
    · obtain rfl := ok.inj hr
      refine ⟨setValues_spec (o := o) hs ?_ ?_, ⟨le_rfl, by simp [setObj]⟩⟩
      · intro c hc
        exact hs.values o c (mem_of_mem_take hc)
      · intro c hc o' hcell
        exact hs.ranked.not_back (.inl ⟨c, mem_of_mem_take hc, hcell⟩)
    · obtain rfl := ok.inj hr
      exact ⟨hs, Le.refl h⟩

lemma resize_length {count : Nat} {growOnly : Bool}
    (hr : h.resize o count growOnly = .ok h') (hlt : (h.obj o).values.length < count) :
    (h'.obj o).values.length = count := by
  have ho : o < h.objs.length := by
    by_contra hge
    have hdefault : h.obj o = default := getD_eq_default _ _ (Nat.le_of_not_lt hge)
    simp [resize, hdefault, default] at hr
  unfold resize at hr
  dsimp only at hr
  split at hr
  · cases hr
  rw [if_pos hlt] at hr
  obtain rfl := ok.inj hr
  simp only [setObj, obj, newCells, getD_eq_getElem?_getD, getElem?_set_self ho,
    Option.getD_some, length_append, length_range', length_replicate]
  simp only [obj, getD_eq_getElem?_getD] at hlt
  omega

end Heap

/-! ## Copies -/

/-- A copy of `v` shares no prototype that contains `t`. -/
def Heap.Clear (h : Heap) (t : ObjId) (v : Value) : Prop :=
  ∀ o x y, v = .obj o → Relation.ReflTransGen h.Elem o x → h.Proto x y → ¬ h.Reaches y t

lemma Heap.Clear.elem {h : Heap} {t o : ObjId} (hclear : h.Clear t (.obj o)) {c : CellId}
    (hc : c ∈ (h.obj o).values) : h.Clear t (h.cell c) := by
  intro o' x y hcell hpath hproto
  exact hclear o x y rfl (.head ⟨c, hc, hcell⟩ hpath) hproto

section Copies

variable {ε : Type} {h₀ : Heap} {f : Value → Proc Heap ε Value}

/-- `f` returns a copy of a value of the heap `h₀`, however much has been allocated since. -/
def Copies (h₀ : Heap) (f : Value → Proc Heap ε Value) (v : Value) : Prop :=
  ∀ h, h₀.Extends h → h.Sound →
    Proc.Total (f v) h
      (fun v' h' => h'.Sound ∧ h.Extends h' ∧ v'.Below h' ∧
        ∀ t < h₀.objs.length, h₀.Clear t v → ∀ o, v' = .obj o → ¬ h'.Reaches o t)
      (fun _ _ => False)

lemma mapCells_total {cs : List CellId}
    (hcs : ∀ c ∈ cs, c < h₀.cells.length ∧ Copies h₀ f (h₀.cell c)) :
    ∀ h, h₀.Extends h → h.Sound →
      Total (mapCells f cs) h
        (fun cs' h' => h'.Sound ∧ h.Extends h' ∧ (∀ c ∈ cs', c < h'.cells.length) ∧
          ∀ t < h₀.objs.length, (∀ c ∈ cs, h₀.Clear t (h₀.cell c)) →
            ∀ c ∈ cs', ∀ o, h'.cell c = .obj o → ¬ h'.Reaches o t)
        (fun _ _ => False) := by
  induction cs with
  | nil =>
    intro h he hs
    refine total_pure ⟨hs, Extends.refl h, ?_, ?_⟩
    · intro c hc
      cases hc
    · intro _ _ _ c hc
      cases hc
  | cons c cs ih =>
    intro h he hs
    obtain ⟨hlt, hcopy⟩ := hcs c mem_cons_self
    refine .gets_bind ?_
    rw [he.cell c hlt]
    refine Total.bind ((hcopy h he hs).mono ?_ fun _ _ => False.elim)
    rintro v' h₁ ⟨hs₁, he₁, hv', hfree⟩
    -- the copy goes into a fresh slot
    have hone : ∀ v ∈ [v'], v.Below h₁ := by
      intro v hv
      rwa [mem_singleton.1 hv]
    obtain ⟨hs₂, he₂, hnew⟩ := newCells_spec hs₁ hone
    refine Total.bind (total_lift ?_)
    have he₀ : h₀.Extends (h₁.newCells [v']).2 := (he.trans he₁).trans he₂
    refine Total.bind ((ih (fun c hc => hcs c (mem_cons_of_mem _ hc)) _ he₀ hs₂).mono ?_
      fun _ _ => False.elim)
    rintro cs' h₃ ⟨hs₃, he₃, hbelow, hfree'⟩
    obtain ⟨hlt', hcell⟩ := hnew h₁.cells.length (by simp [newCells])
    refine total_pure ⟨hs₃, (he₁.trans he₂).trans he₃, ?_, ?_⟩
    · intro c' hc'
      rcases mem_cons.1 hc' with rfl | hmem
      · exact hlt'.trans_le he₃.cells
      · exact hbelow c' hmem
    · intro t ht hclear c' hc' o ho
      rcases mem_cons.1 hc' with rfl | hmem
      · rw [he₃.cell _ hlt', mem_singleton.1 hcell] at ho
        have hold := hfree t ht (hclear c mem_cons_self) o ho
        rwa [(he₂.trans he₃).reaches_iff hs₁ (hv' o ho)] at hold
      · exact hfree' t ht (fun c hc => hclear c (mem_cons_of_mem _ hc)) c' hmem o ho

section

variable (hs₀ : h₀.Sound)
include hs₀

lemma copyObj_total {o : ObjId} (ho : o < h₀.objs.length)
    (hcs : ∀ c ∈ (h₀.obj o).values, Copies h₀ f (h₀.cell c)) :
    Copies h₀ (fun _ => copyObj f o) (.obj o) := by
  intro h he hs
  refine .gets_bind ?_
  rw [he.obj o ho]
  refine Total.bind ((mapCells_total (fun c hc => ⟨hs₀.values o c hc, hcs c hc⟩) h he hs).mono
    ?_ fun _ _ => False.elim)
  rintro cs' h₁ ⟨hs₁, he₁, hbelow, hfree⟩
  have hproto : ∀ v, (h₀.obj o).blankBase = some v → v.Below h₀ := hs₀.protos o
  obtain ⟨hs₂, he₂, hval, hobj, _⟩ := newObj_spec (x := { h₀.obj o with values := cs' }) hs₁
    hbelow fun v hv => (hproto v hv).mono (he.trans he₁).toLe
  refine total_lift ⟨hs₂, he₁.trans he₂, ?_, ?_⟩
  · intro o' ho'
    obtain rfl : h₁.objs.length = o' := obj.inj (hval.symm.trans ho')
    simp
  · intro t ht hclear o' ho' hreach
    obtain rfl : h₁.objs.length = o' := obj.inj (hval.symm.trans ho')
    -- the copy is fresh, so a path to an old aggregate leaves it through an element or a prototype
    rcases Relation.ReflTransGen.cases_head hreach with heq | ⟨b, hedge, hrest⟩
    · rw [← heq] at ht
      exact absurd ht (not_lt.2 (he.trans he₁).objs)
    rcases hedge with ⟨c, hc, hcell⟩ | hedge
    · replace hc : c ∈ cs' := Eq.mp (congrArg (c ∈ Obj.values ·) hobj) hc
      have hcell₁ : h₁.cell c = .obj b := (he₂.cell c (hbelow c hc)).symm.trans hcell
      have hnot := hfree t ht (fun c hc => hclear.elem hc) c hc b hcell₁
      exact hnot ((he₂.reaches_iff hs₁ (hs₁.cells c b hcell₁)).2 hrest)
    · replace hedge : h₀.Proto o b := (congrArg Obj.blankBase hobj).symm.trans hedge
      have hb : b < h₀.objs.length := hproto _ hedge b rfl
      have hnot := hclear o o b rfl .refl hedge
      exact hnot ((((he.trans he₁).trans he₂).reaches_iff hs₀ hb).2 hrest)

/-- A family of copying procedures, each going one level deeper than the one before. -/
lemma copies_of_rank {rank : ObjId → Nat}
    (hrank : ∀ a b, h₀.Child a b → rank b < rank a) {g : Nat → Value → Proc Heap ε Value}
    (hobj : ∀ k o, g (k + 1) (.obj o) = copyObj (g k) o)
    (hscalar : ∀ k v, v.obj? = none → ∃ w : Value, w.obj? = none ∧ g k v = pure w) :
    ∀ k v, v.Below h₀ → (∀ o, v = .obj o → rank o < k) → Copies h₀ (g k) v := by
  intro k
  induction k with
  | zero =>
    intro v hv hlt
    cases hcase : v.obj? with
    | none =>
      obtain ⟨w, hw, heq⟩ := hscalar 0 v hcase
      intro h he hs
      rw [heq]
      refine total_pure ⟨hs, Extends.refl h, below_of_scalar h hw, ?_⟩
      intro _ _ _ o ho
      subst ho
      cases hw
    | some =>
      cases v <;> simp [obj?] at hcase
      exact absurd (hlt _ rfl) (Nat.not_lt_zero _)
  | succ k ih =>
    intro v hv hlt
    cases hcase : v.obj? with
    | none =>
      obtain ⟨w, hw, heq⟩ := hscalar (k + 1) v hcase
      intro h he hs
      rw [heq]
      refine total_pure ⟨hs, Extends.refl h, below_of_scalar h hw, ?_⟩
      intro _ _ _ o ho
      subst ho
      cases hw
    | some o =>
      obtain rfl : v = .obj o := by
        cases v <;> simp_all [obj?]
      have hcopy := copyObj_total (f := g k) hs₀ (hv o rfl) fun c hc =>
        ih _ (hs₀.cells c) fun o' ho' =>
          (hrank o o' (.inl ⟨c, hc, ho'⟩)).trans_le (Nat.le_of_lt_succ (hlt o rfl))
      intro h he hs
      rw [hobj]
      exact hcopy h he hs

lemma duplicate_copies {v : Value} (hv : v.Below h₀) :
    Copies h₀ (duplicate : Value → Proc Heap ε Value) v := by
  obtain ⟨rank, hrank⟩ := hs₀.ranked
  have hcopies := copies_of_rank (ε := ε) hs₀ hrank (g := duplicateTo) (fun _ _ => rfl)
    fun k v hv => ⟨v, hv, by cases v <;> cases k <;> first | rfl | exact nomatch hv⟩
  intro h he hs
  refine total_limit (k := (v.obj?.elim 0 rank) + 1) (hcopies _ v hv ?_ h he hs)
  intro o ho
  subst ho
  exact Nat.lt_succ_self _

lemma zeroLike_copies {v : Value} (hv : v.Below h₀) :
    Copies h₀ (zeroLike : Value → Proc Heap ε Value) v := by
  obtain ⟨rank, hrank⟩ := hs₀.ranked
  have hcopies := copies_of_rank (ε := ε) hs₀ hrank (g := zeroLikeTo) (fun _ _ => rfl)
    fun k v hv => by
      cases v with
      | int | null => exact ⟨.int 0, rfl, by cases k <;> rfl⟩
      | real => exact ⟨.real 0, rfl, by cases k <;> rfl⟩
      | str => exact ⟨.str "", rfl, by cases k <;> rfl⟩
      | obj => cases hv
  intro h he hs
  refine total_limit (k := (v.obj?.elim 0 rank) + 1) (hcopies _ v hv ?_ h he hs)
  intro o ho
  subst ho
  exact Nat.lt_succ_self _

end

end Copies

/-! ## Operators -/

def ScalarAnswer (r : Except OpError Value) : Prop :=
  ∀ v, r = .ok v → v.obj? = none

lemma scalarAnswer_error (e : OpError) : ScalarAnswer (.error e) :=
  fun _ h => nomatch h

lemma scalarAnswer_ok {v : Value} (hv : v.obj? = none) : ScalarAnswer (.ok v) := by
  intro w hw
  obtain rfl := ok.inj hw
  exact hv

section Operators

variable [StdLib]

lemma intOp_scalar (a : Int32) (op : Opcode) (rhs : Option Int32) :
    ScalarAnswer (intOp a op rhs) := by
  unfold intOp intDiv intRem
  repeat' split
  all_goals first | exact scalarAnswer_error _ | exact scalarAnswer_ok rfl

lemma realOp_scalar (a : UInt32) (op : Opcode) (rhs : Option UInt32) :
    ScalarAnswer (realOp a op rhs) := by
  unfold realOp
  repeat' split
  all_goals first | exact scalarAnswer_error _ | exact scalarAnswer_ok rfl

lemma strOp_scalar (a : String) (op : Opcode) (rhs : Option Value) :
    ScalarAnswer (strOp a op rhs) := by
  unfold strOp
  dsimp only
  repeat' split
  all_goals first | exact scalarAnswer_error _ | exact scalarAnswer_ok rfl

variable {h : Heap}

omit [StdLib] in
lemma isOne_total {x : OnHeap Value}
    (hx : Total x h (fun _ h' => h' = h) fun _ h' => h' = h) :
    Total (isOne x) h (fun _ h' => h' = h) fun _ _ => False := by
  obtain ⟨n, hn⟩ := hx
  refine ⟨n, ?_⟩
  simp only [isOne]
  cases hrun : x.run n h with
  | hang =>
    rw [hrun] at hn
    exact hn.elim
  | ok | error =>
    rw [hrun] at hn
    exact hn

omit [StdLib] in
lemma allEqual_total {eq : Value → Value → OnHeap Bool} :
    ∀ xs ys, (∀ x ∈ xs, ∀ w, Total (eq (h.cell x) w) h (fun _ h' => h' = h) fun _ _ => False) →
      Total (allEqual eq xs ys) h (fun _ h' => h' = h) fun _ h' => h' = h := by
  intro xs
  induction xs with
  | nil =>
    intro ys _
    cases ys <;> exact total_pure rfl
  | cons x xs ih =>
    intro ys heq
    cases ys with
    | nil => exact total_pure rfl
    | cons y ys =>
      refine .gets_bind ?_
      refine .gets_bind ?_
      refine Total.bind ((heq x mem_cons_self _).mono ?_ fun _ _ => False.elim)
      rintro b h' rfl
      cases b with
      | true => exact ih ys fun x hx w => heq x (mem_cons_of_mem _ hx) w
      | false => exact total_pure rfl

omit [StdLib] in
lemma ofExcept_total {r : Except OpError Value} {Q : Value → Heap → Prop}
    (hr : ∀ v, r = .ok v → Q v h) :
    Total (OnHeap.ofExcept r) h Q fun _ h' => h' = h := by
  cases r with
  | ok v => exact total_pure (hr v rfl)
  | error => exact total_throw rfl

/-- Comparing ends within the rank of the left operand, and changes nothing. -/
lemma compare_total {rank : ObjId → Nat} (hrank : ∀ a b, h.Child a b → rank b < rank a) :
    ∀ k v w, (∀ o, v = .obj o → rank o < k) →
      Total (doOperatorTo k v .eqOp (some w)) h (fun _ h' => h' = h) fun _ h' => h' = h := by
  have hbase : ∀ (eqElem : Value → Value → OnHeap Value) (v w : Value),
      (∀ o other, v = .obj o →
        Total (objEqual eqElem o other) h (fun _ h' => h' = h) fun _ h' => h' = h) →
      Total (operate eqElem v .eqOp (some w)) h (fun _ h' => h' = h) fun _ h' => h' = h := by
    intro eqElem v w hobj
    refine Total.bind (total_gets (Total.bind (total_gets ?_)))
    split
    · cases v with
      | int | real | str => exact ofExcept_total fun _ _ => rfl
      | null => exact total_throw rfl
      | obj o =>
        cases w with
        | obj other =>
          refine (hobj o other rfl).seq ?_
          rintro b h' rfl
          exact total_pure rfl
        | _ => exact total_pure rfl
    · exact total_throw rfl
  intro k
  induction k with
  | zero =>
    intro v w hlt
    exact hbase _ v w fun o _ ho => absurd (hlt o ho) (Nat.not_lt_zero _)
  | succ k ih =>
    intro v w hlt
    refine hbase _ v w fun o other ho => ?_
    refine Total.bind (total_gets (Total.bind (total_gets ?_)))
    split
    · refine allEqual_total _ _ fun x hx w => isOne_total (ih _ w ?_)
      intro o' ho'
      exact (hrank o o' (.inl ⟨x, hx, ho'⟩)).trans_le (Nat.le_of_lt_succ (hlt o ho))
    · exact total_pure rfl

/-- The assignment of one aggregate to another makes no aggregate contain itself: the target is in
none of the prototypes that the copies of the source's elements share. -/
def Heap.SafeAssign (h : Heap) (this other : ObjId) : Prop :=
  (h.obj this).dataType = (h.obj other).dataType →
    ∀ x y, Relation.TransGen h.Elem other x → h.Proto x y → ¬ h.Reaches y this

/-- What an operator leaves behind: its answer is a scalar or its left operand. -/
structure OperatorPost (h : Heap) (lhs v : Value) (h' : Heap) : Prop where
  sound : h'.Sound
  le : h.Le h'
  cell : ∀ c < h.cells.length, h'.cell c = h.cell c
  answer : v = lhs ∨ v.obj? = none

omit [StdLib] in
lemma OperatorPost.same (hs : h.Sound) {lhs v : Value} (hv : v.obj? = none) :
    OperatorPost h lhs v h :=
  ⟨hs, Le.refl h, fun _ _ => rfl, .inr hv⟩

omit [StdLib] in
lemma assign_total (hs : h.Sound) {this other : ObjId} (hthis : this < h.objs.length)
    (hfree : ∀ x y, Relation.TransGen h.Elem other x → h.Proto x y → ¬ h.Reaches y this)
    {eqElem : Value → Value → OnHeap Value} :
    Total (objOp eqElem this .assign (some (.obj other))) h
      (OperatorPost h (.obj this)) fun _ h' => h' = h := by
  have hcopies : ∀ c ∈ (h.obj other).values,
      c < h.cells.length ∧ Copies (ε := OpError) h duplicate (h.cell c) :=
    fun c hc => ⟨hs.values other c hc, duplicate_copies hs (hs.cells c)⟩
  refine .gets_bind ?_
  refine Total.bind ((mapCells_total hcopies h (Extends.refl h) hs).mono ?_
    fun _ _ => False.elim)
  rintro cs h₁ ⟨hs₁, he₁, hbelow, hclear⟩
  have hnone : ∀ c ∈ cs, ∀ o, h₁.cell c = .obj o → ¬ h₁.Reaches o this := by
    refine hclear this hthis fun c hc => ?_
    intro o x y hcell hpath hproto
    exact hfree x y (.head' ⟨c, hc, hcell⟩ hpath) hproto
  refine .modify_bind (total_pure ?_)
  exact {
    sound := setValues_spec hs₁ hbelow hnone
    le := ⟨he₁.cells, by simpa [setObj] using he₁.objs⟩
    cell := he₁.cell
    answer := .inl rfl }

open OperatorPost

/-- Every operator returns on aggregates that contain themselves nowhere, and one that fails changes
nothing. -/
lemma doOperator_total (hs : h.Sound) {lhs : Value} {op : Opcode} {rhs : Option Value}
    (hl : lhs.Below h)
    (hassign : op = .assign → ∀ this other, lhs = .obj this → rhs = some (.obj other) →
      h.SafeAssign this other) :
    Total (doOperator lhs op rhs) h (OperatorPost h lhs) fun _ h' => h' = h := by
  obtain ⟨rank, hrank⟩ := hs.ranked
  refine total_limit (k := lhs.obj?.elim 0 rank + 1) ?_
  refine Total.bind (total_gets (Total.bind (total_gets ?_)))
  split
  case isFalse => exact total_throw rfl
  case isTrue htypes =>
    cases lhs with
    | int a =>
      exact ofExcept_total fun v hv => same hs (intOp_scalar a op _ v hv)
    | real a =>
      exact ofExcept_total fun v hv => same hs (realOp_scalar a op _ v hv)
    | str a =>
      exact ofExcept_total fun v hv => same hs (strOp_scalar a op _ v hv)
    | null => exact total_throw rfl
    | obj this =>
      have hequal : ∀ other, Total (objEqual
          (fun v w => doOperatorTo (rank this) v .eqOp (some w)) this other) h
            (fun _ h' => h' = h) fun _ h' => h' = h := by
        intro other
        refine Total.bind (total_gets (Total.bind (total_gets ?_)))
        split
        · refine allEqual_total _ _ fun x hx w => isOne_total (compare_total hrank _ _ w ?_)
          intro o' ho'
          exact hrank this o' (.inl ⟨x, hx, ho'⟩)
        · exact total_pure rfl
      change Total (objOp (fun v w => doOperatorTo (rank this) v .eqOp (some w)) this op rhs)
        h _ _
      cases hrhs : rhs.bind obj? with
      | none =>
        unfold objOp
        rw [hrhs]
        cases op <;> first
          | exact total_pure (same hs rfl)
          | exact total_throw rfl
      | some other =>
        obtain rfl : rhs = some (.obj other) := by
          cases rhs with
          | none => cases hrhs
          | some w => cases w <;> simp_all [obj?]
        have hcompare : ∀ g : Bool → Value, (∀ b, (g b).obj? = none) → Total
            (do return g (← objEqual
              (fun v w => doOperatorTo (rank this) v .eqOp (some w)) this other))
            h (OperatorPost h (.obj this)) fun _ h' => h' = h := by
          intro g hg
          refine (hequal other).seq ?_
          rintro b h' rfl
          exact total_pure (same hs (hg b))
        cases op
        case assign =>
          refine assign_total hs (hl this rfl) (hassign rfl this other rfl rfl ?_)
          simpa [dataType, eq_comm] using htypes
        case eqOp => exact hcompare ofBool fun _ => rfl
        case neOp => exact hcompare (fun b => ofBool !b) fun _ => rfl
        all_goals exact total_throw rfl

end Operators

end Don.Bhs
