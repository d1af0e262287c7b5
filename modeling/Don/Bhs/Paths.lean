import Don.Bhs.Acyclic

/-!
# Paths — what can be read from a value, and what copying does to it

A value is read along paths: from an aggregate to one of its elements, or to its prototype, which is
what it grows with.  Two heaps that agree on the aggregates a value reaches read the same along every
path.  A copy reads the same as its source along every path through elements, and all it can reach
besides fresh aggregates are the prototypes of its source.
-/

namespace Don.Bhs

open Foundation Proc Heap List Option Result Value

inductive Hop where
  | elem (i : Nat)
  | proto
  deriving DecidableEq

inductive Seen where
  | scalar (v : Value)
  | aggregate (dataType : UInt32) (length : Nat) (isArray : Bool)
  deriving DecidableEq

namespace Heap

def hop (h : Heap) : Value → Hop → Option Value
  | .obj o, .elem i => ((h.obj o).values[i]?).map h.cell
  | .obj o, .proto => (h.obj o).blankBase
  | _, _ => none

def walk (h : Heap) : Value → List Hop → Option Value
  | v, [] => some v
  | v, s :: path => (h.hop v s).bind fun w => h.walk w path

def seen (h : Heap) : Value → Seen
  | .obj o => .aggregate (h.obj o).dataType (h.obj o).values.length (h.obj o).isArray
  | v => .scalar v

def look (h : Heap) (v : Value) (path : List Hop) : Option Seen :=
  (h.walk v path).map h.seen

def Holds (h : Heap) (v : Value) (x : ObjId) : Prop :=
  ∃ o, v = .obj o ∧ h.Reaches o x

/-- References lead to something. -/
structure Closed (h : Heap) : Prop where
  cells : ∀ c, (h.cell c).Below h
  values : ∀ o, ∀ c ∈ (h.obj o).values, c < h.cells.length
  protos : ∀ o v, (h.obj o).blankBase = some v → v.Below h

lemma Sound.closed {h : Heap} (hs : h.Sound) : h.Closed :=
  ⟨hs.cells, hs.values, hs.protos⟩

variable {h h' h₁ h₂ : Heap} {v w : Value}

lemma walk_append (v : Value) (p q : List Hop) :
    h.walk v (p ++ q) = (h.walk v p).bind fun w => h.walk w q := by
  induction p generalizing v with
  | nil => rfl
  | cons s p ih =>
    simp only [cons_append, walk]
    cases h.hop v s with
    | none => rfl
    | some w => exact ih w

variable {x : ObjId}

lemma child_of_hop {o : ObjId} {s : Hop} (hs : h.hop (.obj o) s = some (.obj x)) :
    h.Child o x := by
  cases s with
  | elem =>
    simp only [hop, map_eq_some_iff] at hs
    obtain ⟨c, hc, hcell⟩ := hs
    exact .inl ⟨c, mem_of_getElem? hc, hcell⟩
  | proto => exact .inr hs

lemma hop_scalar (hv : v.obj? = none) (s : Hop) : h.hop v s = none := by
  cases v <;> first | rfl | cases hv

lemma walk_scalar (hv : v.obj? = none) (s : Hop) (p : List Hop) : h.walk v (s :: p) = none := by
  rw [walk, hop_scalar hv, bind_none]

lemma seen_scalar (hv : v.obj? = none) : h.seen v = .scalar v := by
  cases v <;> first | rfl | cases hv

lemma Holds.self (o : ObjId) : h.Holds (.obj o) o := ⟨o, rfl, .refl⟩

lemma Holds.child {y : ObjId} (hx : h.Holds v x) (hc : h.Child x y) : h.Holds v y := by
  obtain ⟨o, rfl, hr⟩ := hx
  exact ⟨o, rfl, hr.tail hc⟩

lemma not_holds_scalar (hv : v.obj? = none) (x : ObjId) : ¬ h.Holds v x := by
  rintro ⟨o, rfl, _⟩
  cases hv

lemma holds_of_walk : ∀ {p : List Hop} {v : Value}, h.walk v p = some (.obj x) → h.Holds v x := by
  intro p
  induction p with
  | nil =>
    intro v hw
    obtain rfl := some.inj hw
    exact Holds.self x
  | cons s p ih =>
    intro v hw
    rw [walk] at hw
    obtain ⟨w, hhop, hw⟩ := bind_eq_some_iff.1 hw
    obtain ⟨y, rfl, hr⟩ := ih hw
    cases v with
    | obj o => exact ⟨o, rfl, .head (child_of_hop hhop) hr⟩
    | int | real | str | null => cases hhop

lemma Closed.below_of_child (hc : h.Closed) {o o' : ObjId} (hchild : h.Child o o') :
    o' < h.objs.length := by
  rcases hchild with ⟨c, _, hcell⟩ | hproto
  · exact hc.cells c o' hcell
  · exact hc.protos o _ hproto o' rfl

lemma Closed.holds_below (hc : h.Closed) (hv : v.Below h) (hx : h.Holds v x) :
    x < h.objs.length := by
  obtain ⟨o, rfl, hr⟩ := hx
  induction hr with
  | refl => exact hv o rfl
  | tail _ hchild => exact hc.below_of_child hchild

/-! ## Agreement -/

def Agree (h h' : Heap) (v : Value) : Prop :=
  ∀ x, h.Holds v x → h'.obj x = h.obj x ∧ ∀ c ∈ (h.obj x).values, h'.cell c = h.cell c

namespace Agree

lemma refl (h : Heap) (v : Value) : h.Agree h v := fun _ _ => ⟨rfl, fun _ _ => rfl⟩

section

variable (ha : h.Agree h' v)
include ha

lemma hop (s : Hop) : h'.hop v s = h.hop v s := by
  cases v with
  | obj o =>
    obtain ⟨hobj, hcells⟩ := ha o (Holds.self o)
    cases s with
    | elem i =>
      simp only [hop, hobj]
      cases hc : (h.obj o).values[i]? with
      | none => rfl
      | some c => exact congrArg some (hcells c (mem_of_getElem? hc))
    | proto => simp only [hop, hobj]
  | int | real | str | null => rfl

lemma step {s : Hop} (hs : h.hop v s = some w) : h.Agree h' w := by
  intro x hx
  obtain ⟨y, rfl, hr⟩ := hx
  cases v with
  | obj o => exact ha x ⟨o, rfl, .head (child_of_hop hs) hr⟩
  | int | real | str | null => cases hs

lemma walk (path : List Hop) : h'.walk v path = h.walk v path := by
  induction path generalizing v with
  | nil => rfl
  | cons s path ih =>
    simp only [walk, ha.hop s]
    cases hs : h.hop v s with
    | none => rfl
    | some => exact ih (ha.step hs)

lemma look (path : List Hop) : h'.look v path = h.look v path := by
  unfold Heap.look
  rw [ha.walk path]
  cases hw : h.walk v path with
  | none => rfl
  | some w =>
    cases w with
    | obj o => simp [seen, (ha o (holds_of_walk hw)).1]
    | int | real | str | null => rfl

lemma holds_iff (x : ObjId) : h'.Holds v x ↔ h.Holds v x := by
  constructor
  · rintro ⟨o, rfl, hr⟩
    refine ⟨o, rfl, ?_⟩
    induction hr with
    | refl => exact .refl
    | tail _ hchild ih =>
      obtain ⟨hobj, hcells⟩ := ha _ ⟨o, rfl, ih⟩
      refine ih.tail ?_
      rcases hchild with ⟨c, hc, hcell⟩ | hproto
      · rw [hobj] at hc
        exact .inl ⟨c, hc, (hcells c hc).symm.trans hcell⟩
      · exact .inr (by rw [Proto, ← hobj]; exact hproto)
  · rintro ⟨o, rfl, hr⟩
    refine ⟨o, rfl, ?_⟩
    induction hr with
    | refl => exact .refl
    | tail hr hchild ih =>
      obtain ⟨hobj, hcells⟩ := ha _ ⟨o, rfl, hr⟩
      refine ih.tail ?_
      rcases hchild with ⟨c, hc, hcell⟩ | hproto
      · exact .inl ⟨c, by rw [hobj]; exact hc, (hcells c hc).trans hcell⟩
      · exact .inr (by rw [Proto, hobj]; exact hproto)

end

lemma trans (ha : h.Agree h₁ v) (hb : h₁.Agree h₂ v) : h.Agree h₂ v := by
  intro x hx
  obtain ⟨hobj, hcells⟩ := ha x hx
  obtain ⟨hobj', hcells'⟩ := hb x ((ha.holds_iff x).2 hx)
  refine ⟨hobj'.trans hobj, fun c hc => ?_⟩
  exact (hcells' c (by rw [hobj]; exact hc)).trans (hcells c hc)

end Agree

lemma Extends.agree (he : h.Extends h') (hc : h.Closed) (hv : v.Below h) : h.Agree h' v :=
  fun x hx => ⟨he.obj x (hc.holds_below hv hx), fun c hmem => he.cell c (hc.values x c hmem)⟩

/-! ## Allocation -/

/-- Everything there was is as it was, and new aggregates have new slots. -/
structure Grown (h h' : Heap) : Prop extends Extends h h' where
  fresh : ∀ o, h.objs.length ≤ o → ∀ c ∈ (h'.obj o).values, h.cells.length ≤ c

namespace Grown

lemma refl (h : Heap) : h.Grown h where
  toExtends := Extends.refl h
  fresh o ho c hc := by
    have hdefault : h.obj o = default := getD_eq_default _ _ ho
    rw [hdefault] at hc
    cases hc

lemma trans (h₁₂ : h.Grown h₁) (h₂₃ : h₁.Grown h₂) : h.Grown h₂ where
  toExtends := h₁₂.toExtends.trans h₂₃.toExtends
  fresh o ho c hc := by
    by_cases hlt : o < h₁.objs.length
    · rw [h₂₃.obj o hlt] at hc
      exact h₁₂.fresh o ho c hc
    · exact h₁₂.cells.trans (h₂₃.fresh o (Nat.le_of_not_lt hlt) c hc)

end Grown

lemma newCells_grown (h : Heap) (vs : List Value) : h.Grown (h.newCells vs).2 where
  cells := by simp [newCells]
  objs := le_rfl
  cell c hc := by simp [newCells, cell, getElem?_append_left hc]
  obj _ _ := rfl
  fresh o ho c hc := (Grown.refl h).fresh o ho c hc

lemma newObj_extends (h : Heap) (x : Obj) : h.Extends (h.newObj x).2 where
  cells := le_rfl
  objs := by simp [newObj]
  cell _ _ := rfl
  obj _ ho := newObj_other ho.ne

lemma Closed.newCells (hc : h.Closed) {vs : List Value} (hvs : ∀ v ∈ vs, v.Below h) :
    (h.newCells vs).2.Closed := by
  refine ⟨fun c => ?_, fun o c hmem => (hc.values o c hmem).trans_le (newCells_grown h vs).cells,
    hc.protos⟩
  by_cases hlt : c < h.cells.length
  · rw [(newCells_grown h vs).cell c hlt]
    exact hc.cells c
  intro o ho
  simp only [Heap.newCells, cell, getD_eq_getElem?_getD,
    getElem?_append_right (Nat.le_of_not_lt hlt)] at ho
  cases hv : vs[c - h.cells.length]? with
  | none => simp [hv] at ho
  | some v =>
    simp only [hv, Option.getD_some] at ho
    exact hvs v (mem_of_getElem? hv) o ho

lemma Closed.newObj (hc : h.Closed) {x : Obj} (hvalues : ∀ c ∈ x.values, c < h.cells.length)
    (hproto : ∀ v, x.blankBase = some v → v.Below h) : (h.newObj x).2.Closed := by
  have hle := (newObj_extends h x).toLe
  refine ⟨fun c => (hc.cells c).mono hle, fun o c hmem => ?_, fun o v hv => ?_⟩
  · by_cases ho : o = h.objs.length
    · rw [ho, newObj_self] at hmem
      exact hvalues c hmem
    · rw [newObj_other ho] at hmem
      exact hc.values o c hmem
  · by_cases ho : o = h.objs.length
    · rw [ho, newObj_self] at hv
      exact (hproto v hv).mono hle
    · rw [newObj_other ho] at hv
      exact (hc.protos o v hv).mono hle

end Heap

/-! ## Copies -/

def elems (p : List Nat) : List Hop := p.map .elem

/-- A scalar is its own copy; the copy of an aggregate is a fresh one of the same kind, size and
prototype. -/
inductive Twin (h₀ h' : Heap) : Value → Value → Prop
  | scalar {v : Value} (hv : v.obj? = none) : Twin h₀ h' v v
  | aggregate {x x' : ObjId} (hfresh : h₀.objs.length ≤ x')
      (htype : (h'.obj x').dataType = (h₀.obj x).dataType)
      (harray : (h'.obj x').isArray = (h₀.obj x).isArray)
      (hproto : (h'.obj x').blankBase = (h₀.obj x).blankBase)
      (hlen : (h'.obj x').values.length = (h₀.obj x).values.length) : Twin h₀ h' (.obj x) (.obj x')

/-- A value and its copy have twins at the ends of the same paths. -/
def Twins (h₀ h' : Heap) (v v' : Value) : Prop :=
  ∀ p : List Nat, Option.Rel (Twin h₀ h') (h₀.walk v (elems p)) (h'.walk v' (elems p))

section Copies

variable {ε : Type} {h₀ h h' : Heap} {v v' : Value}

lemma Twin.seen (ht : Twin h₀ h' v v') : h'.seen v' = h₀.seen v := by
  cases ht with
  | scalar hv => rw [seen_scalar hv, seen_scalar hv]
  | aggregate _ htype harray _ hlen => simp only [seen, htype, harray, hlen]

lemma twins_scalar (hv : v.obj? = none) : Twins h₀ h' v v := by
  intro p
  cases p with
  | nil => exact .some (.scalar hv)
  | cons =>
    simp only [elems, map_cons, walk_scalar hv]
    exact .none

/-- What is allocated later does not matter. -/
lemma Twins.mono (ht : Twins h₀ h v v') (he : h.Extends h') (hc : h.Closed) (hv' : v'.Below h) :
    Twins h₀ h' v v' := by
  intro p
  have ha := he.agree hc hv'
  have hp := ht p
  rw [ha.walk]
  generalize h₀.walk v (elems p) = source at hp ⊢
  cases hw : h.walk v' (elems p) with
  | none =>
    rw [hw] at hp
    cases hp with
    | none => exact .none
  | some =>
    rw [hw] at hp
    cases hp with
    | some htwin =>
      refine .some ?_
      cases htwin with
      | scalar hs => exact .scalar hs
      | aggregate hfresh htype harray hproto hlen =>
        have hobj := (ha _ (holds_of_walk hw)).1
        exact .aggregate hfresh (hobj ▸ htype) (hobj ▸ harray) (hobj ▸ hproto) (hobj ▸ hlen)

/-- `f` makes a copy of a value of `h₀`, however much has been allocated since. -/
def Mirrors (h₀ : Heap) (f : Value → Proc Heap ε Value) (v : Value) : Prop :=
  ∀ n h v' h', h₀.Extends h → h.Closed → (f v).run n h = .ok v' h' →
    h.Grown h' ∧ h'.Closed ∧ v'.Below h' ∧ Twins h₀ h' v v'

variable {f : Value → Proc Heap ε Value}

/-- The slots of a copy: fresh, and each with a copy of what the source holds there. -/
structure SlotCopies (h₀ h h' : Heap) (cs cs' : List CellId) : Prop where
  grown : h.Grown h'
  closed : h'.Closed
  fresh : ∀ c ∈ cs', h.cells.length ≤ c ∧ c < h'.cells.length
  twins : List.Forall₂ (fun c c' => Twins h₀ h' (h₀.cell c) (h'.cell c')) cs cs'

lemma mapCells_mirrors {cs : List CellId}
    (hcs : ∀ c ∈ cs, c < h₀.cells.length ∧ Mirrors h₀ f (h₀.cell c)) :
    ∀ n h cs' h', h₀.Extends h → h.Closed → (mapCells f cs).run n h = .ok cs' h' →
      SlotCopies h₀ h h' cs cs' := by
  induction cs with
  | nil =>
    intro n h cs' h' he hc hrun
    simp only [mapCells, run_pure, ok.injEq] at hrun
    obtain ⟨rfl, rfl⟩ := hrun
    exact ⟨Grown.refl h, hc, by simp, .nil⟩
  | cons c cs ih =>
    intro n h cs' h' he hc hrun
    obtain ⟨hlt, hmirror⟩ := hcs c mem_cons_self
    obtain ⟨w, s₁, hget, hrun⟩ := run_bind_ok_iff.1 hrun
    simp only [run_gets, ok.injEq] at hget
    obtain ⟨rfl, rfl⟩ := hget
    rw [he.cell c hlt] at hrun
    obtain ⟨v', h₁, hcopy, hrun⟩ := run_bind_ok_iff.1 hrun
    obtain ⟨hg₁, hc₁, hv', htwin⟩ := hmirror n h v' h₁ he hc hcopy
    -- the copy goes into a fresh slot
    obtain ⟨c', h₂, hslot, hrun⟩ := run_bind_ok_iff.1 hrun
    simp only [run_lift, ok.injEq] at hslot
    obtain ⟨rfl, rfl⟩ := hslot
    have hg₂ := newCells_grown h₁ [v']
    have hc₂ : (h₁.newCells [v']).2.Closed := hc₁.newCells fun v hv => by
      rwa [mem_singleton.1 hv]
    have hcell : (h₁.newCells [v']).2.cell h₁.cells.length = v' := by
      simp [newCells, cell]
    obtain ⟨rest, h₃, hrest, hrun⟩ := run_bind_ok_iff.1 hrun
    simp only [run_pure, ok.injEq] at hrun
    obtain ⟨rfl, rfl⟩ := hrun
    have he₂ := (he.trans hg₁.toExtends).trans hg₂.toExtends
    have hr := ih (fun c hc => hcs c (mem_cons_of_mem _ hc)) n (h₁.newCells [v']).2 rest h₃
      he₂ hc₂ hrest
    have hlt' : h₁.cells.length < (h₁.newCells [v']).2.cells.length := by simp [newCells]
    refine ⟨(hg₁.trans hg₂).trans hr.grown, hr.closed, ?_, .cons ?_ hr.twins⟩
    · intro d hd
      rcases mem_cons.1 hd with rfl | hd
      · exact ⟨hg₁.cells, hlt'.trans_le hr.grown.cells⟩
      · exact ⟨(hg₁.cells.trans hg₂.cells).trans (hr.fresh d hd).1, (hr.fresh d hd).2⟩
    · rw [hr.grown.cell _ hlt', hcell]
      exact htwin.mono (hg₂.toExtends.trans hr.grown.toExtends) hc₁ hv'

lemma twins_aggregate {x x' : ObjId} (hfresh : h₀.objs.length ≤ x')
    (htype : (h'.obj x').dataType = (h₀.obj x).dataType)
    (harray : (h'.obj x').isArray = (h₀.obj x).isArray)
    (hproto : (h'.obj x').blankBase = (h₀.obj x).blankBase)
    (hslots : List.Forall₂ (fun c c' => Twins h₀ h' (h₀.cell c) (h'.cell c'))
      (h₀.obj x).values (h'.obj x').values) : Twins h₀ h' (.obj x) (.obj x') := by
  intro p
  cases p with
  | nil => exact .some (.aggregate hfresh htype harray hproto hslots.length_eq.symm)
  | cons i p =>
    simp only [elems, map_cons, walk, hop]
    have hi := forall₂_iff_get.1 hslots
    by_cases hlt : i < (h₀.obj x).values.length
    · have hlt' : i < (h'.obj x').values.length := hi.1 ▸ hlt
      rw [getElem?_eq_getElem hlt, getElem?_eq_getElem hlt']
      exact hi.2 i hlt hlt' p
    · have hge' : (h'.obj x').values.length ≤ i := hi.1 ▸ Nat.le_of_not_lt hlt
      rw [getElem?_eq_none (Nat.le_of_not_lt hlt), getElem?_eq_none hge']
      exact .none

lemma copyObj_mirrors (hc₀ : h₀.Closed) {o : ObjId} (ho : o < h₀.objs.length)
    (hcs : ∀ c ∈ (h₀.obj o).values, Mirrors h₀ f (h₀.cell c)) :
    Mirrors h₀ (fun _ => copyObj f o) (.obj o) := by
  intro n h v' h' he hc hrun
  obtain ⟨src, s₁, hget, hrun⟩ := run_bind_ok_iff.1 hrun
  simp only [run_gets, ok.injEq] at hget
  obtain ⟨rfl, rfl⟩ := hget
  rw [he.obj o ho] at hrun
  obtain ⟨cs', h₁, hcells, hrun⟩ := run_bind_ok_iff.1 hrun
  have hs := mapCells_mirrors (fun c hc => ⟨hc₀.values o c hc, hcs c hc⟩) n h cs' h₁ he hc hcells
  simp only [run_lift, ok.injEq] at hrun
  obtain ⟨rfl, rfl⟩ := hrun
  have he₁ := he.toLe.trans hs.grown.toLe
  have hg₂ : h₁.Extends (h₁.newObj { h₀.obj o with values := cs' }).2 := newObj_extends _ _
  have hc₂ := hs.closed.newObj (x := { h₀.obj o with values := cs' }) (fun c hc => (hs.fresh c hc).2)
    fun v hv => (hc₀.protos o v hv).mono he₁
  refine ⟨⟨hs.grown.toExtends.trans hg₂, ?_⟩, hc₂, ?_, ?_⟩
  · intro x hx c hmem
    by_cases hx' : x = h₁.objs.length
    · rw [hx', newObj_self] at hmem
      exact (hs.fresh c hmem).1
    · rw [newObj_other hx'] at hmem
      exact hs.grown.fresh x hx c hmem
  · intro x hx
    obtain rfl : h₁.objs.length = x := obj.inj hx
    simp [newObj]
  · have hself := newObj_self (h := h₁) (x := { h₀.obj o with values := cs' })
    refine twins_aggregate he₁.objs (by rw [hself]) (by rw [hself]) (by rw [hself]) ?_
    rw [hself]
    refine hs.twins.imp fun c c' ht => ht.mono hg₂ hs.closed (hs.closed.cells c')

lemma duplicate_mirrors (hc₀ : h₀.Closed) : ∀ v : Value, v.Below h₀ →
    Mirrors h₀ (duplicate : Value → Proc Heap ε Value) v := by
  have hdepth : ∀ k v, v.Below h₀ → Mirrors h₀ (duplicateTo k : Value → Proc Heap ε Value) v := by
    intro k
    induction k with
    | zero =>
      intro v hv n h v' h' he hc hrun
      cases v with
      | obj => simp [duplicateTo] at hrun
      | int | real | str | null =>
        simp only [duplicateTo, run_pure, ok.injEq] at hrun
        obtain ⟨rfl, rfl⟩ := hrun
        exact ⟨Grown.refl _, hc, below_of_scalar _ rfl, twins_scalar rfl⟩
    | succ k ih =>
      intro v hv n h v' h' he hc hrun
      cases v with
      | obj o =>
        exact copyObj_mirrors hc₀ (hv o rfl) (fun c _ => ih _ (hc₀.cells c)) n h v' h' he hc hrun
      | int | real | str | null =>
        simp only [duplicateTo, run_pure, ok.injEq] at hrun
        obtain ⟨rfl, rfl⟩ := hrun
        exact ⟨Grown.refl _, hc, below_of_scalar _ rfl, twins_scalar rfl⟩
  exact fun v hv n h v' h' he hc hrun => hdepth n v hv n h v' h' he hc hrun

lemma Twins.source (ht : Twins h₀ h' v v') {p : List Nat} {y : ObjId}
    (hp : h'.walk v' (elems p) = some (.obj y)) : ∃ x, h₀.walk v (elems p) = some (.obj x) ∧
      h₀.objs.length ≤ y ∧ (h'.obj y).blankBase = (h₀.obj x).blankBase := by
  have htwin := ht p
  rw [hp] at htwin
  generalize h₀.walk v (elems p) = w at htwin
  cases htwin with
  | some htwin =>
    cases htwin with
    | scalar hs => cases hs
    | aggregate hfresh _ _ hblank _ => exact ⟨_, rfl, hfresh, hblank⟩

lemma Twins.holds (ht : Twins h₀ h' v v') (hc₀ : h₀.Closed) (he : h₀.Extends h') {y : ObjId}
    (hy : h'.Holds v' y) :
    (∃ p, h'.walk v' (elems p) = some (.obj y)) ∨
      ∃ p x z, h₀.walk v (elems p) = some (.obj x) ∧ h₀.Proto x z ∧ h₀.Reaches z y := by
  obtain ⟨o, rfl, hr⟩ := hy
  induction hr with
  | refl => exact .inl ⟨[], rfl⟩
  | @tail a b _ hchild ih =>
    rcases ih with ⟨p, hp⟩ | ⟨p, x, z, hx, hproto, hz⟩
    · rcases hchild with ⟨c, hmem, hcell⟩ | hproto
      · obtain ⟨i, hi⟩ := getElem?_of_mem hmem
        refine .inl ⟨p ++ [i], ?_⟩
        have happ : elems (p ++ [i]) = elems p ++ [.elem i] := by simp [elems]
        rw [happ, walk_append, hp]
        simp [walk, hop, hi, hcell]
      · -- the copy kept the prototype of its source
        obtain ⟨x, hw, -, hblank⟩ := ht.source hp
        exact .inr ⟨p, x, b, hw, hblank.symm.trans hproto, .refl⟩
    · refine .inr ⟨p, x, z, hx, hproto, hz.tail ?_⟩
      have hlt : a < h₀.objs.length := by
        refine hc₀.holds_below (v := .obj z) (fun o ho => ?_) ⟨z, rfl, hz⟩
        obtain rfl := obj.inj ho
        exact hc₀.protos x _ hproto z rfl
      rcases hchild with ⟨c, hmem, hcell⟩ | hproto'
      · rw [he.obj a hlt] at hmem
        exact .inl ⟨c, hmem, (he.cell c (hc₀.values a c hmem)).symm.trans hcell⟩
      · exact .inr (by rw [Proto, ← he.obj a hlt]; exact hproto')

lemma Twins.fresh (ht : Twins h₀ h' v v') {p : List Nat} {y : ObjId}
    (hp : h'.walk v' (elems p) = some (.obj y)) : h₀.objs.length ≤ y := by
  obtain ⟨_, _, hfresh, _⟩ := ht.source hp
  exact hfresh

end Copies

end Don.Bhs
