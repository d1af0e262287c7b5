import Don.Bhs.Acyclic
import Don.Bhs.Vm.Basic

/-!
# Sound — machines whose references lead somewhere

Dereferencing and storing follow chains of locals.  In a `Sound` machine every slot refers to
something that exists, no aggregate contains itself and no chain of locals is cyclic; there both
operations return, and each update of the machine that an instruction makes keeps it sound.
-/

namespace Don.Bhs

open Foundation Proc List Value Heap Option Exec Result

variable {σ : Type}

/-! ## Sound machines -/

def Slot.Below (h : Heap) : Slot → Prop
  | .val v => v.Below h
  | .cell c => c < h.cells.length
  | .ref _ => True

def Slot.targets : Slot → List (Nat × UInt32)
  | .ref (.local k i) => [(k, i)]
  | _ => []

lemma Slot.Below.mono {h h' : Heap} {s : Slot} (hs : s.Below h) (hle : h.Le h') : s.Below h' := by
  cases s with
  | val => exact Value.Below.mono hs hle
  | cell => exact Nat.lt_of_lt_of_le hs hle.cells
  | ref => trivial

namespace Vm

/-- One local holds a reference to another. -/
def Chain (vm : Vm σ) (a b : Nat × UInt32) : Prop :=
  vm.localAt a.1 a.2 = some (.ref (.local b.1 b.2))

inductive Leads (vm : Vm σ) : Slot → CellId → Prop where
  | cell (c : CellId) : Leads vm (.cell c) c
  | next {k : Nat} {i : UInt32} {inner : Slot} {c : CellId} (hlocal : vm.localAt k i = some inner)
      (hinner : Leads vm inner c) : Leads vm (.ref (.local k i)) c

structure Sound (vm : Vm σ) : Prop where
  heap : vm.heap.Sound
  stack : ∀ s ∈ vm.stack, s.Below vm.heap
  locals : ∀ k i (s : Slot), vm.localAt k i = some s → s.Below vm.heap
  consts : ∀ (f i : Nat) (v : Value), (vm.prog.file f).constPool[i]? = some v → v.Below vm.heap
  statics : ∀ (f s i : Nat) (v : Value), (vm.prog.script f s).statics[i]? = some (some v) → v.Below vm.heap
  chains : Ranked vm.Chain

lemma sound_new {prog : Program}
    (hconsts : ∀ (f i : Nat) (v : Value), (prog.file f).constPool[i]? = some v → v.obj? = none)
    (hstatics : ∀ (f s i : Nat) (v : Value), (prog.script f s).statics[i]? = some (some v) →
      v.obj? = none) (host : σ) : (new prog host empty).Sound where
  heap := empty_sound
  stack _ h := nomatch h
  locals k i s h := by simp [new, localAt] at h
  consts f i v h := below_of_scalar _ (hconsts f i v h)
  statics f s i v h := below_of_scalar _ (hstatics f s i v h)
  chains := ⟨fun _ => 0, fun a b h => by simp [new, Chain, localAt] at h⟩

variable {s : Slot}

lemma Leads.congr {vm vm' : Vm σ} (hlocal : vm'.localAt = vm.localAt) {c : CellId}
    (h : vm'.Leads s c) : vm.Leads s c := by
  induction h with
  | cell c => exact .cell c
  | next hnext _ ih => exact .next (hlocal ▸ hnext) ih

variable {vm : Vm σ}

lemma Sound.leads_below (hs : vm.Sound) {c : CellId} (h : vm.Leads s c)
    (hb : s.Below vm.heap) : c < vm.heap.cells.length := by
  induction h with
  | cell => exact hb
  | next hnext _ ih => exact ih (hs.locals _ _ _ hnext)

lemma Sound.update {vm vm' : Vm σ} (hs : vm.Sound) (hframes : vm'.frames = vm.frames)
    (hprog : vm'.prog = vm.prog) (hle : vm.heap.Le vm'.heap) (hheap : vm'.heap.Sound)
    (hstack : ∀ s ∈ vm'.stack, s.Below vm'.heap) : vm'.Sound := by
  have hlocal : vm'.localAt = vm.localAt := by
    funext k i
    rw [localAt, hframes]
    rfl
  exact {
    heap := hheap
    stack := hstack
    locals := fun k i s h => (hs.locals k i s (by rwa [hlocal] at h)).mono hle
    consts := fun f i v h => (hs.consts f i v (by rwa [hprog] at h)).mono hle
    statics := fun f s i v h => (hs.statics f s i v (by rwa [hprog] at h)).mono hle
    chains := hs.chains.mono fun a b h => by rwa [Chain, hlocal] at h }

lemma Sound.setStack (hs : vm.Sound) {st : List Slot}
    (hst : ∀ s ∈ st, s.Below vm.heap) : { vm with stack := st }.Sound :=
  hs.update rfl rfl (Le.refl _) hs.heap hst

lemma Sound.setHeap (hs : vm.Sound) {h : Heap} (hh : h.Sound) (hle : vm.heap.Le h) :
    { vm with heap := h }.Sound :=
  hs.update rfl rfl hle hh fun s hmem => (hs.stack s hmem).mono hle

/-- A change of the frames that adds no reference. -/
lemma Sound.setFrames (hs : vm.Sound) {fs : List Frame}
    (hfs : ∀ k i s, { vm with frames := fs }.localAt k i = some s → vm.localAt k i = some s) :
    { vm with frames := fs }.Sound where
  heap := hs.heap
  stack := hs.stack
  locals k i s h := hs.locals k i s (hfs k i s h)
  consts := hs.consts
  statics := hs.statics
  chains := hs.chains.mono fun a _ h => hfs a.1 a.2 _ h

lemma localAt_cons {f : Frame} {rest : List Frame} (hframes : vm.frames = f :: rest)
    (k : Nat) (i : UInt32) :
    vm.localAt k i =
      if k = rest.length then (f.locals[i.toNat]?).join else { vm with frames := rest }.localAt k i := by
  have hlen : rest.reverse.length = rest.length := length_reverse
  simp only [localAt, hframes, reverse_cons]
  split
  · rename_i hk
    rw [hk, getElem?_append_right hlen.le, hlen, Nat.sub_self]
    rfl
  · rename_i hk
    rcases Nat.lt_or_gt_of_ne hk with hlt | hgt
    · rw [getElem?_append_left (by rwa [hlen])]
    · rw [getElem?_eq_none (by simp; omega), getElem?_eq_none (by simp; omega)]

lemma localAt_of_length_le {k : Nat} (hk : vm.frames.length ≤ k) (i : UInt32) :
    vm.localAt k i = none := by
  rw [localAt, getElem?_eq_none (by simpa using hk)]
  rfl

lemma Sound.pop (hs : vm.Sound) : { vm with frames := vm.frames.tail }.Sound := by
  refine hs.setFrames fun k i s h => ?_
  cases hframes : vm.frames with
  | nil =>
    rw [hframes] at h
    cases h
  | cons =>
    rw [hframes] at h
    rw [localAt_cons hframes, if_neg ?_]
    · exact h
    · rintro rfl
      rw [localAt_of_length_le (by simp)] at h
      cases h

lemma Sound.push (hs : vm.Sound) {f : Frame} (hf : f.locals = []) :
    { vm with frames := f :: vm.frames }.Sound := by
  refine hs.setFrames fun k i s h => ?_
  have hcons := localAt_cons (show { vm with frames := f :: vm.frames }.frames = f :: vm.frames from rfl)
  rw [hcons] at h
  split at h
  · simp [hf] at h
  · exact h

lemma growSet_join {α : Type} (xs : List (Option α)) (i j : Nat) (a : α) :
    ((growSet xs i a)[j]?).join = if j = i then some a else (xs[j]?).join := by
  unfold growSet
  by_cases hj : j = i
  · subst hj
    rw [if_pos rfl, getElem?_set_self (by simp; omega)]
    rfl
  rw [if_neg hj, getElem?_set_ne (Ne.symm hj)]
  by_cases hlt : j < xs.length
  · rw [getElem?_append_left hlt]
  · rw [getElem?_append_right (Nat.le_of_not_lt hlt),
      getElem?_eq_none (Nat.le_of_not_lt hlt), getElem?_replicate]
    split <;> rfl

lemma localAt_setTop {f : Frame} {rest : List Frame} (hframes : vm.frames = f :: rest)
    (i : UInt32) (s : Slot) (k : Nat) (j : UInt32) :
    (vm.modifyTop fun f => { f with locals := growSet f.locals i.toNat s }).localAt k j =
      if k = rest.length ∧ j = i then some s else vm.localAt k j := by
  have htop : (vm.modifyTop fun f => { f with locals := growSet f.locals i.toNat s }).frames
      = { f with locals := growSet f.locals i.toNat s } :: rest := by
    simp [modifyTop, hframes]
  rw [localAt_cons htop, localAt_cons hframes]
  by_cases hk : k = rest.length
  · rw [if_pos hk, growSet_join, if_pos hk]
    by_cases hj : j = i
    · rw [if_pos (by rw [hj]), if_pos ⟨hk, hj⟩]
    · rw [if_neg (fun h => hj (UInt32.toNat_inj.1 h)), if_neg fun h => hj h.2]
  · rw [if_neg hk, if_neg hk, if_neg fun h => hk h.1]
    rfl

lemma localAt_setBip (vm : Vm σ) (v : Nat) : (vm.setBip v).localAt = vm.localAt := by
  funext k i
  cases hframes : vm.frames with
  | nil => simp [localAt, setBip, modifyTop, hframes]
  | cons f rest =>
    have htop : (vm.setBip v).frames = { f with bip := v } :: rest := by
      simp [setBip, modifyTop, hframes]
    rw [localAt_cons htop, localAt_cons hframes]
    rfl

lemma Sound.setBip (hs : vm.Sound) (v : Nat) : (vm.setBip v).Sound :=
  hs.setFrames fun k i s hlocal => by
    rw [← localAt_setBip vm v]
    exact hlocal

lemma localAt_setLocalAt {k : Nat} {i : UInt32} {t : Slot} {k' : Nat} {j : UInt32}
    (h : (vm.setLocalAt k i s).localAt k' j = some t) : t = s ∨ vm.localAt k' j = some t := by
  simp only [localAt, setLocalAt, reverse_reverse, getElem?_modify] at h ⊢
  cases hf : vm.frames.reverse[k']? with
  | none => simp [hf] at h
  | some =>
    by_cases hk : k = k'
    · simp only [hf, if_pos hk, Option.map_eq_map, Option.map_some, Option.bind_some,
        getElem?_set] at h
      split at h
      · split at h
        · exact .inl (Option.some.inj h).symm
        · cases h
      · exact .inr h
    · simp only [hf, if_neg hk] at h
      exact .inr h

lemma Sound.setLocalAt (hs : vm.Sound) {v : Value} (hv : v.Below vm.heap) (k : Nat)
    (i : UInt32) : (vm.setLocalAt k i (.val v)).Sound where
  heap := hs.heap
  stack := hs.stack
  locals k' j s h := by
    rcases localAt_setLocalAt h with rfl | hold
    · exact hv
    · exact hs.locals k' j s hold
  consts := hs.consts
  statics := hs.statics
  chains := hs.chains.mono fun a b h => by
    rcases localAt_setLocalAt h with hval | hold
    · cases hval
    · exact hold

/-- A change of one script that puts only existing aggregates into its statics. -/
lemma Sound.modifyScript (hs : vm.Sound) (file script : Nat) {f : Script → Script}
    (hf : ∀ (s : Script) (i : Nat) (v : Value), (f s).statics[i]? = some (some v) →
      v.Below vm.heap ∨ s.statics[i]? = some (some v)) :
    { vm with prog := vm.prog.modifyScript file script f }.Sound where
  heap := hs.heap
  stack := hs.stack
  locals := hs.locals
  consts g i v h := by
    refine hs.consts g i v ?_
    rw [Program.file_modifyScript] at h
    split at h <;> exact h
  statics g s i v h := by
    rcases vm.prog.script_modifyScript file script f g s with heq | ⟨_, _, heq⟩
    · rw [heq] at h
      exact hs.statics g s i v h
    · rw [heq] at h
      rcases hf _ i v h with hbelow | hold
      · exact hbelow
      · exact hs.statics g s i v hold
  chains := hs.chains

lemma Sound.setTopLocal (hs : vm.Sound) {i : UInt32} (hb : s.Below vm.heap)
    (hfree : ∀ k j, s = .ref (.local k j) →
      ¬ Relation.ReflTransGen vm.Chain (k, j) (vm.frames.length - 1, i)) :
    (vm.modifyTop fun f => { f with locals := growSet f.locals i.toNat s }).Sound := by
  cases hframes : vm.frames with
  | nil =>
    have hsame : vm.modifyTop (fun f => { f with locals := growSet f.locals i.toNat s }) = vm := by
      simp [modifyTop, hframes]
      rw [← hframes]
    rw [hsame]
    exact hs
  | cons f rest =>
    have hlocal := localAt_setTop hframes i s
    have hlast : vm.frames.length - 1 = rest.length := by simp [hframes]
    refine ⟨hs.heap, hs.stack, ?_, hs.consts, hs.statics, ?_⟩
    · intro k j t ht
      rw [hlocal] at ht
      split at ht
      · rwa [← some.inj ht]
      · exact hs.locals k j t ht
    · refine hs.chains.redirect (rest.length, i) s.targets ?_ ?_ ?_
      · intro a b ha hedge
        rw [Chain, hlocal, if_neg] at hedge
        · exact hedge
        · exact fun h => ha (Prod.ext h.1 h.2)
      · intro b hedge
        rw [Chain, hlocal, if_pos ⟨rfl, rfl⟩] at hedge
        rw [some.inj hedge]
        exact mem_singleton_self _
      · intro b hedge
        rw [Chain, hlocal, if_pos ⟨rfl, rfl⟩] at hedge
        have hnot := hfree b.1 b.2 (some.inj hedge)
        rwa [hlast] at hnot

end Vm

/-! ## Following references -/

namespace Exec

variable {vm : Vm σ} {s : Slot}

lemma read_sat (hs : vm.Sound) (hb : s.Below vm.heap) (n : Nat) : ((read s).run n vm).Sat
      (fun v vm' => vm' = vm ∧ v.Below vm.heap ∧ ∀ c, vm.Leads s c → v = vm.heap.cell c)
      (fun _ _ => True) False := by
  match s with
  | .val v => exact ⟨rfl, hb, fun _ h => nomatch h⟩
  | .cell c =>
    refine ⟨rfl, hs.heap.cells c, ?_⟩
    rintro _ ⟨⟩
    rfl
  | .ref (.const f i) =>
    simp only [read, run_bind, run_gets, bind_ok]
    cases hv : (vm.prog.file f).constPool[i.toNat]? with
    | none => trivial
    | some v => exact ⟨rfl, hs.consts f i.toNat v hv, fun _ h => nomatch h⟩
  | .ref (.static f sc i) =>
    simp only [read, run_bind, run_gets, bind_ok]
    cases ho : (vm.prog.script f sc).statics[i.toNat]? with
    | none => trivial
    | some o =>
      refine ⟨rfl, ?_, fun _ h => nomatch h⟩
      cases o with
      | none => exact below_of_scalar _ rfl
      | some v => exact hs.statics f sc i.toNat v ho
  | .ref (.local k i) => trivial

lemma deref_sat (hs : vm.Sound) (hb : s.Below vm.heap) (n : Nat) : ((deref s).run n vm).Sat
      (fun v vm' => vm' = vm ∧ v.Below vm.heap ∧ ∀ c, vm.Leads s c → v = vm.heap.cell c)
      (fun _ _ => True) True := by
  have hread : ∀ s : Slot, s.Below vm.heap → ∀ n, ((read s).run n vm).Sat
      (fun v vm' => vm' = vm ∧ v.Below vm.heap ∧ ∀ c, vm.Leads s c → v = vm.heap.cell c)
      (fun _ _ => True) True :=
    fun s hb n => (read_sat hs hb n).mono (fun _ _ h => h) (fun _ _ h => h) False.elim
  have hfollow : ∀ (k : Nat) (s : Slot), s.Below vm.heap → ∀ n, ((derefTo k s).run n vm).Sat
      (fun v vm' => vm' = vm ∧ v.Below vm.heap ∧ ∀ c, vm.Leads s c → v = vm.heap.cell c)
      (fun _ _ => True) True := by
    intro k
    induction k with
    | zero =>
      intro s hb n
      match s with
      | .ref (.local _ _) => trivial
      | .val _ | .cell _ | .ref (.const _ _) | .ref (.static _ _ _) => exact hread _ hb n
    | succ m ih =>
      intro s hb n
      match s with
      | .val _ | .cell _ | .ref (.const _ _) | .ref (.static _ _ _) => exact hread _ hb n
      | .ref (.local k i) =>
        simp only [derefTo, run_bind, run_gets, bind_ok]
        cases hinner : vm.localAt k i with
        | none => trivial
        | some inner =>
          refine (ih inner (hs.locals k i inner hinner) n).mono ?_ (fun _ _ h => h) id
          rintro v vm' ⟨hvm, hv, hcell⟩
          refine ⟨hvm, hv, fun c hc => ?_⟩
          cases hc with
          | next hlocal hrest =>
            obtain rfl := some.inj (hinner.symm.trans hlocal)
            exact hcell c hrest
  exact hfollow n s hb n

lemma targets_lt {rank : Nat × UInt32 → Nat}
    (hrank : ∀ a b, vm.Chain a b → rank b < rank a) {k m : Nat} {i : UInt32} {inner : Slot}
    (hinner : vm.localAt k i = some inner)
    (hlt : ∀ a ∈ (Slot.ref (.local k i)).targets, rank a < m + 1) :
    ∀ a ∈ inner.targets, rank a < m := by
  intro a ha
  have hedge : vm.Chain (k, i) a := by
    match inner, ha with
    | .ref (.local _ _), ha =>
      obtain rfl := mem_singleton.1 ha
      exact hinner
  exact (hrank _ _ hedge).trans_le (Nat.le_of_lt_succ (hlt (k, i) mem_cons_self))

lemma targets_lt_sum (rank : Nat × UInt32 → Nat) (s : Slot) :
    ∀ a ∈ s.targets, rank a < (s.targets.map rank).sum + 1 := by
  intro a ha
  match s, ha with
  | .ref (.local k i), ha =>
    obtain rfl := mem_singleton.1 ha
    simp [Slot.targets]

lemma deref_returns (hchains : Ranked vm.Chain) (s : Slot) : (deref s).Returns vm := by
  obtain ⟨rank, hrank⟩ := hchains
  have hread : ∀ (s : Slot) n, (read s).run n vm ≠ .hang := by
    intro s n
    match s with
    | .val _ | .cell _ | .ref (.local _ _) => exact nofun
    | .ref (.const f i) =>
      simp only [read, run_bind, run_gets, bind_ok]
      cases (vm.prog.file f).constPool[i.toNat]? <;> exact nofun
    | .ref (.static f sc i) =>
      simp only [read, run_bind, run_gets, bind_ok]
      cases (vm.prog.script f sc).statics[i.toNat]? <;> exact nofun
  have hfollow : ∀ (k : Nat) (s : Slot), (∀ a ∈ s.targets, rank a < k) →
      ∀ n, (derefTo k s).run n vm ≠ .hang := by
    intro k
    induction k with
    | zero =>
      intro s hlt n
      match s with
      | .ref (.local k i) => exact absurd (hlt (k, i) mem_cons_self) (Nat.not_lt_zero _)
      | .val _ | .cell _ | .ref (.const _ _) | .ref (.static _ _ _) => exact hread _ n
    | succ m ih =>
      intro s hlt n
      match s with
      | .val _ | .cell _ | .ref (.const _ _) | .ref (.static _ _ _) => exact hread _ n
      | .ref (.local k i) =>
        simp only [derefTo, run_bind, run_gets, bind_ok]
        cases hinner : vm.localAt k i with
        | none => exact nofun
        | some inner => exact ih inner (targets_lt hrank hinner hlt) n
  exact ⟨_, hfollow _ s (targets_lt_sum rank s) _⟩

lemma deref_total (hs : vm.Sound) (hb : s.Below vm.heap) : Total (deref s) vm
      (fun v vm' => vm' = vm ∧ v.Below vm.heap ∧ ∀ c, vm.Leads s c → v = vm.heap.cell c)
      (fun _ _ => True) :=
  (deref_returns hs.chains s).total (deref_sat hs hb)

lemma write_sat (hs : vm.Sound) {v : Value} (hv : v.Below vm.heap)
    (hcell : ∀ c, vm.Leads s c → v.obj? = none ∨ vm.heap.cell c = v) (n : Nat) :
    ((write s v).run n vm).Sat (fun _ vm' => vm'.Sound ∧ vm.heap.Le vm'.heap) (fun _ _ => True)
      True := by
  match s with
  | .val _ => exact ⟨hs, Le.refl _⟩
  | .ref (.const _ _) => trivial
  | .ref (.local _ _) => trivial
  | .cell c =>
    obtain ⟨hheap, hle⟩ := setCell_spec hs.heap hv (hcell c (.cell c))
    exact ⟨hs.setHeap hheap hle, hle⟩
  | .ref (.static f sc i) =>
    simp only [write, run_bind, run_gets, bind_ok]
    cases (vm.prog.script f sc).statics[i.toNat]? with
    | none => trivial
    | some _ =>
      refine ⟨hs.modifyScript f sc ?_, Le.refl _⟩
      intro s j w hw
      simp only [getElem?_set] at hw
      split at hw
      · split at hw
        · obtain rfl := some.inj (some.inj hw)
          exact .inl hv
        · cases hw
      · exact .inr hw

lemma store_returns (hchains : Ranked vm.Chain) (s : Slot) (v : Value) :
    (store s v).Returns vm := by
  obtain ⟨rank, hrank⟩ := hchains
  have hwrite : ∀ (s : Slot) n, (write s v).run n vm ≠ .hang := by
    intro s n
    match s with
    | .val _ | .cell _ | .ref (.local _ _) | .ref (.const _ _) => exact nofun
    | .ref (.static f sc i) =>
      simp only [write, run_bind, run_gets, bind_ok]
      cases (vm.prog.script f sc).statics[i.toNat]? <;> exact nofun
  have hfollow : ∀ (k : Nat) (s : Slot), (∀ a ∈ s.targets, rank a < k) →
      ∀ n, (storeTo k s v).run n vm ≠ .hang := by
    intro k
    induction k with
    | zero =>
      intro s hlt n
      match s with
      | .ref (.local k i) => exact absurd (hlt (k, i) mem_cons_self) (Nat.not_lt_zero _)
      | .val _ | .cell _ | .ref (.const _ _) | .ref (.static _ _ _) => exact hwrite _ n
    | succ m ih =>
      intro s hlt n
      match s with
      | .val _ | .cell _ | .ref (.const _ _) | .ref (.static _ _ _) => exact hwrite _ n
      | .ref (.local k i) =>
        simp only [storeTo, run_bind, run_gets, bind_ok]
        cases hinner : vm.localAt k i with
        | none => exact nofun
        | some inner =>
          have hlt' := targets_lt hrank hinner hlt
          cases inner with
          | val => exact nofun
          | ref r => exact ih (.ref r) hlt' n
          | cell c => exact ih (.cell c) hlt' n
  exact ⟨_, hfollow _ s (targets_lt_sum rank s) _⟩

/-- What storing leaves, when it returns: a value at the end of the chain. -/
lemma store_sat (hs : vm.Sound) {v : Value} (hv : v.Below vm.heap)
    (hcell : ∀ c, vm.Leads s c → v.obj? = none ∨ vm.heap.cell c = v) (n : Nat) :
    ((store s v).run n vm).Sat (fun _ vm' => vm'.Sound ∧ vm.heap.Le vm'.heap) (fun _ _ => True)
      True := by
  have hfollow : ∀ (k : Nat) (s : Slot),
      (∀ c, vm.Leads s c → v.obj? = none ∨ vm.heap.cell c = v) → ∀ n,
      ((storeTo k s v).run n vm).Sat (fun _ vm' => vm'.Sound ∧ vm.heap.Le vm'.heap)
        (fun _ _ => True) True := by
    intro k
    induction k with
    | zero =>
      intro s hcell n
      match s with
      | .ref (.local _ _) => trivial
      | .val _ | .cell _ | .ref (.const _ _) | .ref (.static _ _ _) => exact write_sat hs hv hcell n
    | succ m ih =>
      intro s hcell n
      match s with
      | .val _ | .cell _ | .ref (.const _ _) | .ref (.static _ _ _) => exact write_sat hs hv hcell n
      | .ref (.local k i) =>
        simp only [storeTo, run_bind, run_gets, bind_ok]
        cases hinner : vm.localAt k i with
        | none => trivial
        | some inner =>
          have hcell' : ∀ c, vm.Leads inner c → v.obj? = none ∨ vm.heap.cell c = v :=
            fun c hc => hcell c (.next hinner hc)
          cases inner with
          | val => exact ⟨hs.setLocalAt hv k i, Le.refl _⟩
          | ref r => exact ih (.ref r) hcell' n
          | cell c => exact ih (.cell c) hcell' n
  exact hfollow n s hcell n

end Exec

end Don.Bhs
