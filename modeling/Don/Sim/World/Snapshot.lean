import Don.Foundation.Layout
import Don.Sim.World.Objects

/-!
# Snapshot — restoring the sparse registry

`from_snapshot` compares the mark of each band with its slots and refuses an identity that is listed
twice.  It does not look at what lies from the mark on, where the other operations leave tombstones
only: a live slot there is restored, although it is not marked and the next `find_free` that needs the
slot stops at it.  Nor does it ask whose slots are live: `traversal` has no buildings and walls of the last
two owners.
-/

namespace Don.Sim.Population

open Foundation List SparseSlot SnapshotLifecycle Function

/-! ## Finding a free slot -/

namespace TombstoneFacts

def freshFor (b : Band) : TombstoneFacts :=
  ⟨0, 0, decide (b = .unit), -1⟩

def isReusable (t : TombstoneFacts) : Bool :=
  t.flags &&& 1 == 0 && t.holdFrames == 0 && (!t.isUnit || decide (t.oUp < 0))

end TombstoneFacts

structure FindFreeRequest where
  owner : Nat
  band : Band

structure Reservation where
  address : Address
  ticket : UInt64

inductive StorageDisposition where
  | reusedTombstone
  | extendedRetainedStorage
  | constructedAndRegistered (storage : ParallelStorage)

inductive FindFreeOutcome where
  | reserved (reservation : Reservation)
  | capacityFailure (code : Int)

structure FindFreeReceipt where
  request : FindFreeRequest
  markBefore : Int
  markAfter : Int
  ineligiblePrefix : Nat
  storage : Option StorageDisposition
  outcome : FindFreeOutcome

def SparseSlot.reusable (slot : SparseSlot) : Option TombstoneFacts :=
  match slot.lifecycle with
  | .tombstone facts => if facts.isReusable then some facts else none
  | _ => none

/-- A mark and the slots under and above it. -/
abbrev SavedBand := Int × List SnapshotLifecycle

def SnapshotLifecycle.load : SnapshotLifecycle → Lifecycle
  | .tombstone facts => .tombstone facts
  | .live identity => .live identity

namespace SparseObjectBands

variable (r : SparseObjectBands)

/-- The end of `find_free`: the slot is reserved under a new ticket. -/
def reserve (request : FindFreeRequest) (i : Nat) (markAfter : Int)
    (disposition : StorageDisposition) (prior : TombstoneFacts) : FindFreeReceipt × SparseObjectBands :=
  let x := r.band request.owner request.band
  let lifecycle := .reserved r.nextTicket prior
  let slots := match disposition with
    | .constructedAndRegistered storage => x.slots ++ [⟨storage, lifecycle⟩]
    | _ => x.slots.modify i ({ · with lifecycle })
  let address : Address := ⟨request.owner, request.band, request.band.base + i⟩
  (⟨request, x.mark, markAfter, i, some disposition, .reserved ⟨address, r.nextTicket⟩⟩,
    { r.setBand request.owner request.band ⟨markAfter, slots⟩ with nextTicket := bump r.nextTicket })

def findFree (request : FindFreeRequest) :
    Except SparseRegistryError (FindFreeReceipt × SparseObjectBands) :=
  if ownerSlots ≤ request.owner then
    .error .invalidOwner
  else
    let x := r.band request.owner request.band
    if x.mark < request.band.base ∨ request.band.limit < x.mark then
      .error .invalidMark
    else
      let marked := (x.mark - request.band.base).toNat
      if x.slots.length < marked then
        .error .missingStorage
      else
        match (x.slots.take marked).zipIdx.findSome? fun p => p.1.reusable.map (p.2, ·) with
        | some (i, prior) => .ok (r.reserve request i x.mark .reusedTombstone prior)
        | none =>
          if request.band.limit ≤ x.mark then
            .ok (⟨request, x.mark, x.mark, marked, none, .capacityFailure (-1)⟩, r)
          else
            match (x.slots[marked]?).map SparseSlot.lifecycle with
            | some (.tombstone prior) =>
              .ok (r.reserve request marked (x.mark + 1) .extendedRetainedStorage prior)
            | some _ => .error .liveTailBelowMark
            | none =>
              let (storage, r) := r.allocateStorage request.owner request.band
              .ok (r.reserve request marked (x.mark + 1) (.constructedAndRegistered storage)
                (.freshFor request.band))

/-! ## Restoring -/

/-- Enter a restored slot in the reverse map. -/
def enter (address : Address) :
    SnapshotLifecycle → Except SparseRegistryError SparseObjectBands
  | .tombstone _ => .ok r
  | .live identity =>
    if (r.reverse identity).isSome then
      .error .duplicateIdentity
    else
      .ok { r with reverse := Function.update r.reverse identity (some address) }

def restoreSlots (owner : Nat) (b : Band) : Nat → List SnapshotLifecycle → SparseObjectBands →
    Except SparseRegistryError (List SparseSlot × SparseObjectBands)
  | _, [], r => .ok ([], r)
  | offset, x :: xs, r => do
    let (storage, r) := r.allocateStorage owner b
    let r ← r.enter ⟨owner, b, b.base + offset⟩ x
    let (slots, r) ← restoreSlots owner b (offset + 1) xs r
    return (⟨storage, x.load⟩ :: slots, r)

def restoreBand (owner : Nat) (b : Band) (x : SavedBand)
    (r : SparseObjectBands) : Except SparseRegistryError SparseObjectBands :=
  if x.1 < b.base ∨ b.limit < x.1 ∨ x.2.length < (x.1 - b.base).toNat ∨
      b.limit - b.base < x.2.length then
    .error .invalidMark
  else do
    let (slots, r) ← restoreSlots owner b 0 x.2 r
    return r.setBand owner b ⟨x.1, slots⟩

def restoreOwner (owner : Nat) (r : SparseObjectBands) :
    List SavedBand → Except SparseRegistryError SparseObjectBands
  | [unit, build, wall] => do
    let r ← restoreBand owner .unit unit r
    let r ← restoreBand owner .build build r
    restoreBand owner .wall wall r
  | _ => .error .invalidMark

def restoreOwners : Nat → List (List SavedBand) → SparseObjectBands →
    Except SparseRegistryError SparseObjectBands
  | _, [], r => .ok r
  | owner, x :: xs, r => do
    let r ← restoreOwner owner r x
    restoreOwners (owner + 1) xs r

def fromSnapshot (s : SparseRegistrySnapshot) : Except SparseRegistryError SparseObjectBands :=
  if s.owners.length ≠ ownerSlots then
    .error .invalidOwner
  else
    restoreOwners 0 s.owners { new with active := fun i => s.active.getD i false }

/-! ## Traversal -/

structure TraversalEntry where
  address : Address
  storage : ParallelStorage
  lifecycle : Lifecycle

/-- The entries that `append_marked` pushes. -/
def appendMarked (owner : Nat) (b : Band) : List TraversalEntry :=
  let x := r.band owner b
  (x.slots.take (x.mark - b.base).toNat).zipIdx.map fun p =>
    ⟨⟨owner, b, b.base + p.2⟩, p.1.storage, p.1.lifecycle⟩

/-- The owner whose units come at an offset in a frame. -/
def unitOwner (frame : Int32) (offset : Nat) : Nat :=
  ((frame + Int32.ofNat offset).toInt % ownerSlots).toNat

def traversal (frame : Int32) : List TraversalEntry :=
  ((range ownerSlots).flatMap fun offset =>
      let owner := unitOwner frame offset
      if r.active owner then r.appendMarked owner .unit else []) ++
    (range bandedOwnerSlots).flatMap fun owner =>
      if r.active owner then r.appendMarked owner .build ++ r.appendMarked owner .wall else []

/-- A restored band: the saved mark fits, and the slots are the saved ones. -/
structure Loads (b : Band) (x : SavedBand) (y : SparseBand) : Prop where
  base : b.base ≤ x.1
  limit : x.1 ≤ b.limit
  marked : (x.1 - b.base).toNat ≤ x.2.length
  mark : y.mark = x.1
  slots : y.slots.map SparseSlot.lifecycle = x.2.map SnapshotLifecycle.load

/-- The three bands of an owner. -/
def OwnerLoads (x : List SavedBand) (f : Band → SparseBand) : Prop :=
  ∃ g, x = bands.map g ∧ ∀ b, Loads b (g b) (f b)

variable {r r' : SparseObjectBands} {owner : Nat} {b : Band} {x : SavedBand} {y : SparseBand}

lemma restoreSlots_ok {xs : List SnapshotLifecycle} :
    ∀ {offset : Nat} {r : SparseObjectBands} {slots : List SparseSlot},
      restoreSlots owner b offset xs r = .ok (slots, r') →
        slots.map lifecycle = xs.map load ∧
          r'.owners = r.owners ∧ r'.active = r.active := by
  induction xs with
  | nil =>
    intro offset r slots h
    cases h
    exact ⟨rfl, rfl, rfl⟩
  | cons y xs ih =>
    intro offset r slots h
    simp only [restoreSlots, except_bind_ok_iff, except_pure_ok_iff, Prod.mk.injEq] at h
    obtain ⟨r₁, henter, ⟨rest, r₂⟩, hrest, rfl, rfl⟩ := h
    obtain ⟨hslots, howners, hactive⟩ := ih hrest
    -- neither the new storage nor the entry in the reverse map touches a band
    have hkeep : r₁.owners = r.owners ∧ r₁.active = r.active := by
      have halloc : (r.allocateStorage owner b).2.owners = r.owners ∧
          (r.allocateStorage owner b).2.active = r.active := by
        cases b <;> exact ⟨rfl, rfl⟩
      cases y with
      | tombstone =>
        cases henter
        exact halloc
      | live =>
        obtain ⟨_, heq⟩ := except_error_ok_iff.1 henter
        cases heq
        exact halloc
    exact ⟨by rw [map_cons, map_cons, hslots], howners.trans hkeep.1,
      hactive.trans hkeep.2⟩

lemma restoreBand_ok (h : restoreBand owner b x r = .ok r') : ∃ y, Loads b x y ∧ r'.active = r.active ∧
      r'.owners = update r.owners owner (update (r.owners owner) b y) := by
  simp only [restoreBand, except_error_ok_iff, except_bind_ok_iff, except_pure_ok_iff, not_or,
    not_lt] at h
  obtain ⟨⟨hbase, hlimit, hmarked, _⟩, ⟨slots, r₁⟩, hslots, rfl⟩ := h
  obtain ⟨hmap, howners, hactive⟩ := restoreSlots_ok hslots
  refine ⟨⟨x.1, slots⟩, ⟨hbase, hlimit, hmarked, rfl, hmap⟩, hactive, ?_⟩
  rw [← howners]
  rfl

lemma restoreOwner_ok {x : List SavedBand}
    (h : restoreOwner owner r x = .ok r') : ∃ f, OwnerLoads x f ∧ r'.active = r.active ∧
      r'.owners = update r.owners owner f := by
  unfold restoreOwner at h
  split at h
  · rename_i unit build wall
    simp only [except_bind_ok_iff] at h
    obtain ⟨r₁, hunit, r₂, hbuild, hwall⟩ := h
    obtain ⟨y₁, hy₁, ha₁, ho₁⟩ := restoreBand_ok hunit
    obtain ⟨y₂, hy₂, ha₂, ho₂⟩ := restoreBand_ok hbuild
    obtain ⟨y₃, hy₃, ha₃, ho₃⟩ := restoreBand_ok hwall
    refine ⟨fun b => b.rec y₁ y₂ y₃, ⟨fun b => b.rec unit build wall, rfl, ?_⟩,
      ha₃.trans (ha₂.trans ha₁), ?_⟩
    · rintro (_ | _ | _)
      exacts [hy₁, hy₂, hy₃]
    · rw [ho₃, ho₂, ho₁]
      simp only [update_self, update_idem]
      congr 1
      funext b
      cases b <;> simp [update]
  · cases h

/-- Every owner is restored, and later owners do not touch earlier ones. -/
lemma restoreOwners_ok {xs : List (List SavedBand)} :
    ∀ {owner : Nat} {r : SparseObjectBands}, restoreOwners owner xs r = .ok r' →
      r'.active = r.active ∧ (∀ j < owner, r'.owners j = r.owners j) ∧
        ∀ i x, xs[i]? = some x → OwnerLoads x (r'.owners (owner + i)) := by
  induction xs with
  | nil =>
    intro owner r h
    cases h
    exact ⟨rfl, fun _ _ => rfl, by simp⟩
  | cons x xs ih =>
    intro owner r h
    simp only [restoreOwners, except_bind_ok_iff] at h
    obtain ⟨r₁, hfirst, hrest⟩ := h
    obtain ⟨f, hf, ha, ho⟩ := restoreOwner_ok hfirst
    obtain ⟨ha', hbefore, hloads⟩ := ih hrest
    refine ⟨ha'.trans ha, fun j hj => ?_, fun i y hy => ?_⟩
    · rw [hbefore j (by omega), ho, update_of_ne hj.ne]
    · cases i with
      | zero =>
        cases hy
        rwa [Nat.add_zero, hbefore owner (by omega), ho, update_self]
      | succ i =>
        rw [Nat.add_comm i, ← Nat.add_assoc]
        exact hloads i y hy

/-! ## What a restored registry can do -/

lemma Loads.snapshotBand_eq (h : Loads b x y) : snapshotBand y = .ok x := by
  have hsave : y.slots.mapM (saveLifecycle ∘ lifecycle) = .ok x.2 := by
    rw [← mapM_map, h.slots, mapM_map]
    rw [mapM_eq_pure (g := id) fun z _ => by cases z <;> rfl, map_id]
    rfl
  rw [snapshotBand, h.mark]
  exact congrArg (· >>= fun slots => pure (x.1, slots)) hsave

lemma Loads.findFree_ok {request : FindFreeRequest}
    (h : Loads request.band x (r.band request.owner request.band))
    (howner : request.owner < ownerSlots)
    (htail : ∀ y ∈ x.2.drop (x.1 - request.band.base).toNat, ∃ facts, y = .tombstone facts) :
    ∃ out, r.findFree request = .ok out := by
  have hlen := congrArg length h.slots
  rw [length_map, length_map] at hlen
  have hfits : ¬ (x.1 < request.band.base ∨ request.band.limit < x.1) := by
    have := h.base
    have := h.limit
    omega
  simp only [findFree, if_neg howner.not_ge, h.mark, if_neg hfits, hlen, if_neg h.marked.not_gt]
  split
  · exact ⟨_, rfl⟩
  split
  · exact ⟨_, rfl⟩
  -- the slot at the mark is a tombstone or does not exist yet
  rw [← getElem?_map, h.slots, getElem?_map]
  cases hy : x.2[(x.1 - request.band.base).toNat]? with
  | none => exact ⟨_, rfl⟩
  | some y =>
    obtain ⟨facts, rfl⟩ := htail y (mem_of_mem_head? (head?_drop ▸ hy))
    exact ⟨_, rfl⟩

/-- A slot that is live with an identity. -/
def LiveAt (y : SparseBand) (j : Nat) (identity : Identity) : Prop :=
  (y.slots[j]?).map SparseSlot.lifecycle = some (.live identity)

/-- Every live slot has an address below the mark. -/
def LiveBelowMark (b : Band) (y : SparseBand) : Prop :=
  ∀ (j : Nat) identity, LiveAt y j identity → b.base + j < y.mark

lemma Loads.liveAt_iff (h : Loads b x y) {j : Nat} {identity : Identity} :
    LiveAt y j identity ↔ x.2[j]? = some (.live identity) := by
  have hload : ∀ z : SnapshotLifecycle, z.load = .live identity ↔ z = .live identity := by
    rintro (_ | _) <;> simp [load]
  rw [LiveAt, ← getElem?_map, h.slots, getElem?_map]
  simp [hload]

lemma Loads.liveBelowMark_iff (h : Loads b x y) : LiveBelowMark b y ↔
      ∀ z ∈ x.2.drop (x.1 - b.base).toNat, ∃ facts, z = .tombstone facts := by
  have hbase := h.base
  simp only [LiveBelowMark, h.liveAt_iff, h.mark]
  constructor
  · intro hbelow z hz
    obtain ⟨i, hi⟩ := mem_iff_getElem?.1 hz
    rw [getElem?_drop] at hi
    cases z with
    | tombstone facts => exact ⟨facts, rfl⟩
    | live identity =>
      have := hbelow _ identity hi
      omega
  · intro htail j identity hj
    by_contra hge
    have hle : (x.1 - b.base).toNat ≤ j := by omega
    have hmem : .live identity ∈ x.2.drop (x.1 - b.base).toNat :=
      mem_iff_getElem?.2 ⟨j - (x.1 - b.base).toNat, by
        rw [getElem?_drop, Nat.add_sub_of_le hle, hj]⟩
    obtain ⟨facts, hfacts⟩ := htail _ hmem
    cases hfacts

/-- Every live slot of an active owner is in the traversal of every frame, up to the last ten, where the sum
of frame and offset wraps. -/
def Reaches (r : SparseObjectBands) : Prop :=
  ∀ frame : Int32, frame.toInt + ownerSlots ≤ 2 ^ 31 → ∀ owner < ownerSlots, r.active owner = true →
    ∀ (b : Band) (j : Nat) identity, LiveAt (r.band owner b) j identity →
      ∃ e ∈ r.traversal frame, e.address = ⟨owner, b, b.base + j⟩ ∧ e.lifecycle = .live identity

lemma mem_appendMarked {j : Nat} {identity : Identity} (hlive : LiveAt (r.band owner b) j identity)
    (hmark : b.base + j < (r.band owner b).mark) :
    ∃ e ∈ r.appendMarked owner b, e.address = ⟨owner, b, b.base + j⟩ ∧ e.lifecycle = .live identity := by
  obtain ⟨slot, hslot, hcycle⟩ := Option.map_eq_some_iff.1 hlive
  have hmem : (slot, j) ∈ ((r.band owner b).slots.take ((r.band owner b).mark - b.base).toNat).zipIdx := by
    rw [mem_zipIdx_iff_getElem?, getElem?_take_of_lt (by omega)]
    exact hslot
  exact ⟨_, mem_map_of_mem hmem, rfl, hcycle⟩

lemma address_appendMarked {e : TraversalEntry} (he : e ∈ r.appendMarked owner b) :
    e.address.owner = owner ∧ e.address.band = b := by
  obtain ⟨p, -, rfl⟩ := mem_map.1 he
  exact ⟨rfl, rfl⟩

/-- The rotation of the owners leaves none out. -/
lemma exists_unitOwner {frame : Int32} (hframe : frame.toInt + ownerSlots ≤ 2 ^ 31)
    (howner : owner < ownerSlots) : ∃ offset < ownerSlots, unitOwner frame offset = owner := by
  unfold ownerSlots at *
  refine ⟨((owner - frame.toInt) % 10).toNat, by omega, ?_⟩
  have hlow := frame.le_toInt
  rw [unitOwner, Int32.toInt_add, Int32.toInt_ofNat_of_lt (by omega),
    Int.bmod_eq_of_le (by omega) (by omega)]
  unfold ownerSlots
  omega

/-- The traversal reaches the live slots below the marks, but for the buildings and walls of owners 8 and 9. -/
lemma reaches_iff (hbelow : ∀ owner < ownerSlots, ∀ b, LiveBelowMark b (r.band owner b)) :
    r.Reaches ↔ ∀ owner < ownerSlots, bandedOwnerSlots ≤ owner → r.active owner = true →
      ∀ b ≠ .unit, ∀ j identity, ¬ LiveAt (r.band owner b) j identity := by
  constructor
  · intro hreach owner howner hbanded hactive b hb j identity hlive
    obtain ⟨e, he, haddress, -⟩ := hreach 0 (by decide) owner howner hactive b j identity hlive
    rw [traversal, mem_append, mem_flatMap, mem_flatMap] at he
    rcases he with ⟨offset, -, he⟩ | ⟨owner', howner', he⟩
    · have hband := (address_appendMarked (mem_ite_nil_right.1 he).2).2
      rw [haddress] at hband
      exact hb hband
    · have hsame : e.address.owner = owner' := by
        rcases mem_append.1 (mem_ite_nil_right.1 he).2 with he | he
        all_goals exact (address_appendMarked he).1
      rw [haddress] at hsame
      obtain rfl : owner = owner' := hsame
      exact absurd (mem_range.1 howner') hbanded.not_gt
  · intro hnone frame hframe owner howner hactive b j identity hlive
    obtain ⟨e, he, hentry⟩ := mem_appendMarked hlive (hbelow owner howner b j identity hlive)
    refine ⟨e, mem_append.2 ?_, hentry⟩
    by_cases hb : b = .unit
    · subst hb
      obtain ⟨offset, hoffset, hvisit⟩ := exists_unitOwner hframe howner
      refine .inl (mem_flatMap.2 ⟨offset, mem_range.2 hoffset, ?_⟩)
      rw [hvisit, if_pos hactive]
      exact he
    · have hbanded : owner < bandedOwnerSlots :=
        not_le.1 fun hle => hnone owner howner hle hactive b hb j identity hlive
      refine .inr (mem_flatMap.2 ⟨owner, mem_range.2 hbanded, ?_⟩)
      rw [if_pos hactive, mem_append]
      cases b with
      | unit => exact absurd rfl hb
      | build => exact .inl he
      | wall => exact .inr he

/-- From the mark of a saved band on there are only tombstones. -/
def TailsRetired (s : SparseRegistrySnapshot) : Prop :=
  ∀ x ∈ s.owners, ∀ p ∈ bands.zip x, ∀ y ∈ p.2.2.drop (p.2.1 - p.1.base).toNat,
    ∃ facts, y = .tombstone facts

/-- The active ones of the last two owners were saved without buildings and walls. -/
def BandedRetired (s : SparseRegistrySnapshot) : Prop :=
  ∀ owner, bandedOwnerSlots ≤ owner → s.active.getD owner false = true → ∀ x, s.owners[owner]? = some x →
    ∀ p ∈ bands.zip x, p.1 ≠ .unit → ∀ (j : Nat) identity, p.2.2[j]? ≠ some (.live identity)

lemma mem_bands (b : Band) : b ∈ bands := by
  cases b <;> decide

/-- Every band of a restored registry loads the band that was saved for it. -/
lemma fromSnapshot_loads {s : SparseRegistrySnapshot} (h : fromSnapshot s = .ok r) :
    ∃ g : Nat → Band → SavedBand, s.owners = (range ownerSlots).map (fun owner => bands.map (g owner)) ∧
      (∀ owner < ownerSlots, ∀ b, Loads b (g owner b) (r.band owner b)) ∧
      ∀ owner, r.active owner = s.active.getD owner false := by
  simp only [fromSnapshot, except_error_ok_iff, not_not] at h
  obtain ⟨hlen, hr⟩ := h
  obtain ⟨ha, -, hloads⟩ := restoreOwners_ok hr
  have hget : ∀ owner < ownerSlots, ∃ g, s.owners[owner]? = some (bands.map g) ∧
      ∀ b, Loads b (g b) (r.band owner b) := by
    intro owner howner
    have hx := getElem?_eq_getElem (hlen ▸ howner)
    obtain ⟨g, hg, hb⟩ := hloads owner _ hx
    exact ⟨g, hg ▸ hx, by simpa [SparseObjectBands.band] using hb⟩
  choose! g hg hband using hget
  refine ⟨g, ext_getElem? fun i => ?_, hband, congrFun ha⟩
  by_cases hi : i < ownerSlots
  · simp [hg i hi, hi]
  · simp [hi, hlen]

section Retired

variable {s : SparseRegistrySnapshot} {g : Nat → Band → SavedBand}
  (howners : s.owners = (range ownerSlots).map fun owner => bands.map (g owner))
  (hband : ∀ owner < ownerSlots, ∀ b, Loads b (g owner b) (r.band owner b))

include howners hband

lemma tailsRetired_iff :
    TailsRetired s ↔ ∀ owner < ownerSlots, ∀ b, LiveBelowMark b (r.band owner b) := by
  have hzip : ∀ owner, bands.zip (bands.map (g owner)) = bands.map fun b => (b, g owner b) :=
    fun _ => rfl
  simp only [TailsRetired, howners, forall_mem_map, mem_range, hzip, mem_bands, true_implies]
  exact forall₂_congr fun owner howner => forall_congr' fun b =>
    (hband owner howner b).liveBelowMark_iff.symm

lemma bandedRetired_iff (ha : ∀ owner, r.active owner = s.active.getD owner false) :
    BandedRetired s ↔ ∀ owner < ownerSlots, bandedOwnerSlots ≤ owner → r.active owner = true →
      ∀ b ≠ .unit, ∀ j identity, ¬ LiveAt (r.band owner b) j identity := by
  have hget : ∀ owner < ownerSlots, s.owners[owner]? = some (bands.map (g owner)) := by
    intro owner howner
    simp [howners, howner]
  constructor
  · intro hnone owner howner hle hon b hb j identity hlive
    refine hnone owner hle ((ha owner).symm.trans hon) _ (hget owner howner) (b, g owner b) ?_ hb j
      identity ((hband owner howner b).liveAt_iff.1 hlive)
    exact mem_map_of_mem (f := fun b => (b, g owner b)) (mem_bands b)
  · intro hnone owner hle hon x hx p hp hb j identity hlive
    have howner : owner < ownerSlots := by
      have hlt := (List.getElem?_eq_some_iff.1 hx).1
      simpa [howners] using hlt
    obtain rfl := Option.some_inj.1 ((hget owner howner).symm.trans hx)
    have hmem : p ∈ bands.map fun b => (b, g owner b) := hp
    obtain ⟨b, -, rfl⟩ := mem_map.1 hmem
    exact hnone owner howner hle ((ha owner).trans hon) b hb j identity
      ((hband owner howner b).liveAt_iff.2 hlive)

end Retired

/-- An empty registry but for one live unit above the mark of its band. -/
def liveAtMark : SparseRegistrySnapshot where
  active := List.replicate ownerSlots true
  owners := [(0, [.live (.unit 1 0)]), (2000, []), (3000, [])] ::
    List.replicate 9 [(0, []), (2000, []), (3000, [])]

/-- A live unit of owner 0, below the mark. -/
def liveBelow : SparseRegistrySnapshot where
  active := replicate ownerSlots true
  owners := [(1, [.live (.unit 1 0)]), (2000, []), (3000, [])] :: replicate 9 [(0, []), (2000, []), (3000, [])]

end SparseObjectBands

end Don.Sim.Population
