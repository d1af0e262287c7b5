import Mathlib

/-!
# Lanes — stepping many worlds lane by lane

The kernels of `crates/don-sim/src/simd.rs`, `World::step_hot` and `LaneBatch` of
`crates/don-sim/src/interleave.rs`.  Four worlds are stored as one group, a row of each beside the others,
and short ones are filled up with zeroes.
-/

namespace Don.Sim.Lanes

open List

/-- `MAP_SPAN` -/
def mapSpan : Int32 := 256 * 0x300

/-- `LANES` -/
def lanes : Nat := 4

/-! ## Kernels -/

def wrapScalar (span pos vel : Int32) : Int32 :=
  let x := pos + vel
  if x < 0 then x + span else if span ≤ x then x - span else x

def wrapPortable (span pos vel : Int32) : Int32 :=
  let x := pos + vel
  let lt := x >>> 31
  let ge := -(if span ≤ x then 1 else 0)
  x + (span &&& lt) - (span &&& ge)

/-- A kernel over two columns, as a build without debug assertions runs it: what is longer is left alone. -/
def integrateWrap (wrap : Int32 → Int32 → Int32) : List Int32 → List Int32 → List Int32
  | p :: pos, v :: vel => wrap p v :: integrateWrap wrap pos vel
  | pos, _ => pos

def integrateWrapScalar (pos vel : List Int32) (span : Int32) : List Int32 :=
  integrateWrap (wrapScalar span) pos vel

def integrateWrapPortable (pos vel : List Int32) (span : Int32) : List Int32 :=
  integrateWrap (wrapPortable span) pos vel

def downScalar (c : Int16) : Int16 :=
  if 0 < c then c - 1 else c

def downPortable (c : Int16) : Int16 :=
  c - if 0 < c then 1 else 0

def tickDownScalar (counters : List Int16) : List Int16 := counters.map downScalar

def tickDownPortable (counters : List Int16) : List Int16 := counters.map downPortable

/-- The sign bit, spread over the word. -/
lemma shiftRight_31 (x : Int32) : x >>> 31 = if x < 0 then -1 else 0 := by
  have hlo := x.le_toInt
  have hhi := x.toInt_lt
  have hshift : (x >>> 31).toInt = x.toInt / 2 ^ 31 := by
    rw [← Int32.toInt_toBitVec, Int32.toBitVec_shiftRight]
    simp [BitVec.sshiftRight', BitVec.toInt_sshiftRight, Int.shiftRight_eq_div_pow]
  apply Int32.toInt_inj.1
  rw [hshift]
  by_cases hx : x < 0
  · have hneg : x.toInt < 0 := Int32.lt_iff_toInt_lt.1 hx
    rw [if_pos hx]
    change _ = (-1 : Int)
    omega
  · have hpos : 0 ≤ x.toInt := Int32.le_iff_toInt_le.1 (Int32.not_lt.1 hx)
    rw [if_neg hx]
    change _ = (0 : Int)
    omega

lemma wrapPortable_eq {span : Int32} (hspan : 0 < span) (pos vel : Int32) :
    wrapPortable span pos vel = wrapScalar span pos vel := by
  unfold wrapPortable wrapScalar
  dsimp only
  generalize pos + vel = x
  rw [shiftRight_31]
  by_cases hneg : x < 0
  · have hge : ¬ span ≤ x := by
      rw [Int32.not_le]
      exact Int32.lt_trans hneg hspan
    simp [hneg, hge]
  · by_cases hge : span ≤ x <;> simp [hneg, hge]

lemma integrateWrapPortable_eq {span : Int32} (hspan : 0 < span) (pos vel : List Int32) :
    integrateWrapPortable pos vel span = integrateWrapScalar pos vel span := by
  unfold integrateWrapPortable integrateWrapScalar
  rw [funext₂ (wrapPortable_eq hspan)]

/-- Both kernels assert a positive span; for others they are different functions. -/
theorem integrateWrap_negative_span :
    integrateWrapPortable [-3] [0] (-5) ≠ integrateWrapScalar [-3] [0] (-5) := by
  decide

lemma tickDownPortable_eq : tickDownPortable = tickDownScalar := by
  have hdown : downPortable = downScalar := by
    funext c
    unfold downPortable downScalar
    split <;> simp
  funext counters
  rw [tickDownPortable, hdown, tickDownScalar]

/-! ## Worlds and groups -/

/-- What the element-wise tick reads of a live unit. -/
structure HotRow where
  posX : Int32
  posY : Int32
  moveStepX : Int32
  moveStepY : Int32
  holdFrames : Int16

def HotRow.zero : HotRow := ⟨0, 0, 0, 0, 0⟩

def HotRow.step (r : HotRow) : HotRow :=
  { r with
    posX := wrapPortable mapSpan r.posX r.moveStepX
    posY := wrapPortable mapSpan r.posY r.moveStepY
    holdFrames := downPortable r.holdFrames }

/-- The live rows and the frame number. -/
structure World where
  rows : List HotRow
  frame : Int32

def World.stepHot (w : World) : World :=
  ⟨w.rows.map HotRow.step, w.frame + 1⟩

/-- Cell `row * lanes + lane` is the row of the world in that lane. -/
structure Group where
  rows : Nat
  live : List Nat
  used : Nat
  cells : List HotRow

def Group.step (g : Group) : Group :=
  { g with cells := g.cells.map HotRow.step }

def Group.fromChunk (chunk : List World) : Group :=
  let rows := (chunk.map (·.rows.length)).foldl max 0
  { rows
    live := chunk.map (·.rows.length)
    used := chunk.length
    cells := (range (rows * lanes)).map fun k =>
      (chunk[k % lanes]?.bind (·.rows[k / lanes]?)).getD .zero }

/-- `slice.chunks(n)`, for a positive `n` -/
def chunks {α : Type} (n : Nat) : List α → List (List α)
  | [] => []
  | a :: l => (a :: l.take (n - 1)) :: chunks n (l.drop (n - 1))
termination_by l => l.length

/-- The rows of one world; the population must be the one that was stored. -/
def Group.writeLane (g : Group) (framesRun : UInt64) (w : World) (lane : Nat) : Option World := do
  let live ← g.live[lane]?
  guard (live = w.rows.length)
  let rows ← w.rows.zipIdx.mapM fun (r, row) => do
    let c ← g.cells[row * lanes + lane]?
    return { r with posX := c.posX, posY := c.posY, holdFrames := c.holdFrames }
  return ⟨rows, w.frame + framesRun.toUInt32.toInt32⟩

structure LaneBatch where
  groups : List Group
  framesRun : UInt64

namespace LaneBatch

def fromWorlds (worlds : List World) : LaneBatch :=
  ⟨(chunks lanes worlds).map .fromChunk, 0⟩

variable (b : LaneBatch)

def step : LaneBatch :=
  ⟨b.groups.map Group.step, b.framesRun + 1⟩

def runSerial (frames : Nat) : LaneBatch :=
  ⟨b.groups.map Group.step^[frames], b.framesRun + .ofNat frames⟩

/-- What a worker does to the parts that it pulls from the queue. -/
def work (frames : Nat) (pulls : Nat → Bool) (parts : List (List Group)) : List (List Group) :=
  parts.mapIdx fun i part => if pulls i then part.map Group.step^[frames] else part

/-- The queue gives each part to one worker, `puller` says which.  The product of the grab wraps, and a
division by zero is `none`. -/
def runParallel (frames threads : Nat) (puller : Nat → Nat) : Option LaneBatch :=
  let threads := max threads 1
  if frames = 0 then some b
  else if threads = 1 ∨ b.groups.length < 2 then some (b.runSerial frames)
  else if threads * 4 % 2 ^ 64 = 0 then none
  else
    let parts := chunks (max (b.groups.length / (threads * 4 % 2 ^ 64)) 1) b.groups
    some ⟨((range threads).foldl (fun parts t => work frames (puller · % threads = t) parts) parts).flatten,
      b.framesRun + .ofNat frames⟩

/-- Group by group, the lanes in use into the next worlds; an index or the assertion that fails is none. -/
def writeBack (framesRun : UInt64) : List Group → List World → Option (List World)
  | [], worlds => some worlds
  | g :: groups, worlds => do
    let written ← (range g.used).mapM fun lane => do g.writeLane framesRun (← worlds[lane]?) lane
    return written ++ (worlds.take lanes).drop g.used ++ (← writeBack framesRun groups (worlds.drop lanes))

/-- One of the calls that advance the batch. -/
inductive Advance where
  | step
  | runSerial (frames : Nat)
  | runParallel (frames threads : Nat) (puller : Nat → Nat)

def Advance.frames : Advance → Nat
  | step => 1
  | runSerial frames => frames
  | runParallel frames _ _ => frames

/-- Four times the number of threads is a `usize`. -/
def Advance.Fits : Advance → Prop
  | runParallel _ threads _ => threads < 2 ^ 62
  | _ => True

def advance : Advance → Option LaneBatch
  | .step => some b.step
  | .runSerial frames => some (b.runSerial frames)
  | .runParallel frames threads puller => b.runParallel frames threads puller

end LaneBatch

/-! ## Iterated steps -/

lemma HotRow.iterate_step (r : HotRow) (n : Nat) :
    { r with
      posX := (HotRow.step^[n] r).posX
      posY := (HotRow.step^[n] r).posY
      holdFrames := (HotRow.step^[n] r).holdFrames } = HotRow.step^[n] r := by
  have hkeep : (HotRow.step^[n] r).moveStepX = r.moveStepX ∧
      (HotRow.step^[n] r).moveStepY = r.moveStepY := by
    induction n with
    | zero => exact ⟨rfl, rfl⟩
    | succ n ih =>
      rw [Function.iterate_succ_apply']
      exact ih
  rw [← hkeep.1, ← hkeep.2]

lemma World.iterate_stepHot (w : World) (n : Nat) :
    World.stepHot^[n] w = ⟨w.rows.map HotRow.step^[n], w.frame + .ofNat n⟩ := by
  induction n with
  | zero => simp
  | succ n ih =>
    rw [Function.iterate_succ_apply', ih, World.stepHot, map_map, Function.iterate_succ',
      Int32.ofNat_add, Int32.add_assoc]
    rfl

lemma Group.iterate_step (g : Group) (n : Nat) :
    Group.step^[n] g = { g with cells := g.cells.map HotRow.step^[n] } := by
  induction n with
  | zero => simp
  | succ n ih =>
    rw [Function.iterate_succ_apply', ih, Group.step, map_map, Function.iterate_succ']

lemma flatten_chunks {α : Type} (n : Nat) (l : List α) : (chunks n l).flatten = l := by
  fun_induction chunks n l with
  | case1 => rfl
  | case2 a l ih => simp [ih]

lemma LaneBatch.foldl_work (frames threads : Nat) (puller : Nat → Nat) (parts : List (List Group))
    (k : Nat) : (range k).foldl (fun parts t => work frames (puller · % threads = t) parts) parts
      = work frames (puller · % threads < k) parts := by
  induction k with
  | zero => exact ext_getElem? fun i => by simp [work]
  | succ k ih =>
    rw [range_succ, foldl_append, ih, foldl_cons, foldl_nil, work, work, work, mapIdx_mapIdx]
    congr 1
    funext i part
    -- a part was run before, is run by this worker, or is left to a later one
    rcases Nat.lt_trichotomy (puller i % threads) k with hlt | heq | hgt
    · simp [hlt, Nat.ne_of_lt hlt, Nat.lt_succ_of_lt hlt]
    · simp [heq]
    · simp [Nat.lt_asymm hgt, Nat.ne_of_gt hgt, Nat.not_lt.2 hgt]

lemma LaneBatch.advance_eq (b : LaneBatch) {a : Advance} (h : a.Fits) :
    b.advance a = some ⟨b.groups.map Group.step^[a.frames], b.framesRun + .ofNat a.frames⟩ := by
  cases a with
  | step => rfl
  | runSerial => rfl
  | runParallel frames threads puller =>
    have hfits : max threads 1 * 4 % 2 ^ 64 ≠ 0 := by
      simp only [Advance.Fits] at h
      omega
    simp only [advance, runParallel, hfits, if_false]
    split
    · rename_i hzero
      simp [Advance.frames, hzero]
    split
    · rfl
    · have hlt : ∀ i, puller i % max threads 1 < max threads 1 := fun i => Nat.mod_lt _ (by omega)
      have hall : ∀ parts, work frames (puller · % max threads 1 < max threads 1) parts
          = parts.map (map Group.step^[frames]) := fun parts =>
        ext_getElem? fun i => by simp [work, hlt]
      rw [foldl_work, hall, ← map_flatten, flatten_chunks]
      rfl

lemma LaneBatch.foldlM_advance (b : LaneBatch) {plan : List Advance} (h : ∀ a ∈ plan, a.Fits) :
    plan.foldlM advance b = some ⟨b.groups.map Group.step^[(plan.map Advance.frames).sum],
      b.framesRun + .ofNat (plan.map Advance.frames).sum⟩ := by
  induction plan generalizing b with
  | nil => simp
  | cons a plan ih =>
    obtain ⟨ha, hplan⟩ := forall_mem_cons.1 h
    rw [foldlM_cons, advance_eq b ha, Option.bind_eq_bind, Option.bind_some, ih _ hplan]
    rw [map_map, ← Function.iterate_add, map_cons, sum_cons, Nat.add_comm a.frames, UInt64.add_assoc,
      ← UInt64.ofNat_add, Nat.add_comm a.frames]

/-! ## Writing back -/

lemma mapM_eq_some {α β : Type} {f : α → Option β} {l : List α} {bs : List β}
    (hlen : l.length = bs.length) (h : ∀ i, ∀ (hi : i < l.length) (hb : i < bs.length),
      f l[i] = some bs[i]) : l.mapM f = some bs := by
  have hall : Forall₂ (fun a b => f a = some b) l bs := forall₂_iff_get.2 ⟨hlen, h⟩
  clear hlen h
  induction hall with
  | nil => rfl
  | cons hab _ ih => simp [hab, ih]

section

variable {chunk : List World} {w : World} {lane n : Nat}

lemma Group.length_le_rows (hw : w ∈ chunk) : w.rows.length ≤ (Group.fromChunk chunk).rows := by
  have hle : ∀ (l : List Nat) (m : Nat), m ≤ l.foldl max m ∧ ∀ x ∈ l, x ≤ l.foldl max m := by
    intro l
    induction l with
    | nil => simp
    | cons a l ih =>
      intro m
      have := ih (max m a)
      simp only [foldl_cons, mem_cons, forall_eq_or_imp]
      exact ⟨by omega, by omega, this.2⟩
  exact (hle _ 0).2 _ (mem_map_of_mem hw)

lemma Group.getElem?_cells_fromChunk {row : Nat} {r : HotRow} (hw : chunk[lane]? = some w)
    (hlane : lane < lanes) (hr : w.rows[row]? = some r) :
    (Group.fromChunk chunk).cells[row * lanes + lane]? = some r := by
  have hrows := Group.length_le_rows (mem_of_getElem? hw)
  have hlt : row < w.rows.length := (List.getElem?_eq_some_iff.1 hr).1
  have hin : row * lanes + lane < (Group.fromChunk chunk).rows * lanes := by
    unfold lanes at hlane ⊢
    omega
  have hmod : (row * lanes + lane) % lanes = lane := by
    unfold lanes at hlane ⊢
    omega
  have hdiv : (row * lanes + lane) / lanes = row := by
    unfold lanes at hlane ⊢
    omega
  change ((range ((Group.fromChunk chunk).rows * lanes)).map _)[_]? = _
  rw [getElem?_map, getElem?_range hin]
  simp [hmod, hdiv, hw, hr]

lemma Group.writeLane_fromChunk (hw : chunk[lane]? = some w) (hlane : lane < lanes) :
    (Group.step^[n] (Group.fromChunk chunk)).writeLane (.ofNat n) w lane
      = some (World.stepHot^[n] w) := by
  have hrows : (w.rows.zipIdx.mapM fun (r, row) => do
      let c ← ((Group.fromChunk chunk).cells.map HotRow.step^[n])[row * lanes + lane]?
      return { r with posX := c.posX, posY := c.posY, holdFrames := c.holdFrames })
        = some (w.rows.map HotRow.step^[n]) := by
    apply mapM_eq_some (by simp)
    intro i _ hi
    rw [length_map] at hi
    rw [getElem_zipIdx, getElem_map]
    dsimp only
    rw [Nat.zero_add, getElem?_map,
      Group.getElem?_cells_fromChunk hw hlane (getElem?_eq_getElem hi)]
    exact congrArg some (HotRow.iterate_step _ n)
  have hlive : (Group.fromChunk chunk).live[lane]? = some w.rows.length := by
    rw [Group.fromChunk, getElem?_map, hw, Option.map_some]
  rw [Group.iterate_step, World.iterate_stepHot, Group.writeLane]
  dsimp only
  rw [hlive, hrows]
  simp

end

lemma LaneBatch.writeBack_cons (n : Nat) (groups : List Group) (worlds : List World) :
    writeBack (.ofNat n) (Group.step^[n] (.fromChunk (worlds.take lanes)) :: groups) worlds
      = (writeBack (.ofNat n) groups (worlds.drop lanes)).map
        ((worlds.take lanes).map World.stepHot^[n] ++ ·) := by
  have hused : (Group.step^[n] (.fromChunk (worlds.take lanes))).used = (worlds.take lanes).length := by
    rw [Group.iterate_step]
    rfl
  have hwritten : ((range (worlds.take lanes).length).mapM fun lane => do
      (Group.step^[n] (.fromChunk (worlds.take lanes))).writeLane (.ofNat n) (← worlds[lane]?) lane)
        = some ((worlds.take lanes).map World.stepHot^[n]) := by
    apply mapM_eq_some (by simp)
    intro i _ hi
    rw [length_map] at hi
    have hlane : i < lanes := Nat.lt_of_lt_of_le hi (length_take_le lanes worlds)
    rw [getElem_range, getElem_map, ← getElem?_take_of_lt hlane, getElem?_eq_getElem hi]
    exact Group.writeLane_fromChunk (getElem?_eq_getElem hi) hlane
  rw [writeBack, hused, hwritten, drop_length]
  cases writeBack (.ofNat n) groups (worlds.drop lanes) <;> simp

lemma LaneBatch.writeBack_chunks (n : Nat) (worlds : List World) :
    writeBack (.ofNat n) ((chunks lanes worlds).map (Group.step^[n] ∘ .fromChunk)) worlds
      = some (worlds.map World.stepHot^[n]) := by
  fun_induction chunks lanes worlds with
  | case1 => rfl
  | case2 w worlds ih =>
    have hrest : worlds.drop (lanes - 1) = (w :: worlds).drop lanes := rfl
    have hcons := writeBack_cons n
      ((chunks lanes (worlds.drop (lanes - 1))).map (Group.step^[n] ∘ .fromChunk)) (w :: worlds)
    rw [← hrest, ih, Option.map_some, hrest, ← map_append, take_append_drop] at hcons
    exact hcons

/-- Any calls that advance the batch by `n` frames, written back, are `n` steps of each world, and the
branchless kernels are the scalar ones for the spans that both allow. -/
theorem writeBack_advance (worlds : List World) (plan : List LaneBatch.Advance)
    (hplan : ∀ a ∈ plan, a.Fits) :
    (∃ b, plan.foldlM LaneBatch.advance (LaneBatch.fromWorlds worlds) = some b ∧
      LaneBatch.writeBack b.framesRun b.groups worlds
        = some (worlds.map World.stepHot^[(plan.map (·.frames)).sum])) ∧
    (∀ span, 0 < span → ∀ pos vel,
      integrateWrapPortable pos vel span = integrateWrapScalar pos vel span) ∧
    tickDownPortable = tickDownScalar := by
  refine ⟨⟨_, LaneBatch.foldlM_advance _ hplan, ?_⟩, fun _ => integrateWrapPortable_eq,
    tickDownPortable_eq⟩
  simp only [LaneBatch.fromWorlds, map_map, UInt64.zero_add]
  exact LaneBatch.writeBack_chunks _ worlds

/-- Five worlds of different populations, in two groups. -/
def ragged : List World :=
  [⟨[⟨196600, 5, 20, -9, 2⟩], 7⟩, ⟨[], 0⟩, ⟨[⟨1, 2, 3, 4, 0⟩, ⟨5, 6, 7, 8, 1⟩], -1⟩, ⟨[], 3⟩,
    ⟨[⟨0, 0, 0, -1, -4⟩], 2147483647⟩]

theorem writeBack_advance_ragged : ∃ b, [.step, .runParallel 3 2 (· % 2), .runSerial 1].foldlM
      LaneBatch.advance (LaneBatch.fromWorlds ragged) = some b ∧
    LaneBatch.writeBack b.framesRun b.groups ragged = some (ragged.map World.stepHot^[5]) :=
  (writeBack_advance ragged _ (by simp [LaneBatch.Advance.Fits])).1

end Don.Sim.Lanes
