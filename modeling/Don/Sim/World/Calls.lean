import Don.Foundation.Layout
import Don.Sim.World.Despawn

/-!
# Calls — what a run of calls keeps

Every call either leaves the world alone, adds one unit, removes one or switches an owner on or off, and
each of these keeps the invariant.  The only call that does not return is a spawn for an owner whose unit
band is full, in a world that has room.
-/

namespace Don.Sim.Population

open Foundation Option

variable {ω : Type}

def Call.spawns : Call → Option (Nat × Int32)
  | .spawnTyped owner typeId => some (owner, typeId)
  | .allocateTypedAt owner typeId _ _ => some (owner, typeId)
  | .despawn _ | .setObjectOwnerActive _ _ => none

namespace World

variable {w w' : World ω} {new : ω}

/-! ## One call -/

inductive CallSpec (new : ω) (w : World ω) : Call → Except Panic (Answer × World ω) → Prop
  | refused {c : Call} {owner : Nat} {typeId : Int32} (hc : c.spawns = some (owner, typeId))
      (hno : w.capacity ≤ w.live ∨ ownerSlots ≤ owner) : CallSpec new w c (.ok (.handle none, w))
  | placed {c : Call} {owner : Nat} {typeId : Int32} {h : Handle} {w' : World ω}
      (hc : c.spawns = some (owner, typeId)) (hlive : w.live < w.capacity) (howner : owner < ownerSlots)
      (hroom : (w.objects.units owner).length < Band.unit.limit) (hs : Spawned w w' new owner typeId h)
      (hw' : w'.Sound) : CallSpec new w c (.ok (.handle (some h), w'))
  | full {c : Call} {owner : Nat} {typeId : Int32} (hc : c.spawns = some (owner, typeId))
      (hlive : w.live < w.capacity) (howner : owner < ownerSlots)
      (hfull : Band.unit.limit ≤ (w.objects.units owner).length) : CallSpec new w c (.error .appendMirror)
  | stale {h : Handle} (hno : w.rowOf h = none) : CallSpec new w (.despawn h) (.ok (.done false, w))
  | removed {h : Handle} {row : Nat} {w' : World ω} (hfound : w.rowOf h = some row)
      (hr : Removed w w' h row) (hw' : w'.Sound) : CallSpec new w (.despawn h) (.ok (.done true, w'))
  | noOwner {owner : Nat} {active : Bool} (hno : ownerSlots ≤ owner) :
      CallSpec new w (.setObjectOwnerActive owner active) (.ok (.done false, w))
  | activated {owner : Nat} {active : Bool} (howner : owner < ownerSlots) {objectBands : SparseObjectBands}
      (hw' : { w with objects := w.objects.setActive owner active, objectBands := objectBands }.Sound) :
      CallSpec new w (.setObjectOwnerActive owner active)
        (.ok (.done true, { w with objects := w.objects.setActive owner active, objectBands := objectBands }))

def answerSpawn (r : Except Panic (Option Handle × World ω)) : Except Panic (Answer × World ω) := do
  let (h, w) ← r
  return (.handle h, w)

variable {c : Call}

lemma SpawnSpec.call {owner : Nat} {typeId : Int32} {r : Except Panic (Option Handle × World ω)}
    (hs : SpawnSpec w new owner typeId r) (hc : c.spawns = some (owner, typeId)) :
    CallSpec new w c (answerSpawn r) := by
  cases hs with
  | refused hno => exact .refused hc hno
  | placed hlive howner hroom hs hw' => exact .placed hc hlive howner hroom hs hw'
  | full hlive howner hfull => exact .full hc hlive howner hfull

lemma Sound.setActive (hw : w.Sound) (owner : Nat) (active : Bool) : { w with
      objects := w.objects.setActive owner active
      objectBands := { w.objectBands with active := Function.update w.objectBands.active owner active } }.Sound :=
  { hw.toSized, hw.toHandled with
    owners := hw.owners
    listed := hw.listed
    fits := hw.fits
    bare := hw.bare
    mirror := hw.mirror.setActive _
    active := fun s => by
      have hsame : w.objectBands.active = w.objects.active := funext hw.active
      simp only [hsame, ObjectRegistry.setActive] }

lemma call_spec (new : ω) (hw : w.Sound) (c : Call) : CallSpec new w c (w.call new c) := by
  cases c with
  | spawnTyped owner typeId => exact (spawnTyped_spec hw new owner typeId).call rfl
  | allocateTypedAt owner typeId x y => exact (allocateTypedAt_spec hw new owner typeId x y).call rfl
  | despawn h =>
    cases hfound : w.rowOf h with
    | none =>
      have hrun : w.call new (.despawn h) = .ok (.done false, w) := by
        simp only [call, despawn, hfound, bind, Except.bind, pure, Except.pure]
      rw [hrun]
      exact .stale hfound
    | some =>
      obtain ⟨w', hdespawn, hr, hw'⟩ := despawn_removes hw hfound
      have hrun : w.call new (.despawn h) = .ok (.done true, w') := by
        simp only [call, hdespawn, bind, Except.bind, pure, Except.pure]
      rw [hrun]
      exact .removed hfound hr hw'
  | setObjectOwnerActive owner active =>
    by_cases howner : owner < ownerSlots
    · have hrun : w.call new (.setObjectOwnerActive owner active) = .ok (.done true, { w with
          objects := w.objects.setActive owner active
          objectBands :=
            { w.objectBands with active := Function.update w.objectBands.active owner active } }) := by
        simp only [call, setObjectOwnerActive, if_neg (Nat.not_le.2 howner), SparseObjectBands.setActive,
          if_pos howner, bind, Except.bind, pure, Except.pure]
      rw [hrun]
      exact .activated howner (hw.setActive owner active)
    · have hrun : w.call new (.setObjectOwnerActive owner active) = .ok (.done false, w) := by
        simp only [call, setObjectOwnerActive, if_pos (Nat.le_of_not_lt howner), bind, Except.bind, pure,
          Except.pure]
      rw [hrun]
      exact .noOwner (Nat.le_of_not_lt howner)

lemma CallSpec.sound {a : Answer} (hs : CallSpec new w c (.ok (a, w'))) (hw : w.Sound) :
    w'.Sound := by
  cases hs with
  | refused | stale | noOwner => exact hw
  | placed _ _ _ _ _ hw' | removed _ _ hw' | activated _ hw' => exact hw'

/-! ## Runs -/

lemma run_cons_ok {calls : List Call} {trace : List (Call × Answer)}
    (hrun : w.run new (c :: calls) = .ok (trace, w')) :
    ∃ a w₁ rest, w.call new c = .ok (a, w₁) ∧ w₁.run new calls = .ok (rest, w') ∧
      trace = (c, a) :: rest := by
  simp only [run, except_bind_ok_iff, except_pure_ok_iff, Prod.mk.injEq] at hrun
  obtain ⟨⟨a, w₁⟩, hcall, ⟨rest, _⟩, hrest, rfl, rfl⟩ := hrun
  exact ⟨a, w₁, rest, hcall, hrest, rfl⟩

inductive Runs (new : ω) : World ω → List (Call × Answer) → World ω → Prop
  | nil (w : World ω) : Runs new w [] w
  | snoc {w w₁ w₂ : World ω} {trace : List (Call × Answer)} {c : Call} {a : Answer}
      (before : Runs new w trace w₁) (hw₁ : w₁.Sound) (hs : CallSpec new w₁ c (.ok (a, w₂))) :
      Runs new w (trace ++ [(c, a)]) w₂

lemma Runs.cons {w₁ w₂ : World ω} {trace : List (Call × Answer)} {a : Answer} (hw : w.Sound)
    (hs : CallSpec new w c (.ok (a, w₁))) (hr : Runs new w₁ trace w₂) :
    Runs new w ((c, a) :: trace) w₂ := by
  induction hr with
  | nil => exact .snoc (.nil w) hw hs
  | snoc _ hw₁ hs' ih => exact .snoc ih hw₁ hs'

lemma runs_of_run {calls : List Call} : ∀ {w : World ω} {trace : List (Call × Answer)}, w.Sound →
    w.run new calls = .ok (trace, w') → Runs new w trace w' ∧ w'.Sound ∧ trace.length = calls.length := by
  induction calls with
  | nil =>
    intro w trace hw hrun
    simp only [run, Except.ok.injEq, Prod.mk.injEq] at hrun
    obtain ⟨rfl, rfl⟩ := hrun
    exact ⟨.nil w, hw, rfl⟩
  | cons c calls ih =>
    intro w trace hw hrun
    obtain ⟨a, w₁, rest, hcall, hrest, rfl⟩ := run_cons_ok hrun
    have hs := call_spec new hw c
    rw [hcall] at hs
    obtain ⟨hr, hw', hlen⟩ := ih (hs.sound hw) hrest
    exact ⟨.cons hw hs hr, hw', by simp [hlen]⟩

/-! ## Calls that return -/

/-- The call returns, and one that places nothing changes nothing. -/
def FailsClosed (new : ω) (w : World ω) (c : Call) : Prop :=
  ∃ a w', w.call new c = .ok (a, w') ∧ (a = .handle none ∨ a = .done false → w' = w)

/-- The owner of a spawn has room in its band, unless the spawn is refused anyway. -/
def Room (w : World ω) (c : Call) : Prop :=
  ∀ owner typeId, c.spawns = some (owner, typeId) → w.live < w.capacity → owner < ownerSlots →
    (w.objects.slot owner).units.length < Band.unit.limit

lemma CallSpec.failsClosed_iff {r : Except Panic (Answer × World ω)} (hs : CallSpec new w c r) :
    (∃ a w', r = .ok (a, w') ∧ (a = .handle none ∨ a = .done false → w' = w)) ↔ Room w c := by
  cases hs with
  | refused hc hno =>
    refine ⟨fun _ owner' typeId' hc' hlive howner => ?_, fun _ => ⟨_, _, rfl, fun _ => rfl⟩⟩
    obtain ⟨rfl, rfl⟩ := Prod.mk.inj (some.inj (hc.symm.trans hc'))
    exact absurd hno (not_or.2 ⟨Nat.not_le.2 hlive, Nat.not_le.2 howner⟩)
  | placed hc _ _ hroom _ _ =>
    refine ⟨fun _ owner' typeId' hc' _ _ => ?_, fun _ => ⟨_, _, rfl, fun hno => ?_⟩⟩
    · obtain ⟨rfl, rfl⟩ := Prod.mk.inj (some.inj (hc.symm.trans hc'))
      exact hroom
    · rcases hno with hno | hno
      all_goals cases hno
  | full hc hlive howner hfull =>
    refine ⟨fun ⟨_, _, hok, _⟩ => (nomatch hok), fun hroom => ?_⟩
    exact absurd (hroom _ _ hc hlive howner) (Nat.not_lt.2 hfull)
  | stale | noOwner => exact ⟨fun _ _ _ hc' => (nomatch hc'), fun _ => ⟨_, _, rfl, fun _ => rfl⟩⟩
  | removed _ _ _ | activated _ _ =>
    refine ⟨fun _ _ _ hc' => (nomatch hc'), fun _ => ⟨_, _, rfl, fun hno => ?_⟩⟩
    rcases hno with hno | hno
    all_goals cases hno

/-- In every state that calls lead to, the next call returns and fails closed exactly when its owner has
room. -/
theorem spawning_fails_closed_iff (new : ω) (capacity : Nat) (seed : UInt64)
    (stats : List UnitTypeStats)
    (calls : List Call) (trace : List (Call × Answer)) (w : World ω)
    (hrun : (withCapacity capacity seed stats).run new calls = .ok (trace, w)) (c : Call) :
    FailsClosed new w c ↔ Room w c := by
  obtain ⟨_, hw, _⟩ := runs_of_run (withCapacity_sound capacity seed stats) hrun
  exact (call_spec new hw c).failsClosed_iff

lemma run_spawns (new : ω) {owner : Nat} (howner : owner < ownerSlots) : ∀ (n : Nat)
    {w : World ω}, w.Sound →
    w.live + n ≤ w.capacity → (w.objects.units owner).length + n ≤ Band.unit.limit →
      ∃ trace w', w.run new (List.replicate n (.spawnTyped owner 0)) = .ok (trace, w') ∧ w'.Sound ∧
        w'.live = w.live + n ∧ w'.capacity = w.capacity ∧
        (w'.objects.units owner).length = (w.objects.units owner).length + n := by
  intro n
  induction n with
  | zero =>
    intro w hw _ _
    exact ⟨[], w, rfl, hw, rfl, rfl, rfl⟩
  | succ n ih =>
    intro w hw hlive hroom
    have hs := call_spec new hw (.spawnTyped owner 0)
    generalize hcall : w.call new (.spawnTyped owner 0) = r at hs
    cases hs with
    | refused hc hno =>
      obtain ⟨rfl, rfl⟩ := Prod.mk.inj (some.inj hc)
      rcases hno with hno | hno
      · omega
      · exact absurd howner (Nat.not_lt.2 hno)
    | full hc =>
      obtain ⟨rfl, rfl⟩ := Prod.mk.inj (some.inj hc)
      omega
    | @placed _ owner' typeId h w₁ hc _ _ _ hs hw₁ =>
      obtain ⟨rfl, rfl⟩ := Prod.mk.inj (Option.some.inj hc)
      have hunits : (w₁.objects.units owner).length = (w.objects.units owner).length + 1 := by
        rw [hs.units, Function.update_self, List.length_append, List.length_singleton]
      have hlive₁ := hs.live
      have hcap₁ := hs.capacity
      obtain ⟨trace, w', hrun, hw', hl, hcap, hu⟩ := ih hw₁ (by omega) (by omega)
      refine ⟨(.spawnTyped owner 0, .handle (some h)) :: trace, w', ?_, hw', by omega, by omega, by omega⟩
      simp only [List.replicate_succ, run, bind, Except.bind, hcall, hrun, pure, Except.pure]

/-- A spawn that is refused, in a world for one unit that has it. -/
theorem second_spawn_fails_closed : ∃ trace w,
    (withCapacity 1 0 [] : World Unit).run () (List.replicate 1 (.spawnTyped 0 0)) = .ok (trace, w) ∧
      w.call () (.spawnTyped 0 0) = .ok (.handle none, w) ∧ FailsClosed () w (.spawnTyped 0 0) := by
  obtain ⟨trace, w, hrun, _, hlive, hcap, _⟩ := run_spawns () (show 0 < ownerSlots by decide) 1
    (withCapacity_sound 1 0 []) (by decide) (by decide)
  have hfull : w.capacity ≤ w.live := by
    rw [hlive, hcap]
    decide
  refine ⟨trace, w, hrun, by simp [call, spawnTyped, hfull], ?_⟩
  refine (spawning_fails_closed_iff () 1 0 [] _ trace w hrun _).2 ?_
  intro owner typeId _ hlt
  exact absurd hlt (Nat.not_lt.2 hfull)

/-- The spawn after two thousand for one owner panics, in a world for twice as many. -/
theorem spawn_panics_at_full_band : ∃ trace w,
    (withCapacity 4096 0 [] : World Unit).run () (List.replicate 2000 (.spawnTyped 0 0)) = .ok (trace, w) ∧
      w.live < w.capacity ∧ w.call () (.spawnTyped 0 0) = .error .appendMirror := by
  have hsound : (withCapacity 4096 0 [] : World Unit).Sound := withCapacity_sound 4096 0 []
  obtain ⟨trace, w, hrun, hw, hlive, hcap, hunits⟩ := run_spawns () (show 0 < ownerSlots by decide) 2000
    hsound (by decide) (by decide)
  have hcapacity : (withCapacity 4096 0 [] : World Unit).capacity = 4096 := rfl
  have hstart : (withCapacity 4096 0 [] : World Unit).live = 0 := rfl
  have hnone : ((withCapacity 4096 0 [] : World Unit).objects.units 0).length = 0 := rfl
  have hlt : w.live < w.capacity := by omega
  refine ⟨trace, w, hrun, hlt, ?_⟩
  have hs := call_spec () hw (.spawnTyped 0 0)
  generalize w.call () (.spawnTyped 0 0) = r at hs ⊢
  cases hs with
  | refused hc hno =>
    obtain ⟨rfl, rfl⟩ := Prod.mk.inj (some.inj hc)
    rcases hno with hno | hno
    · omega
    · exact absurd hno (by decide)
  | placed hc =>
    obtain ⟨rfl, rfl⟩ := Prod.mk.inj (some.inj hc)
    have hlimit : Band.unit.limit = 2000 := rfl
    omega
  | full => rfl

end World

end Don.Sim.Population
