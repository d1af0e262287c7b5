import Don.Net.Session.Turns

/-!
# Session.Gate — what an open lockstep gate means

`turn_ready` opens when a stamp has as many packages as the roster has players.  Packages are filed
under a slot number the *sender* chose, so the count says nothing by itself: one peer can fill two
slots, and a package of a departed player still counts.  `gate_covers_roster` states the discipline
under which an open gate means a package from every player, filed by that player under its own slot.

Who filed a package is not stored in a session, so runs are tracked with a ghost record of it.
-/

namespace Don.Net

open Foundation InternalPacket List Option
open Std (ExtTreeMap)

namespace Session

variable {τ : Type} [Transport τ]

/-- Who filed the package last stored for a stamp and slot. -/
abbrev Filers := UInt32 → Int8 → Option Int32

def Filers.record (filers : Filers) (stamp : UInt32) (play : Int8) (id : Int32) : Filers :=
  fun stamp' play' => if stamp' = stamp ∧ play' = play then some id else filers stamp' play'

/-- The record after an input: a received package is its sender's, a queued one ours. -/
def filersAfter (s : Session τ) (filers : Filers) : Input τ → Filers
  | .receive d =>
    match NetMsg.decode d.bytes with
    | .ok ⟨_, .commandPackage stamp play _⟩ => filers.record stamp play d.sender
    | _ => filers
  | .sendCommandPackage stamp play payload =>
    match (s.sendCommandPackage stamp play payload).result with
    | .ok _ => filers.record stamp play s.localId
    | .error _ => filers
  | _ => filers

structure Tracked (τ : Type) where
  session : Session τ
  filers : Filers

def Tracked.step (t : Tracked τ) (i : Input τ) : Tracked τ :=
  { session := t.session.step i
    filers := filersAfter t.session t.filers i }

/-- Some stamp has a package under this slot. -/
def Queued (s : Session τ) (slot : Nat) : Prop :=
  ∃ stamp play package, s.packageForTurn stamp play = some package ∧ play.toInt = slot

/-- Orderly use.  A package is filed by a player under that player's own slot; and no player under
whose slot a package is queued leaves, times out or is moved to another slot. -/
def Input.Orderly (s : Session τ) : Input τ → Prop
  | .receive d =>
    (∀ ty stamp play payload,
      NetMsg.decode d.bytes = .ok ⟨ty, .commandPackage stamp play payload⟩ →
        ∃ a ∈ s.seats, a.uniqueId = d.sender ∧ (a.slot : Int) = play.toInt) ∧
    (InternalPacket.decode d.bytes = .ok (.destroyPlayer d.sender) →
      ∀ a ∈ s.seats, a.uniqueId = d.sender → ¬ s.Queued a.slot) ∧
    (∀ n ids, InternalPacket.decode d.bytes = .ok (.playerList n ids) →
      ∀ a ∈ s.seats, s.Queued a.slot →
        (InternalPacket.active n ids)[a.slot]? = some a.uniqueId)
  | .sendCommandPackage _ play _ =>
    ∃ a ∈ s.seats, a.uniqueId = s.localId ∧ (a.slot : Int) = play.toInt
  | .pollEnd => ∀ a ∈ s.seats, s.Queued a.slot → a.uniqueId ∉ s.lapsed
  | _ => True

/-- Every stored package lies under the slot of the player who filed it. -/
def Attributed (filers : Filers) (s : Session τ) : Prop :=
  ∀ stamp play package, s.packageForTurn stamp play = some package →
    package.play = play ∧
      ∃ a ∈ s.seats, (a.slot : Int) = play.toInt ∧ filers stamp play = some a.uniqueId

section Invariant

variable {filers : Filers} {i : Input τ} {s s' : Session τ}

omit [Transport τ] in
lemma queued_congr (h : s'.turns = s.turns) (slot : Nat) : s'.Queued slot ↔ s.Queued slot := by
  simp only [Queued, packageForTurn_congr h]

omit [Transport τ] in
/-- Attribution only needs the seats of queued players to survive, in place. -/
lemma Attributed.transfer (h : Attributed filers s) (hturns : s'.turns = s.turns)
    (hseats : ∀ a ∈ s.seats, s.Queued a.slot →
      ∃ b ∈ s'.seats, b.uniqueId = a.uniqueId ∧ b.slot = a.slot) : Attributed filers s' := by
  intro stamp play package hget
  rw [packageForTurn_congr hturns] at hget
  rcases h stamp play package hget with ⟨hplay, a, ha, hslot, hfiler⟩
  rcases hseats a ha ⟨stamp, play, package, hget, hslot.symm⟩ with ⟨b, hb, hid, hbslot⟩
  exact ⟨hplay, b, hb, by rw [hbslot, hslot], by rw [hid, hfiler]⟩

omit [Transport τ] in
lemma Attributed.shrink (h : Attributed filers s) (hseats : s'.seats = s.seats)
    (hturns : ∀ stamp play package, s'.packageForTurn stamp play = some package →
      s.packageForTurn stamp play = some package) : Attributed filers s' := by
  intro stamp play package hget
  rw [hseats]
  exact h stamp play package (hturns stamp play package hget)

variable {stamp : UInt32}

omit [Transport τ] in
lemma Attributed.file (h : Attributed filers s) {play : Int8} {payload : Bytes}
    {id : Int32} (hown : ∃ a ∈ s.seats, a.uniqueId = id ∧ (a.slot : Int) = play.toInt)
    (hseats : s'.seats = s.seats)
    (hturns : s'.turns = (s.filePackage ⟨stamp, play, payload⟩).turns) :
    Attributed (filers.record stamp play id) s' := by
  intro stamp' play' package hget
  rw [packageForTurn_congr hturns, packageForTurn_filePackage] at hget
  rw [hseats]
  unfold Filers.record
  by_cases hkey : stamp = stamp' ∧ play = play'
  · obtain ⟨rfl, rfl⟩ := hkey
    rw [if_pos ⟨rfl, rfl⟩] at hget
    cases hget
    rcases hown with ⟨a, ha, hid, hslot⟩
    exact ⟨rfl, a, ha, hslot, by simp [hid]⟩
  · rw [if_neg hkey] at hget
    have hother : ¬ (stamp' = stamp ∧ play' = play) := fun h => hkey ⟨h.1.symm, h.2.symm⟩
    simp only [if_neg hother]
    exact h stamp' play' package hget

/-- What orderly use guarantees during a roster packet: queued players are listed in place. -/
def Listed (ids : List Int32) (s : Session τ) : Prop :=
  ∀ a ∈ s.seats, s.Queued a.slot → ids[a.slot]? = some a.uniqueId

lemma attributed_enroll (h : Attributed filers s) {ids : List Int32} (hlisted : Listed ids s)
    (hnodup : ids.Nodup) (sender : Int32) :
    Attributed filers (s.enroll sender ids).1 ∧ Listed ids (s.enroll sender ids).1 := by
  refine enroll_induct (P := fun s => Attributed filers s ∧ Listed ids s) ?_ ?_ ⟨h, hlisted⟩
  · rintro s id slot hentry - - ⟨hs, hl⟩
    have hat : ids[slot]? = some id := mem_zipIdx_iff_getElem?.1 hentry
    -- a queued player that is reseated gets the slot it has
    have hplace : ∀ a ∈ s.seats, s.Queued a.slot → a.uniqueId = id → slot = a.slot := by
      intro a ha hq hid
      have hat' : ids[a.slot]? = some id := hid ▸ hl a ha hq
      have hlt : slot < ids.length := (List.getElem?_eq_some_iff.1 hat).1
      exact (getElem?_inj hlt hnodup).1 (hat.trans hat'.symm)
    refine ⟨hs.transfer rfl ?_, ?_⟩
    · intro a ha hq
      rw [seats_reseat]
      rcases exists_mem_updateFirst ha with ⟨b, hb, rfl | ⟨hid, rfl⟩⟩
      · exact ⟨b, hb, rfl, rfl⟩
      · exact ⟨_, hb, rfl, hplace a ha hq (of_decide_eq_true hid)⟩
    · intro b hb hq
      rw [seats_reseat] at hb
      rcases mem_updateFirst hb with hold | ⟨a, ha, hid, rfl⟩
      · exact hl b hold hq
      · rw [of_decide_eq_true hid]
        exact hat
  · rintro s id slot hentry - - ⟨hs, hl⟩
    have hat : ids[slot]? = some id := mem_zipIdx_iff_getElem?.1 hentry
    refine ⟨hs.transfer rfl ?_, ?_⟩
    · intro a ha _
      exact ⟨a, by rw [seats_join]; exact mem_append_left _ ha, rfl, rfl⟩
    · intro b hb hq
      rw [seats_join] at hb
      rcases mem_append.1 hb with hold | hnew
      · exact hl b hold hq
      · rw [mem_singleton.1 hnew]
        exact hat

omit [Transport τ] in
lemma attributed_settle (h : Attributed filers s) {ids : List Int32} (hlisted : Listed ids s) :
    Attributed filers (s.settle ids) ∧ Listed ids (s.settle ids) := by
  have hturns : (s.settle ids).turns = s.turns := (RosterOnly.settle s ids).turns
  have hperm := seats_settle_perm s ids
  refine ⟨h.transfer hturns ?_, ?_⟩
  · intro a ha hq
    refine ⟨a, hperm.mem_iff.2 (mem_filter.2 ⟨ha, ?_⟩), rfl, rfl⟩
    rw [decide_eq_true_eq]
    intro hdropped
    rcases mem_absentees hdropped with ⟨_, _, _, _, hmissing⟩
    exact hmissing (mem_of_getElem? (hlisted a ha hq))
  · intro a ha hq
    exact hlisted a (mem_filter.1 (hperm.mem_iff.1 ha)).1 ((queued_congr hturns _).1 hq)

/-- What an input that files nothing keeps through each of its effects: attribution, and the part of
orderly use that protects it. -/
structure Kept (filers : Filers) (i : Input τ) (s : Session τ) : Prop where
  attributed : Attributed filers s
  listed : ∀ d n ids, i = .receive d → InternalPacket.decode d.bytes = .ok (.playerList n ids) →
    Listed (InternalPacket.active n ids) s
  leaving : ∀ d, i = .receive d → InternalPacket.decode d.bytes = .ok (.destroyPlayer d.sender) →
    ∀ a ∈ s.seats, a.uniqueId = d.sender → ¬ s.Queued a.slot

omit [Transport τ] in
lemma Kept.congr (h : Kept filers i s) (hturns : s'.turns = s.turns) (hseats : s'.seats = s.seats) :
    Kept filers i s' := by
  refine ⟨?_, ?_, ?_⟩
  · exact h.attributed.transfer hturns fun a ha _ => ⟨a, hseats ▸ ha, rfl, rfl⟩
  · intro d n ids hrec hd a ha hq
    exact h.listed d n ids hrec hd a (hseats ▸ ha) ((queued_congr hturns _).1 hq)
  · intro d hrec hd a ha hid hq
    exact h.leaving d hrec hd a (hseats ▸ ha) hid ((queued_congr hturns _).1 hq)

def Input.Files : Input τ → Prop
  | .receive d =>
    ∃ ty stamp play payload, NetMsg.decode d.bytes = .ok ⟨ty, .commandPackage stamp play payload⟩
  | .sendCommandPackage .. => True
  | _ => False

lemma Kept.effect (h : Kept filers i s) (hfile : ¬ i.Files) (hend : i ≠ .pollEnd)
    (he : Effect i s s') : Kept filers i s' := by
  cases he with
  | silent | note | gameKey | startLocal | startRemote | drain => exact h.congr rfl rfl
  | touch players hseats => exact h.congr rfl hseats
  | fileLocal stamp play payload hrec =>
    subst hrec
    exact absurd trivial hfile
  | fileRemote d ty stamp play payload hrec hd =>
    subst hrec
    exact absurd ⟨ty, stamp, play, payload, hd⟩ hfile
  | reap hrec => exact absurd hrec hend
  | join d name isHosting hrec hd =>
    subst hrec
    refine ⟨h.attributed.transfer rfl ?_, ?_, ?_⟩
    · intro a ha _
      exact ⟨a, by rw [seats_join]; exact mem_append_left _ ha, rfl, rfl⟩
    · rintro _ n ids ⟨⟩ hd'
      simp [hd] at hd'
    · rintro _ ⟨⟩ hd'
      simp [hd] at hd'
  | enroll d n ids hrec hd =>
    subst hrec
    have hnodup : (active n ids).Nodup := (decode_spec hd).2.2.2
    rcases attributed_enroll h.attributed (h.listed d n ids rfl hd) hnodup d.sender with ⟨hatt, hl⟩
    refine ⟨hatt, ?_, ?_⟩
    · rintro _ n' ids' ⟨⟩ hd'
      rw [hd] at hd'
      cases hd'
      exact hl
    · rintro _ ⟨⟩ hd'
      simp [hd] at hd'
  | settle d n ids hrec hd =>
    subst hrec
    rcases attributed_settle h.attributed (h.listed d n ids rfl hd) with ⟨hatt, hl⟩
    refine ⟨hatt, ?_, ?_⟩
    · rintro _ n' ids' ⟨⟩ hd'
      rw [hd] at hd'
      cases hd'
      exact hl
    · rintro _ ⟨⟩ hd'
      simp [hd] at hd'
  | leave d hrec hd =>
    subst hrec
    refine ⟨h.attributed.transfer rfl ?_, ?_, ?_⟩
    · intro a ha hq
      refine ⟨a, ?_, rfl, rfl⟩
      rw [seats_leave, mem_filter, decide_eq_true_eq]
      exact ⟨ha, fun hid => h.leaving d rfl hd a ha hid hq⟩
    · rintro _ n ids ⟨⟩ hd'
      simp [hd] at hd'
    · rintro _ ⟨⟩ _ a ha hid
      rw [seats_leave, mem_filter, decide_eq_true_eq] at ha
      exact absurd hid ha.2
  | migrate d newHost hrec hd =>
    subst hrec
    have hturns : (s.handleMigrateHost newHost).state.turns = s.turns := by
      simp only [handleMigrateHost, Outcome.state_ok]
      split <;> rfl
    refine ⟨h.attributed.transfer hturns ?_, ?_, ?_⟩
    · intro a ha _
      rw [seats_handleMigrateHost]
      exact ⟨_, mem_map_of_mem ha, rfl, rfl⟩
    · rintro _ n ids ⟨⟩ hd'
      simp [hd] at hd'
    · rintro _ ⟨⟩ hd'
      simp [hd] at hd'
  | take stamp hrec =>
    subst hrec
    refine ⟨h.attributed.shrink rfl ?_, by simp, by simp⟩
    intro stamp' play package hget
    by_cases heq : stamp = stamp'
    · subst heq
      simp [packageForTurn] at hget
    · rwa [packageForTurn_erase heq] at hget
  | reset role hrec =>
    subst hrec
    refine ⟨?_, by simp, by simp⟩
    intro stamp play package hget
    simp [packageForTurn, resetForReuse] at hget

lemma filersAfter_of_not_files (hfile : ¬ i.Files) : filersAfter s filers i = filers := by
  cases i with
  | receive d =>
    cases hd : NetMsg.decode d.bytes with
    | error => simp only [filersAfter, hd]
    | ok f =>
      rcases f with ⟨ty, msg⟩
      cases msg with
      | commandPackage stamp play payload =>
        exact absurd ⟨ty, stamp, play, payload, hd⟩ hfile
      | _ => simp only [filersAfter, hd]
  | sendCommandPackage => exact absurd trivial hfile
  | _ => rfl

lemma attributed_sendCommandPackage (h : Attributed filers s) {play : Int8} {payload : Bytes}
    (hown : ∃ a ∈ s.seats, a.uniqueId = s.localId ∧ (a.slot : Int) = play.toInt) :
    Attributed (filersAfter s filers (.sendCommandPackage stamp play payload))
      (s.sendCommandPackage stamp play payload).state := by
  rcases sendCommandPackage_spec s stamp play payload with ⟨hseats, hturns⟩
  simp only [filersAfter]
  cases hres : (s.sendCommandPackage stamp play payload).result with
  | ok =>
    rw [hres] at hturns
    exact h.file hown hseats hturns
  | error =>
    rw [hres] at hturns
    exact h.transfer hturns fun a ha _ => ⟨a, hseats ▸ ha, rfl, rfl⟩

omit [Transport τ] in
lemma attributed_pollEnd (h : Attributed filers s)
    (hstay : ∀ a ∈ s.seats, s.Queued a.slot → a.uniqueId ∉ s.lapsed) :
    Attributed filers s.pollEnd := by
  have hreap : Attributed filers s.reapTimeouts := by
    refine h.transfer (RosterOnly.reapTimeouts s).turns ?_
    intro a ha hq
    refine ⟨a, ?_, rfl, rfl⟩
    rw [seats_reapTimeouts, mem_filter, decide_eq_true_eq]
    exact ⟨ha, hstay a ha hq⟩
  unfold pollEnd noteAllReady
  split
  · exact hreap
  · split
    all_goals exact hreap

/-- One orderly step keeps every package under the slot of the player who filed it. -/
lemma Attributed.step (h : Attributed filers s) (hi : i.Orderly s) :
    Attributed (filersAfter s filers i) (s.step i) := by
  by_cases hfile : i.Files
  · cases i with
    | receive =>
      rcases hfile with ⟨ty, stamp, play, payload, hd⟩
      rw [step_commandPackage hd]
      simp only [filersAfter, hd]
      exact h.file (hi.1 ty stamp play payload hd) rfl rfl
    | sendCommandPackage => exact attributed_sendCommandPackage h hi
    | _ => exact hfile.elim
  · rw [filersAfter_of_not_files hfile]
    by_cases hend : i = .pollEnd
    · subst hend
      exact attributed_pollEnd h hi
    have hkept : Kept filers i s := by
      refine ⟨h, ?_, ?_⟩
      · rintro d n ids rfl hd
        exact hi.2.2 n ids hd
      · rintro d rfl hd
        exact hi.2.1 hd
    have hafter : Kept filers i (s.step i) :=
      effects_preserve (P := Kept filers i) (fun _ _ hs he => hs.effect hfile hend he)
        (step_effects i s) hkept
    exact hafter.attributed

/-- Everyone in the roster has filed a package for the stamp under their own slot, and nobody two. -/
structure Covered (filers : Filers) (s : Session τ) (stamp : UInt32) : Prop where
  everyone : ∀ p ∈ s.players, ∃ package : TurnPackage, package.play.toInt = p.slot ∧
    s.packageForTurn stamp package.play = some package ∧
    filers stamp package.play = some p.uniqueId
  once : ∀ play play' u, (s.packageForTurn stamp play).isSome → (s.packageForTurn stamp play').isSome →
    filers stamp play = some u → filers stamp play' = some u → play = play'

omit [Transport τ] in
/-- With every package under its filer's slot, as many packages as players is one for each player. -/
lemma Attributed.covers (h : Attributed filers s) (hdistinct : Distinct s)
    (hready : s.turnReady stamp) : Covered filers s stamp := by
  have hseat : ∀ a ∈ s.seats, ∀ b ∈ s.seats, a.uniqueId = b.uniqueId → a = b :=
    fun a ha b hb heq => inj_on_of_nodup_map hdistinct ha hb heq
  refine ⟨?_, ?_⟩
  · cases hmap : s.turns[stamp]? with
    | none => simp [turnReady, hmap] at hready
    | some packages =>
      have hstored : ∀ play, s.packageForTurn stamp play = packages[play]? := by
        intro play
        simp [packageForTurn, hmap]
      have hlen : (s.seats.map fun a => (a.slot : Int)).length ≤ packages.size := by
        simpa [turnReady, hmap, seats] using hready
      -- the keys are slots of the roster, so by their number they are all of them, once each
      have hperm : (packages.keys.map Int8.toInt).Perm (s.seats.map fun a => (a.slot : Int)) := by
        refine map_keys_perm (fun _ _ => Int8.toInt_inj.1) ?_ hlen
        intro play hplay
        rcases h stamp play packages[play] (by simp [hstored]) with ⟨_, a, ha, hslot, _⟩
        exact mem_map.2 ⟨a, ha, hslot⟩
      have hslots : (s.seats.map fun a => (a.slot : Int)).Nodup :=
        hperm.nodup_iff.1 (ExtTreeMap.nodup_keys.map fun _ _ => Int8.toInt_inj.1)
      intro p hp
      have hpseat : p.seat ∈ s.seats := mem_map_of_mem hp
      rcases mem_map.1 (hperm.mem_iff.2 (mem_map_of_mem hpseat)) with ⟨play, hkey, hplay⟩
      have hmem : play ∈ packages := ExtTreeMap.mem_keys.1 hkey
      have hget : s.packageForTurn stamp play = some packages[play] := by simp [hstored]
      rcases h stamp play _ hget with ⟨hown, a, ha, hslot, hfiler⟩
      have heq : a = p.seat :=
        inj_on_of_nodup_map hslots ha hpseat (hslot.trans hplay)
      refine ⟨packages[play], ?_, ?_, ?_⟩
      · rw [hown]
        exact hplay
      · rw [hown]
        exact hget
      · rw [hown, hfiler, heq]
        rfl
  · intro play play' u hplay hplay' hu hu'
    rcases isSome_iff_exists.1 hplay with ⟨package, hget⟩
    rcases isSome_iff_exists.1 hplay' with ⟨package', hget'⟩
    rcases h stamp play package hget with ⟨_, a, ha, hslot, hfiler⟩
    rcases h stamp play' package' hget' with ⟨_, b, hb, hslot', hfiler'⟩
    have hab : a = b := by
      refine hseat a ha b hb (some.inj ?_)
      rw [← hfiler, ← hfiler', hu, hu']
    exact Int8.toInt_inj.1 (by rw [← hslot, ← hslot', hab])

end Invariant

/-! ## Runs -/

def Tracked.new (t : τ) (role : Role) (name : String) : Tracked τ :=
  { session := Session.new t role name
    filers := fun _ _ => none }

/-- The record is only watched: the tracked session is the session. -/
lemma session_run_tracked (t : Tracked τ) (inputs : List (Input τ)) :
    (run Tracked.step t inputs).session = run step t.session inputs := by
  induction inputs generalizing t with
  | nil => rfl
  | cons i rest ih => exact ih (t.step i)

/-- In every state of every orderly run, an open gate means a package from every player, filed by
that player under its own slot, and no two packages from one player. -/
theorem gate_covers_roster (t : τ) (role : Role) (name : String) (inputs : List (Input τ))
    (horderly : Admissible Tracked.step (fun t i => i.Orderly t.session)
      (Tracked.new t role name) inputs) :
    ∀ pre, pre <+: inputs → ∀ stamp,
      (run step (Session.new t role name) pre).turnReady stamp →
        Covered (run Tracked.step (Tracked.new t role name) pre).filers
          (run step (Session.new t role name) pre) stamp := by
  have hinv : Throughout Tracked.step
      (fun t => ∀ stamp, t.session.turnReady stamp → Covered t.filers t.session stamp)
      (Tracked.new t role name) inputs := by
    refine throughout_of_admissible
      (I := fun t => Attributed t.filers t.session ∧ Distinct t.session) ?_ ?_ inputs _ ?_ horderly
    · intro t i hs hi
      exact ⟨hs.1.step hi, hs.2.step i⟩
    · intro t hs stamp hready
      exact hs.1.covers hs.2 hready
    · refine ⟨?_, List.nodup_singleton _⟩
      intro stamp play package hget
      simp [packageForTurn, Session.new, Tracked.new] at hget
  intro pre hpre stamp hready
  rw [throughout_iff_prefixes] at hinv
  have hend := hinv pre hpre stamp
  rw [session_run_tracked] at hend
  exact hend hready

/-- Two players, each filing its own package: the gate opens on both. -/
theorem gate_covers_two_players :
    let hello : Datagram := ⟨2, (InternalPacket.addPlayer "b" 2 false).encode⟩
    let theirs : Datagram := ⟨2, (NetMsg.commandPackage 5 1 [7]).encode⟩
    let inputs := [.receive hello, .sendCommandPackage 5 0 [], .receive theirs]
    let fresh := Session.new (LoopTransport.new 1) .host "a"
    (run step fresh inputs).turnReady 5 ∧
      Covered (run Tracked.step (Tracked.new (LoopTransport.new 1) .host "a") inputs).filers
        (run step fresh inputs) 5 := by
  intro hello theirs inputs fresh
  have hhello : InternalPacket.decode hello.bytes = .ok (.addPlayer "b" 2 false) := by
    decide
  have hhelloGame : NetMsg.decode hello.bytes = .error (.isInternal 132) := by decide
  have htheirs : NetMsg.decode theirs.bytes = .ok ⟨⟨7, false⟩, .commandPackage 5 1 [7]⟩ := by
    decide
  have htheirsInternal : InternalPacket.decode theirs.bytes = .error (.notInternal 7) := by
    decide
  have hready : (run step fresh inputs).turnReady 5 := by decide
  refine ⟨hready, ?_⟩
  refine gate_covers_roster (LoopTransport.new 1) .host "a" inputs ?_ inputs (List.prefix_refl _) 5
    hready
  refine ⟨⟨?_, ?_, ?_⟩, ?_, ⟨?_, ?_, ?_⟩, trivial⟩
  · simp [hhelloGame]
  · simp [hhello]
  · simp [hhello]
  · exact ⟨⟨1, true, true, 0⟩, by decide, by decide, by decide⟩
  · intro ty stamp play payload hd
    rw [htheirs] at hd
    cases hd
    exact ⟨⟨2, false, false, 1⟩, by decide, rfl, by decide⟩
  all_goals simp [htheirsInternal]

/-- One peer opens the gate alone, with packages under two slots nobody occupies. -/
theorem gate_opened_by_one_peer :
    let s := run step (Session.new (LoopTransport.new 1) .host "a")
      [.receive ⟨2, (InternalPacket.addPlayer "b" 2 false).encode⟩,
        .receive ⟨2, (NetMsg.commandPackage 5 6 []).encode⟩,
        .receive ⟨2, (NetMsg.commandPackage 5 7 []).encode⟩]
    s.turnReady 5 ∧ s.players.map (·.slot) = [0, 1] ∧ s.packageForTurn 5 0 = none ∧
      s.packageForTurn 5 1 = none := by
  decide

end Session

end Don.Net
