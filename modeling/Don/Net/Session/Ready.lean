import Don.Net.Session.Loop
import Don.Net.Session.Replication

/-!
# Session.Ready — what a session does with its peer's packets, as far as ready flags go

This connects the replication protocol to a session that hears from one peer: `handle_hears` says that
a message the peer may have sent moves the session's copy of the peer's flag as the protocol says,
leaves its own flag alone, and is answered by messages that are harmless in turn.
-/

namespace Don.Net

open Foundation InternalPacket Option Outcome
open List hiding Vector

namespace Session

/-! ## Reading flags off the roster -/

section Flags

variable {τ : Type} [Transport τ] {id peer : Int32} {s s' : Session τ}

def copy (s : Session τ) (uniqueId : Int32) : Option Bool :=
  (s.find uniqueId).map (·.ready)

/-- Whoever has this id keeps id and flag. -/
def Retains (uniqueId : Int32) (s s' : Session τ) : Prop :=
  ∀ p ∈ s.players, p.uniqueId = uniqueId →
    ∃ q ∈ s'.players, q.uniqueId = uniqueId ∧ q.ready = p.ready

omit [Transport τ] in
lemma retains_of_flags
    (h : s'.players.map (fun p => (p.uniqueId, p.ready)) = s.players.map fun p => (p.uniqueId, p.ready))
    (uniqueId : Int32) : Retains uniqueId s s' := by
  rintro p hp rfl
  have hmem : (p.uniqueId, p.ready) ∈ s'.players.map fun p => (p.uniqueId, p.ready) := by
    rw [h]
    exact mem_map_of_mem hp
  rcases mem_map.1 hmem with ⟨q, hq, heq⟩
  exact ⟨q, hq, congrArg Prod.fst heq, congrArg Prod.snd heq⟩

omit [Transport τ] in
lemma copy_of_flags
    (h : s'.players.map (fun p => (p.uniqueId, p.ready)) = s.players.map fun p => (p.uniqueId, p.ready))
    (uniqueId : Int32) : s'.copy uniqueId = s.copy uniqueId := by
  have hlookup : ∀ s : Session τ, s.copy uniqueId =
      ((s.players.map fun p => (p.uniqueId, p.ready)).find? (·.1 = uniqueId)).map Prod.snd := by
    intro s
    simp [copy, find, Function.comp_def]
  rw [hlookup s', hlookup s, h]

lemma copy_of_mem (h : Seated id s) {p : Player} (hp : p ∈ s.players) :
    s.copy p.uniqueId = some p.ready := by
  cases hfind : s.find p.uniqueId with
  | none => exact absurd (mem_map_of_mem (mem_map_of_mem hp)) (find_eq_none.1 hfind)
  | some q =>
    have hid : q.uniqueId = p.uniqueId := by simpa using find?_some hfind
    obtain rfl := h.eq_of_uniqueId (mem_of_find?_eq_some hfind) hp hid
    simp [copy, hfind]

lemma localReady_of_mem (h : Seated id s) {p : Player} (hp : p ∈ s.players)
    (hid : p.uniqueId = id) : s.localReady = p.ready := by
  have hlocal : p.isLocal = true := (h.isLocal_iff hp).2 hid
  cases hfind : s.players.find? (·.isLocal) with
  | none => exact absurd hlocal (find?_eq_none.1 hfind p hp)
  | some q =>
    have hq : q ∈ s.players := mem_of_find?_eq_some hfind
    have hqid : q.uniqueId = id := (h.isLocal_iff hq).1 (find?_some hfind)
    obtain rfl := h.eq_of_uniqueId hq hp (hqid.trans hid.symm)
    simp [localReady, hfind]

lemma Seated.exists_local (h : Seated id s) : ∃ p ∈ s.players, p.uniqueId = id := by
  rcases mem_map.1 h.seating.present with ⟨a, ha, hid⟩
  rcases mem_map.1 ha with ⟨p, hp, rfl⟩
  exact ⟨p, hp, hid⟩

lemma Retains.localReady (h : Retains id s s') (hs : Seated id s) (hs' : Seated id s') :
    s'.localReady = s.localReady := by
  rcases hs.exists_local with ⟨p, hp, hid⟩
  rcases h p hp hid with ⟨q, hq, hqid, hready⟩
  rw [localReady_of_mem hs hp hid, localReady_of_mem hs' hq hqid, hready]

lemma Retains.copy (h : Retains peer s s') (hs : Seated id s) (hs' : Seated id s')
    (hknown : (s.copy peer).isSome) : s'.copy peer = s.copy peer := by
  rcases isSome_iff_exists.1 hknown with ⟨ready, hcopy⟩
  rcases map_eq_some_iff.1 hcopy with ⟨p, hfind, _⟩
  have hp : p ∈ s.players := mem_of_find?_eq_some hfind
  obtain rfl : p.uniqueId = peer := by simpa using find?_some hfind
  rcases h p hp rfl with ⟨q, hq, hqid, hready⟩
  rw [copy_of_mem hs hp, ← hqid, copy_of_mem hs' hq, hready]

omit [Transport τ] in
lemma copy_eq_none : s.copy peer = none ↔ s.find peer = none :=
  map_eq_none_iff

/-- Nobody is about to be timed out. -/
def Live (s : Session τ) : Prop :=
  ∀ p ∈ s.players, p.isLocal = true ∨ ¬ s.timeoutMs < saturatingSub s.nowMs p.lastPulseMs

omit [Transport τ] in
lemma Live.evolve (h : Live s) (hnow : s'.nowMs = s.nowMs) (htimeout : s'.timeoutMs = s.timeoutMs)
    (hplayers : ∀ q ∈ s'.players, q.lastPulseMs = s.nowMs ∨
      ∃ p ∈ s.players, p.isLocal = q.isLocal ∧ p.lastPulseMs = q.lastPulseMs) : Live s' := by
  intro q hq
  rw [hnow, htimeout]
  rcases hplayers q hq with hpulse | ⟨p, hp, hlocal, hpulse⟩
  · refine Or.inr ?_
    rw [hpulse]
    simp [saturatingSub]
  · rw [← hlocal, ← hpulse]
    exact h p hp

end Flags

/-! ## A session with one peer -/

/-- The roster facts of a session with identity `id` that only hears from `peer`. -/
structure Member {τ : Type} [Transport τ] (id peer : Int32) (role : Role) (s : Session τ) : Prop where
  hasRole : s.role = role
  seated : Seated id s
  nonzero : Nonzero id s
  marked : role = .client → ∀ a ∈ s.seats, a.isHost → a.uniqueId = peer

/-- Local calls other than a reset, and datagrams from the peer other than a host migration. -/
def Input.Ordinary {τ : Type} (peer : Int32) (i : Input τ) : Prop :=
  (∀ role, i ≠ .resetForReuse role) ∧
    ∀ d, i = .receive d → d.sender = peer ∧
      ∀ newHost, InternalPacket.decode d.bytes ≠ .ok (.migrateHost newHost)

section Member

variable {τ : Type} [Transport τ] {id peer : Int32} {role : Role} {i : Input τ} {s s' : Session τ}

omit [Transport τ] in
lemma Input.Ordinary.foreign (h : i.Ordinary peer) (hne : peer ≠ id) : i.Foreign id := by
  intro d hrec
  rw [(h.2 d hrec).1]
  exact hne

section

variable (h : Member id peer role s)
include h

lemma Member.congr (hrole : s'.role = s.role)
    (hid : s'.localId = s.localId) (hseats : s'.seats = s.seats) : Member id peer role s' := by
  refine ⟨hrole.trans h.hasRole, ⟨hid.trans h.seated.identity, ?_⟩, ?_, ?_⟩
  · rw [hseats]
    exact h.seated.seating
  · intro a ha
    exact h.nonzero a (hseats ▸ ha)
  · intro hclient a ha
    exact h.marked hclient a (hseats ▸ ha)

lemma Member.of_subset (hseated : Seated id s')
    (hnonzero : Nonzero id s') (hrole : s'.role = s.role) (hsub : ∀ a ∈ s'.seats, a ∈ s.seats) :
    Member id peer role s' :=
  ⟨hrole.trans h.hasRole, hseated, hnonzero, fun hclient a ha => h.marked hclient a (hsub a ha)⟩

lemma Member.effect (hi : i.Ordinary peer) (hne : peer ≠ id)
    (he : Effect i s s') : Member id peer role s' := by
  have hseated : Seated id s' := h.seated.effect (hi.foreign hne) he
  have hnonzero : Nonzero id s' := (h.nonzero.effect h.seated.identity he).1
  cases he with
  | touch players hseats => exact h.of_subset hseated hnonzero rfl fun a ha => hseats ▸ ha
  | join d name isHosting hrec =>
    refine ⟨h.hasRole, hseated, hnonzero, ?_⟩
    intro hclient a ha
    rw [seats_join] at ha
    rcases mem_append.1 ha with hold | hnew
    · exact h.marked hclient a hold
    · rw [mem_singleton.1 hnew]
      exact fun _ => (hi.2 d hrec).1
  | enroll d n ids hrec hd hrole hhost =>
    refine ⟨(RosterOnly.enroll s d.sender _).role.trans h.hasRole, hseated, hnonzero, ?_⟩
    intro _
    rw [← (hi.2 d hrec).1]
    exact (h.seated.enroll (commanded h.seated.seating hhost)).2
  | settle =>
    refine h.of_subset hseated hnonzero (RosterOnly.settle s _).role ?_
    intro a ha
    exact (mem_filter.1 ((seats_settle_perm s _).mem_iff.1 ha)).1
  | leave =>
    refine h.of_subset hseated hnonzero rfl ?_
    intro a ha
    rw [seats_leave] at ha
    exact (mem_filter.1 ha).1
  | reap =>
    refine h.of_subset hseated hnonzero (RosterOnly.reapTimeouts s).role ?_
    intro a ha
    rw [seats_reapTimeouts] at ha
    exact (mem_filter.1 ha).1
  | migrate d newHost hrec hd => exact absurd hd ((hi.2 d hrec).2 newHost)
  | reset role hrec => exact absurd hrec (hi.1 role)
  | _ => exact h.of_subset hseated hnonzero rfl fun a ha => ha

lemma Member.step (hi : i.Ordinary peer) (hne : peer ≠ id) : Member id peer role (s.step i) :=
  effects_preserve (P := Member id peer role) (fun _ _ hs he => hs.effect hi hne he)
    (step_effects i s) h

lemma Member.decode_playerListPacket (hid : id ≠ 0) :
    ∃ n ids, decode s.playerListPacket.encode = .ok (.playerList n ids) := by
  rcases playerListPacket_eq s with ⟨n, ids, hpacket, hactive⟩
  refine ⟨n, ids, ?_⟩
  rw [hpacket]
  refine decode_encode (p := .playerList n ids) ⟨?_, ?_, ?_⟩
  · obtain ⟨rfl, _⟩ : UInt8.ofNat (min s.players.length 8) = n ∧ _ = ids := by
      simpa [playerListPacket] using hpacket
    rw [UInt8.toNat_ofNat']
    omega
  · rw [hactive]
    intro hzero
    rcases mem_map.1 (mem_of_mem_take hzero) with ⟨a, ha, hid0⟩
    by_cases hown : a.uniqueId = id
    · exact hid (hown.symm.trans hid0)
    · exact h.nonzero a ha hown hid0
  · rw [hactive]
    exact h.seated.seating.distinct.sublist (take_sublist _ _)

end

end Member

/-! ## What a packet does to flags -/

/-- `s'` has processed the message `m` of the peer, replies apart. -/
structure Hears {τ : Type} [Transport τ] (peer : Int32) (m : Bytes) (s s' : Session τ) : Prop where
  transport : s'.transport = s.transport
  clock : s'.nowMs = s.nowMs
  timeout : s'.timeoutMs = s.timeoutMs
  copy : s'.copy peer = note (s.copy peer) m
  own : s'.localReady = s.localReady
  greeted : peer ∈ s.announcedTo → peer ∈ s'.announcedTo
  live : Live s → Live s'

/-- Messages that any end in good standing may add to what it has sent. -/
def Harmless (id : Int32) (role : Role) (own : Bool) (ms : List Bytes) : Prop :=
  ∀ copy queue, Owes id role copy queue own True → Owes id role copy (queue ++ ms) own True

lemma harmless_nil {id : Int32} {role : Role} {own : Bool} : Harmless id role own [] := by
  intro copy queue h
  simpa using h

lemma Harmless.append {id : Int32} {role : Role} {own : Bool} {a b : List Bytes}
    (ha : Harmless id role own a) (hb : Harmless id role own b) : Harmless id role own (a ++ b) := by
  intro copy queue h
  rw [← append_assoc]
  exact hb copy _ (ha copy queue h)

lemma harmless_flag {id : Int32} {role : Role} {own : Bool} :
    Harmless id role own [(readyFlag own).encode] :=
  fun _ _ h => h.flag own

section Hears

variable {id peer : Int32} {role : Role} {s s' : Session LoopTransport} {m : Bytes}

/-- Nothing but the roster and the events is changed. -/
lemma Hears.roster (hrest : (s'.transport, s'.nowMs, s'.timeoutMs, s'.announcedTo)
      = (s.transport, s.nowMs, s.timeoutMs, s.announcedTo))
    (hcopy : s'.copy peer = note (s.copy peer) m) (hown : s'.localReady = s.localReady)
    (hlive : Live s → Live s') : Hears peer m s s' := by
  simp only [Prod.mk.injEq] at hrest
  exact ⟨hrest.1, hrest.2.1, hrest.2.2.1, hcopy, hown, fun h => hrest.2.2.2 ▸ h, hlive⟩

/-- Nothing but reports changed. -/
lemma Hears.reported (hnote : note (s.copy peer) m = s.copy peer) (event : Event) :
    Hears peer m s (s.push event) :=
  .roster rfl hnote.symm rfl fun h => h

lemma Hears.pulse (hs : Seated id s) (hm : decode m = .ok .pulse)
    (hafter : Seated id (s.handlePulse peer).state) : Hears peer m s (s.handlePulse peer).state := by
  have hflags : (s.handlePulse peer).state.players.map (fun p => (p.uniqueId, p.ready))
      = s.players.map fun p => (p.uniqueId, p.ready) := by
    refine map_updateFirst ?_ s.players
    intro p _
    rfl
  have hnote : note (s.copy peer) m = s.copy peer := by simp only [note, hm]
  refine .roster rfl ?_ ((retains_of_flags hflags id).localReady hs hafter) ?_
  · rw [hnote]
    exact copy_of_flags hflags peer
  · intro hlive
    refine hlive.evolve rfl rfl ?_
    intro q hq
    rcases mem_updateFirst hq with hold | ⟨p, hp, _, rfl⟩
    · exact Or.inr ⟨q, hold, rfl, rfl⟩
    · exact Or.inl rfl

open Hears

lemma Hears.readyFlag (hs : Seated id s) (hne : peer ≠ id) {ready : Bool}
    (hm : decode m = .ok (.readyFlag ready))
    (hafter : Seated id (s.handleReadyFlag peer ready).state) :
    Hears peer m s (s.handleReadyFlag peer ready).state := by
  have hnote : note (s.copy peer) m = (s.copy peer).map fun _ => ready := by simp only [note, hm]
  unfold handleReadyFlag at hafter ⊢
  cases hfind : s.find peer with
  | none =>
    refine reported ?_ _
    rw [hnote, copy_eq_none.2 hfind]
    rfl
  | some p =>
    rw [hfind] at hafter
    have hcopy : s.copy peer = some p.ready := by simp [Session.copy, hfind]
    simp only at hafter ⊢
    split
    · rename_i hchanged
      rw [if_pos hchanged] at hafter
      refine .roster rfl ?_ ?_ ?_
      · rw [hnote, hcopy]
        have hupdated := find?_updateFirst (p := fun p : Player => decide (p.uniqueId = peer))
          (f := fun p => { p with ready }) (fun _ h => h) s.players
        have hfound : s.players.find? (fun p => decide (p.uniqueId = peer)) = some p := hfind
        rw [hfound] at hupdated
        simp [Session.copy, Session.find, push, hupdated]
      · refine Retains.localReady ?_ hs hafter
        intro q hq hqid
        rcases exists_mem_updateFirst hq with ⟨b, hb, rfl | ⟨hmatch, _⟩⟩
        · exact ⟨b, hb, hqid, rfl⟩
        · exact absurd ((of_decide_eq_true hmatch).symm.trans hqid) hne
      · intro hlive
        refine hlive.evolve rfl rfl ?_
        intro q hq
        rcases mem_updateFirst hq with hold | ⟨p, hp, _, rfl⟩
        · exact Or.inr ⟨q, hold, rfl, rfl⟩
        · exact Or.inr ⟨p, hp, rfl, rfl⟩
    · rename_i hsame
      have hready : p.ready = ready := not_not.1 hsame
      refine .roster rfl ?_ rfl (fun h => h)
      rw [hnote]
      simp only [state_ok, hcopy, hready, map_some]

lemma Member.unsay {ms : List Bytes} (h : Member id peer role (s.say ms)) : Member id peer role s :=
  h.congr rfl rfl rfl

lemma harmless_answer (h : Member id peer role s) (hid : id ≠ 0) {own : Bool} :
    ∃ ms, s.answerAdd = .ok (s.say ms) () ∧ Harmless id role own ms := by
  rw [answerAdd_eq]
  split
  · rename_i hhost
    rcases h.decode_playerListPacket hid with ⟨n, ids, hroster⟩
    refine ⟨_, rfl, ?_⟩
    intro copy queue howes
    rw [h.seated.identity]
    exact howes.answer hid (h.hasRole.symm.trans hhost) s.localName hroster
  · exact ⟨[], by rw [say_nil], harmless_nil⟩

lemma Member.claim_accepted (h : Member id peer role s) {isHosting : Bool}
    (hclaim : isHosting → role = .client) :
    ¬ (isHosting ∧ (s.role = .host ∨ s.host?.any (· ≠ peer))) := by
  rintro ⟨hhosting, hrole | hother⟩
  · rw [h.hasRole, hclaim hhosting] at hrole
    cases hrole
  cases hfind : s.players.find? (·.isHost) with
  | none => simp [host?, hfind] at hother
  | some q =>
    have hq : q.isHost = true := find?_some hfind
    have hmarked : q.uniqueId = peer :=
      h.marked (hclaim hhosting) q.seat (mem_map_of_mem (mem_of_find?_eq_some hfind)) hq
    simp [host?, hfind, hmarked] at hother

lemma Hears.addPlayer (h : Member id peer role s) (hid : id ≠ 0) {name : String}
    {isHosting : Bool} (hm : decode m = .ok (.addPlayer name peer isHosting))
    (hclaim : isHosting → role = .client)
    (hafter : Member id peer role (s.handleAddPlayer peer name peer isHosting).state) :
    ∃ s' ms, s.handleAddPlayer peer name peer isHosting = .ok (s'.say ms) () ∧
      Hears peer m s s' ∧ Harmless id role s.localReady ms := by
  have hnote : note (s.copy peer) m = some ((s.copy peer).getD false) := by simp only [note, hm]
  unfold handleAddPlayer at hafter ⊢
  rw [if_neg (not_not.2 rfl), if_neg (h.claim_accepted hclaim)] at hafter ⊢
  cases hfind : s.find peer with
  | some p =>
    rw [hfind] at hafter
    have hcopy : s.copy peer = some p.ready := by simp [Session.copy, hfind]
    simp only at hafter ⊢
    split
    · refine ⟨_, [], by rw [say_nil]; rfl, reported ?_ _, harmless_nil⟩
      rw [hnote, hcopy]
      rfl
    rename_i hagree
    rw [if_neg hagree] at hafter
    have hflags : (s.introduce peer name isHosting).players.map (fun p => (p.uniqueId, p.ready))
        = s.players.map fun p => (p.uniqueId, p.ready) := by
      refine map_updateFirst ?_ s.players
      intro p _
      rfl
    have hmember : Member id peer role (s.introduce peer name isHosting) := by
      rw [answerAdd_eq] at hafter
      split at hafter
      · exact hafter.unsay
      · exact hafter
    rcases harmless_answer hmember hid with ⟨ms, hanswer, hms⟩
    refine ⟨_, ms, hanswer, ?_, hms⟩
    refine .roster rfl ?_ ((retains_of_flags hflags id).localReady h.seated hmember.seated) ?_
    · rw [copy_of_flags hflags peer, hnote, hcopy]
      rfl
    · intro hlive
      refine hlive.evolve rfl rfl ?_
      intro q hq
      rcases mem_updateFirst hq with hold | ⟨p, hp, _, rfl⟩
      · exact Or.inr ⟨q, hold, rfl, rfl⟩
      · exact Or.inr ⟨p, hp, rfl, rfl⟩
  | none =>
    rw [hfind] at hafter
    simp only [republishReady_eq, ok_andThen] at hafter ⊢
    have hmember : Member id peer role (s.join peer name isHosting false s.players.length) := by
      rw [answerAdd_eq] at hafter
      split at hafter
      · exact hafter.unsay.unsay
      · exact hafter.unsay
    have hown : (s.join peer name isHosting false s.players.length).localReady = s.localReady := by
      refine Retains.localReady ?_ h.seated hmember.seated
      intro q hq hqid
      exact ⟨q, mem_append_left _ hq, hqid, rfl⟩
    have hsaid : Member id peer role ((s.join peer name isHosting false s.players.length).say
        [(InternalPacket.readyFlag s.localReady).encode]) :=
      hmember.congr rfl rfl rfl
    rcases harmless_answer hsaid hid with ⟨ms, hanswer, hms⟩
    refine ⟨s.join peer name isHosting false s.players.length, _, ?_, ?_, harmless_flag.append hms⟩
    · rw [hown, hanswer, say_say]
    · refine .roster rfl ?_ hown ?_
      · rw [hnote, copy_eq_none.2 hfind]
        have hnobody : s.players.find? (fun p => decide (p.uniqueId = peer)) = none := hfind
        simp [Session.copy, Session.find, join, push, hnobody]
      · intro hlive
        refine hlive.evolve rfl rfl ?_
        intro q hq
        rcases mem_append.1 hq with hold | hnew
        · exact Or.inr ⟨q, hold, rfl, rfl⟩
        · rw [mem_singleton.1 hnew]
          exact Or.inl rfl

/-- What the roster loop leaves alone: clocks, greetings, flags, and who was heard of when. -/
structure Enrolled (s s' : Session LoopTransport) : Prop where
  clock : s'.nowMs = s.nowMs
  timeout : s'.timeoutMs = s.timeoutMs
  announcedTo : s'.announcedTo = s.announcedTo
  retains : ∀ u, Retains u s s'
  pulses : ∀ q ∈ s'.players, q.lastPulseMs = s.nowMs ∨
    ∃ p ∈ s.players, p.isLocal = q.isLocal ∧ p.lastPulseMs = q.lastPulseMs

lemma enrolled_enroll (s : Session LoopTransport) (sender : Int32) (ids : List Int32) :
    Enrolled s (s.enroll sender ids).1 := by
  refine enroll_induct (P := Enrolled s) ?_ ?_ ?_
  · intro s' uid slot _ _ _ h
    refine ⟨h.clock, h.timeout, h.announcedTo, ?_, ?_⟩
    · intro u p hp hid
      rcases h.retains u p hp hid with ⟨q, hq, hqid, hready⟩
      rcases exists_mem_updateFirst hq with ⟨b, hb, rfl | ⟨_, rfl⟩⟩
      · exact ⟨b, hb, hqid, hready⟩
      · exact ⟨_, hb, hqid, hready⟩
    · intro q hq
      rcases mem_updateFirst hq with hold | ⟨p, hp, _, rfl⟩
      · exact h.pulses q hold
      · exact h.pulses p hp
  · intro s' uid slot _ _ _ h
    refine ⟨h.clock, h.timeout, h.announcedTo, ?_, ?_⟩
    · intro u p hp hid
      rcases h.retains u p hp hid with ⟨q, hq, hqid, hready⟩
      exact ⟨q, mem_append_left _ hq, hqid, hready⟩
    · intro q hq
      rcases mem_append.1 hq with hold | hnew
      · exact h.pulses q hold
      · rw [mem_singleton.1 hnew]
        exact Or.inl h.clock
  · exact ⟨rfl, rfl, rfl, fun u p hp hid => ⟨p, hp, hid, rfl⟩, fun q hq => Or.inr ⟨q, hq, rfl, rfl⟩⟩

variable {keep : List Int32}

lemma mem_players_settle {s : Session LoopTransport} {p : Player} :
    p ∈ (s.settle keep).players ↔ p ∈ s.players ∧ p.uniqueId ∉ s.absentees keep := by
  rw [settle_eq, removeAll_eq]
  simp

lemma say_settle (s : Session LoopTransport) (ms : List Bytes) (keep : List Int32) :
    (s.say ms).settle keep = (s.settle keep).say ms := by
  rw [settle_eq, settle_eq, removeAll_eq, removeAll_eq]
  rfl

lemma not_absent {s : Session LoopTransport} {u : Int32} (h : u ∈ keep) :
    u ∉ s.absentees keep := by
  intro habsent
  rcases mem_absentees habsent with ⟨_, _, _, _, hmissing⟩
  exact hmissing h

variable {ids : Vector Int32 8}

lemma head_mem_active {n : UInt8} {u : Int32}
    (h : u ∈ active n ids) : ids.head ∈ active n ids := by
  unfold active at h ⊢
  cases hn : n.toNat with
  | zero => simp [hn] at h
  | succ =>
    rw [mem_take_iff_getElem]
    exact ⟨0, by simp, by simp [Vector.head]⟩

lemma Hears.settled (h : Seated id s) (hknown : (s.copy peer).isSome) {n : UInt8}
    (hm : decode m = .ok (.playerList n ids))
    (hpeer : peer ∈ keep) (hid : id ∈ keep)
    (hafter : Seated id ((s.enroll peer keep).1.settle keep)) :
    Hears peer m s ((s.enroll peer keep).1.settle keep) := by
  have henrolled := enrolled_enroll s peer keep
  have honly := RosterOnly.enroll s peer keep
  have hretains : ∀ u ∈ keep, Retains u s ((s.enroll peer keep).1.settle keep) := by
    intro u hu p hp hpid
    rcases henrolled.retains u p hp hpid with ⟨q, hq, hqid, hready⟩
    refine ⟨q, mem_players_settle.2 ⟨hq, ?_⟩, hqid, hready⟩
    rw [hqid]
    exact not_absent hu
  have hnote : note (s.copy peer) m = s.copy peer := by simp only [note, hm]
  refine
    { transport := (RosterOnly.settle _ keep).transport.trans honly.transport
      clock := ?_
      timeout := ?_
      copy := ?_
      own := (hretains id hid).localReady h hafter
      greeted := ?_
      live := ?_ }
  · rw [settle_eq, removeAll_eq]
    exact henrolled.clock
  · rw [settle_eq, removeAll_eq]
    exact henrolled.timeout
  · rw [hnote]
    exact (hretains peer hpeer).copy h hafter hknown
  · intro hgreeted
    rw [settle_eq, removeAll_eq]
    simp only [henrolled.announcedTo, mem_filter, decide_eq_true_eq]
    exact ⟨hgreeted, not_absent hpeer⟩
  · intro hlive
    refine hlive.evolve ?_ ?_ ?_
    · rw [settle_eq, removeAll_eq]
      exact henrolled.clock
    · rw [settle_eq, removeAll_eq]
      exact henrolled.timeout
    · intro q hq
      exact henrolled.pulses q (mem_players_settle.1 hq).1

lemma Hears.playerList (h : Member id peer role s) {n : UInt8}
    (hknown : (s.copy peer).isSome) (hm : decode m = .ok (.playerList n ids))
    (hafter : Member id peer role (s.handlePlayerList peer n ids).state) :
    ∃ s' ms, s.handlePlayerList peer n ids = .ok (s'.say ms) () ∧
      Hears peer m s s' ∧ Harmless id role s.localReady ms := by
  have hrefused : ∀ reason, ∃ s' ms, s.refuse peer reason = .ok (s'.say ms) () ∧
      Hears peer m s s' ∧ Harmless id role s.localReady ms := by
    intro reason
    refine ⟨_, [], by rw [say_nil]; rfl, reported ?_ _, harmless_nil⟩
    simp only [note, hm]
  unfold handlePlayerList at hafter ⊢
  simp only at hafter ⊢
  split
  · exact hrefused _
  rename_i hrole
  rw [if_neg hrole] at hafter
  cases hmismatch : s.host?.filter (· ≠ peer) with
  | some => exact hrefused _
  | none =>
    rw [hmismatch] at hafter
    simp only at hafter ⊢
    split
    · exact hrefused _
    rename_i hhead
    rw [if_neg hhead] at hafter
    split
    · exact hrefused _
    rename_i hlocal
    rw [if_neg hlocal] at hafter
    have hown : id ∈ active n ids := h.seated.identity ▸ not_not.1 hlocal
    have hpeer : peer ∈ active n ids := not_not.1 hhead ▸ head_mem_active hown
    split
    · rename_i hgrew
      rw [if_pos hgrew, republishReady_eq, ok_andThen, say_settle] at hafter
      rw [republishReady_eq, ok_andThen, say_settle]
      have hhears := settled h.seated hknown hm hpeer hown hafter.unsay.seated
      have hhost : ∀ host ∈ s.host?, host = peer := by
        intro host hhost
        by_contra hne
        simp [mem_def.1 hhost, hne] at hmismatch
      have hseated : Seated id (s.enroll peer (active n ids)).1 :=
        (h.seated.enroll (commanded h.seated.seating hhost)).1
      have hsame := ((enrolled_enroll s peer _).retains id).localReady h.seated hseated
      rw [hsame]
      exact ⟨_, _, rfl, hhears, harmless_flag⟩
    · rename_i hgrew
      rw [if_neg hgrew] at hafter
      exact ⟨_, [], by rw [say_nil], settled h.seated hknown hm hpeer hown hafter.seated,
        harmless_nil⟩

lemma handleReadyFlag_ok (s : Session LoopTransport) (sender : Int32) (ready : Bool) :
    s.handleReadyFlag sender ready = .ok (s.handleReadyFlag sender ready).state () := by
  unfold handleReadyFlag
  cases s.find sender with
  | none => rfl
  | some =>
    simp only
    split <;> rfl

/-- Any message the peer may have sent: the copy follows it, and the replies are harmless. -/
lemma handle_hears {peerRole : Role} (h : Member id peer role s) (hid : id ≠ 0) (hne : peer ≠ id)
    (hroles : peerRole = .host → role = .client) {d : Datagram} (hsender : d.sender = peer)
    (hadmits : Admits peer peerRole (s.copy peer) d.bytes) :
    ∃ s' ms, s.handle d = .ok (s'.say ms) () ∧ Hears peer d.bytes s s' ∧
      Harmless id role s.localReady ms ∧ Member id peer role s' := by
  unfold Admits at hadmits
  cases hd : decode d.bytes with
  | error =>
    rw [hd] at hadmits
    exact hadmits.elim
  | ok p =>
    rw [hd] at hadmits
    have hafter : Member id peer role (s.handle d).state := by
      refine h.step (i := .receive d) ⟨by simp, ?_⟩ hne
      rintro _ ⟨⟩
      refine ⟨hsender, ?_⟩
      rintro newHost hmigrate
      rw [hd] at hmigrate
      cases hmigrate
      exact hadmits
    have hreplies : ∃ s' ms, s.handle d = .ok (s'.say ms) () ∧ Hears peer d.bytes s s' ∧
        Harmless id role s.localReady ms := by
      rw [handle_internal hd, hsender] at hafter ⊢
      cases p with
      | addPlayer =>
        obtain ⟨rfl, hhosting⟩ := hadmits
        exact addPlayer h hid hd (fun hh => hroles (hhosting hh)) hafter
      | playerList => exact playerList h hadmits hd hafter
      | readyFlag ready =>
        refine ⟨_, [], ?_, readyFlag h.seated hne hd hafter.seated, harmless_nil⟩
        rw [say_nil]
        exact handleReadyFlag_ok s peer ready
      | pulse =>
        refine ⟨_, [], ?_, pulse h.seated hd hafter.seated, harmless_nil⟩
        rw [say_nil]
        rfl
      | _ => exact hadmits.elim
    rcases hreplies with ⟨s', ms, hhandle, hhears, hms⟩
    rw [hhandle] at hafter
    exact ⟨s', ms, hhandle, hhears, hms, hafter.unsay⟩

end Hears

end Session

end Don.Net
