import Don.Net.Session.Effects

/-!
# Session.Roster — who is in a session

The roster invariant, stated over seats: unique ids are distinct, exactly one seat is ours, at most
one seat is the host's.  It holds in every state of every run.  The link between `role` and the roster
is different: `MigrateHost` promotes the local player but never demotes it, and
`roster_runs` says that this is the only way the link is lost.
-/

namespace Don.Net

open Foundation InternalPacket List Function Player

/-! ## Seatings -/

/-- A seating with local identity `id`. -/
structure Seating (id : Int32) (seats : List Seat) : Prop where
  distinct : (seats.map Seat.uniqueId).Nodup
  present : id ∈ seats.map Seat.uniqueId
  own : ∀ a ∈ seats, a.isLocal = true ↔ a.uniqueId = id
  oneHost : ∀ a ∈ seats, ∀ b ∈ seats, a.isHost → b.isHost → a.uniqueId = b.uniqueId

namespace Seating

variable {id : Int32} {seats seats' : List Seat}

section

variable (h : Seating id seats)
include h

lemma perm (hperm : seats'.Perm seats) : Seating id seats' := by
  refine ⟨?_, ?_, ?_, ?_⟩
  · exact ((hperm.map Seat.uniqueId).nodup_iff).2 h.distinct
  · exact (hperm.map Seat.uniqueId).mem_iff.2 h.present
  · intro a ha
    exact h.own a (hperm.mem_iff.1 ha)
  · intro a ha b hb
    exact h.oneHost a (hperm.mem_iff.1 ha) b (hperm.mem_iff.1 hb)

lemma filter {keep : Seat → Bool}
    (hkeep : ∀ a ∈ seats, a.uniqueId = id → keep a) : Seating id (seats.filter keep) := by
  have hmem : ∀ a ∈ seats.filter keep, a ∈ seats := fun a ha => (mem_filter.1 ha).1
  refine ⟨?_, ?_, ?_, ?_⟩
  · exact h.distinct.sublist (filter_sublist.map _)
  · rcases mem_map.1 h.present with ⟨a, ha, hid⟩
    exact mem_map.2 ⟨a, mem_filter.2 ⟨ha, hkeep a ha hid⟩, hid⟩
  · intro a ha
    exact h.own a (hmem a ha)
  · intro a ha b hb
    exact h.oneHost a (hmem a ha) b (hmem b hb)

/-- Seating a newcomer; a newcomer that is host must be the first one. -/
lemma append {a : Seat} (hfresh : a.uniqueId ∉ seats.map Seat.uniqueId)
    (hlocal : a.isLocal = false) (hhost : a.isHost → ∀ b ∈ seats, b.isHost → False) :
    Seating id (seats ++ [a]) := by
  have hid : a.uniqueId ≠ id := fun heq => hfresh (heq ▸ h.present)
  refine ⟨?_, ?_, ?_, ?_⟩
  · rw [map_append, map_singleton, nodup_append]
    refine ⟨h.distinct, by simp, ?_⟩
    intro u hu v hv huv
    rw [mem_singleton] at hv
    exact hfresh (hv ▸ huv ▸ hu)
  · rw [map_append]
    exact mem_append_left _ h.present
  · intro b hb
    rcases mem_append.1 hb with hb | hb
    · exact h.own b hb
    · rw [mem_singleton.1 hb, hlocal]
      simp [hid]
  · intro b hb c hc hbh hch
    rcases mem_append.1 hb with hb | hb <;> rcases mem_append.1 hc with hc | hc
    · exact h.oneHost b hb c hc hbh hch
    · rw [mem_singleton.1 hc] at hch
      exact (hhost hch b hb hbh).elim
    · rw [mem_singleton.1 hb] at hbh
      exact (hhost hbh c hc hch).elim
    · rw [mem_singleton.1 hb, mem_singleton.1 hc]

lemma remark {f : Seat → Seat}
    (hid : ∀ a, (f a).uniqueId = a.uniqueId) (hlocal : ∀ a, (f a).isLocal = a.isLocal)
    {host : Int32} (hhost : ∀ a ∈ seats, (f a).isHost → a.uniqueId = host) :
    Seating id (seats.map f) := by
  have hids : (seats.map f).map Seat.uniqueId = seats.map Seat.uniqueId := by
    simp [Function.comp_def, hid]
  refine ⟨hids ▸ h.distinct, hids ▸ h.present, ?_, ?_⟩
  · intro b hb
    rcases mem_map.1 hb with ⟨a, ha, rfl⟩
    rw [hlocal, hid]
    exact h.own a ha
  · intro b hb c hc hbh hch
    rcases mem_map.1 hb with ⟨a, ha, rfl⟩
    rcases mem_map.1 hc with ⟨a', ha', rfl⟩
    rw [hid, hid, hhost a ha hbh, hhost a' ha' hch]

end

end Seating

namespace Session

variable {τ : Type}

/-! ## How the roster operations act on seats -/

lemma seats_join (s : Session τ) (uniqueId : Int32) (name : String) (isHost isLocal : Bool)
    (slot : Nat) : (s.join uniqueId name isHost isLocal slot).seats =
      s.seats ++ [{ uniqueId := uniqueId, isHost := isHost, isLocal := isLocal, slot := slot }] := by
  simp [join, push, seats, seat]

variable {s : Session τ}

lemma find_eq_none {uniqueId : Int32} :
    s.find uniqueId = none ↔ uniqueId ∉ s.seats.map Seat.uniqueId := by
  simp only [find, seats, find?_eq_none, map_map, mem_map, comp_apply,
    seat, decide_eq_true_eq]
  constructor
  · rintro h ⟨p, hp, heq⟩
    exact h p hp heq
  · intro h p hp heq
    exact h ⟨p, hp, heq⟩

/-- Everything `removeAll` does. -/
lemma removeAll_eq (ids : List Int32) (s : Session τ) : s.removeAll ids =
      { s with
        players := s.players.filter (·.uniqueId ∉ ids)
        announcedTo := s.announcedTo.filter (· ∉ ids)
        events := s.events ++ ids.map .playerLeft } := by
  induction ids generalizing s with
  | nil => simp [removeAll]
  | cons id rest ih =>
    have hstep : s.removeAll (id :: rest) = (s.removePlayer id).removeAll rest := rfl
    rw [hstep, ih]
    simp only [removePlayer, push, filter_filter, mem_cons, not_or, map_cons,
      append_assoc, singleton_append]
    congr 1
    all_goals
      refine filter_congr ?_
      intro p _
      simp [Bool.and_comm]

lemma seats_removeAll (ids : List Int32) (s : Session τ) :
    (s.removeAll ids).seats = s.seats.filter (·.uniqueId ∉ ids) := by
  rw [removeAll_eq]
  simp only [seats, filter_map]
  rfl

/-- Whom `settle` drops. -/
def absentees (s : Session τ) (keep : List Int32) : List Int32 :=
  (s.seats.filter fun a => !a.isLocal && a.uniqueId ∉ keep).map (·.uniqueId)

lemma settle_eq (s : Session τ) (keep : List Int32) : s.settle keep =
      { s.removeAll (s.absentees keep) with
        players := (s.removeAll (s.absentees keep)).players.insertionSort
          fun p q => p.slot ≤ q.slot } := by
  have hdropped : (s.players.filter fun p => !p.isLocal && p.uniqueId ∉ keep).map (·.uniqueId)
      = s.absentees keep := by
    simp only [absentees, seats, filter_map, map_map]
    rfl
  simp only [settle, hdropped]

lemma seats_settle_perm (s : Session τ) (keep : List Int32) :
    (s.settle keep).seats.Perm (s.seats.filter (·.uniqueId ∉ s.absentees keep)) := by
  rw [settle_eq, ← seats_removeAll]
  exact (perm_insertionSort _ _).map _

lemma mem_absentees {keep : List Int32} {u : Int32} (h : u ∈ s.absentees keep) :
    ∃ a ∈ s.seats, a.uniqueId = u ∧ a.isLocal = false ∧ u ∉ keep := by
  rcases mem_map.1 h with ⟨a, ha, rfl⟩
  rcases mem_filter.1 ha with ⟨hmem, htest⟩
  simp only [Bool.and_eq_true, Bool.not_eq_true', decide_eq_true_eq] at htest
  exact ⟨a, hmem, rfl, htest.1, htest.2⟩

lemma mem_absentees_seat {keep : List Int32} {u : Int32}
    (h : u ∈ s.absentees keep) : ∃ a ∈ s.seats, a.uniqueId = u ∧ a.isLocal = false := by
  rcases mem_absentees h with ⟨a, ha, hid, hlocal, _⟩
  exact ⟨a, ha, hid, hlocal⟩

/-- Whom `reap_timeouts` drops. -/
def lapsed (s : Session τ) : List Int32 :=
  (s.players.filter fun p =>
    !p.isLocal && s.timeoutMs < saturatingSub s.nowMs p.lastPulseMs).map (·.uniqueId)

lemma seats_reapTimeouts (s : Session τ) :
    s.reapTimeouts.seats = s.seats.filter (·.uniqueId ∉ s.lapsed) :=
  seats_removeAll _ _

lemma mem_lapsed {u : Int32} (h : u ∈ s.lapsed) :
    ∃ a ∈ s.seats, a.uniqueId = u ∧ a.isLocal = false := by
  rcases mem_map.1 h with ⟨p, hp, rfl⟩
  rcases mem_filter.1 hp with ⟨hmem, htest⟩
  simp only [Bool.and_eq_true, Bool.not_eq_true'] at htest
  exact ⟨p.seat, mem_map_of_mem hmem, rfl, htest.1⟩

lemma seats_leave (s : Session τ) (uniqueId : Int32) :
    seats { s with players := s.players.filter (·.uniqueId ≠ uniqueId) } =
      s.seats.filter (·.uniqueId ≠ uniqueId) := by
  simp only [seats, filter_map]
  rfl

/-- Giving a known player the slot and host mark of a roster entry. -/
def reseat (s : Session τ) (sender uniqueId : Int32) (slot : Nat) : Session τ :=
  { s with
    players := updateFirst (·.uniqueId = uniqueId)
      (fun p =>
        { p with
          slot,
          isHost := uniqueId = sender }) s.players }

lemma seats_reseat (s : Session τ) (sender id : Int32) (slot : Nat) :
    (s.reseat sender id slot).seats = updateFirst (·.uniqueId = id)
      (fun a => { a with slot := slot, isHost := id = sender }) s.seats := by
  refine map_updateFirst_comm ?_ ?_ s.players
  all_goals
    intro p
    rfl

variable [Transport τ]

/-- The induction rule for the roster loop: each entry reseats a known player or seats a new one. -/
lemma enroll_induct {P : Session τ → Prop} {sender : Int32} {ids : List Int32}
    (hknown : ∀ s id slot, (id, slot) ∈ ids.zipIdx → id ≠ 0 → (s.find id).isSome → P s →
      P (s.reseat sender id slot))
    (hnew : ∀ s id slot, (id, slot) ∈ ids.zipIdx → id ≠ 0 → s.find id = none → P s →
      P (s.join id "" (id = sender) (id = s.localId) slot))
    {s : Session τ} (hs : P s) : P (s.enroll sender ids).1 := by
  have hloop : ∀ (entries : List (Int32 × Nat)) (acc : Session τ × Bool),
      (∀ e ∈ entries, e ∈ ids.zipIdx) → P acc.1 →
        P (entries.foldl (enrollEntry sender) acc).1 := by
    intro entries
    induction entries with
    | nil =>
      intro acc _ hacc
      exact hacc
    | cons entry rest ih =>
      intro acc hmem hacc
      refine ih _ (fun e he => hmem e (by simp [he])) ?_
      have hin : (entry.1, entry.2) ∈ ids.zipIdx := hmem entry (by simp)
      unfold enrollEntry
      split
      · exact hacc
      rename_i hzero
      cases hfind : acc.1.find entry.1 with
      | some => exact hknown acc.1 entry.1 entry.2 hin hzero (by simp [hfind]) hacc
      | none => exact hnew acc.1 entry.1 entry.2 hin hzero hfind hacc
  exact hloop ids.zipIdx (s, false) (fun e he => he) hs

/-! ## What the roster operations leave alone -/

/-- `s'` differs from `s` in the roster, the greetings and reports about membership only. -/
structure RosterOnly (s s' : Session τ) : Prop where
  transport : s'.transport = s.transport
  role : s'.role = s.role
  turns : s'.turns = s.turns
  gameKey : s'.announcedGameKey = s.announcedGameKey
  matchStart : s'.announcedMatchStart = s.announcedMatchStart
  events : ∃ es, s'.events = s.events ++ es ∧ ∀ e ∈ es, ∀ start, e ≠ .matchStarted start

namespace RosterOnly

omit [Transport τ] in
lemma refl (s : Session τ) : RosterOnly s s :=
  ⟨rfl, rfl, rfl, rfl, rfl, [], by simp, by simp⟩

variable {s s' : Session τ}

lemma localId (h : RosterOnly s s') : s'.localId = s.localId := by
  unfold Session.localId
  rw [h.transport]

omit [Transport τ] in
lemma removeAll (s : Session τ) (ids : List Int32) : RosterOnly s (s.removeAll ids) := by
  rw [removeAll_eq]
  exact ⟨rfl, rfl, rfl, rfl, rfl, ids.map .playerLeft, rfl, by simp⟩

omit [Transport τ] in
lemma settle (s : Session τ) (keep : List Int32) : RosterOnly s (s.settle keep) := by
  have h := removeAll s (s.absentees keep)
  rw [settle_eq]
  exact ⟨h.transport, h.role, h.turns, h.gameKey, h.matchStart, h.events⟩

omit [Transport τ] in
lemma reapTimeouts (s : Session τ) : RosterOnly s s.reapTimeouts :=
  removeAll s s.lapsed

omit [Transport τ] in
lemma reseat (h : RosterOnly s s') (sender id : Int32) (slot : Nat) :
    RosterOnly s (s'.reseat sender id slot) :=
  ⟨h.transport, h.role, h.turns, h.gameKey, h.matchStart, h.events⟩

omit [Transport τ] in
lemma join (h : RosterOnly s s') (id : Int32) (name : String)
    (isHost isLocal : Bool) (slot : Nat) : RosterOnly s (s'.join id name isHost isLocal slot) := by
  rcases h.events with ⟨es, hes, hplain⟩
  refine ⟨h.transport, h.role, h.turns, h.gameKey, h.matchStart, es ++ [.playerJoined id], ?_, ?_⟩
  · simp [Session.join, push, hes]
  · intro e he
    rcases mem_append.1 he with he | he
    · exact hplain e he
    · rw [mem_singleton.1 he]
      simp

lemma enroll (s : Session τ) (sender : Int32) (ids : List Int32) :
    RosterOnly s (s.enroll sender ids).1 :=
  enroll_induct (P := RosterOnly s) (fun _ _ _ _ _ _ h => h.reseat _ _ _)
    (fun _ _ _ _ _ _ h => h.join _ _ _ _ _) (refl s)

end RosterOnly

/-! ## The roster invariant -/

/-- `role` says host exactly when our own seat is marked host. -/
def Linked (s : Session τ) : Prop :=
  s.role = .host ↔ ∃ a ∈ s.seats, a.isLocal ∧ a.isHost

/-- Seated under the identity `id`, which the transport keeps. -/
structure Seated (id : Int32) (s : Session τ) : Prop where
  identity : s.localId = id
  seating : Seating id s.seats

/-- No datagram claims to come from ourselves. -/
def Input.Foreign (id : Int32) (i : Input τ) : Prop :=
  ∀ d, i = .receive d → d.sender ≠ id

/-- The one packet that can break the link: a host told that somebody else is host. -/
def Input.Demotes (s : Session τ) (i : Input τ) : Prop :=
  ∃ d newHost, i = .receive d ∧ InternalPacket.decode d.bytes = .ok (.migrateHost newHost) ∧
    s.role = .host ∧ newHost ≠ s.localId

section Invariant

variable {id : Int32} {i : Input τ} {s s' : Session τ} {sender : Int32}

omit [Transport τ] in
lemma commanded (h : Seating id s.seats) (hhost : ∀ host ∈ s.host?, host = sender) :
    ∀ a ∈ s.seats, a.isHost → a.uniqueId = sender := by
  intro a ha hahost
  rcases mem_map.1 ha with ⟨p, hp, rfl⟩
  cases hfind : s.players.find? (·.isHost) with
  | none => exact absurd hahost (find?_eq_none.1 hfind p hp)
  | some q =>
    have hq : q.isHost := find?_some hfind
    have hsender : q.uniqueId = sender := hhost _ (by simp [host?, hfind])
    rw [← hsender]
    exact h.oneHost _ ha q.seat (mem_map_of_mem (mem_of_find?_eq_some hfind)) hahost hq

variable {uniqueId : Int32}

lemma Seated.join (h : Seated id s) (name : String) {isHost : Bool}
    (slot : Nat) (hfresh : s.find uniqueId = none)
    (hhost : isHost → ∀ a ∈ s.seats, a.isHost → False) :
    Seated id (s.join uniqueId name isHost false slot) := by
  refine ⟨h.identity, ?_⟩
  rw [seats_join]
  exact h.seating.append (find_eq_none.1 hfresh) rfl hhost

lemma Seated.removed (h : Seated id s) {ids : List Int32}
    (hothers : ∀ u ∈ ids, ∃ a ∈ s.seats, a.uniqueId = u ∧ a.isLocal = false) : id ∉ ids := by
  intro hmem
  rcases hothers id hmem with ⟨a, ha, hid, hlocal⟩
  have hours : a.isLocal = true := (h.seating.own a ha).2 hid
  rw [hlocal] at hours
  cases hours

lemma Seated.enroll (h : Seated id s) {ids : List Int32}
    (hhost : ∀ a ∈ s.seats, a.isHost → a.uniqueId = sender) :
    Seated id (s.enroll sender ids).1 ∧
      ∀ a ∈ (s.enroll sender ids).1.seats, a.isHost → a.uniqueId = sender := by
  refine enroll_induct
    (P := fun s => Seated id s ∧ ∀ a ∈ s.seats, a.isHost → a.uniqueId = sender) ?_ ?_ ⟨h, hhost⟩
  · rintro s uid slot - - - ⟨hs, hcmd⟩
    have hmark : ∀ a ∈ s.seats, (if a.uniqueId = uid
        then { a with slot := slot, isHost := uid = sender } else a : Seat).isHost →
          a.uniqueId = sender := by
      intro a ha
      split
      · rename_i heq
        intro hmarked
        exact heq.trans (of_decide_eq_true hmarked)
      · exact hcmd a ha
    have hseats := (seats_reseat s sender uid slot).trans (updateFirst_eq_map hs.seating.distinct)
    refine ⟨⟨hs.identity, ?_⟩, ?_⟩
    · rw [hseats]
      refine hs.seating.remark ?_ ?_ hmark
      all_goals
        intro a
        split <;> rfl
    · rw [hseats]
      intro b hb
      rcases mem_map.1 hb with ⟨a, ha, rfl⟩
      intro hb
      have hid := hmark a ha hb
      split <;> exact hid
  · rintro s uid slot - - hfresh ⟨hs, hcmd⟩
    have hnew : uid ∉ s.seats.map Seat.uniqueId := find_eq_none.1 hfresh
    have hlocal : decide (uid = s.localId) = false := by
      rw [hs.identity, decide_eq_false_iff_not]
      rintro rfl
      exact hnew hs.seating.present
    rw [hlocal]
    refine ⟨hs.join "" slot hfresh ?_, ?_⟩
    · intro hsender a ha hahost
      have heq : a.uniqueId = uid := (hcmd a ha hahost).trans (of_decide_eq_true hsender).symm
      exact hnew (heq ▸ mem_map_of_mem ha)
    · rw [seats_join]
      intro a ha hahost
      rcases mem_append.1 ha with ha | ha
      · exact hcmd a ha hahost
      · rw [mem_singleton.1 ha] at hahost ⊢
        exact of_decide_eq_true hahost

lemma seats_handleMigrateHost (s : Session τ) (newHost : Int32) :
    (s.handleMigrateHost newHost).state.seats =
      s.seats.map fun a => { a with isHost := a.uniqueId = newHost } := by
  have hplayers : (s.handleMigrateHost newHost).state.players =
      s.players.map fun p => { p with isHost := p.uniqueId = newHost } := by
    simp only [handleMigrateHost, Outcome.state_ok]
    split <;> rfl
  simp only [seats, hplayers, map_map]
  rfl

lemma localId_handleMigrateHost (s : Session τ) (newHost : Int32) :
    (s.handleMigrateHost newHost).state.localId = s.localId := by
  simp only [handleMigrateHost, Outcome.state_ok]
  split <;> rfl

lemma role_handleMigrateHost (s : Session τ) (newHost : Int32) :
    (s.handleMigrateHost newHost).state.role = if newHost = s.localId then .host else s.role :=
  apply_ite Session.role _ _ _

lemma seating_new (id : Int32) (role : Role) (name : String) :
    Seating id [(localPlayer id role name).seat] := by
  refine ⟨?_, ?_, ?_, ?_⟩ <;> simp [localPlayer, seat]

/-- Identity and seating survive everything that does not come from ourselves. -/
lemma Seated.effect (h : Seated id s) (hi : i.Foreign id) (he : Effect i s s') : Seated id s' := by
  cases he with
  | silent t announcedTo fired now sent timeout hid => exact ⟨hid.trans h.identity, h.seating⟩
  | note | fileLocal | fileRemote | gameKey | startLocal | startRemote | take | drain =>
    exact ⟨h.identity, h.seating⟩
  | touch players hseats =>
    have hseating : Seating id (players.map Player.seat) := by
      rw [hseats]
      exact h.seating
    exact ⟨h.identity, hseating⟩
  | join d name isHosting hrec hd hclaim hfresh =>
    refine h.join name _ hfresh ?_
    intro hhosting a ha hahost
    have heq : a.uniqueId = d.sender :=
      commanded h.seating (hclaim hhosting).2 a ha hahost
    exact find_eq_none.1 hfresh (heq ▸ mem_map_of_mem ha)
  | enroll d n ids hrec hd hrole hhost =>
    exact (h.enroll (commanded h.seating hhost)).1
  | settle d n ids =>
    have honly := RosterOnly.settle s (active n ids)
    refine ⟨honly.localId.trans h.identity, ?_⟩
    refine (h.seating.filter ?_).perm (seats_settle_perm s _)
    rintro a ha rfl
    simpa using h.removed fun u hu => mem_absentees_seat hu
  | leave d hrec =>
    refine ⟨h.identity, ?_⟩
    rw [seats_leave]
    refine h.seating.filter ?_
    rintro a ha rfl
    simpa using (hi d hrec).symm
  | reap =>
    have honly := RosterOnly.reapTimeouts s
    refine ⟨honly.localId.trans h.identity, ?_⟩
    rw [seats_reapTimeouts]
    refine h.seating.filter ?_
    rintro a ha rfl
    simpa using h.removed fun u hu => mem_lapsed hu
  | migrate d newHost =>
    refine ⟨(localId_handleMigrateHost s newHost).trans h.identity, ?_⟩
    rw [seats_handleMigrateHost]
    have hmark : ∀ a ∈ s.seats, decide (a.uniqueId = newHost) → a.uniqueId = newHost :=
      fun a _ hmarked => of_decide_eq_true hmarked
    exact h.seating.remark (fun _ => rfl) (fun _ => rfl) hmark
  | reset role =>
    refine ⟨h.identity, ?_⟩
    have hseats : (s.resetForReuse role).seats = [(localPlayer id role s.localName).seat] := by
      simp [resetForReuse, seats, h.identity]
    rw [hseats]
    exact seating_new id role s.localName

/-- Unique ids are distinct, whoever the datagrams claim to come from. -/
def Distinct (s : Session τ) : Prop :=
  (s.seats.map Seat.uniqueId).Nodup

section

variable (h : Distinct s)
include h

omit [Transport τ] in
lemma Distinct.of_sublist {seats : List Seat} (hsub : seats.Sublist s.seats)
    (hperm : s'.seats.Perm seats) : Distinct s' :=
  ((hperm.map Seat.uniqueId).nodup_iff).2 (h.sublist (hsub.map Seat.uniqueId))

omit [Transport τ] in
lemma Distinct.of_ids
    (hids : s'.seats.map Seat.uniqueId = s.seats.map Seat.uniqueId) : Distinct s' := by
  unfold Distinct
  rw [hids]
  exact h

omit [Transport τ] in
lemma Distinct.join (hfresh : s.find uniqueId = none)
    (name : String) (isHost isLocal : Bool) (slot : Nat) :
    Distinct (s.join uniqueId name isHost isLocal slot) := by
  unfold Distinct
  rw [seats_join, map_append, map_singleton]
  exact h.append (by simp) (by simpa using find_eq_none.1 hfresh)

lemma Distinct.effect (he : Effect i s s') : Distinct s' := by
  cases he with
  | touch players hseats => exact h.of_ids (congrArg (map Seat.uniqueId) hseats)
  | join d name isHosting hrec hd hclaim hfresh => exact h.join hfresh name isHosting false _
  | enroll =>
    refine enroll_induct (P := Distinct) ?_ ?_ h
    · intro s id slot _ _ _ hs
      refine hs.of_ids ?_
      rw [seats_reseat]
      refine map_updateFirst ?_ s.seats
      intro a _
      rfl
    · intro s id slot _ _ hfresh hs
      exact hs.join hfresh "" _ _ slot
  | settle => exact h.of_sublist filter_sublist (seats_settle_perm s _)
  | leave d => exact h.of_sublist filter_sublist (.of_eq (seats_leave s d.sender))
  | reap => exact h.of_sublist filter_sublist (.of_eq (seats_reapTimeouts s))
  | migrate =>
    refine h.of_ids ?_
    rw [seats_handleMigrateHost, map_map]
    rfl
  | reset => exact nodup_singleton _
  | _ => exact h

lemma Distinct.step (i : Input τ) : Distinct (s.step i) :=
  effects_preserve (P := Distinct) (fun _ _ hs he => hs.effect he) (step_effects i s) h

end

lemma InUse.distinct (h : InUse s) : Distinct s := by
  rcases h with ⟨t, role, name, inputs, rfl⟩
  exact run_invariant (I := Distinct) (fun s i hs => hs.step i) inputs _ (nodup_singleton _)

/-- Players other than ourselves have nonzero ids; the decoder sees to that. -/
def Nonzero (id : Int32) (s : Session τ) : Prop :=
  ∀ a ∈ s.seats, a.uniqueId ≠ id → a.uniqueId ≠ 0

omit [Transport τ] in
lemma Nonzero.join (h : Nonzero id s) (hne : uniqueId ≠ 0) (name : String)
    (isHost isLocal : Bool) (slot : Nat) :
    Nonzero id (s.join uniqueId name isHost isLocal slot) := by
  intro a ha
  rw [seats_join] at ha
  rcases mem_append.1 ha with hold | hnew
  · exact h a hold
  · rw [mem_singleton.1 hnew]
    exact fun _ => hne

lemma Nonzero.effect (h : Nonzero id s) (hid : s.localId = id) (he : Effect i s s') :
    Nonzero id s' ∧ s'.localId = id := by
  cases he with
  | silent t announcedTo fired now sent timeout hkeep => exact ⟨h, hkeep.trans hid⟩
  | touch players hseats =>
    refine ⟨?_, hid⟩
    intro a ha
    exact h a (hseats ▸ ha)
  | join d name isHosting hrec hd =>
    exact ⟨h.join (decode_spec hd).2 _ _ _ _, hid⟩
  | enroll d =>
    refine ⟨?_, (RosterOnly.enroll s d.sender _).localId.trans hid⟩
    refine enroll_induct (P := Nonzero id) ?_ ?_ h
    · intro s uid slot _ hne _ hs a ha
      rw [seats_reseat] at ha
      rcases mem_updateFirst ha with hold | ⟨b, hb, _, rfl⟩
      · exact hs a hold
      · exact hs b hb
    · intro s uid slot _ hne _ hs
      exact hs.join hne _ _ _ _
  | settle =>
    refine ⟨?_, (RosterOnly.settle s _).localId.trans hid⟩
    intro a ha
    exact h a (mem_filter.1 ((seats_settle_perm s _).mem_iff.1 ha)).1
  | leave =>
    refine ⟨?_, hid⟩
    intro a ha
    rw [seats_leave] at ha
    exact h a (mem_filter.1 ha).1
  | reap =>
    refine ⟨?_, (RosterOnly.reapTimeouts s).localId.trans hid⟩
    intro a ha
    rw [seats_reapTimeouts] at ha
    exact h a (mem_filter.1 ha).1
  | migrate d newHost =>
    refine ⟨?_, (localId_handleMigrateHost s newHost).trans hid⟩
    intro a ha
    rw [seats_handleMigrateHost] at ha
    rcases mem_map.1 ha with ⟨b, hb, rfl⟩
    exact h b hb
  | reset =>
    refine ⟨?_, hid⟩
    intro a ha hne
    have hlocal : a.uniqueId = s.localId := by
      simp only [resetForReuse, seats, map_cons, map_nil, mem_singleton] at ha
      rw [ha]
      rfl
    exact absurd (hlocal.trans hid) hne
  | _ => exact ⟨h, hid⟩

lemma Nonzero.step (h : Nonzero id s) (hid : s.localId = id) (i : Input τ) :
    Nonzero id (s.step i) ∧ (s.step i).localId = id :=
  effects_preserve (P := fun s => Nonzero id s ∧ s.localId = id)
    (fun _ _ hs he => hs.1.effect hs.2 he) (step_effects i s) ⟨h, hid⟩

section

variable (h : Seated id s)
include h

lemma Linked.filter (hl : Linked s) {keep : Seat → Bool}
    (hkeep : ∀ a ∈ s.seats, a.uniqueId = id → keep a) (hrole : s'.role = s.role)
    (hperm : s'.seats.Perm (s.seats.filter keep)) : Linked s' := by
  unfold Linked at hl ⊢
  rw [hrole, hl]
  constructor
  · rintro ⟨a, ha, hlocal, hhost⟩
    have hid : a.uniqueId = id := (h.seating.own a ha).1 hlocal
    exact ⟨a, hperm.mem_iff.2 (mem_filter.2 ⟨ha, hkeep a ha hid⟩), hlocal, hhost⟩
  · rintro ⟨a, ha, hlocal, hhost⟩
    exact ⟨a, (mem_filter.1 (hperm.mem_iff.1 ha)).1, hlocal, hhost⟩

lemma linked_of_client (hrole : s.role = .client)
    (hne : sender ≠ id) (hcmd : ∀ a ∈ s.seats, a.isHost → a.uniqueId = sender) : Linked s := by
  unfold Linked
  rw [hrole]
  constructor
  · intro hhost
    cases hhost
  · rintro ⟨a, ha, hlocal, hhost⟩
    exact absurd ((hcmd a ha hhost).symm.trans ((h.seating.own a ha).1 hlocal)) hne

lemma Linked.effect (hl : Linked s) (hi : i.Foreign id)
    (hstay : ∀ d n, i = .receive d → decode d.bytes ≠ .ok (.migrateHost n))
    (he : Effect i s s') : Linked s' := by
  cases he with
  | touch players hseats =>
    have hlinked : s.role = .host ↔ ∃ a ∈ players.map Player.seat, a.isLocal ∧ a.isHost := by
      rw [hseats]
      exact hl
    exact hlinked
  | join =>
    unfold Linked
    rw [seats_join]
    refine hl.trans ?_
    simp
  | enroll d n ids hrec hd hrole hhost =>
    rcases h.enroll (commanded h.seating hhost) with ⟨hs, hcmd⟩
    have honly := RosterOnly.enroll s d.sender (active n ids)
    exact linked_of_client hs (honly.role.trans hrole) (hi d hrec) hcmd
  | settle =>
    refine hl.filter h ?_ (RosterOnly.settle s _).role (seats_settle_perm s _)
    rintro a ha rfl
    simpa using h.removed fun u hu => mem_absentees_seat hu
  | leave d hrec =>
    have hkeep : ∀ a ∈ s.seats, a.uniqueId = id → decide (a.uniqueId ≠ d.sender) := by
      rintro a ha rfl
      simpa using (hi d hrec).symm
    exact hl.filter h hkeep rfl (.of_eq (seats_leave s d.sender))
  | reap =>
    refine hl.filter h ?_ (RosterOnly.reapTimeouts s).role
      (.of_eq (seats_reapTimeouts s))
    rintro a ha rfl
    simpa using h.removed fun u hu => mem_lapsed hu
  | migrate d newHost hrec hd => exact absurd hd (hstay d newHost hrec)
  | reset =>
    unfold Linked
    simp [resetForReuse, seats, localPlayer, Player.seat]
  | silent | note | fileLocal | fileRemote | gameKey | startLocal | startRemote | take | drain =>
    exact hl

/-- After a migration the link holds exactly when it promoted us or left a client a client. -/
lemma linked_migrate_iff (newHost : Int32) :
    Linked (s.handleMigrateHost newHost).state ↔ (s.role = .host → newHost = s.localId) := by
  unfold Linked
  rw [role_handleMigrateHost, seats_handleMigrateHost, h.identity]
  have hown : (∃ a ∈ s.seats.map (fun a => ({ a with isHost := a.uniqueId = newHost } : Seat)),
      a.isLocal ∧ a.isHost) ↔ newHost = id := by
    constructor
    · rintro ⟨b, hb, hlocal, hhost⟩
      rcases mem_map.1 hb with ⟨a, ha, rfl⟩
      exact (of_decide_eq_true hhost).symm.trans ((h.seating.own a ha).1 hlocal)
    · rintro rfl
      rcases mem_map.1 h.seating.present with ⟨a, ha, hid⟩
      exact ⟨_, mem_map_of_mem ha, (h.seating.own a ha).2 hid, by simp [hid]⟩
  rw [hown]
  by_cases hmine : newHost = id
  · simp [hmine]
  · cases hr : s.role <;> simp [hmine]

lemma Seated.step (hi : i.Foreign id) : Seated id (s.step i) :=
  effects_preserve (P := Seated id) (fun _ _ hs he => hs.effect hi he) (step_effects i s) h

lemma linked_step_iff (hl : Linked s) (hi : i.Foreign id) :
    Linked (s.step i) ↔ ¬ i.Demotes s := by
  by_cases hmig : ∃ d n, i = .receive d ∧ decode d.bytes = .ok (.migrateHost n)
  · rcases hmig with ⟨d, n, rfl, hd⟩
    have hstep : s.step (.receive d) = (s.handleMigrateHost n).state := by
      simp only [Session.step, handle_internal hd, handleInternal]
    rw [hstep, linked_migrate_iff h]
    constructor
    · rintro hgood ⟨d', n', hrec, hd', hrole, hne⟩
      cases hrec
      rw [hd] at hd'
      cases hd'
      exact hne (hgood hrole)
    · intro hnot hrole
      by_contra hne
      exact hnot ⟨d, n, rfl, hd, hrole, hne⟩
  · have hstay : ∀ d n, i = .receive d →
        decode d.bytes ≠ .ok (.migrateHost n) :=
      fun d n hrec hd => hmig ⟨d, n, hrec, hd⟩
    constructor
    · rintro _ ⟨d, n, hrec, hd, _, _⟩
      exact hstay d n hrec hd
    · intro _
      have hboth : Seated id (s.step i) ∧ Linked (s.step i) := by
        refine effects_preserve (P := fun s => Seated id s ∧ Linked s) ?_ (step_effects i s) ⟨h, hl⟩
        rintro s s' ⟨hs, hl⟩ he
        exact ⟨hs.effect hi he, hl.effect hs hi hstay he⟩
      exact hboth.2

end

end Invariant

/-! ## The invariant over runs, in terms of players -/

/-- Unique ids are distinct, exactly one player is local and carries the transport's id, and at most
one player is marked host. -/
structure RosterOk (s : Session τ) : Prop where
  distinct : (s.players.map (·.uniqueId)).Nodup
  oneLocal : ∃ p ∈ s.players, p.isLocal ∧ p.uniqueId = Transport.localId s.transport ∧
    ∀ q ∈ s.players, q.isLocal → q = p
  oneHost : ∀ p ∈ s.players, ∀ q ∈ s.players, p.isHost → q.isHost → p = q

/-- `role == Host` if and only if the local player is marked host. -/
def RoleMatches (s : Session τ) : Prop :=
  ∀ p ∈ s.players, p.isLocal → (s.role = .host ↔ p.isHost = true)

section Players

variable {id : Int32} {s : Session τ}

lemma Seated.eq_of_uniqueId (h : Seated id s) {p q : Player} (hp : p ∈ s.players)
    (hq : q ∈ s.players) (heq : p.uniqueId = q.uniqueId) : p = q := by
  have hnodup : (s.players.map (·.uniqueId)).Nodup := by
    simpa [seats, comp_def, seat] using h.seating.distinct
  exact inj_on_of_nodup_map hnodup hp hq heq

lemma Seated.isLocal_iff (h : Seated id s) {p : Player} (hp : p ∈ s.players) :
    p.isLocal = true ↔ p.uniqueId = id :=
  h.seating.own p.seat (mem_map_of_mem hp)

lemma Seated.rosterOk (h : Seated id s) : RosterOk s := by
  refine ⟨?_, ?_, ?_⟩
  · simpa [seats, comp_def, seat] using h.seating.distinct
  · rcases mem_map.1 h.seating.present with ⟨a, ha, hid⟩
    rcases mem_map.1 ha with ⟨p, hp, rfl⟩
    refine ⟨p, hp, (h.isLocal_iff hp).2 hid, ?_, ?_⟩
    · exact hid.trans h.identity.symm
    · intro q hq hlocal
      exact h.eq_of_uniqueId hq hp (((h.isLocal_iff hq).1 hlocal).trans hid.symm)
  · intro p hp q hq hph hqh
    exact h.eq_of_uniqueId hp hq
      (h.seating.oneHost _ (mem_map_of_mem hp) _ (mem_map_of_mem hq) hph hqh)

lemma Seated.linked_iff (h : Seated id s) : Linked s ↔ RoleMatches s := by
  rcases h.rosterOk.oneLocal with ⟨p, hp, hlocal, _, honly⟩
  have hown : (∃ a ∈ s.seats, a.isLocal ∧ a.isHost) ↔ p.isHost = true := by
    constructor
    · rintro ⟨a, ha, hal, hah⟩
      rcases mem_map.1 ha with ⟨q, hq, rfl⟩
      rw [← honly q hq hal]
      exact hah
    · intro hhost
      exact ⟨p.seat, mem_map_of_mem hp, hlocal, hhost⟩
  unfold Linked
  rw [hown]
  constructor
  · intro hlink q hq hql
    rw [honly q hq hql]
    exact hlink
  · intro hmatch
    exact hmatch p hp hlocal

end Players

lemma Seated.new (t : τ) (role : Role) (name : String) :
    Seated (Transport.localId t) (Session.new t role name) :=
  ⟨rfl, seating_new _ role name⟩

/-- In every run from a new session whose datagrams come from others, the roster is sound in every
state; the role matches the roster in every state exactly when no host is ever told of another host. -/
theorem roster_runs (t : τ) (role : Role) (name : String) (inputs : List (Input τ))
    (hforeign : ∀ d, .receive d ∈ inputs → d.sender ≠ Transport.localId t) :
    (∀ pre, pre <+: inputs → RosterOk (run step (Session.new t role name) pre)) ∧
    ((∀ pre, pre <+: inputs → RoleMatches (run step (Session.new t role name) pre)) ↔
      Admissible step (fun s i => ¬ i.Demotes s) (Session.new t role name) inputs) := by
  have hstart : Seated (Transport.localId t) (Session.new t role name) := Seated.new t role name
  have hin : ∀ i ∈ inputs, i.Foreign (Transport.localId t) := by
    rintro i hi d rfl
    exact hforeign d hi
  have hseated : ∀ pre, pre <+: inputs →
      Seated (Transport.localId t) (run step (Session.new t role name) pre) := by
    intro pre hpre
    exact run_invariant_on (fun s i hi hs => hs.step hi) pre _
      (fun i hi => hin i (hpre.subset hi)) hstart
  refine ⟨fun pre hpre => (hseated pre hpre).rosterOk, ?_⟩
  have hlinked : Linked (Session.new t role name) := by
    unfold Linked
    simp [Session.new, seats, localPlayer, Player.seat]
  rw [← throughout_iff_admissible (I := Seated (Transport.localId t)) (P := Linked)
    (G := fun i => i.Foreign (Transport.localId t)) (fun s i hi hs _ => hs.step hi)
    (fun s i hi hs hl => linked_step_iff hs hl hi) inputs _ hin hstart hlinked,
    throughout_iff_prefixes]
  constructor
  · intro h pre hpre
    exact (hseated pre hpre).linked_iff.2 (h pre hpre)
  · intro h pre hpre
    exact (hseated pre hpre).linked_iff.1 (h pre hpre)

theorem roster_runs_one_join :
    let inputs := [.pollBegin 5, .receive ⟨2, (InternalPacket.addPlayer "b" 2 false).encode⟩, .pollEnd]
    RosterOk (run step (Session.new (LoopTransport.new 1) .host "a") inputs) := by
  intro inputs
  have hforeign : ∀ d, .receive d ∈ inputs →
      d.sender ≠ Transport.localId (LoopTransport.new 1) := by
    intro d hd
    simp only [inputs, List.mem_cons, reduceCtorEq, Input.receive.injEq, List.not_mem_nil, or_false,
      false_or] at hd
    rw [hd]
    decide
  exact (roster_runs (LoopTransport.new 1) .host "a" inputs hforeign).1 inputs (List.prefix_refl _)

/-- A host that hears `MigrateHost` naming its peer keeps the role and loses the mark. -/
theorem host_keeps_role_after_migration :
    let s := run step (Session.new (LoopTransport.new 1) .host "a")
      [.receive ⟨2, (InternalPacket.migrateHost 2).encode⟩]
    s.role = .host ∧ s.seats = [⟨1, false, true, 0⟩] ∧ ¬ RoleMatches s := by
  intro s
  refine ⟨by decide, by decide, ?_⟩
  unfold RoleMatches
  decide

end Session

end Don.Net
