import Don.Foundation.Numbered
import Don.Net.Session.Roster

/-!
# Session.Slots — slot numbers at the host and in the roster packet

The host gives a newcomer the slot `players.len()` and never renumbers; the roster packet it
broadcasts carries slots as array positions.  The two agree as long as departures and timeouts only
take players from the end of the roster and nobody joins a full one; `slots_runs` says that these are
exactly the runs in which they agree, and that a client which applies the packet then has the host's
slots.
-/

namespace Don.Net

open Foundation InternalPacket Seat Function Outcome Session
open List hiding Vector

namespace Session

variable {τ : Type} [Transport τ]

/-! ## The roster packet -/

/-- The unique ids of the roster packet, in packet order. -/
def listing (s : Session τ) : List Int32 :=
  (s.seats.map Seat.uniqueId).take 8

omit [Transport τ] in
lemma playerListPacket_eq (s : Session τ) :
    ∃ n ids, s.playerListPacket = .playerList n ids ∧ active n ids = s.listing := by
  refine ⟨_, _, rfl, ?_⟩
  have hcount : (UInt8.ofNat (min s.players.length 8)).toNat = min s.players.length 8 := by
    rw [UInt8.toNat_ofNat']
    omega
  have hids : s.seats.map uniqueId = s.players.map (·.uniqueId) := by
    simp [seats, Player.seat, comp_def]
  unfold active listing
  rw [hcount, hids]
  refine ext_getElem (by simp [Nat.min_comm]) ?_
  intro k hk _
  have hlt : k < s.players.length := by
    simp only [length_take, Vector.length_toList] at hk
    omega
  simp [hlt]

/-- Slots are distinct, and each is the player's position in the packet the host broadcasts. -/
structure InPlace (s : Session τ) : Prop where
  distinct : (s.players.map (·.slot)).Nodup
  placed : ∀ n ids, s.playerListPacket = .playerList n ids → ∀ p ∈ s.players,
    (InternalPacket.active n ids)[p.slot]? = some p.uniqueId

/-- Slots are positions, and everybody is in the packet. -/
def Ordered (s : Session τ) : Prop :=
  Numbered Seat.slot s.seats ∧ s.seats.length ≤ 8

section Host

variable {i : Input τ} {s s' : Session τ}

omit [Transport τ] in
lemma inPlace_iff_ordered (hdistinct : Distinct s) : InPlace s ↔ Ordered s := by
  rcases playerListPacket_eq s with ⟨n, ids, hpacket, hactive⟩
  constructor
  · rintro ⟨_, hplaced⟩
    have hseat : ∀ (k : Nat) (hk : k < s.seats.length), s.seats[k].slot = k ∧ k < 8 := by
      intro k hk
      rcases mem_map.1 (getElem_mem hk) with ⟨p, hp, heq⟩
      have hat := hplaced n ids hpacket p hp
      rw [hactive] at hat
      have hlt : p.slot < s.listing.length := (List.getElem?_eq_some_iff.1 hat).1
      simp only [listing, length_take, length_map] at hlt
      have hslot : p.slot = s.seats[k].slot := congrArg slot heq
      -- ids are distinct, so the id stands at one position only
      have hk' : p.slot = k := by
        refine (getElem?_inj (by simp; omega) hdistinct).1 ?_
        simp only [listing, getElem?_take] at hat
        rw [if_pos (by omega)] at hat
        have hid : p.uniqueId = s.seats[k].uniqueId := congrArg uniqueId heq
        rw [hat, hid]
        simp [hk]
      omega
    refine ⟨numbered_iff_getElem.2 fun k hk => (hseat k hk).1, ?_⟩
    by_contra hlong
    have := (hseat 8 (by omega)).2
    omega
  · rintro ⟨hnum, hlen⟩
    refine ⟨?_, ?_⟩
    · simpa [seats, Player.seat, comp_def] using hnum.nodup
    · intro n' ids' hpacket' p hp
      obtain ⟨rfl, rfl⟩ : n = n' ∧ ids = ids' := by simpa [hpacket] using hpacket'
      have hmem : p.seat ∈ s.seats := mem_map_of_mem hp
      rcases getElem_of_mem hmem with ⟨k, hk, heq⟩
      have hslot : p.slot = k := by
        have hnumk := numbered_iff_getElem.1 hnum k hk
        rw [heq] at hnumk
        exact hnumk
      rw [hactive, listing, hslot, take_of_length_le (by simpa using hlen), getElem?_map,
        getElem?_eq_getElem hk, heq]
      rfl

/-! ## One step at the host -/

/-- Who sits where; host marks left out. -/
def placement (s : Session τ) : List (Int32 × Nat) :=
  s.seats.map fun a => (a.uniqueId, a.slot)

omit [Transport τ] in
lemma ordered_congr (h : s'.placement = s.placement) : Ordered s' ↔ Ordered s := by
  have hslots : s'.seats.map slot = s.seats.map slot := by
    simpa [placement, comp_def] using congrArg (map Prod.snd) h
  have hlen : s'.seats.length = s.seats.length := by
    simpa [placement] using congrArg length h
  unfold Ordered Numbered
  rw [hslots, hlen]

omit [Transport τ] in
lemma find_none_congr (h : s'.placement = s.placement) (u : Int32) :
    s'.find u = none ↔ s.find u = none := by
  have hids : s'.seats.map uniqueId = s.seats.map uniqueId := by
    simpa [placement, comp_def] using congrArg (map Prod.fst) h
  rw [find_eq_none, find_eq_none, hids]

/-- A newcomer's announcement, as a host accepts it. -/
def Input.Joins (s : Session τ) (i : Input τ) : Prop :=
  ∃ d name, i = .receive d ∧ InternalPacket.decode d.bytes = .ok (.addPlayer name d.sender false) ∧
    s.find d.sender = none

/-- Order is kept: nobody joins a full roster, and only players at its end leave or time out. -/
def Input.InOrder (s : Session τ) : Input τ → Prop
  | .receive d =>
    (∀ name, InternalPacket.decode d.bytes = .ok (.addPlayer name d.sender false) →
      s.find d.sender = none → s.seats.length < 8) ∧
    (InternalPacket.decode d.bytes = .ok (.destroyPlayer d.sender) →
      s.seats.filter (·.uniqueId ≠ d.sender) <+: s.seats)
  | .pollEnd => s.seats.filter (·.uniqueId ∉ s.lapsed) <+: s.seats
  | _ => True

lemma role_step_host (hrole : s.role = .host) (hi : i ≠ .resetForReuse .client) :
    (s.step i).role = .host := by
  refine effects_preserve (P := fun s => s.role = .host) ?_ (step_effects i s) hrole
  intro s s' hs he
  cases he with
  | enroll d n ids hrec hd hclient =>
    rw [hs] at hclient
    cases hclient
  | settle => exact (RosterOnly.settle s _).role.trans hs
  | reap => exact (RosterOnly.reapTimeouts s).role.trans hs
  | migrate =>
    rw [role_handleMigrateHost]
    split
    · rfl
    · exact hs
  | reset role hrec =>
    cases role with
    | host => rfl
    | client => exact absurd hrec hi
  | _ => exact hs

lemma seats_step_join {d : Datagram} {name : String}
    (hd : decode d.bytes = .ok (.addPlayer name d.sender false))
    (hfresh : s.find d.sender = none) :
    (s.step (.receive d)).seats =
      s.seats ++ [{ uniqueId := d.sender, isHost := false, isLocal := false, slot := s.seats.length }] := by
  have hlen : s.seats.length = s.players.length := by simp [seats]
  rw [hlen, ← seats_join s d.sender name false false]
  simp only [step, handle_internal hd, handleInternal, handleAddPlayer, ne_eq, not_true, if_false,
    Bool.false_eq_true, false_and, hfresh]
  refine andThen_frame seats rfl ?_
  intro s' _ hs'
  unfold answerAdd
  split
  · refine andThen_frame seats hs' ?_
    intro s'' _ hs''
    exact hs''
  · exact hs'

lemma seats_step_leave {d : Datagram}
    (hd : decode d.bytes = .ok (.destroyPlayer d.sender)) :
    (s.step (.receive d)).seats = s.seats.filter (·.uniqueId ≠ d.sender) := by
  simp only [step, handle_internal hd, handleInternal, handleDestroyPlayer, ne_eq, not_true, if_false]
  split
  · exact seats_leave s d.sender
  rename_i hnobody
  refine (filter_eq_self.2 ?_).symm
  intro a ha
  rcases mem_map.1 ha with ⟨p, hp, rfl⟩
  simp only [any_eq_true, decide_eq_true_eq, not_exists, not_and] at hnobody
  exact decide_eq_true (hnobody p hp)

lemma seats_step_pollEnd : (s.step .pollEnd).seats = s.seats.filter (·.uniqueId ∉ s.lapsed) := by
  rw [← seats_reapTimeouts]
  simp only [step, pollEnd, noteAllReady]
  split
  · rfl
  · split <;> rfl

/-- At a host, everything that is not a join, a departure, a timeout or a reset leaves everybody where
they are. -/
lemma placement_step (hrole : s.role = .host) (hjoin : ¬ i.Joins s)
    (hleave : ∀ d, i = .receive d → decode d.bytes ≠ .ok (.destroyPlayer d.sender))
    (hend : i ≠ .pollEnd) (hreset : ∀ role, i ≠ .resetForReuse role) :
    (s.step i).placement = s.placement := by
  by_cases hlist : ∃ d n ids, i = .receive d ∧ decode d.bytes = .ok (.playerList n ids)
  · -- a host refuses roster packets
    rcases hlist with ⟨d, n, ids, rfl, hd⟩
    simp only [step, handle_internal hd, handleInternal, handlePlayerList, hrole, if_true]
    rfl
  · have hboth : (s.step i).role = .host ∧ (s.step i).placement = s.placement := by
      refine effects_preserve (P := fun s' => s'.role = .host ∧ s'.placement = s.placement) ?_
        (step_effects i s) ⟨hrole, rfl⟩
      rintro r r' ⟨hhost, hsame⟩ he
      cases he with
      | touch players hseats =>
        refine ⟨hhost, ?_⟩
        rw [← hsame]
        exact congrArg (map fun a : Seat => (a.uniqueId, a.slot)) hseats
      | join d name isHosting hrec hd hclaim hfresh =>
        cases isHosting with
        | true =>
          rw [hhost] at hclaim
          cases (hclaim rfl).1
        | false =>
          exact absurd ⟨d, name, hrec, hd, (find_none_congr hsame _).1 hfresh⟩ hjoin
      | enroll d n ids hrec hd hclient =>
        rw [hhost] at hclient
        cases hclient
      | settle d n ids hrec hd => exact absurd ⟨d, n, ids, hrec, hd⟩ hlist
      | leave d hrec hd => exact absurd hd (hleave d hrec)
      | reap hrec => exact absurd hrec hend
      | reset role hrec => exact absurd hrec (hreset role)
      | migrate =>
        refine ⟨?_, ?_⟩
        · rw [role_handleMigrateHost]
          split
          · rfl
          · exact hhost
        · rw [← hsame]
          simp [placement, seats_handleMigrateHost, comp_def]
      | _ => exact ⟨hhost, hsame⟩
    exact hboth.2

lemma ordered_step_iff (hrole : s.role = .host) (hi : i ≠ .resetForReuse .client)
    (hord : Ordered s) : Ordered (s.step i) ↔ i.InOrder s := by
  by_cases hjoin : i.Joins s
  · rcases hjoin with ⟨d, name, rfl, hd, hfresh⟩
    have hnum := hord.1.append (a := (⟨d.sender, false, false, s.seats.length⟩ : Seat)) rfl
    unfold Ordered
    rw [seats_step_join hd hfresh]
    simp [Input.InOrder, hd, hfresh, hnum]
  by_cases hleave : ∃ d, i = .receive d ∧ decode d.bytes = .ok (.destroyPlayer d.sender)
  · rcases hleave with ⟨d, rfl, hd⟩
    have hlen : (s.seats.filter (·.uniqueId ≠ d.sender)).length ≤ 8 :=
      (length_filter_le _ _).trans hord.2
    unfold Ordered
    rw [seats_step_leave hd, hord.1.filter_iff]
    simp only [Input.InOrder, hd, hlen, and_true]
    simp
  by_cases hend : i = .pollEnd
  · subst hend
    have hlen : (s.seats.filter (·.uniqueId ∉ s.lapsed)).length ≤ 8 :=
      (length_filter_le _ _).trans hord.2
    unfold Ordered
    rw [seats_step_pollEnd, hord.1.filter_iff]
    exact and_iff_left hlen
  by_cases hreset : ∃ role, i = .resetForReuse role
  · rcases hreset with ⟨role, rfl⟩
    exact iff_of_true ⟨rfl, by simp [step, resetForReuse, seats]⟩ trivial
  have hsame : (s.step i).placement = s.placement :=
    placement_step hrole hjoin (fun d hrec hd => hleave ⟨d, hrec, hd⟩) hend
      (fun role hrec => hreset ⟨role, hrec⟩)
  have hin : i.InOrder s := by
    cases i with
    | receive d =>
      refine ⟨?_, ?_⟩
      · intro name hd hfresh
        exact absurd ⟨d, name, rfl, hd, hfresh⟩ hjoin
      · intro hd
        exact absurd ⟨d, rfl, hd⟩ hleave
    | pollEnd => exact absurd rfl hend
    | _ => exact trivial
  exact iff_of_true ((ordered_congr hsame).2 hord) hin

end Host

/-! ## A client applies the packet -/

section Client

variable {c : Session τ}

structure Accepts (c : Session τ) (sender : Int32) (n : UInt8) (ids : Vector Int32 8) : Prop where
  role : c.role = .client
  host : ∀ host ∈ c.host?, host = sender
  head : ids.head = sender
  listed : c.localId ∈ InternalPacket.active n ids

/-- Somebody with this id sits at this slot. -/
def Sits (c : Session τ) (entry : Int32 × Nat) : Prop :=
  ∃ a ∈ c.seats, a.uniqueId = entry.1 ∧ a.slot = entry.2

lemma sits_enrollEntry (sender : Int32) (acc : Session τ × Bool) {entry : Int32 × Nat}
    (hzero : entry.1 ≠ 0) : (enrollEntry sender acc entry).1.Sits entry := by
  unfold enrollEntry
  rw [if_neg hzero]
  cases hfind : acc.1.find entry.1 with
  | some p =>
    have hmem : p.seat ∈ acc.1.seats := mem_map_of_mem (mem_of_find?_eq_some hfind)
    have hid : p.uniqueId = entry.1 := by simpa using find?_some hfind
    rcases exists_updated (p := fun a => decide (a.uniqueId = entry.1))
      (f := fun a => { a with slot := entry.2, isHost := entry.1 = sender }) hmem
      (decide_eq_true hid) with ⟨a, _, hid, hin⟩
    rw [← seats_reseat acc.1 sender entry.1 entry.2] at hin
    exact ⟨_, hin, of_decide_eq_true hid, rfl⟩
  | none =>
    simp only [Sits, seats_join]
    exact ⟨_, mem_append_right _ (mem_singleton_self _), rfl, rfl⟩

lemma Sits.enrollEntry {sender : Int32} {acc : Session τ × Bool} {entry other : Int32 × Nat}
    (h : acc.1.Sits other) (hne : other.1 ≠ entry.1) :
    (enrollEntry sender acc entry).1.Sits other := by
  rcases h with ⟨a, ha, hid, hslot⟩
  unfold Session.enrollEntry
  split
  · exact ⟨a, ha, hid, hslot⟩
  cases acc.1.find entry.1 with
  | some =>
    refine ⟨a, ?_, hid, hslot⟩
    have hseats := seats_reseat acc.1 sender entry.1 entry.2
    rw [reseat] at hseats
    simp only [hseats]
    rcases exists_mem_updateFirst ha with ⟨b, hb, rfl | ⟨hsame, _⟩⟩
    · exact hb
    · exact absurd (hid.symm.trans (of_decide_eq_true hsame)) hne
  | none =>
    refine ⟨a, ?_, hid, hslot⟩
    rw [seats_join]
    exact mem_append_left _ ha

lemma sits_enroll (c : Session τ) (sender : Int32) {ids : List Int32} (hzero : 0 ∉ ids)
    (hnodup : ids.Nodup) : ∀ e ∈ ids.zipIdx, (c.enroll sender ids).1.Sits e := by
  -- the entries done so far sit, and the entries to come have other ids
  have hloop : ∀ (entries done : List (Int32 × Nat)) (acc : Session τ × Bool),
      ((done ++ entries).map Prod.fst).Nodup → (∀ e ∈ entries, e.1 ≠ 0) →
      (∀ e ∈ done, acc.1.Sits e) →
        ∀ e ∈ done ++ entries, (entries.foldl (enrollEntry sender) acc).1.Sits e := by
    intro entries
    induction entries with
    | nil =>
      intro done acc _ _ hdone e he
      exact hdone e (by simpa using he)
    | cons entry rest ih =>
      intro done acc hids hne hdone e he
      have hsplit : done ++ entry :: rest = (done ++ [entry]) ++ rest := by simp
      rw [hsplit] at hids he
      refine ih (done ++ [entry]) _ hids (fun e he => hne e (by simp [he])) ?_ e he
      intro e he
      rcases mem_append.1 he with hold | hnew
      · refine (hdone e hold).enrollEntry ?_
        intro heq
        rw [map_append, map_append] at hids
        have hdisjoint := (nodup_append.1 (nodup_append.1 hids).1).2.2
        exact hdisjoint e.1 (mem_map_of_mem hold) entry.1 (by simp) heq
      · rw [mem_singleton.1 hnew]
        exact sits_enrollEntry sender acc (hne entry (by simp))
  have hfst : ids.zipIdx.map Prod.fst = ids := by simp
  refine hloop ids.zipIdx [] (c, false) (by simpa [hfst] using hnodup) ?_ (by simp)
  intro e he hz
  exact hzero (hz ▸ hfst ▸ mem_map_of_mem he)

omit [Transport τ] in
lemma Sits.settle {ids : List Int32} {e : Int32 × Nat} (h : c.Sits e) (hmem : e.1 ∈ ids) :
    (c.settle ids).Sits e := by
  rcases h with ⟨a, ha, hid, hslot⟩
  refine ⟨a, (seats_settle_perm c ids).mem_iff.2 (mem_filter.2 ⟨ha, ?_⟩), hid, hslot⟩
  rw [decide_eq_true_eq, hid]
  intro habsent
  rcases mem_absentees habsent with ⟨_, _, _, _, hmissing⟩
  exact hmissing hmem

lemma sits_step_playerList {d : Datagram} {n : UInt8} {ids : Vector Int32 8}
    (hd : decode d.bytes = .ok (.playerList n ids)) (hc : c.Accepts d.sender n ids) :
    ∀ e ∈ (active n ids).zipIdx, (c.step (.receive d)).Sits e := by
  intro e he
  have hmem : e.1 ∈ active n ids := fst_mem_of_mem_zipIdx he
  rcases (decode_spec hd).2 with ⟨_, hzero, hnodup⟩
  have hsits := sits_enroll c d.sender hzero hnodup e he
  have hclient : c.role ≠ .host := by simp [hc.role]
  have hknown : c.host?.filter (· ≠ d.sender) = none := by
    rw [Option.filter_eq_none_iff]
    intro host hhost
    simpa using hc.host host hhost
  simp only [step, handle_internal hd, handleInternal, handlePlayerList, if_neg hclient, hknown,
    hc.head, hc.listed, ne_eq, not_true, if_false]
  split
  · refine andThen_state (P := fun c : Session τ => c.Sits e) hsits ?_
    intro c' _ hc'
    exact hc'.settle hmem
  · exact hsits.settle hmem

end Client

/-! ## Runs -/

/-- At a host that is never reset to a client, slots are in place in every state exactly when every
step keeps the order; and whenever they are, a client that applies the host's roster packet gives
every player the slot the host has for it. -/
theorem slots_runs {σ : Type} [Transport σ] (t : τ) (name : String) (inputs : List (Input τ))
    (hhost : .resetForReuse .client ∉ inputs) :
    ((∀ pre, pre <+: inputs → InPlace (run step (Session.new t .host name) pre)) ↔
      Admissible step (fun s i => i.InOrder s) (Session.new t .host name) inputs) ∧
    ∀ pre, pre <+: inputs → InPlace (run step (Session.new t .host name) pre) →
      ∀ (c : Session σ) (d : Datagram) (n : UInt8) (ids : Vector Int32 8),
        (run step (Session.new t .host name) pre).playerListPacket = .playerList n ids →
        InternalPacket.decode d.bytes = .ok (.playerList n ids) → c.Accepts d.sender n ids →
          ∀ p ∈ (run step (Session.new t .host name) pre).players,
            ∃ q ∈ (c.step (.receive d)).players, q.uniqueId = p.uniqueId ∧ q.slot = p.slot := by
  refine ⟨?_, ?_⟩
  · have hruns : Throughout step Ordered (new t .host name) inputs ↔
        Admissible step (fun s i => i.InOrder s) (new t .host name) inputs := by
      refine throughout_iff_admissible (I := fun s : Session τ => s.role = .host)
        (G := fun i => i ≠ .resetForReuse .client) ?_ ?_ inputs _ ?_ rfl ?_
      · intro s i hi hs _
        exact role_step_host hs hi
      · intro s i hi hs hord
        exact ordered_step_iff hs hi hord
      · rintro i hmem rfl
        exact hhost hmem
      · exact ⟨rfl, by simp [new, seats]⟩
    rw [throughout_iff_prefixes] at hruns
    refine Iff.trans ?_ hruns
    refine forall_congr' fun pre => forall_congr' fun _ => ?_
    exact inPlace_iff_ordered (InUse.distinct ⟨t, .host, name, pre, rfl⟩)
  · intro pre _ hplace c d n ids hpacket hd hc p hp
    have hat := hplace.placed n ids hpacket p hp
    have hentry : (p.uniqueId, p.slot) ∈ (active n ids).zipIdx :=
      mem_zipIdx_iff_getElem?.2 hat
    rcases sits_step_playerList hd hc _ hentry with ⟨a, ha, hid, hslot⟩
    rcases mem_map.1 ha with ⟨q, hq, rfl⟩
    exact ⟨q, hq, hid, hslot⟩

/-- A newcomer's announcement, and a host that has heard it. -/
def newcomer : Datagram :=
  ⟨2, (InternalPacket.addPlayer "b" 2 false).encode⟩

def hostOfTwo : Session LoopTransport :=
  run step (Session.new (LoopTransport.new 1) .host "a") [.receive newcomer]

/-- One join at a host, and the joiner applying the packet the host then broadcasts. -/
theorem slots_runs_one_join :
    let c := Session.new (LoopTransport.new 2) .client "b"
    InPlace hostOfTwo ∧ ∀ p ∈ hostOfTwo.players,
      ∃ q ∈ (c.step (.receive ⟨1, hostOfTwo.playerListPacket.encode⟩)).players,
        q.uniqueId = p.uniqueId ∧ q.slot = p.slot := by
  intro c
  have hslots := slots_runs (σ := LoopTransport) (LoopTransport.new 1) "a" [.receive newcomer]
    (by simp)
  have hjoin : decode newcomer.bytes = .ok (.addPlayer "b" 2 false) := by
    decide
  have hplace : InPlace hostOfTwo := by
    refine hslots.1.2 ⟨⟨?_, ?_⟩, trivial⟩ _ (prefix_refl _)
    · intro _ _ _
      decide
    · simp [hjoin]
  have hpacket : hostOfTwo.playerListPacket = .playerList 2 #v[1, 2, 0, 0, 0, 0, 0, 0] := by
    decide
  have haccepts : c.Accepts 1 2 #v[1, 2, 0, 0, 0, 0, 0, 0] := by
    refine ⟨rfl, ?_, by decide, by decide⟩
    have hnobody : c.host? = none := by decide
    simp [hnobody]
  rw [hpacket]
  exact ⟨hplace, hslots.2 _ (prefix_refl _) hplace c ⟨1, _⟩ _ _ hpacket (by decide)
    haccepts⟩

/-- Three players, the middle one leaves, another joins: two players at slot 2, and the packet puts
neither of them where the host has them both. -/
theorem two_players_at_one_slot :
    let s := run step (Session.new (LoopTransport.new 1) .host "a")
      [.receive ⟨2, (InternalPacket.addPlayer "b" 2 false).encode⟩,
        .receive ⟨3, (InternalPacket.addPlayer "c" 3 false).encode⟩,
        .receive ⟨2, (InternalPacket.destroyPlayer 2).encode⟩,
        .receive ⟨4, (InternalPacket.addPlayer "d" 4 false).encode⟩]
    s.players.map (fun p => (p.uniqueId, p.slot)) = [(1, 0), (3, 2), (4, 2)] ∧
      s.playerListPacket = .playerList 3 #v[1, 3, 4, 0, 0, 0, 0, 0] ∧ ¬ InPlace s := by
  intro s
  refine ⟨by decide, by decide, ?_⟩
  intro hplace
  exact absurd hplace.distinct (by decide)

end Session

end Don.Net
