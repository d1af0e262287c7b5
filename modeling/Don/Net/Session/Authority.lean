import Don.Net.Session.Roster

/-!
# Session.Authority — who may speak for the host

Host authority is checked handler by handler.  `authority_kept_iff` goes over the whole packet
alphabet: datagrams from peers other than the host leave the host mark, the role, the game key and
the match start alone, with one exception.  `MigrateHost` is acted on whoever sends it.
-/

namespace Don.Net

open Foundation InternalPacket
open List hiding Vector

namespace Session

variable {τ : Type} [Transport τ]

/-- `host` is on the roster and is the only player marked host. -/
structure OnlyHost (host : Int32) (s : Session τ) : Prop where
  present : host ∈ s.seats.map Seat.uniqueId
  only : ∀ a ∈ s.seats, a.isHost = true ↔ a.uniqueId = host

/-- What only the host may change is as it was in `s0`. -/
structure Untouched (host : Int32) (s0 s : Session τ) : Prop where
  identity : s.localId = s0.localId
  role : s.role = s0.role
  gameKey : s.announcedGameKey = s0.announcedGameKey
  matchStart : s.announcedMatchStart = s0.announcedMatchStart
  onlyHost : OnlyHost host s

def hear (s : Session τ) (d : Datagram) : Session τ :=
  (s.handle d).state

/-- A migration away from `host`, or one that makes the local side host. -/
def Usurps (host localId : Int32) (d : Datagram) : Prop :=
  ∃ newHost, InternalPacket.decode d.bytes = .ok (.migrateHost newHost) ∧
    (newHost ≠ host ∨ newHost = localId)

variable {host : Int32} {s0 s s' : Session τ} {d : Datagram}

omit [Transport τ] in
lemma OnlyHost.host? (h : OnlyHost host s) : s.host? = some host := by
  rcases mem_map.1 h.present with ⟨a, ha, hid⟩
  rcases mem_map.1 ha with ⟨p, hp, rfl⟩
  have hph : p.isHost = true := (h.only _ ha).2 hid
  cases hfind : s.players.find? (·.isHost) with
  | none => exact absurd hph (List.find?_eq_none.1 hfind p hp)
  | some q =>
    have hqh : q.isHost = true := List.find?_some hfind
    have hq : q.uniqueId = host :=
      (h.only q.seat (mem_map_of_mem (mem_of_find?_eq_some hfind))).1 hqh
    simp [Session.host?, hfind, hq]

omit [Transport τ] in
lemma OnlyHost.filter (h : OnlyHost host s) {keep : Seat → Bool}
    (hkeep : ∀ a ∈ s.seats, a.uniqueId = host → keep a) (hseats : s'.seats = s.seats.filter keep) :
    OnlyHost host s' := by
  refine ⟨?_, ?_⟩
  · rcases mem_map.1 h.present with ⟨a, ha, hid⟩
    rw [hseats]
    exact mem_map.2 ⟨a, mem_filter.2 ⟨ha, hkeep a ha hid⟩, hid⟩
  · intro a ha
    rw [hseats] at ha
    exact h.only a (mem_filter.1 ha).1

lemma handlePlayerList_of_nonHost (h : OnlyHost host s) (hne : d.sender ≠ host) (n : UInt8)
    (ids : Vector Int32 8) : ∃ reason,
      (s.handlePlayerList d.sender n ids).state = s.push (.setupRefused d.sender reason) := by
  unfold handlePlayerList
  simp only
  split
  · exact ⟨_, rfl⟩
  · have hmismatch : s.host?.filter (· ≠ d.sender) = some host := by
      simp [h.host?, Option.filter, hne.symm]
    rw [hmismatch]
    exact ⟨_, rfl⟩

/-- Everything but roster packets and migrations: one case per effect. -/
lemma Untouched.effect (h : Untouched host s0 s) (hne : d.sender ≠ host)
    (hlist : ∀ n ids, decode d.bytes ≠ .ok (.playerList n ids))
    (hstay : ∀ n, decode d.bytes ≠ .ok (.migrateHost n))
    (he : Effect (.receive d) s s') : Untouched host s0 s' := by
  have hhost : s.host? = some host := h.onlyHost.host?
  have hseats : ∀ {s' : Session τ}, s'.localId = s.localId → s'.role = s.role →
      s'.announcedGameKey = s.announcedGameKey → s'.announcedMatchStart = s.announcedMatchStart →
        OnlyHost host s' → Untouched host s0 s' :=
    fun hid hrole hkey hstart hown =>
      ⟨hid.trans h.identity, hrole.trans h.role, hkey.trans h.gameKey, hstart.trans h.matchStart, hown⟩
  cases he with
  | silent t announcedTo fired now sent timeout hid =>
    exact hseats hid rfl rfl rfl ⟨h.onlyHost.present, h.onlyHost.only⟩
  | note => exact hseats rfl rfl rfl rfl ⟨h.onlyHost.present, h.onlyHost.only⟩
  | touch players heq =>
    refine hseats rfl rfl rfl rfl ⟨?_, ?_⟩
    · have hpresent : host ∈ (players.map Player.seat).map Seat.uniqueId := heq ▸ h.onlyHost.present
      exact hpresent
    · intro a ha
      have hmem : a ∈ s.seats := heq ▸ ha
      exact h.onlyHost.only a hmem
  | join d' name isHosting hrec hd hclaim =>
    cases hrec
    -- a hosting claim would have to come from the host itself
    have hplain : isHosting = false := by
      cases isHosting with
      | false => rfl
      | true => exact absurd ((hclaim rfl).2 host (by simp [hhost])) hne.symm
    refine hseats rfl rfl rfl rfl ⟨?_, ?_⟩
    · rw [seats_join, map_append]
      exact mem_append_left _ h.onlyHost.present
    · intro a ha
      rw [seats_join] at ha
      rcases mem_append.1 ha with ha | ha
      · exact h.onlyHost.only a ha
      · rw [mem_singleton.1 ha]
        simp [hplain, hne]
  | enroll d' n ids hrec hd | settle d' n ids hrec hd =>
    cases hrec
    exact absurd hd (hlist n ids)
  | leave d' hrec =>
    cases hrec
    have hkeep : ∀ a ∈ s.seats, a.uniqueId = host → decide (a.uniqueId ≠ d.sender) := by
      rintro a _ rfl
      simpa using hne.symm
    refine hseats rfl rfl rfl rfl (h.onlyHost.filter hkeep ?_)
    simp only [seats, filter_map]
    rfl
  | migrate d' newHost hrec hd =>
    cases hrec
    exact absurd hd (hstay newHost)
  | fileRemote =>
    exact hseats rfl rfl rfl rfl ⟨h.onlyHost.present, h.onlyHost.only⟩
  | gameKey d' key hrec hfrom | startRemote d' start hrec hd hfrom =>
    cases hrec
    rw [hhost] at hfrom
    exact absurd (Option.some.inj hfrom) hne.symm
  | reap hrec | fileLocal stamp play payload hrec | startLocal start hrec | take stamp hrec
  | drain hrec | reset role hrec => cases hrec

/-- A migration keeps everything exactly if it names the host there is, and that is not us. -/
lemma untouched_migrate_iff (h : Untouched host s0 s) (hrole : s0.role = .client)
    (newHost : Int32) : Untouched host s0 (s.handleMigrateHost newHost).state ↔
      newHost = host ∧ newHost ≠ s0.localId := by
  have hseats := seats_handleMigrateHost s newHost
  have hids : (s.handleMigrateHost newHost).state.seats.map Seat.uniqueId
      = s.seats.map Seat.uniqueId := by
    rw [hseats]
    simp [Function.comp_def]
  constructor
  · intro hkept
    refine ⟨?_, ?_⟩
    · -- the host's own seat is marked by the new host's id
      rcases mem_map.1 h.onlyHost.present with ⟨a, ha, hid⟩
      have hmem : ({ a with isHost := a.uniqueId = newHost } : Seat)
          ∈ (s.handleMigrateHost newHost).state.seats := by
        rw [hseats]
        exact mem_map_of_mem ha
      have hmarked := (hkept.onlyHost.only _ hmem).2 hid
      exact (of_decide_eq_true hmarked).symm.trans hid
    · intro hlocal
      have hpromoted := hkept.role
      rw [role_handleMigrateHost, h.identity, if_pos hlocal, hrole] at hpromoted
      cases hpromoted
  · rintro ⟨rfl, hlocal⟩
    have hfields : (s.handleMigrateHost newHost).state.announcedGameKey = s.announcedGameKey ∧
        (s.handleMigrateHost newHost).state.announcedMatchStart = s.announcedMatchStart := by
      simp only [handleMigrateHost, Outcome.state_ok]
      split <;> exact ⟨rfl, rfl⟩
    refine ⟨(localId_handleMigrateHost s newHost).trans h.identity, ?_,
      hfields.1.trans h.gameKey, hfields.2.trans h.matchStart, ?_, ?_⟩
    · rw [role_handleMigrateHost, h.identity, if_neg hlocal, h.role]
    · rw [hids]
      exact h.onlyHost.present
    · rw [hseats]
      intro b hb
      rcases mem_map.1 hb with ⟨a, ha, rfl⟩
      exact decide_eq_true_iff

/-- One datagram from a peer that is not the host keeps everything exactly if it does not usurp. -/
lemma untouched_hear_iff (h : Untouched host s0 s) (hrole : s0.role = .client)
    (hne : d.sender ≠ host) :
    Untouched host s0 (s.hear d) ↔ ¬ Usurps host s0.localId d := by
  by_cases hmig : ∃ n, decode d.bytes = .ok (.migrateHost n)
  · rcases hmig with ⟨n, hd⟩
    have hstep : s.hear d = (s.handleMigrateHost n).state := by
      simp only [hear, handle_internal hd, handleInternal]
    rw [hstep, untouched_migrate_iff h hrole]
    constructor
    · rintro ⟨rfl, hlocal⟩ ⟨n', hd', hbad⟩
      rw [hd] at hd'
      cases hd'
      rcases hbad with hbad | hbad
      · exact hbad rfl
      · exact hlocal hbad
    · intro hnot
      refine ⟨?_, ?_⟩
      · by_contra hbad
        exact hnot ⟨n, hd, Or.inl hbad⟩
      · intro hbad
        exact hnot ⟨n, hd, Or.inr hbad⟩
  · have hno : ¬ Usurps host s0.localId d := by
      rintro ⟨n, hd, _⟩
      exact hmig ⟨n, hd⟩
    simp only [hno, not_false_eq_true, iff_true]
    by_cases hlist : ∃ n ids, decode d.bytes = .ok (.playerList n ids)
    · rcases hlist with ⟨n, ids, hd⟩
      rcases handlePlayerList_of_nonHost h.onlyHost hne n ids with ⟨reason, hrefused⟩
      have hstep : s.hear d = s.push (.setupRefused d.sender reason) := by
        simp only [hear, handle_internal hd, handleInternal, hrefused]
      rw [hstep]
      exact ⟨h.identity, h.role, h.gameKey, h.matchStart, ⟨h.onlyHost.present, h.onlyHost.only⟩⟩
    · refine effects_preserve (P := Untouched host s0) ?_ (handle_effects d) h
      intro s s' hs he
      exact hs.effect hne (fun n ids hd => hlist ⟨n, ids, hd⟩) (fun n hd => hmig ⟨n, hd⟩) he

/-- A client that hears only peers other than its host keeps host mark, role, game key and match
start after every datagram exactly when none of the datagrams migrates the host. -/
theorem authority_kept_iff {s : Session τ} (hrole : s.role = .client) {host : Int32}
    (hhost : OnlyHost host s) (ds : List Datagram) (hfrom : ∀ d ∈ ds, d.sender ≠ host) :
    (∀ pre, pre <+: ds → Untouched host s (run hear s pre)) ↔
      ∀ d ∈ ds, ¬ Usurps host s.localId d := by
  have hstart : Untouched host s s := ⟨rfl, rfl, rfl, rfl, hhost⟩
  rw [← throughout_iff_prefixes, ← admissible_iff_forall_mem hear s ds]
  exact throughout_iff_admissible (I := fun _ => True) (G := fun d => d.sender ≠ host)
    (fun _ _ _ _ _ => trivial) (fun s d hd _ hs => untouched_hear_iff hs hrole hd) ds s
    hfrom trivial hstart

/-- A client with local id 2, host 1 and a third peer. -/
def threePlayerClient : Session LoopTransport :=
  run hear (Session.new (LoopTransport.new 2) .client "c")
    [⟨1, (InternalPacket.addPlayer "a" 1 true).encode⟩,
      ⟨3, (InternalPacket.addPlayer "b" 3 false).encode⟩]

lemma threePlayerClient_onlyHost : OnlyHost 1 threePlayerClient :=
  ⟨by decide, by decide⟩

theorem authority_kept_by_a_leaver :
    let ds := [⟨3, (InternalPacket.readyFlag true).encode⟩,
      ⟨3, (DonExtension.gameKey 7 .configured).encode⟩, ⟨3, (InternalPacket.destroyPlayer 3).encode⟩]
    Untouched 1 threePlayerClient (run hear threePlayerClient ds) := by
  intro ds
  have hnone : ∀ d ∈ ds, d.bytes.head? ≠ some iptMigrateHost := by decide
  refine (authority_kept_iff (by decide) threePlayerClient_onlyHost ds (by decide)).2 ?_ ds
    (prefix_refl _)
  rintro d hd ⟨newHost, hdecode, _⟩
  exact hnone d hd (InternalPacket.decode_spec hdecode).1

/-- The third peer names itself host and its game key is then believed; it names the client host and
the client changes role. -/
theorem peer_usurps_host :
    let claim : Datagram := ⟨3, (InternalPacket.migrateHost 3).encode⟩
    let key : Datagram := ⟨3, (DonExtension.gameKey 7 .configured).encode⟩
    let promote : Datagram := ⟨3, (InternalPacket.migrateHost 2).encode⟩
    OnlyHost 1 threePlayerClient ∧
      ¬ Untouched 1 threePlayerClient (run hear threePlayerClient [claim]) ∧
      (run hear threePlayerClient [claim, key]).announcedGameKey = some ⟨3, 7, .configured⟩ ∧
      (run hear threePlayerClient [promote]).role = .host := by
  intro claim key promote
  refine ⟨threePlayerClient_onlyHost, ?_, by decide, by decide⟩
  intro hkept
  exact absurd hkept.onlyHost.host? (by decide)

end Session

end Don.Net
