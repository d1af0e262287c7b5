import Don.Net.Session.Ready

/-!
# Session.Agreement — a host and a client agree on their ready flags

Two sessions over a loss-free, in-order transport, driven through every interleaving of
`send_ready_flag`, `reset_ready_flags`, `poll` and the arrival of single datagrams.

`reset_ready_flags` breaks the replication of flags: it clears the copies it holds of *other* players'
flags and only announces its own.  A timeout breaks it too, because a player that is relearned from
the host's answer comes without its flag.  `readiness_agreement` says that otherwise both ends agree
whenever nothing is on its way.
-/

namespace Don.Net

open Foundation InternalPacket List Session LoopTransport Option

namespace Session

/-! ## Two ends -/

/-- One end: its roster, its only peer, and an inbox with that peer's datagrams only. -/
structure End (id peer : Int32) (role : Role) (s : Session LoopTransport) : Prop where
  member : Member id peer role s
  wired : s.Wired peer
  senders : ∀ d ∈ s.transport.inbox, d.sender = peer

/-- Ids and roles of two ends: distinct ids, neither zero, at most one host. -/
structure Parties (id peer : Int32) (role peerRole : Role) : Prop where
  distinct : peer ≠ id
  nonzero : id ≠ 0
  peerNonzero : peer ≠ 0
  oneHost : peerRole = .host → role = .client

lemma Parties.symm {id peer : Int32} {role peerRole : Role} (h : Parties id peer role peerRole) :
    Parties peer id peerRole role := by
  refine ⟨h.distinct.symm, h.peerNonzero, h.nonzero, ?_⟩
  rintro rfl
  cases peerRole with
  | host => cases h.oneHost rfl
  | client => rfl

/-- Both ends are sound, and what is on its way in either direction brings the copies up to date. -/
structure Joint (id peer : Int32) (role peerRole : Role) (x y : Session LoopTransport) : Prop where
  near : End id peer role x
  far : End peer id peerRole y
  out : Owes id role (y.copy id) (y.inbound ++ x.outgoing) x.localReady (peer ∈ x.announcedTo)
  back : Owes peer peerRole (x.copy peer) (x.inbound ++ y.outgoing) y.localReady (id ∈ y.announcedTo)

namespace Joint

variable {id peer : Int32} {role peerRole : Role} {x x' y : Session LoopTransport}

section

variable (h : Joint id peer role peerRole x y)
include h

lemma symm : Joint peer id peerRole role y x :=
  ⟨h.far, h.near, h.back, h.out⟩

lemma congr (htransport : x'.transport = x.transport)
    (hrole : x'.role = x.role) (hplayers : x'.players = x.players)
    (hannounced : x'.announcedTo = x.announcedTo) : Joint id peer role peerRole x' y := by
  rcases h with ⟨⟨⟨hr, ⟨hi, hs⟩, hn, hm⟩, hw, hd⟩, hfar, hout, hback⟩
  cases x
  cases x'
  cases htransport
  cases hrole
  cases hplayers
  cases hannounced
  exact ⟨⟨⟨hr, ⟨hi, hs⟩, hn, hm⟩, hw, hd⟩, hfar, hout, hback⟩

lemma say {ms : List Bytes}
    (hms : ∀ copy queue, Owes id role copy queue x.localReady (peer ∈ x.announcedTo) →
      Owes id role copy (queue ++ ms) x.localReady (peer ∈ x.announcedTo)) :
    Joint id peer role peerRole (x.say ms) y := by
  rcases h with ⟨⟨hmember, hwired, hsenders⟩, hfar, hout, hback⟩
  refine ⟨⟨hmember.congr rfl rfl rfl, hwired.say ms, hsenders⟩, hfar, ?_, hback⟩
  rw [outgoing_say hwired, ← append_assoc]
  exact hms _ _ hout

lemma greeting (hp : Parties id peer role peerRole) :
    Joint id peer role peerRole (x.greeting peer) y ∧ peer ∈ (x.greeting peer).announcedTo := by
  unfold Session.greeting
  split
  · rename_i hgreeted
    exact ⟨h, hgreeted⟩
  rcases h with ⟨⟨hmember, hwired, hsenders⟩, hfar, hout, hback⟩
  refine ⟨⟨⟨hmember.congr rfl rfl rfl, hwired.say _, hsenders⟩, hfar, ?_, hback⟩, by simp⟩
  · have hclaim : decide (x.role = .host) → role = .host := by
      intro hhost
      rw [← hmember.hasRole]
      exact of_decide_eq_true hhost
    have hgreet := hout.greet hp.nonzero x.localName hclaim
    have hsaid := outgoing_say hwired
      [(addPlayer x.localName x.localId (x.role = .host)).encode,
        (readyFlag x.localReady).encode]
    have hqueue : (y.inbound ++ x.outgoing) ++
        [(addPlayer x.localName id (x.role = .host)).encode,
          (readyFlag x.localReady).encode] = y.inbound ++ (x.say
        [(addPlayer x.localName x.localId (x.role = .host)).encode,
          (readyFlag x.localReady).encode]).outgoing := by
      rw [hsaid, hmember.seated.identity, append_assoc]
    rw [hqueue] at hgreet
    exact hgreet.mono fun _ => trivial

lemma receive (hp : Parties id peer role peerRole)
    (hgreeted : peer ∈ x.announcedTo) {d : Datagram} {rest : List Datagram}
    (hinbox : x.transport.inbox = d :: rest) (hlive : Live x) :
    let x' := (handle { x with transport := { x.transport with inbox := rest } } d).state
    Joint id peer role peerRole x' y ∧ peer ∈ x'.announcedTo ∧ Live x' := by
  intro x'
  rcases h with ⟨⟨hmember, hwired, hsenders⟩, hfar, hout, hback⟩
  have hinbound : x.inbound = d.bytes :: rest.map (·.bytes) := by simp [inbound, hinbox]
  rw [hinbound] at hback
  rcases hback.read with ⟨hadmits, hrest⟩
  have hpopped : Member id peer role { x with transport := { x.transport with inbox := rest } } :=
    hmember.congr rfl rfl rfl
  rcases handle_hears hpopped hp.nonzero hp.distinct hp.oneHost (hsenders d (by simp [hinbox])) hadmits
    with ⟨s', ms, hhandle, hhears, hms, hs'⟩
  have hx' : x' = s'.say ms := by
    simp only [x', hhandle, Outcome.state_ok]
  have hwired' : s'.Wired peer := by
    unfold Wired
    rw [hhears.transport]
    exact hwired
  have hsent : s'.outgoing = x.outgoing := by
    unfold outgoing
    rw [hhears.transport]
  have hread : s'.transport.inbox = rest := by rw [hhears.transport]
  have hstill : peer ∈ s'.announcedTo := hhears.greeted hgreeted
  rw [hx']
  refine ⟨⟨⟨hs'.congr rfl rfl rfl, hwired'.say ms, ?_⟩, hfar, ?_, ?_⟩, hstill, hhears.live hlive⟩
  · intro e he
    have hmem : e ∈ rest := hread ▸ he
    exact hsenders e (by simp [hinbox, hmem])
  · rw [outgoing_say hwired', hsent, ← append_assoc]
    have hown : (s'.say ms).localReady = x.localReady := hhears.own
    rw [hown]
    exact (hms _ _ (hout.mono fun _ => hgreeted)).mono fun _ => trivial
  · have hcopy : (s'.say ms).copy peer = note (x.copy peer) d.bytes := hhears.copy
    have hleft : (s'.say ms).inbound = rest.map (·.bytes) := congrArg (map Datagram.bytes) hread
    rw [hcopy, hleft]
    exact hrest

end

def Polling (id peer : Int32) (role peerRole : Role) (y x : Session LoopTransport) : Prop :=
  Joint id peer role peerRole x y ∧ peer ∈ x.announcedTo ∧ Live x

lemma pollBegin (h : Joint id peer role peerRole x y) (hp : Parties id peer role peerRole)
    {nowMs : UInt64} (hlive : Live { x with nowMs }) :
    Polling id peer role peerRole y (x.pollBegin nowMs).state := by
  have hclock : Joint id peer role peerRole { x with nowMs } y := h.congr rfl rfl rfl rfl
  rcases hclock.greeting hp with ⟨hgreet, hgreeted⟩
  have hlive' : Live (Session.greeting { x with nowMs } peer) := by
    unfold Session.greeting
    split
    all_goals exact hlive
  unfold Session.pollBegin
  rw [greetFresh_eq hclock.near.wired, Outcome.ok_andThen, sendPulse_eq, Outcome.state_ok]
  split
  · refine ⟨?_, hgreeted, hlive'⟩
    exact (hgreet.say fun copy queue howes => howes.pulse).congr rfl rfl rfl rfl
  · exact ⟨hgreet, hgreeted, hlive'⟩

lemma receiveAll (hp : Parties id peer role peerRole) (fuel : Nat) :
    ∀ x, Polling id peer role peerRole y x →
      Polling id peer role peerRole y (receiveAll fuel x).state := by
  induction fuel with
  | zero =>
    intro x hx
    exact hx
  | succ fuel ih =>
    intro x hx
    cases hinbox : x.transport.inbox with
    | nil =>
      simp only [Session.receiveAll, Transport.recv, hinbox]
      exact hx
    | cons =>
      simp only [Session.receiveAll, Transport.recv, hinbox]
      refine Outcome.andThen_state (P := Polling id peer role peerRole y) ?_ ?_
      · exact hx.1.receive hp hx.2.1 hinbox hx.2.2
      · intro x' _ hx'
        exact ih x' hx'

/-- A session in which everybody is live drops nobody. -/
lemma pollEnd (h : Polling id peer role peerRole y x) :
    Polling id peer role peerRole y x.pollEnd := by
  have hlapsed : x.lapsed = [] := by
    refine map_eq_nil_iff.2 (filter_eq_nil_iff.2 ?_)
    intro p hp htest
    simp only [Bool.and_eq_true, Bool.not_eq_true', decide_eq_true_eq] at htest
    rcases h.2.2 p hp with hlocal | hrecent
    · rw [hlocal] at htest
      cases htest.1
    · exact hrecent htest.2
  have hreap : x.reapTimeouts = x := congrArg x.removeAll hlapsed
  unfold Session.pollEnd noteAllReady
  rw [hreap]
  split
  · exact ⟨h.1.congr rfl rfl rfl rfl, h.2.1, h.2.2⟩
  · split
    · exact ⟨h.1.congr rfl rfl rfl rfl, h.2.1, h.2.2⟩
    · exact h

section

variable (h : Joint id peer role peerRole x y)
include h

lemma poll (hp : Parties id peer role peerRole) (fuel : Nat)
    {nowMs : UInt64} (budget : Nat) (hlive : Live { x with nowMs }) :
    Joint id peer role peerRole (poll fuel x nowMs budget).state y := by
  have hpoll : Polling id peer role peerRole y (Session.poll fuel x nowMs budget).state := by
    unfold Session.poll
    refine Outcome.andThen_state (P := Polling id peer role peerRole y)
      (Outcome.andThen_state (P := Polling id peer role peerRole y)
        (Outcome.andThen_state (P := Polling id peer role peerRole y) (h.pollBegin hp hlive) ?_) ?_) ?_
    · intro x' _ hx'
      exact hx'
    · intro x' _ hx'
      exact receiveAll hp fuel x' hx'
    · intro x' _ hx'
      exact pollEnd hx'
  exact hpoll.1

lemma announce (htransport : x'.transport = x.transport)
    (hannounced : x'.announcedTo = x.announcedTo) (hmember : Member id peer role x') {ready : Bool}
    (hown : x'.localReady = ready)
    (hback : Owes peer peerRole (x'.copy peer) (x.inbound ++ y.outgoing) y.localReady
      (id ∈ y.announcedTo)) :
    Joint id peer role peerRole (x'.say [(readyFlag ready).encode]) y := by
  have hwired : x'.Wired peer := by
    unfold Wired
    rw [htransport]
    exact h.near.wired
  have hsent : x'.outgoing = x.outgoing := by rw [outgoing, outgoing, htransport]
  have hread : x'.inbound = x.inbound := by rw [inbound, inbound, htransport]
  refine ⟨⟨hmember.congr rfl rfl rfl, hwired.say _, ?_⟩, h.far, ?_, ?_⟩
  · intro d hd
    exact h.near.senders d (htransport ▸ hd)
  · have hflag := h.out.flag ready
    have hsaid : (x'.say [(readyFlag ready).encode]).localReady = ready := hown
    rw [outgoing_say hwired, hsent, ← append_assoc, hsaid]
    exact hflag.mono fun hgreeted => hannounced ▸ hgreeted
  · have hleft : (x'.say [(readyFlag ready).encode]).inbound = x.inbound := hread
    rw [hleft]
    exact hback

lemma sendReadyFlag (hp : Parties id peer role peerRole)
    (ready : Bool) : Joint id peer role peerRole (x.sendReadyFlag ready).state y := by
  have hmember : Member id peer role (x.sendReadyFlag ready).state :=
    h.near.member.step (i := .sendReadyFlag ready) ⟨by simp, by simp⟩ hp.distinct
  have hseated := h.near.member.seated
  simp only [Session.sendReadyFlag, emitAll, transmit_all, Outcome.state_ok] at hmember ⊢
  refine h.announce (by rfl) (by rfl) hmember.unsay ?_ ?_
  · rcases hseated.exists_local with ⟨p, hmem, hid⟩
    rcases exists_updated (p := fun p : Player => p.isLocal)
      (f := fun p => { p with ready }) hmem ((hseated.isLocal_iff hmem).2 hid)
      with ⟨q, hq, hlocal, hupdated⟩
    exact localReady_of_mem hmember.unsay.seated hupdated ((hseated.isLocal_iff hq).1 hlocal)
  · have hcopy : copy { x with
        players := updateFirst (·.isLocal) (fun p : Player => { p with ready }) x.players }
        peer = x.copy peer := by
      unfold copy find
      rw [find?_updateFirst_of_disjoint]
      intro p hmem hlocal
      have hne : p.uniqueId ≠ peer := by
        rw [(hseated.isLocal_iff hmem).1 hlocal]
        exact hp.distinct.symm
      exact ⟨decide_eq_false hne, decide_eq_false hne⟩
    rw [hcopy]
    exact h.back

lemma resetReadyFlags (hp : Parties id peer role peerRole)
    (hsafe : FlagIn (x.inbound ++ y.outgoing) ∨ y.localReady = false) :
    Joint id peer role peerRole x.resetReadyFlags.state y := by
  have hmember : Member id peer role x.resetReadyFlags.state :=
    h.near.member.step (i := .resetReadyFlags) ⟨by simp, by simp⟩ hp.distinct
  simp only [Session.resetReadyFlags, emitAll, transmit_all, Outcome.state_ok] at hmember ⊢
  refine h.announce (by rfl) (by rfl) hmember.unsay ?_ ?_
  · rcases h.near.member.seated.exists_local with ⟨p, hmem, hid⟩
    have hcleared : { p with ready := false } ∈ x.players.map fun p => { p with ready := false } :=
      mem_map_of_mem hmem
    exact localReady_of_mem hmember.unsay.seated hcleared hid
  · have hcopy : copy { x with
        players := x.players.map fun p => { p with ready := false }
        allReadyFired := false } peer = (x.copy peer).map fun _ => false := by
      simp [copy, find, Function.comp_def]
    rw [hcopy]
    exact h.back.clear hsafe

lemma deliver :
    let ends := deliver x.transport y.transport
    Joint id peer role peerRole { x with transport := ends.1 } { y with transport := ends.2 } := by
  intro ends
  rcases h with ⟨⟨hx, hxwired, hxsenders⟩, ⟨hy, hywired, hysenders⟩, hout, hback⟩
  have hxid : x.transport.id = id := hx.seated.identity
  have hyid : y.transport.id = peer := hy.seated.identity
  have houtbox := wired_iff.1 hxwired
  rw [← hyid] at houtbox
  cases hqueue : x.outgoing with
  | nil =>
    rw [hqueue] at houtbox
    have hends : ends = (x.transport, y.transport) := deliver_nil houtbox
    rw [hends]
    exact ⟨⟨hx, hxwired, hxsenders⟩, ⟨hy, hywired, hysenders⟩, hout, hback⟩
  | cons bytes rest =>
    rw [hqueue] at houtbox
    have hends := deliver_cons houtbox
    simp only [ends, hends]
    -- the message moves from the queue to the inbox; the way as a whole stays the same
    refine ⟨⟨hx.congr rfl rfl rfl, ?_, hxsenders⟩, ⟨hy.congr rfl rfl rfl, hywired, ?_⟩, ?_, ?_⟩
    · simp [Wired, hyid]
    · intro d hd
      rcases mem_append.1 hd with hold | hnew
      · exact hysenders d hold
      · rw [mem_singleton.1 hnew]
        exact hxid
    · have hway : (y.inbound ++ [bytes]) ++ rest = y.inbound ++ x.outgoing := by simp [hqueue]
      have harrived : (y.transport.inbox ++ [(⟨x.transport.id, bytes⟩ : Datagram)]).map
          Datagram.bytes = y.inbound ++ [bytes] := by simp [inbound]
      have hleft : [(y.transport.id, rest)].flatMap Prod.snd = rest := by simp
      rw [← hway, ← harrived, ← hleft] at hout
      exact hout
    · exact hback

end

end Joint

/-! ## The two sessions as one system -/

inductive Call where
  | sendReadyFlag (ready : Bool)
  | resetReadyFlags
  | poll (nowMs : UInt64) (budget : Nat)

/-- A call; the receive loop of a poll ends with the inbox. -/
def call (s : Session LoopTransport) : Call → Session LoopTransport
  | .sendReadyFlag ready => (s.sendReadyFlag ready).state
  | .resetReadyFlags => s.resetReadyFlags.state
  | .poll nowMs budget => (Session.poll (s.transport.inbox.length + 1) s nowMs budget).state

/-- The calls of `x` that leave the replication of `y`'s flag alone.  A reset waits until `y`'s flag is
down or a flag of `y` is still to arrive; at a poll the last pulse of every other player is recent. -/
def Mindful (x y : Session LoopTransport) : Call → Prop
  | .sendReadyFlag _ => True
  | .resetReadyFlags => FlagIn (x.inbound ++ y.outgoing) ∨ y.localReady = false
  | .poll nowMs _ => ∀ p ∈ x.players, p.isLocal = true ∨
      ¬ x.timeoutMs < saturatingSub nowMs p.lastPulseMs

instance (x y : Session LoopTransport) : ∀ c, Decidable (Mindful x y c)
  | .sendReadyFlag _ => isTrue trivial
  | .resetReadyFlags =>
    inferInstanceAs (Decidable (FlagIn (x.inbound ++ y.outgoing) ∨ y.localReady = false))
  | .poll nowMs _ =>
    inferInstanceAs (Decidable (∀ p ∈ x.players, p.isLocal = true ∨
      ¬ x.timeoutMs < saturatingSub nowMs p.lastPulseMs))

lemma Joint.call {id peer : Int32} {role peerRole : Role} {x y : Session LoopTransport}
    (h : Joint id peer role peerRole x y) (hp : Parties id peer role peerRole) {c : Call}
    (hc : Mindful x y c) : Joint id peer role peerRole (x.call c) y := by
  cases c with
  | sendReadyFlag ready => exact h.sendReadyFlag hp ready
  | resetReadyFlags => exact h.resetReadyFlags hp hc
  | poll nowMs budget => exact h.poll hp _ budget hc

lemma Nonzero.call {id : Int32} {s : Session LoopTransport} (h : Nonzero id s ∧ s.localId = id)
    (c : Call) : Nonzero id (s.call c) ∧ (s.call c).localId = id := by
  cases c with
  | sendReadyFlag ready => exact h.1.step h.2 (.sendReadyFlag ready)
  | resetReadyFlags => exact h.1.step h.2 .resetReadyFlags
  | poll nowMs budget =>
    rcases poll_reaches (s.transport.inbox.length + 1) s nowMs budget with ⟨inputs, _, hrun⟩
    have hend := run_invariant (I := fun s => Nonzero id s ∧ s.localId = id)
      (fun s i hs => hs.1.step hs.2 i) inputs s h
    rw [hrun] at hend
    exact hend

structure Pair where
  host : Session LoopTransport
  client : Session LoopTransport

inductive Move where
  | call (caller : Role) (c : Call)
  | deliver (sender : Role)

namespace Pair

/-- Two new sessions over two connected endpoints. -/
def fresh (hostId clientId : Int32) (hostName clientName : String) : Pair :=
  { host := Session.new ((LoopTransport.new hostId).connect clientId) .host hostName
    client := Session.new ((LoopTransport.new clientId).connect hostId) .client clientName }

def step (p : Pair) : Move → Pair
  | .call .host c => { p with host := p.host.call c }
  | .call .client c => { p with client := p.client.call c }
  | .deliver .host =>
    let ends := LoopTransport.deliver p.host.transport p.client.transport
    { host := { p.host with transport := ends.1 }
      client := { p.client with transport := ends.2 } }
  | .deliver .client =>
    let ends := LoopTransport.deliver p.client.transport p.host.transport
    { host := { p.host with transport := ends.2 }
      client := { p.client with transport := ends.1 } }

/-- The moves that leave the replication alone. -/
def Careful (p : Pair) : Move → Prop
  | .call .host c => Mindful p.host p.client c
  | .call .client c => Mindful p.client p.host c
  | .deliver _ => True

instance (p : Pair) : ∀ m, Decidable (p.Careful m)
  | .call .host c => inferInstanceAs (Decidable (Mindful p.host p.client c))
  | .call .client c => inferInstanceAs (Decidable (Mindful p.client p.host c))
  | .deliver _ => isTrue trivial

/-- Nothing is on its way. -/
def Quiet (p : Pair) : Prop :=
  p.host.inbound = [] ∧ p.host.outgoing = [] ∧ p.client.inbound = [] ∧ p.client.outgoing = []

def Acquainted (p : Pair) : Prop :=
  (p.host.find p.client.localId).isSome ∧ (p.client.find p.host.localId).isSome

/-- Each end's record of the other's flag is that flag. -/
def Agree (p : Pair) : Prop :=
  p.host.copy p.client.localId = some p.client.localReady ∧
    p.client.copy p.host.localId = some p.host.localReady

variable {hostId clientId : Int32} {p : Pair}

/-- What the two ends keep by themselves. -/
def Named (hostId clientId : Int32) (p : Pair) : Prop :=
  (Nonzero hostId p.host ∧ p.host.localId = hostId) ∧
    (Nonzero clientId p.client ∧ p.client.localId = clientId)

lemma Named.step (h : Named hostId clientId p) (m : Move) : Named hostId clientId (p.step m) := by
  cases m with
  | call caller c =>
    cases caller with
    | host => exact ⟨Nonzero.call h.1 c, h.2⟩
    | client => exact ⟨h.1, Nonzero.call h.2 c⟩
  | deliver sender =>
    cases sender with
    | host =>
      rcases deliver_ids p.host.transport p.client.transport with ⟨hsrc, hdst⟩
      exact ⟨⟨h.1.1, hsrc.trans h.1.2⟩, ⟨h.2.1, hdst.trans h.2.2⟩⟩
    | client =>
      rcases deliver_ids p.client.transport p.host.transport with ⟨hsrc, hdst⟩
      exact ⟨⟨h.1.1, hdst.trans h.1.2⟩, ⟨h.2.1, hsrc.trans h.2.2⟩⟩

lemma named_fresh (hostId clientId : Int32) (hostName clientName : String) :
    Named hostId clientId (fresh hostId clientId hostName clientName) := by
  refine ⟨⟨?_, rfl⟩, ⟨?_, rfl⟩⟩
  all_goals
    intro a ha hne
    rw [mem_singleton.1 ha] at hne
    exact absurd rfl hne

lemma Named.nonzero (h : Named hostId clientId p) (hne : hostId ≠ clientId) (hknow : p.Acquainted) :
    hostId ≠ 0 ∧ clientId ≠ 0 := by
  have hseat : ∀ {s : Session LoopTransport} {u : Int32}, (s.find u).isSome →
      ∃ a ∈ s.seats, a.uniqueId = u := by
    intro s u hfind
    rcases isSome_iff_exists.1 hfind with ⟨q, hq⟩
    have hid : q.uniqueId = u := by simpa using find?_some hq
    exact ⟨q.seat, mem_map_of_mem (mem_of_find?_eq_some hq), hid⟩
  rcases h with ⟨⟨hhost, hhostId⟩, ⟨hclient, hclientId⟩⟩
  rcases hknow with ⟨hknowsClient, hknowsHost⟩
  rw [hclientId] at hknowsClient
  rw [hhostId] at hknowsHost
  rcases hseat hknowsClient with ⟨a, ha, haid⟩
  rcases hseat hknowsHost with ⟨b, hb, hbid⟩
  exact ⟨hbid ▸ hclient b hb (hbid ▸ hne), haid ▸ hhost a ha (haid ▸ hne.symm)⟩

def Sound (hostId clientId : Int32) (p : Pair) : Prop :=
  Joint hostId clientId .host .client p.host p.client

lemma Sound.step (h : Sound hostId clientId p) (hp : Parties hostId clientId .host .client)
    {m : Move} (hm : p.Careful m) : Sound hostId clientId (p.step m) := by
  cases m with
  | call caller =>
    cases caller with
    | host => exact Joint.call h hp hm
    | client => exact (Joint.call h.symm hp.symm hm).symm
  | deliver sender =>
    cases sender with
    | host => exact h.deliver
    | client => exact h.symm.deliver.symm

lemma end_new {id peer : Int32} (hid : id ≠ 0) (role : Role) (name : String) :
    End id peer role (Session.new ((LoopTransport.new id).connect peer) role name) := by
  have hseated : Seated id (Session.new ((LoopTransport.new id).connect peer) role name) :=
    Seated.new ((LoopTransport.new id).connect peer) role name
  refine ⟨⟨rfl, hseated, ?_, ?_⟩, rfl, ?_⟩
  · intro a ha _
    rw [mem_singleton.1 ha]
    exact hid
  · rintro rfl a ha hhost
    rw [mem_singleton.1 ha] at hhost
    cases hhost
  · intro d hd
    cases hd

lemma sound_fresh (hp : Parties hostId clientId .host .client) (hostName clientName : String) :
    Sound hostId clientId (fresh hostId clientId hostName clientName) := by
  have hnobody : ∀ {id peer : Int32} {role : Role} {name : String}, peer ≠ id →
      (Session.new ((LoopTransport.new id).connect peer) role name).copy peer = none := by
    intro id peer role name hne
    have hother : id ≠ peer := hne.symm
    simp [Session.copy, Session.find, Session.new, localPlayer, Transport.localId, LoopTransport.new,
      LoopTransport.connect, hother]
  refine ⟨end_new hp.nonzero _ _, end_new hp.peerNonzero _ _, ?_, ?_⟩
  · refine ⟨none, hnobody hp.distinct.symm, by simp, ?_⟩
    intro hgreeted
    cases hgreeted
  · refine ⟨none, hnobody hp.distinct, by simp, ?_⟩
    intro hgreeted
    cases hgreeted

/-- With nothing on its way, ends that know each other agree. -/
lemma Sound.agree (h : Sound hostId clientId p) (hquiet : p.Quiet) (hknow : p.Acquainted) :
    p.Agree := by
  rcases hquiet with ⟨hhostIn, hhostOut, hclientIn, hclientOut⟩
  have hclientId : p.client.localId = clientId := h.far.member.seated.identity
  have hhostId : p.host.localId = hostId := h.near.member.seated.identity
  have hout := h.out
  have hback := h.back
  rw [hclientIn, hhostOut] at hout
  rw [hhostIn, hclientOut] at hback
  unfold Acquainted at hknow
  unfold Agree
  rw [hclientId, hhostId] at hknow ⊢
  refine ⟨?_, ?_⟩
  · rcases isSome_iff_exists.1 hknow.1 with ⟨q, hq⟩
    have hcopy : p.host.copy clientId = some q.ready := by simp [copy, hq]
    rw [hcopy, hback.settled q.ready hcopy]
  · rcases isSome_iff_exists.1 hknow.2 with ⟨q, hq⟩
    have hcopy : p.client.copy hostId = some q.ready := by simp [copy, hq]
    rw [hcopy, hout.settled q.ready hcopy]

/-- In every state of every careful run of a host and a client, when nothing is on its way and each
knows the other, each end's record of the other's ready flag is that flag. -/
theorem readiness_agreement (hostId clientId : Int32) (hne : hostId ≠ clientId)
    (hostName clientName : String) (moves : List Move)
    (hcareful : Admissible step Careful (fresh hostId clientId hostName clientName) moves) :
    ∀ pre, pre <+: moves →
      (run step (fresh hostId clientId hostName clientName) pre).Quiet →
      (run step (fresh hostId clientId hostName clientName) pre).Acquainted →
        (run step (fresh hostId clientId hostName clientName) pre).Agree := by
  intro pre hpre hquiet hknow
  have hnamed : Named hostId clientId (run step (fresh hostId clientId hostName clientName) pre) :=
    run_invariant (I := Named hostId clientId) (fun p m hp => hp.step m) pre _
      (named_fresh hostId clientId hostName clientName)
  rcases hnamed.nonzero hne hknow with ⟨hhost, hclient⟩
  have hp : Parties hostId clientId .host .client :=
    ⟨hne.symm, hhost, hclient, fun h => by cases h⟩
  have hsound : Throughout step (Sound hostId clientId)
      (fresh hostId clientId hostName clientName) moves :=
    throughout_of_admissible (I := Sound hostId clientId) (fun p m hs hm => hs.step hp hm)
      (fun _ hs => hs) moves _ (sound_fresh hp hostName clientName) hcareful
  rw [throughout_iff_prefixes] at hsound
  exact (hsound pre hpre).agree hquiet hknow

/-- Everything queued arrives, and both ends poll. -/
def exchange (nowMs : UInt64) : List Move :=
  List.replicate 3 (.deliver .host) ++ List.replicate 3 (.deliver .client) ++
    [.call .host (.poll nowMs 0), .call .client (.poll nowMs 0)]

def clientReady : List Move :=
  exchange 0 ++ exchange 1 ++ exchange 2 ++ [.call .client (.sendReadyFlag true)] ++ exchange 3

theorem readiness_agreement_client_ready :
    let p := run step (fresh 1 2 "a" "b") clientReady
    p.Quiet ∧ p.Acquainted ∧ p.client.localReady = true ∧ p.Agree := by
  intro p
  have hquiet : p.Quiet := by
    unfold Quiet
    decide +kernel
  have hknow : p.Acquainted := by
    unfold Acquainted
    decide +kernel
  refine ⟨hquiet, hknow, by decide +kernel, ?_⟩
  exact readiness_agreement 1 2 (by decide) "a" "b" clientReady (by decide) clientReady
    (List.prefix_refl _) hquiet hknow

/-- The host resets after the client's flag has arrived: nothing is on its way any more, the client is
ready, and the host has it as not ready. -/
theorem reset_forgets_ready_client :
    let p := run step (fresh 1 2 "a" "b") (clientReady ++ [.call .host .resetReadyFlags] ++ exchange 4)
    p.Quiet ∧ p.Acquainted ∧ p.client.localReady = true ∧ p.host.copy 2 = some false ∧ ¬ p.Agree := by
  intro p
  refine ⟨?_, ?_, by decide +kernel, by decide +kernel, ?_⟩
  · unfold Quiet
    decide +kernel
  · unfold Acquainted
    decide +kernel
  · unfold Agree
    decide +kernel

end Pair

end Session

end Don.Net
