import Don.Foundation.Machine
import Don.Net.Session.Basic

/-!
# Session.Effects — the inputs of a session and what each can do

A session is driven by local calls and by the pieces of `poll`: the greeting part, one datagram at a
time, the reaping part.  `poll_reaches` says that a whole `poll` is a run of such pieces, also when a send
fails half way, so a statement over runs of `step` covers every use of a session.

`step_effects` says once what an input can change: a step is a sequence of `Effect`s, each of which
records what the code had checked when it made the change.  Invariants are proved by one case per
effect.
-/

namespace Don.Net

open Foundation InternalPacket Outcome Transport

/-- What the other players see of a roster entry; readiness, name and liveness are left out. -/
structure Seat where
  uniqueId : Int32
  isHost : Bool
  isLocal : Bool
  slot : Nat
  deriving DecidableEq

def Player.seat (p : Player) : Seat :=
  { uniqueId := p.uniqueId
    isHost := p.isHost
    isLocal := p.isLocal
    slot := p.slot }

namespace Session

variable {τ : Type} [Transport τ]

def seats (s : Session τ) : List Seat :=
  s.players.map Player.seat

/-! ## Inputs -/

inductive Input (τ : Type) where
  | sendReadyFlag (ready : Bool)
  | resetReadyFlags
  | sendDsync (frame : Int32)
  | startMatch (epoch seed : UInt32)
  | announceGameKeyTo (peer : Int32) (seed : UInt32) (source : GameKeySource)
  | announceGameKey (seed : UInt32) (source : GameKeySource)
  | announceDisconnect
  | sendAll (msg : NetMsg)
  | sendTo (uniqueId : Int32) (msg : NetMsg)
  | sendCommandPackage (stamp : UInt32) (play : Int8) (payload : Bytes)
  | takeTurn (stamp : UInt32)
  | drainEvents
  | setTimeoutMs (ms : UInt64)
  | resetForReuse (role : Role)
  | pollBegin (nowMs : UInt64)
  /-- The transport moves on by itself: it did I/O, connected a peer or handed out a datagram. -/
  | transport (t : τ)
  | receive (d : Datagram)
  | pollEnd

def step (s : Session τ) : Input τ → Session τ
  | .sendReadyFlag ready => (s.sendReadyFlag ready).state
  | .resetReadyFlags => s.resetReadyFlags.state
  | .sendDsync frame => (s.sendDsync frame).state
  | .startMatch epoch seed => (s.startMatch epoch seed).state
  | .announceGameKeyTo peer seed source => (s.announceGameKeyTo peer seed source).state
  | .announceGameKey seed source => (s.announceGameKey seed source).state
  | .announceDisconnect => s.announceDisconnect.state
  | .sendAll msg => (s.sendAll msg).state
  | .sendTo uniqueId msg => (s.sendTo uniqueId msg).state
  | .sendCommandPackage stamp play payload => (s.sendCommandPackage stamp play payload).state
  | .takeTurn stamp => (s.takeTurn stamp).1
  | .drainEvents => s.drainEvents.1
  | .setTimeoutMs ms => s.setTimeoutMs ms
  | .resetForReuse role => s.resetForReuse role
  | .pollBegin nowMs => (s.pollBegin nowMs).state
  | .transport t => if Transport.localId t = s.localId then { s with transport := t } else s
  | .receive d => (s.handle d).state
  | .pollEnd => s.pollEnd

def InUse (s : Session τ) : Prop :=
  ∃ t role name inputs, run step (Session.new t role name) inputs = s

variable {s : Session τ}

lemma InUse.run (h : InUse s) (inputs : List (Input τ)) :
    InUse (Foundation.run step s inputs) := by
  rcases h with ⟨t, role, name, history, rfl⟩
  exact ⟨t, role, name, history ++ inputs, run_append _ _ _ _⟩

/-- The inputs `poll` is made of. -/
def Input.IsPoll : Input τ → Prop
  | .pollBegin _ | .transport _ | .receive _ | .pollEnd => True
  | _ => False

lemma step_transport {t : τ} (h : Transport.localId t = s.localId) :
    s.step (.transport t) = { s with transport := t } :=
  if_pos h

open Input

lemma receiveAll_reaches (fuel : Nat) {s0 : Session τ} :
    ∀ s : Session τ, Reaches step IsPoll s0 s →
      Reaches step IsPoll s0 (receiveAll fuel s).state := by
  induction fuel with
  | zero =>
    intro s hs
    exact hs
  | succ fuel ih =>
    intro s hs
    have hpop : Reaches step IsPoll s0
        { s with transport := (recv s.transport).state } := by
      have hstep := hs.tail (i := .transport (recv s.transport).state) trivial
      rwa [step_transport (Transport.localId_recv _)] at hstep
    simp only [receiveAll]
    cases hres : (recv s.transport).result with
    | error => exact hpop
    | ok popped =>
      cases popped with
      | none => exact hpop
      | some d =>
        -- one datagram: handle it, then stop on an error or go around again
        refine andThen_state (hpop.tail (i := .receive d) trivial) ?_
        intro s' _ hs'
        exact ih s' hs'

/-- A whole `poll` is a run of its pieces, whether or not it returns early. -/
lemma poll_reaches (fuel : Nat) (s : Session τ) (nowMs : UInt64) (budget : Nat) :
    Reaches step IsPoll s (poll fuel s nowMs budget).state := by
  have hbegin : Reaches step IsPoll s (s.pollBegin nowMs).state :=
    (Reaches.refl step s).tail (i := .pollBegin nowMs) trivial
  unfold poll
  refine andThen_state (andThen_state (andThen_state hbegin ?_) ?_) ?_
  · intro s' _ hs'
    have hstep := hs'.tail (i := .transport (Transport.poll s'.transport budget).state) trivial
    rwa [step_transport (Transport.localId_poll _ _)] at hstep
  · intro s' _ hs'
    exact receiveAll_reaches fuel s' hs'
  · intro s' _ hs'
    exact hs'.tail (i := .pollEnd) trivial

/-! ## Dispatch -/

lemma handle_internal {d : Datagram} {p : InternalPacket}
    (hd : decode d.bytes = .ok p) (s : Session τ) :
    s.handle d = s.handleInternal d.sender p := by
  have hfirst : d.bytes.head? = some p.id := (decode_spec hd).1
  have hrange : ∀ b ∈ iptIds, DonExtension.isExtension b = false ∧ iptBase ≤ b := by
    decide +kernel
  rcases hrange p.id p.id_mem_iptIds with ⟨hext, hbase⟩
  cases hbytes : d.bytes with
  | nil => simp [hbytes] at hfirst
  | cons first =>
    obtain rfl : first = p.id := by simpa [hbytes] using hfirst
    rw [hbytes] at hd
    simp [handle, hbytes, hext, hbase, hd]

lemma handle_extension {d : Datagram} {p : DonExtension}
    (hd : DonExtension.decode d.bytes = .ok p) (s : Session τ) :
    s.handle d = s.handleExtension d.sender p := by
  cases hbytes : d.bytes with
  | nil =>
    rw [hbytes] at hd
    cases hd
  | cons first =>
    rw [hbytes] at hd
    have hext : DonExtension.isExtension first = true := by
      by_contra hnot
      have hfalse : DonExtension.isExtension first = false := Bool.eq_false_iff.2 hnot
      simp [DonExtension.decode, hfalse] at hd
    simp [handle, hbytes, hext, hd]

lemma handle_game {d : Datagram} {f : Framed} (hd : NetMsg.decode d.bytes = .ok f)
    (s : Session τ) : s.handle d = s.handleGame d := by
  cases hbytes : d.bytes with
  | nil =>
    rw [hbytes] at hd
    cases hd
  | cons first =>
    rw [hbytes] at hd
    have hlt : first < 128 := NetMsg.decode_first hd
    have hext : DonExtension.isExtension first = false := by
      rw [Bool.eq_false_iff]
      intro hge
      have hle : donExtBase ≤ first := by simpa [DonExtension.isExtension] using hge
      exact absurd (UInt8.lt_of_le_of_lt hle hlt) (by decide)
    have hbase : ¬ iptBase ≤ first := by simpa [iptBase] using hlt
    simp [handle, hbytes, hext, hbase]

/-! ## Effects -/

/-- One primitive change made while processing the input `i`, with what the code has checked. -/
inductive Effect (i : Input τ) (s : Session τ) : Session τ → Prop where
  /-- Clocks, greetings and the transport, which keeps its identity. -/
  | silent (t : τ) (announcedTo : List Int32) (fired : Bool) (now sent timeout : UInt64)
      (hid : Transport.localId t = s.localId) :
      Effect i s
        { s with
          transport := t
          announcedTo,
          allReadyFired := fired
          nowMs := now
          lastPulseSentMs := sent
          timeoutMs := timeout }
  | note (event : Event) (hplain : ∀ start, event ≠ .matchStarted start) :
      Effect i s (s.push event)
  /-- Names, ready flags and pulse times change; nobody moves. -/
  | touch (players : List Player) (hseats : players.map Player.seat = s.seats) :
      Effect i s { s with players }
  | join (d : Datagram) (name : String) (isHosting : Bool) (hi : i = .receive d)
      (hd : InternalPacket.decode d.bytes = .ok (.addPlayer name d.sender isHosting))
      (hclaim : isHosting → s.role = .client ∧ ∀ host ∈ s.host?, host = d.sender)
      (hfresh : s.find d.sender = none) :
      Effect i s (s.join d.sender name isHosting false s.players.length)
  | enroll (d : Datagram) (n : UInt8) (ids : Vector Int32 8) (hi : i = .receive d)
      (hd : InternalPacket.decode d.bytes = .ok (.playerList n ids)) (hrole : s.role = .client)
      (hhost : ∀ host ∈ s.host?, host = d.sender) (hhead : ids.head = d.sender)
      (hlocal : s.localId ∈ InternalPacket.active n ids) :
      Effect i s (s.enroll d.sender (InternalPacket.active n ids)).1
  | settle (d : Datagram) (n : UInt8) (ids : Vector Int32 8) (hi : i = .receive d)
      (hd : InternalPacket.decode d.bytes = .ok (.playerList n ids)) :
      Effect i s (s.settle (InternalPacket.active n ids))
  | leave (d : Datagram) (hi : i = .receive d)
      (hd : InternalPacket.decode d.bytes = .ok (.destroyPlayer d.sender)) :
      Effect i s { s with players := s.players.filter (·.uniqueId ≠ d.sender) }
  | reap (hi : i = .pollEnd) : Effect i s s.reapTimeouts
  | migrate (d : Datagram) (newHost : Int32) (hi : i = .receive d)
      (hd : InternalPacket.decode d.bytes = .ok (.migrateHost newHost)) :
      Effect i s (s.handleMigrateHost newHost).state
  | fileLocal (stamp : UInt32) (play : Int8) (payload : Bytes)
      (hi : i = .sendCommandPackage stamp play payload) :
      Effect i s (s.filePackage { stamp := stamp, play := play, payload := payload })
  | fileRemote (d : Datagram) (ty : MsgType) (stamp : UInt32) (play : Int8) (payload : Bytes)
      (hi : i = .receive d)
      (hd : NetMsg.decode d.bytes = .ok { ty := ty, msg := .commandPackage stamp play payload }) :
      Effect i s (s.filePackage { stamp := stamp, play := play, payload := payload })
  | gameKey (d : Datagram) (key : AnnouncedGameKey) (hi : i = .receive d)
      (hhost : s.host? = some d.sender) : Effect i s { s with announcedGameKey := some key }
  | startLocal (start : AnnouncedMatchStart) (hi : i = .startMatch start.epoch start.seed)
      (hrole : s.role = .host) (hepoch : start.epoch ≠ 0) (hready : s.allReady)
      (hnone : s.announcedMatchStart = none) : Effect i s (s.recordStart start)
  | startRemote (d : Datagram) (start : AnnouncedMatchStart) (hi : i = .receive d)
      (hd : DonExtension.decode d.bytes = .ok (.matchStart start.epoch start.seed))
      (hhost : s.host? = some d.sender) (hepoch : start.epoch ≠ 0) (hready : s.allReady)
      (hnone : s.announcedMatchStart = none) : Effect i s (s.recordStart start)
  | take (stamp : UInt32) (hi : i = .takeTurn stamp) :
      Effect i s { s with turns := s.turns.erase stamp }
  | drain (hi : i = .drainEvents) : Effect i s { s with events := [] }
  | reset (role : Role) (hi : i = .resetForReuse role) : Effect i s (s.resetForReuse role)

def Effects (i : Input τ) : Session τ → Session τ → Prop :=
  Relation.ReflTransGen (Effect i)

variable {i : Input τ}

lemma Effects.refl : Effects i s s :=
  Relation.ReflTransGen.refl

variable {s' : Session τ}

lemma Effects.tail {s0 : Session τ} (h : Effects i s0 s) (he : Effect i s s') : Effects i s0 s' :=
  Relation.ReflTransGen.tail h he

open Effects

lemma Effects.single (he : Effect i s s') : Effects i s s' :=
  Effects.refl.tail he

/-- The rule for invariants: what every effect of an input keeps, the whole step keeps. -/
lemma effects_preserve {P : Session τ → Prop}
    (heffect : ∀ s s', P s → Effect i s s' → P s') (h : Effects i s s')
    (hs : P s) : P s' := by
  induction h with
  | refl => exact hs
  | tail _ hlast ih => exact heffect _ _ ih hlast

section StepEffects

variable {i : Input τ} {s0 s : Session τ}

lemma Effects.transmit (h : Effects i s0 s) (dest : Dest) (bytes : Bytes) :
    Effects i s0 (s.transmit dest bytes).state :=
  h.tail (.silent _ s.announcedTo s.allReadyFired s.nowMs s.lastPulseSentMs s.timeoutMs
    (localId_send _ _ _))

lemma Effects.push (h : Effects i s0 s) {event : Event}
    (hplain : ∀ start, event ≠ .matchStarted start) : Effects i s0 (s.push event) :=
  h.tail (.note event hplain)

lemma Effects.refuse (h : Effects i s0 s) (sender : Int32) (reason : SetupRefusal) :
    Effects i s0 (s.refuse sender reason).state :=
  h.push (by simp)

/-! ### Local calls -/

lemma sendReadyFlag_effects (ready : Bool) : Effects i s (s.sendReadyFlag ready).state := by
  have htouch : Effects i s
      { s with players := updateFirst (·.isLocal) (fun p => { p with ready }) s.players } := by
    refine .single (.touch _ (map_updateFirst ?_ s.players))
    intro p _
    rfl
  exact htouch.transmit _ _

lemma resetReadyFlags_effects : Effects i s s.resetReadyFlags.state := by
  have htouch : Effects i s { s with players := s.players.map fun p => { p with ready := false } } := by
    refine .single (.touch _ ?_)
    simp [seats, Player.seat, Function.comp_def]
  exact (htouch.tail (.silent _ _ false _ _ _ rfl)).transmit _ _

lemma startMatch_effects (epoch seed : UInt32) :
    Effects (.startMatch epoch seed) s (s.startMatch epoch seed).state := by
  unfold startMatch
  split
  · exact .refl
  rename_i hrole
  split
  · exact .refl
  rename_i hepoch
  split
  · exact .refl
  rename_i hnot
  have hready : s.allReady := by simpa using hnot
  cases hnone : s.announcedMatchStart with
  | some =>
    simp only
    split <;> exact .refl
  | none =>
    simp only
    have hsent : Effects (.startMatch epoch seed) s
        (s.transmit .all (DonExtension.matchStart epoch seed).encode).state :=
      Effects.transmit .refl _ _
    cases (s.transmit .all (DonExtension.matchStart epoch seed).encode).result with
    | error => exact hsent
    | ok _ =>
      exact hsent.tail (.startLocal _ rfl (not_not.1 hrole) hepoch hready hnone)

lemma sendCommandPackage_effects (stamp : UInt32) (play : Int8) (payload : Bytes) :
    Effects (.sendCommandPackage stamp play payload) s
      (s.sendCommandPackage stamp play payload).state := by
  unfold sendCommandPackage
  split
  · exact .refl
  · refine andThen_state (Effects.transmit .refl _ _) ?_
    intro s' _ hs'
    exact hs'.tail (.fileLocal stamp play payload rfl)

lemma takeTurn_effects (stamp : UInt32) : Effects (.takeTurn stamp) s (s.takeTurn stamp).1 := by
  unfold takeTurn
  cases s.turns[stamp]? with
  | none => exact .refl
  | some => exact .single (.take stamp rfl)

lemma greetAll_effects (add flag : InternalPacket) :
    ∀ (peers : List Int32) (s : Session τ), Effects i s0 s →
      Effects i s0 (greetAll add flag peers s).state := by
  intro peers
  induction peers with
  | nil =>
    intro s hs
    exact hs
  | cons peer rest ih =>
    intro s hs
    refine andThen_state (andThen_state (hs.transmit _ _) ?_) ?_
    · intro s' _ hs'
      exact hs'.transmit _ _
    · intro s' _ hs'
      exact ih _ (hs'.tail (.silent _ _ _ _ _ _ rfl))

lemma pollBegin_effects (nowMs : UInt64) : Effects i s (s.pollBegin nowMs).state := by
  refine andThen_state ?_ ?_
  · exact greetAll_effects _ _ _ _ (.single (.silent _ _ _ nowMs _ _ rfl))
  · intro s' _ hs'
    unfold sendPulse
    split
    · refine andThen_state (hs'.transmit _ _) ?_
      intro s'' _ hs''
      exact hs''.tail (.silent _ _ _ _ nowMs _ rfl)
    · exact hs'

lemma pollEnd_effects : Effects .pollEnd s s.pollEnd := by
  have hreap : Effects .pollEnd s s.reapTimeouts := .single (.reap rfl)
  unfold pollEnd noteAllReady
  split
  · exact (hreap.tail (.silent _ _ true _ _ _ rfl)).push (by simp)
  split
  · exact hreap.tail (.silent _ _ false _ _ _ rfl)
  · exact hreap

/-! ### Received packets -/

lemma Effects.answerAdd (h : Effects i s0 s) : Effects i s0 s.answerAdd.state := by
  unfold Session.answerAdd
  split
  · refine andThen_state (h.transmit _ _) ?_
    intro s' _ hs'
    exact hs'.transmit _ _
  · exact h

variable {d : Datagram}

lemma handleAddPlayer_effects {name : String} {uniqueId : Int32} {isHosting : Bool}
    (hd : decode d.bytes = .ok (.addPlayer name uniqueId isHosting)) :
    Effects (.receive d) s (s.handleAddPlayer d.sender name uniqueId isHosting).state := by
  unfold handleAddPlayer
  split
  · exact Effects.refl.refuse _ _
  rename_i hsender
  obtain rfl : uniqueId = d.sender := not_not.1 hsender
  split
  · exact Effects.refl.refuse _ _
  rename_i hclaim
  cases hfind : s.find d.sender with
  | some p =>
    simp only
    split
    · exact Effects.refl.refuse _ _
    rename_i hagree
    have hhost : p.isHost = isHosting := by
      by_contra hne
      exact hagree (Or.inr hne)
    have htouch : Effect (.receive d) s (s.introduce d.sender name isHosting) := by
      refine .touch _ (map_updateFirst_of_find hfind ?_)
      simp [Player.seat, hhost]
    exact (Effects.single htouch).answerAdd
  | none =>
    have hjoin : Effect (.receive d) s
        (s.join d.sender name isHosting false s.players.length) := by
      refine .join d name isHosting rfl hd ?_ hfind
      intro hhosting
      refine ⟨?_, ?_⟩
      · cases hr : s.role with
        | host => exact absurd ⟨hhosting, Or.inl hr⟩ hclaim
        | client => rfl
      · intro host hhost
        by_contra hne
        exact hclaim ⟨hhosting, Or.inr (by simp [Option.mem_def.1 hhost, hne])⟩
    refine andThen_state ((Effects.single hjoin).transmit _ _) ?_
    intro s' _ hs'
    exact hs'.answerAdd

lemma handlePlayerList_effects {n : UInt8} {ids : Vector Int32 8}
    (hd : decode d.bytes = .ok (.playerList n ids)) :
    Effects (.receive d) s (s.handlePlayerList d.sender n ids).state := by
  unfold handlePlayerList
  simp only
  split
  · exact Effects.refl.refuse _ _
  rename_i hrole
  cases hmismatch : s.host?.filter (· ≠ d.sender) with
  | some => exact Effects.refl.refuse _ _
  | none =>
    simp only
    split
    · exact Effects.refl.refuse _ _
    rename_i hhead
    split
    · exact Effects.refl.refuse _ _
    rename_i hlocal
    have henroll : Effect (.receive d) s
        (s.enroll d.sender (active n ids)).1 := by
      refine .enroll d n ids rfl hd ?_ ?_ (not_not.1 hhead) (not_not.1 hlocal)
      · cases hr : s.role with
        | host => exact absurd hr hrole
        | client => rfl
      · intro host hhost
        by_contra hne
        simp [Option.mem_def.1 hhost, Option.filter, hne] at hmismatch
    split
    · refine andThen_state ((Effects.single henroll).transmit _ _) ?_
      intro s' _ hs'
      exact hs'.tail (.settle d n ids rfl hd)
    · exact (Effects.single henroll).tail (.settle d n ids rfl hd)

lemma handleReadyFlag_effects (sender : Int32) (ready : Bool) :
    Effects i s (s.handleReadyFlag sender ready).state := by
  unfold handleReadyFlag
  cases s.find sender with
  | none => exact Effects.refl.refuse _ _
  | some p =>
    simp only
    split
    · have htouch : Effects i s { s with
          players := updateFirst (·.uniqueId = sender) (fun p => { p with ready })
            s.players } := by
        refine .single (.touch _ (map_updateFirst ?_ s.players))
        intro p _
        rfl
      exact htouch.push (by simp)
    · exact .refl

lemma handleDestroyPlayer_effects {uniqueId : Int32}
    (hd : decode d.bytes = .ok (.destroyPlayer uniqueId)) :
    Effects (.receive d) s (s.handleDestroyPlayer d.sender uniqueId).state := by
  unfold handleDestroyPlayer
  split
  · exact Effects.refl.refuse _ _
  rename_i hsender
  obtain rfl : uniqueId = d.sender := not_not.1 hsender
  have hforget : Effects (.receive d) s
      { s with announcedTo := s.announcedTo.filter (· ≠ d.sender) } :=
    .single (.silent _ _ _ _ _ _ rfl)
  simp only
  split
  · exact (hforget.tail (.leave d rfl hd)).push (by simp)
  · exact hforget

lemma handleInternal_effects {p : InternalPacket} (hd : decode d.bytes = .ok p) :
    Effects (.receive d) s (s.handleInternal d.sender p).state := by
  cases p with
  | addPlayer => exact handleAddPlayer_effects hd
  | playerList => exact handlePlayerList_effects hd
  | readyFlag => exact handleReadyFlag_effects _ _
  | pulse =>
    refine .single (.touch _ (map_updateFirst ?_ s.players))
    intro p _
    rfl
  | dsync => exact Effects.refl.push (by simp)
  | destroyPlayer => exact handleDestroyPlayer_effects hd
  | migrateHost newHost => exact .single (.migrate d newHost rfl hd)
  | dropRequest | cancelDropRequest => exact .refl

lemma handleExtension_effects {p : DonExtension} (hd : DonExtension.decode d.bytes = .ok p) :
    Effects (.receive d) s (s.handleExtension d.sender p).state := by
  cases p with
  | gameKey =>
    simp only [handleExtension, handleGameKey]
    split
    · exact Effects.refl.refuse _ _
    rename_i hhost
    split
    · exact (single (.gameKey d _ rfl (not_not.1 hhost))).push (by simp)
    · exact .refl
  | matchStart epoch seed =>
    simp only [handleExtension, handleMatchStart]
    split
    · exact Effects.refl.refuse _ _
    rename_i hhost
    split
    · exact Effects.refl.refuse _ _
    rename_i hready
    split
    · exact Effects.refl.refuse _ _
    rename_i hepoch
    cases hnone : s.announcedMatchStart with
    | none =>
      exact .single (.startRemote d ⟨d.sender, epoch, seed⟩ rfl hd (not_not.1 hhost) hepoch
        (by simpa using hready) hnone)
    | some =>
      simp only
      split
      · exact .refl
      · exact Effects.refl.refuse _ _

lemma handleGame_effects : Effects (.receive d) s (s.handleGame d).state := by
  unfold handleGame
  cases hd : NetMsg.decode d.bytes with
  | error => exact .refl
  | ok f =>
    rcases f with ⟨ty, msg⟩
    cases msg with
    | commandPackage stamp play payload =>
      exact (single (.fileRemote d ty stamp play payload rfl hd)).push (by simp)
    | _ => exact Effects.refl.push (by simp)

lemma handle_effects (d : Datagram) : Effects (.receive d) s (s.handle d).state := by
  unfold handle
  split
  · exact .refl
  split
  · split
    · exact Effects.refl.refuse _ _
    · rename_i hd
      exact handleExtension_effects hd
  split
  · split
    · exact Effects.refl.refuse _ _
    · rename_i hd
      exact handleInternal_effects hd
  · exact handleGame_effects

lemma step_effects (i : Input τ) (s : Session τ) : Effects i s (s.step i) := by
  cases i with
  | sendReadyFlag ready => exact sendReadyFlag_effects ready
  | resetReadyFlags => exact resetReadyFlags_effects
  | sendDsync | announceGameKeyTo | announceGameKey | announceDisconnect | sendAll | sendTo =>
    exact Effects.refl.transmit _ _
  | startMatch epoch seed => exact startMatch_effects epoch seed
  | sendCommandPackage stamp play payload => exact sendCommandPackage_effects stamp play payload
  | takeTurn stamp => exact takeTurn_effects stamp
  | drainEvents => exact .single (.drain rfl)
  | setTimeoutMs ms => exact .single (.silent _ _ _ _ _ ms rfl)
  | resetForReuse role => exact .single (.reset role rfl)
  | pollBegin nowMs => exact pollBegin_effects nowMs
  | transport t =>
    simp only [step]
    split
    · rename_i hid
      exact .single (.silent t _ _ _ _ _ hid)
    · exact .refl
  | receive d => exact handle_effects d
  | pollEnd => exact pollEnd_effects

end StepEffects

end Session

end Don.Net
