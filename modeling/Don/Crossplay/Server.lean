import Don.Crossplay.Transact

/-!
# Server — connections to one directory

The model of `serve_connection`: every connection runs the same loop against one directory and one set
of active users, each behind its own lock.  A step of the server is what one connection does between
two waits: for a frame, for a lock, or for the write of its answer.  A directory whose lock is poisoned
by a call that did not return is `none`.
-/

namespace Don.Crossplay

open Std (ExtTreeMap ExtTreeSet)
open Foundation Directory List Directory Option Lobby

namespace Rpc

def isStart : DirectoryOperation → Bool
  | .startSession => true
  | _ => false

def isStop : DirectoryOperation → Bool
  | .stopSession _ => true
  | _ => false

def isPoll : DirectoryOperation → Bool
  | .poll => true
  | _ => false

def failureAnswer (code : Int32) (message : String) : DirectoryAnswer :=
  ⟨.failed code message, [], false⟩

/-! ## One connection -/

inductive Stage where
  /-- the next frame -/
  | reading
  /-- the set of users, to claim the user of a start -/
  | claiming (call : DirectoryCall)
  /-- the directory, for the start of a user just claimed -/
  | claimed (call : DirectoryCall)
  /-- the directory, for a call of the bound user -/
  | calling (call : DirectoryCall)
  /-- the directory, to clean up a user that is being released -/
  | cleaning (user : Member) (reply : Option DirectoryAnswer)
  /-- the set of users, to remove a user that is being released -/
  | removing (user : Member) (reply : Option DirectoryAnswer)
  /-- the write of an answer -/
  | replying (answer : DirectoryAnswer)
  | closed
  /-- the thread has died with the directory's lock -/
  | panicked

structure Conn where
  identity : Option Member
  stoppingIdentity : Bool
  stage : Stage

namespace Conn

def new : Conn := ⟨none, false, .reading⟩

/-- Where a connection goes on after a release: to its answer, or nowhere. -/
def resumed : Option DirectoryAnswer → Stage
  | some answer => .replying answer
  | none => .closed

variable (c : Conn)

/-- `release_identity`, up to its first lock. -/
def release (reply : Option DirectoryAnswer) : Conn :=
  match c.identity with
  | some user => ⟨none, false, .cleaning user reply⟩
  | none => ⟨none, false, resumed reply⟩

/-- What follows an answer: a stop begins to drain, and the end of a drain releases the identity. -/
def finish (call : DirectoryCall) (answer : DirectoryAnswer) : Conn :=
  let stopping := c.stoppingIdentity || (isStop call.operation && !answer.outcome.isError)
  if stopping && !answer.moreNotices then c.release (some answer)
  else ⟨c.identity, stopping, .replying answer⟩

/-- A decoded call, up to the first lock it needs. -/
def receive (call : DirectoryCall) : Conn :=
  let wait := fun stage => ({ c with stage } : Conn)
  if isStart call.operation then
    match c.identity with
    | some bound =>
      if bound ≠ call.user then
        c.finish call (failureAnswer error.identityMismatch
          "StartSession user does not match this connection")
      else wait (.calling call)
    | none =>
      if call.user.userId.isEmpty then
        c.finish call (failureAnswer error.badArgument "StartSession user id is empty")
      else wait (.claiming call)
  else
    match c.identity with
    | none =>
      c.finish call (failureAnswer error.notInitialized "StartSession is required")
    | some bound =>
      if bound ≠ call.user then
        c.finish call (failureAnswer error.identityMismatch
          "directory call user does not match this connection")
      else if c.stoppingIdentity && !isPoll call.operation then
        c.finish call (failureAnswer error.notAvailable "StopSession is draining this connection")
      else wait (.calling call)

def bound : Option String :=
  c.identity.map Member.userId

/-- The user that a connection has claimed and not yet removed. -/
def holds : Option String :=
  match c.stage with
  | .cleaning user _ => some user.userId
  | .removing user _ => some user.userId
  | _ => c.bound

/-- The user that a connection may have left something of in the directory. -/
def live : Option String :=
  match c.stage with
  | .claimed _ => none
  | .removing _ _ => none
  | .cleaning user _ => some user.userId
  | _ => c.bound

structure Ok (c : Conn) : Prop where
  calling : ∀ call, c.stage = .calling call → c.identity = some call.user ∧ CallOk call
  claimed : ∀ call, c.stage = .claimed call → c.identity = some call.user ∧ CallOk call
  claiming : ∀ call, c.stage = .claiming call → c.identity = none ∧ CallOk call
  cleaning : ∀ user reply, c.stage = .cleaning user reply → c.identity = none
  removing : ∀ user reply, c.stage = .removing user reply → c.identity = none

lemma ok_of_idle {c : Conn} (h : c.stage = .reading ∨ c.stage = .panicked) : c.Ok := by
  rcases h with h | h <;> exact ⟨by simp [h], by simp [h], by simp [h], by simp [h], by simp [h]⟩

/-- A connection that holds the user it is bound to, and may have left something of it. -/
structure Plain (c : Conn) (u : Option String) : Prop where
  ok : c.Ok
  holds : c.holds = u
  live : c.live = u

lemma plain_resumed (reply : Option DirectoryAnswer) (stopping : Bool) (identity : Option Member) :
    Plain ⟨identity, stopping, resumed reply⟩ (identity.map Member.userId) := by
  cases reply <;> exact ⟨⟨by simp [resumed], by simp [resumed], by simp [resumed], by simp [resumed],
    by simp [resumed]⟩, rfl, rfl⟩

lemma plain_release (reply : Option DirectoryAnswer) : Plain (c.release reply) c.bound := by
  unfold release bound
  cases c.identity with
  | none => exact plain_resumed reply false none
  | some => exact ⟨⟨by simp, by simp, by simp, by simp, by simp⟩, rfl, rfl⟩

lemma plain_finish (call : DirectoryCall) (answer : DirectoryAnswer) :
    Plain (c.finish call answer) c.bound := by
  unfold finish
  dsimp only
  split
  · exact plain_release c (some answer)
  · exact plain_resumed (some answer) _ c.identity

lemma plain_receive {call : DirectoryCall} (hcall : CallOk call) :
    Plain (c.receive call) c.bound := by
  unfold receive
  dsimp only
  cases hid : c.identity with
  | none =>
    split
    · dsimp only
      split
      · exact plain_finish c call _
      · refine ⟨⟨by simp, by simp, ?_, by simp, by simp⟩, by simp [holds, bound, hid],
          by simp [live, bound, hid]⟩
        intro call' h
        cases h
        exact ⟨rfl, hcall⟩
    · exact plain_finish c call _
  | some m =>
    have hwait : m = call.user →
        Plain (⟨some m, c.stoppingIdentity, .calling call⟩ : Conn) c.bound := by
      rintro rfl
      refine ⟨⟨?_, by simp, by simp, by simp, by simp⟩, by simp [holds, bound, hid],
        by simp [live, bound, hid]⟩
      intro call' h
      cases h
      exact ⟨rfl, hcall⟩
    split
    · dsimp only
      split
      · exact plain_finish c call _
      next hsame => exact hwait (not_not.1 hsame)
    · dsimp only
      split
      · exact plain_finish c call _
      next hsame =>
        split
        · exact plain_finish c call _
        · exact hwait (not_not.1 hsame)

end Conn

/-! ## The server -/

structure Server (ι : Type) where
  directory : Option Directory
  activeUsers : ExtTreeSet String
  conns : ι → Conn

inductive Act where
  | receive (call : DirectoryCall)
  | claim (call : DirectoryCall)
  | execute (call : DirectoryCall)
  | clean (userId : String)
  | remove (userId : String)
  | reply (answer : DirectoryAnswer)
  /-- a frame that cannot be read, or an answer that cannot be written -/
  | disconnect
  /-- the directory is poisoned, or a call has poisoned it -/
  | fail

namespace Server

variable {ι : Type}

def new : Server ι := ⟨some .new, ∅, fun _ => .new⟩

def put [DecidableEq ι] (s : Server ι) (i : ι) (c : Conn) : Server ι :=
  { s with conns := Function.update s.conns i c }

/-- One step of connection `i`. -/
inductive Step [DecidableEq ι] (s : Server ι) (i : ι) : Act → Server ι → Prop
  | receive {b : Bytes} {call : DirectoryCall} (hstage : (s.conns i).stage = .reading)
      (hcall : decodeCall b = .ok call) :
      Step s i (.receive call) (s.put i ((s.conns i).receive call))
  | refuse {call : DirectoryCall} (hstage : (s.conns i).stage = .claiming call)
      (hused : call.user.userId ∈ s.activeUsers) :
      Step s i (.claim call) (s.put i ((s.conns i).finish call
        (failureAnswer error.identityInUse "directory identity is already active")))
  | claim {call : DirectoryCall} (hstage : (s.conns i).stage = .claiming call)
      (hfree : call.user.userId ∉ s.activeUsers) :
      Step s i (.claim call) { s.put i { s.conns i with identity := some call.user, stage := .claimed call } with
        activeUsers := s.activeUsers.insert call.user.userId }
  | execute {call : DirectoryCall} {d d' : Directory} {a : DirectoryAnswer}
      (hstage : (s.conns i).stage = .claimed call ∨ (s.conns i).stage = .calling call)
      (hd : s.directory = some d) (ht : transact d call = some (a, d')) :
      Step s i (.execute call) { s.put i ((s.conns i).finish call a) with directory := some d' }
  | poison {call : DirectoryCall} {d : Directory}
      (hstage : (s.conns i).stage = .claimed call ∨ (s.conns i).stage = .calling call)
      (hd : s.directory = some d) (ht : transact d call = none) :
      Step s i .fail { s.put i { s.conns i with stage := .panicked } with directory := none }
  | poisoned {call : DirectoryCall}
      (hstage : (s.conns i).stage = .claimed call ∨ (s.conns i).stage = .calling call)
      (hd : s.directory = none) : Step s i .fail (s.put i ((s.conns i).release none))
  | clean {user : Member} {reply : Option DirectoryAnswer}
      (hstage : (s.conns i).stage = .cleaning user reply) :
      Step s i (.clean user.userId) { s.put i { s.conns i with stage := .removing user reply } with
        directory := s.directory.map fun d => d.cleanupPeer user.userId }
  | remove {user : Member} {reply : Option DirectoryAnswer}
      (hstage : (s.conns i).stage = .removing user reply) :
      Step s i (.remove user.userId) { s.put i { s.conns i with stage := Conn.resumed reply } with
        activeUsers := s.activeUsers.erase user.userId }
  | reply {answer : DirectoryAnswer} (hstage : (s.conns i).stage = .replying answer) :
      Step s i (.reply answer) (s.put i { s.conns i with stage := .reading })
  | disconnect (hstage : (s.conns i).stage = .reading ∨ ∃ a, (s.conns i).stage = .replying a) :
      Step s i .disconnect (s.put i ((s.conns i).release none))

inductive Runs [DecidableEq ι] : Server ι → Prop
  | new : Runs new
  | step {s s' : Server ι} {i : ι} {act : Act} (h : Runs s) (hstep : Step s i act s') : Runs s'

/-! ## The directory of one user -/

structure Absent (d : Directory) (u : String) : Prop where
  lobby : ∀ id, ¬ d.MemberAt u id
  mailbox : u ∉ d.mailboxes

section Absence

variable {d d' : Directory} {u v : String}

lemma memberAt_of_lobbyStep (h : LobbyStep u d d') (hv : v ≠ u) {id : String}
    (hm : d'.MemberAt v id) : d.MemberAt v id := by
  cases h with
  | same hlobbies => exact (memberAt_congr hlobbies).1 hm
  | created owner _ _ _ huser _ _ hlobbies _ =>
    rcases (memberAt_insert hlobbies).1 hm with ⟨_, hin⟩ | ⟨_, hold⟩
    · exact absurd (by simpa [newLobby, memberIds, huser] using hin) hv
    · exact hold
  | joined who id' l huser _ hl _ hlobbies _ =>
    rcases (memberAt_insert hlobbies).1 hm with ⟨rfl, hin⟩ | ⟨_, hold⟩
    · refine ⟨l, hl, ?_⟩
      simp only [memberIds, map_append, mem_append, map_cons, map_nil,
        mem_singleton, huser] at hin
      exact hin.resolve_right hv
    · exact hold
  | left id' l hl _ hlobbies _ =>
    split at hlobbies
    · obtain ⟨l', hl', hin⟩ := hm
      rw [hlobbies] at hl'
      exact ⟨l', (getElem?_eraseLobby hl').2, hin⟩
    · rcases (memberAt_insert hlobbies).1 hm with ⟨rfl, hin⟩ | ⟨_, hold⟩
      · rw [memberIds_withoutMember, mem_filter] at hin
        exact ⟨l, hl, hin.1⟩
      · exact hold
  | edited id' l l' hl _ _ _ hmembers _ _ hlobbies _ =>
    rcases (memberAt_insert hlobbies).1 hm with ⟨rfl, hin⟩ | ⟨_, hold⟩
    · exact ⟨l, hl, by rwa [memberIds, hmembers] at hin⟩
    · exact hold

lemma transact_keeps (hsound : d.Sound) (hbounded : Bounded d) {call : DirectoryCall}
    (hcall : CallOk call) {a : DirectoryAnswer} (h : transact d call = some (a, d')) :
    d'.Sound ∧ Bounded d' ∧ ∀ v, v ≠ call.user.userId → Absent d v → Absent d' v := by
  obtain ⟨o, d₁, hexec, hans⟩ := transact_eq_some h
  have hsafe := executed_safe hbounded.lobbies hcall hexec
  have hpaged := answered_paged hans
  have hstep : LobbyStep call.user.userId d d₁ := by
    unfold executed at hexec
    split at hexec
    · cases hexec
      exact .refl _ d
    · exact (execute_step hexec).1.step
  have hpage : LobbyStep call.user.userId d₁ d' := .same hpaged.lobbies hpaged.nextLobby
  refine ⟨(hsound.step hstep).step hpage, hpaged.bounded (hbounded.mail hsafe.lobbies hsafe.mail), ?_⟩
  intro v hv habsent
  constructor
  · intro id hm
    exact habsent.lobby id (memberAt_of_lobbyStep hstep hv (memberAt_of_lobbyStep hpage hv hm))
  · rw [hpaged.attached v, hsafe.boxes v hv]
    exact habsent.mailbox

lemma mem_detachPeer : v ∈ (d.detachPeer u).mailboxes ↔ v ≠ u ∧ v ∈ d.mailboxes := by
  unfold detachPeer
  rw [ExtTreeMap.mem_erase]
  refine and_congr ⟨fun hne heq => ?_, fun hne heq => ?_⟩ Iff.rfl
  · subst heq
    exact hne Std.ReflCmp.compare_self
  · exact hne (Std.LawfulEqCmp.eq_of_compare heq).symm

lemma mem_cleanupPeer (hbounded : Bounded d) :
    v ∈ (d.cleanupPeer u).mailboxes ↔ v ≠ u ∧ v ∈ d.mailboxes := by
  unfold cleanupPeer
  rw [mem_detachPeer]
  split
  next l _ => rw [(leave_safe hbounded.lobbies u l.id).posts.boxes v]
  next => exact Iff.rfl

lemma absent_cleanupPeer (hsound : d.Sound) (hbounded : Bounded d) (u : String) :
    Absent (d.cleanupPeer u) u := by
  refine ⟨?_, fun hin => (mem_cleanupPeer hbounded).1 hin |>.1 rfl⟩
  intro id hm
  unfold cleanupPeer at hm
  cases hl : d.lobbyOf u with
  | none =>
    rw [hl] at hm
    exact lobbyOf_eq_none_iff_memberAt.1 hl id hm
  | some l =>
    rw [hl] at hm
    have hmember : d.MemberAt u l.id := hsound.lobbyOf_id_iff.1 (by rw [hl]; rfl)
    obtain ⟨d₁, hleave⟩ := leave_of_memberAt hmember
    dsimp only at hm
    rw [hleave] at hm
    obtain ⟨hin, hnot⟩ := ((leave_exits hleave).2 u id).1 hm
    have hid := hsound.lobbyOf_id_iff.2 hin
    rw [hl] at hid
    exact hnot ⟨rfl, (some.inj hid).symm⟩

lemma cleanupPeer_keeps (hsound : d.Sound) (hbounded : Bounded d) (u : String) :
    (d.cleanupPeer u).Sound ∧ Bounded (d.cleanupPeer u) ∧
      ∀ v, v ≠ u → Absent d v → Absent (d.cleanupPeer u) v := by
  have hstep := cleanupPeer_step d u
  refine ⟨hsound.step hstep, hbounded.cleanupPeer u, ?_⟩
  intro v hv habsent
  exact ⟨fun id hm => habsent.lobby id (memberAt_of_lobbyStep hstep hv hm),
    fun hin => habsent.mailbox ((mem_cleanupPeer hbounded).1 hin).2⟩

end Absence

/-! ## Exclusive identities -/

structure Inv (s : Server ι) : Prop where
  ok : ∀ i, (s.conns i).Ok
  active : ∀ i u, (s.conns i).holds = some u → u ∈ s.activeUsers
  unique : ∀ i j u, (s.conns i).holds = some u → (s.conns j).holds = some u → i = j
  sound : ∀ d, s.directory = some d → d.Sound ∧ Bounded d
  absent : ∀ d, s.directory = some d → ∀ u, (∀ i, (s.conns i).live ≠ some u) → Absent d u

lemma inv_new : Inv (new : Server ι) where
  ok := fun _ => ⟨by simp [new, Conn.new], by simp [new, Conn.new], by simp [new, Conn.new],
    by simp [new, Conn.new], by simp [new, Conn.new]⟩
  active := fun _ _ h => by cases h
  unique := fun _ _ _ h => by cases h
  sound := by
    intro d h
    cases h
    exact ⟨sound_new, bounded_new⟩
  absent := by
    intro d h u _
    cases h
    refine ⟨?_, by simp [Directory.new]⟩
    rintro id ⟨l, hl, _⟩
    simp [Directory.new] at hl

section Step

variable [DecidableEq ι] {s : Server ι} {i : ι}

lemma conns_put (c : Conn) (j : ι) : (s.put i c).conns j = if j = i then c else s.conns j := by
  simp [put, Function.update_apply]

variable {c : Conn}

/-- A connection that keeps what it holds, with a new directory in which only its own user may have changed. -/
lemma Inv.directory (h : Inv s) (hok : c.Ok) (hholds : c.holds = (s.conns i).holds)
    {o : Option Directory} (hsound : ∀ d, o = some d → d.Sound ∧ Bounded d)
    (habsent : ∀ d, o = some d → ∀ u, c.live ≠ some u → (∀ j, j ≠ i → (s.conns j).live ≠ some u) →
      Absent d u) : Inv { s.put i c with directory := o } := by
  have hholds' : ∀ j, ((s.put i c).conns j).holds = (s.conns j).holds := by
    intro j
    rw [conns_put]
    split
    next hji => rw [hholds, hji]
    next => rfl
  constructor
  case ok =>
    intro j
    dsimp only
    rw [conns_put]
    split
    · exact hok
    · exact h.ok j
  case active => exact fun j u hj => h.active j u (hholds' j ▸ hj)
  case unique => exact fun j k u hj hk => h.unique j k u (hholds' j ▸ hj) (hholds' k ▸ hk)
  case sound => exact hsound
  case absent =>
    intro d hd u hu
    refine habsent d hd u ?_ ?_
    · have := hu i
      rwa [show ({ s.put i c with directory := o } : Server ι).conns i = c by
        simp [put]] at this
    · intro j hj
      have := hu j
      rwa [show ({ s.put i c with directory := o } : Server ι).conns j = s.conns j by
        simp [put, Function.update_of_ne hj]] at this

lemma Inv.same (h : Inv s) (hok : c.Ok) (hholds : c.holds = (s.conns i).holds)
    (hlive : c.live = (s.conns i).live) : Inv (s.put i c) := by
  refine h.directory hok hholds h.sound fun d hd u hc hrest => h.absent d hd u fun j hj => ?_
  by_cases hji : j = i
  · subst hji
    exact hc (hlive.trans hj)
  · exact hrest j hji hj

variable {call : DirectoryCall}

open Conn

lemma Conn.Ok.bound_eq (h : c.Ok) (hstage : c.stage = .claimed call ∨ c.stage = .calling call) :
    c.identity = some call.user ∧ CallOk call ∧ c.holds = some call.user.userId := by
  rcases hstage with hstage | hstage
  · obtain ⟨hid, hcall⟩ := h.claimed call hstage
    exact ⟨hid, hcall, by simp [holds, hstage, bound, hid]⟩
  · obtain ⟨hid, hcall⟩ := h.calling call hstage
    exact ⟨hid, hcall, by simp [holds, hstage, bound, hid]⟩

lemma Inv.execute (h : Inv s) {d d' : Directory} {a : DirectoryAnswer}
    (hstage : (s.conns i).stage = .claimed call ∨ (s.conns i).stage = .calling call)
    (hd : s.directory = some d) (ht : transact d call = some (a, d')) :
    Inv { s.put i ((s.conns i).finish call a) with directory := some d' } := by
  obtain ⟨hid, hcall, hholds⟩ := Conn.Ok.bound_eq (h.ok i) hstage
  obtain ⟨hsound, hbounded⟩ := h.sound d hd
  obtain ⟨hsound', hbounded', hothers⟩ := transact_keeps hsound hbounded hcall ht
  have hplain := plain_finish (s.conns i) call a
  have hbound : (s.conns i).bound = some call.user.userId := by
    rw [bound, hid]
    rfl
  refine h.directory hplain.ok (hplain.holds.trans (hbound.trans hholds.symm)) ?_ ?_
  · intro d₁ hd₁
    obtain rfl := some.inj hd₁
    exact ⟨hsound', hbounded'⟩
  · intro d₁ hd₁ u hu hrest
    obtain rfl := some.inj hd₁
    rw [hplain.live, hbound] at hu
    have hne : u ≠ call.user.userId := fun heq => hu (heq ▸ rfl)
    refine hothers u hne (h.absent d hd u ?_)
    intro j hj
    by_cases hji : j = i
    · -- what the connection may have left is its own user's
      subst hji
      rcases hstage with hstage | hstage
      · simp [live, hstage] at hj
      · simp only [live, hstage, hbound] at hj
        exact hne (some.inj hj).symm
    · exact hrest j hji hj

lemma Inv.clean (h : Inv s) {user : Member} {reply : Option DirectoryAnswer}
    (hstage : (s.conns i).stage = .cleaning user reply) :
    Inv { s.put i { s.conns i with stage := .removing user reply } with
      directory := s.directory.map fun d => d.cleanupPeer user.userId } := by
  have hid := (h.ok i).cleaning user reply hstage
  refine h.directory (c := { s.conns i with stage := .removing user reply })
    ⟨by simp, by simp, by simp, by simp, fun _ _ _ => hid⟩ ?_ ?_ ?_
  · simp [holds, hstage]
  · intro d' hd'
    obtain ⟨d, hd, rfl⟩ := map_eq_some_iff.1 hd'
    obtain ⟨hsound, hbounded⟩ := h.sound d hd
    obtain ⟨hsound', hbounded', _⟩ := cleanupPeer_keeps hsound hbounded user.userId
    exact ⟨hsound', hbounded'⟩
  · intro d' hd' u _ hrest
    obtain ⟨d, hd, rfl⟩ := map_eq_some_iff.1 hd'
    obtain ⟨hsound, hbounded⟩ := h.sound d hd
    by_cases hu : u = user.userId
    · exact hu ▸ absent_cleanupPeer hsound hbounded user.userId
    refine (cleanupPeer_keeps hsound hbounded user.userId).2.2 u hu (h.absent d hd u ?_)
    intro j hj
    by_cases hji : j = i
    · subst hji
      simp only [live, hstage, some.injEq] at hj
      exact hu hj.symm
    · exact hrest j hji hj

lemma Inv.claim (h : Inv s) (hstage : (s.conns i).stage = .claiming call)
    (hfree : call.user.userId ∉ s.activeUsers) :
    Inv { s.put i { s.conns i with identity := some call.user, stage := .claimed call } with
      activeUsers := s.activeUsers.insert call.user.userId } := by
  obtain ⟨hid, hcall⟩ := (h.ok i).claiming call hstage
  have hnobody : ∀ j, (s.conns j).holds ≠ some call.user.userId :=
    fun j hj => hfree (h.active j _ hj)
  have hcases : ∀ j u, ((s.put i { s.conns i with identity := some call.user, stage := .claimed call
      }).conns j).holds = some u → (j = i ∧ u = call.user.userId) ∨ (s.conns j).holds = some u := by
    intro j u hj
    rw [conns_put] at hj
    split at hj
    next hji => exact .inl ⟨hji, (some.inj hj).symm⟩
    next => exact .inr hj
  constructor
  case ok =>
    intro j
    dsimp only
    rw [conns_put]
    split
    · refine ⟨by simp, ?_, by simp, by simp, by simp⟩
      intro call' hcall'
      cases hcall'
      exact ⟨rfl, hcall⟩
    · exact h.ok j
  case active =>
    intro j u hj
    rw [ExtTreeSet.mem_insert]
    rcases hcases j u hj with ⟨_, rfl⟩ | hold
    · exact .inl Std.ReflCmp.compare_self
    · exact .inr (h.active j u hold)
  case unique =>
    intro j k u hj hk
    rcases hcases j u hj with ⟨rfl, rfl⟩ | hold
    · rcases hcases k _ hk with ⟨rfl, _⟩ | hold
      · rfl
      · exact absurd hold (hnobody k)
    · rcases hcases k u hk with ⟨rfl, rfl⟩ | hold'
      · exact absurd hold (hnobody j)
      · exact h.unique j k u hold hold'
  case sound => exact h.sound
  case absent =>
    intro d hd u hu
    refine h.absent d hd u fun j hj => ?_
    by_cases hji : j = i
    · subst hji
      simp [live, hstage, bound, hid] at hj
    · refine hu j ?_
      dsimp only
      rw [conns_put, if_neg hji]
      exact hj

lemma Inv.remove (h : Inv s) {user : Member} {reply : Option DirectoryAnswer}
    (hstage : (s.conns i).stage = .removing user reply) :
    Inv { s.put i { s.conns i with stage := resumed reply } with
      activeUsers := s.activeUsers.erase user.userId } := by
  have hid := (h.ok i).removing user reply hstage
  have hplain := plain_resumed reply (s.conns i).stoppingIdentity (s.conns i).identity
  have hnone : holds { s.conns i with stage := resumed reply } = none :=
    hplain.holds.trans (by rw [hid]; rfl)
  have hholds : (s.conns i).holds = some user.userId := by
    simp [holds, hstage]
  have hcases : ∀ j u, ((s.put i { s.conns i with stage := resumed reply }).conns j).holds =
      some u → j ≠ i ∧ (s.conns j).holds = some u := by
    intro j u hj
    rw [conns_put] at hj
    split at hj
    next =>
      cases hnone.symm.trans hj
    next hji => exact ⟨hji, hj⟩
  constructor
  case ok =>
    intro j
    dsimp only
    rw [conns_put]
    split
    · exact hplain.ok
    · exact h.ok j
  case active =>
    intro j u hj
    obtain ⟨hji, hj⟩ := hcases j u hj
    refine ExtTreeSet.mem_erase.2 ⟨fun heq => ?_, h.active j u hj⟩
    obtain rfl := Std.LawfulEqCmp.eq_of_compare heq
    exact hji (h.unique j i _ hj hholds)
  case unique =>
    intro j k u hj hk
    exact h.unique j k u (hcases j u hj).2 (hcases k u hk).2
  case sound => exact h.sound
  case absent =>
    intro d hd u hu
    refine h.absent d hd u fun j hj => ?_
    by_cases hji : j = i
    · subst hji
      simp [live, hstage] at hj
    · refine hu j ?_
      dsimp only
      rw [conns_put, if_neg hji]
      exact hj

lemma Inv.step {s' : Server ι} {act : Act} (h : Inv s) (hstep : Step s i act s') : Inv s' := by
  have hbound : ∀ stage, (s.conns i).stage = stage →
      (stage = .reading ∨ (∃ a, stage = .replying a) ∨ ∃ call, stage = .claiming call) →
        (s.conns i).holds = (s.conns i).bound ∧ (s.conns i).live = (s.conns i).bound := by
    rintro _ hstage (rfl | ⟨a, rfl⟩ | ⟨call, rfl⟩) <;> simp [holds, live, hstage]
  cases hstep with
  | receive hstage hcall =>
    have hplain := plain_receive (s.conns i) (callOk_of_decodeCall hcall)
    obtain ⟨hholds, hlive⟩ := hbound _ hstage (.inl rfl)
    exact h.same hplain.ok (hplain.holds.trans hholds.symm) (hplain.live.trans hlive.symm)
  | refuse hstage _ =>
    have hplain := plain_finish (s.conns i) ‹DirectoryCall›
      (failureAnswer error.identityInUse "directory identity is already active")
    obtain ⟨hholds, hlive⟩ := hbound _ hstage (.inr (.inr ⟨_, rfl⟩))
    exact h.same hplain.ok (hplain.holds.trans hholds.symm) (hplain.live.trans hlive.symm)
  | claim hstage hfree => exact h.claim hstage hfree
  | execute hstage hd ht => exact h.execute hstage hd ht
  | poison hstage =>
    obtain ⟨hid, _, hholds⟩ := Conn.Ok.bound_eq (h.ok i) hstage
    refine h.directory (ok_of_idle (.inr rfl)) ?_ (fun _ hd' => by cases hd')
      (fun _ hd' => by cases hd')
    rw [hholds]
    simp [holds, bound, hid]
  | poisoned hstage hd =>
    obtain ⟨hid, _, hholds⟩ := Conn.Ok.bound_eq (h.ok i) hstage
    have hplain := plain_release (s.conns i) none
    have hnone : (s.put i ((s.conns i).release none)) =
        { s.put i ((s.conns i).release none) with directory := none } := by
      rw [put, ← hd]
    rw [hnone]
    refine h.directory hplain.ok (hplain.holds.trans ?_) (fun _ hd' => by cases hd')
      (fun _ hd' => by cases hd')
    rw [hholds, bound, hid]
    rfl
  | clean hstage => exact h.clean hstage
  | remove hstage => exact h.remove hstage
  | reply hstage =>
    obtain ⟨hholds, hlive⟩ := hbound _ hstage (.inr (.inl ⟨_, rfl⟩))
    refine h.same (ok_of_idle (.inl rfl)) ?_ ?_
    · exact hholds.symm
    · exact hlive.symm
  | disconnect hstage =>
    have hplain := plain_release (s.conns i) none
    obtain ⟨hholds, hlive⟩ := hbound _ rfl (hstage.imp id .inl)
    exact h.same hplain.ok (hplain.holds.trans hholds.symm) (hplain.live.trans hlive.symm)

lemma Runs.inv (h : Runs s) : Inv s := by
  induction h with
  | new => exact inv_new
  | step _ hstep ih => exact ih.step hstep

lemma Conn.Ok.holds_of_bound (h : c.Ok) {u : String} (hu : c.bound = some u) :
    c.holds = some u := by
  unfold holds
  split
  next user reply hstage => simp [bound, h.cleaning user reply hstage] at hu
  next user reply hstage => simp [bound, h.removing user reply hstage] at hu
  next => exact hu

lemma Conn.holds_of_live {u : String} (hu : c.live = some u) : c.holds = some u := by
  unfold live at hu
  unfold holds
  split at hu
  · cases hu
  · cases hu
  next user reply hstage => simpa [hstage] using hu
  next _ _ hno =>
    split
    next user reply hstage => exact absurd hstage (hno user reply)
    next user reply hstage => simp_all
    next => exact hu

/-- In every run: a user is bound by at most one connection; a call is executed by the connection that
is bound to its user, and a user is cleaned up by the connection that holds it, while no other
connection is bound to it; and a connection that has claimed a user finds nothing of it. -/
theorem identities_exclusive (h : Runs s) :
    (∀ i j u, (s.conns i).bound = some u → (s.conns j).bound = some u → i = j) ∧
      (∀ i call s', Step s i (.execute call) s' → (s.conns i).identity = some call.user ∧
        ∀ j, j ≠ i → (s.conns j).bound ≠ some call.user.userId) ∧
      (∀ i u s', Step s i (.clean u) s' → (s.conns i).holds = some u ∧
        ∀ j, j ≠ i → (s.conns j).bound ≠ some u) ∧
      ∀ i call, (s.conns i).stage = .claimed call → ∀ d, s.directory = some d →
        d.lobbyOf call.user.userId = none ∧ call.user.userId ∉ d.mailboxes := by
  have hinv := h.inv
  have hothers : ∀ i u, (s.conns i).holds = some u → ∀ j, j ≠ i → (s.conns j).bound ≠ some u :=
    fun i u hi j hj hbound =>
      hj (hinv.unique j i u (Conn.Ok.holds_of_bound (hinv.ok j) hbound) hi)
  refine ⟨?_, ?_, ?_, ?_⟩
  · intro i j u hi hj
    exact hinv.unique i j u (Conn.Ok.holds_of_bound (hinv.ok i) hi)
      (Conn.Ok.holds_of_bound (hinv.ok j) hj)
  · intro i call s' hstep
    cases hstep with
    | execute hstage _ _ =>
      obtain ⟨hid, _, hholds⟩ := Conn.Ok.bound_eq (hinv.ok i) hstage
      exact ⟨hid, hothers i _ hholds⟩
  · intro i u s' hstep
    cases hstep with
    | @clean user reply hstage =>
      have hholds : (s.conns i).holds = some user.userId := by
        rw [holds, hstage]
      exact ⟨hholds, hothers i _ hholds⟩
  · intro i call hstage d hd
    obtain ⟨_, _, hholds⟩ := Conn.Ok.bound_eq (hinv.ok i) (.inl hstage)
    have habsent : Absent d call.user.userId := by
      refine hinv.absent d hd _ fun j hj => ?_
      obtain rfl := hinv.unique j i _ (Conn.holds_of_live hj) hholds
      simp [live, hstage] at hj
    exact ⟨lobbyOf_eq_none_iff_memberAt.2 habsent.lobby, habsent.mailbox⟩

/-- Two connections, each of which has claimed its user. -/
theorem host_and_guest_claim : ∃ s : Server Bool, Runs s ∧
    (s.conns false).stage = .claimed hostStarts ∧ (s.conns true).stage = .claimed guestStarts ∧
    (∀ i j u, (s.conns i).bound = some u → (s.conns j).bound = some u → i = j) ∧
    ∀ d, s.directory = some d → d.lobbyOf "guest" = none ∧ "guest" ∉ d.mailboxes := by
  have hhost : decodeCall (encodeCall hostStarts) = .ok hostStarts :=
    decodeCall_encodeCall ⟨member_ok_host, trivial⟩
  have hguest : decodeCall (encodeCall guestStarts) = .ok guestStarts :=
    decodeCall_encodeCall ⟨member_ok_guest, trivial⟩
  have hfirst := (Runs.new (ι := Bool)).step (.receive (i := false) rfl hhost)
  have hone := hfirst.step (@Step.claim Bool _ _ false hostStarts rfl (by simp [new, put]))
  have hsecond := hone.step (.receive (i := true) rfl hguest)
  have hboth := hsecond.step (@Step.claim Bool _ _ true guestStarts rfl (by decide))
  exact ⟨_, hboth, rfl, rfl, (identities_exclusive hboth).1,
    (identities_exclusive hboth).2.2.2 true guestStarts rfl⟩

end Step

end Server

end Rpc

end Don.Crossplay
