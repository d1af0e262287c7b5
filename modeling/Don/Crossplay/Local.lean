import Don.Crossplay.Membership
import Don.Crossplay.Backend

/-!
# Local — backends that share a directory

Who is in which lobby is written down twice: by the backend and by the directory.  The two agree as long
as no backend starts a session while it is in a lobby.  A backend that does keeps the lobby of the user
it was, and the directory keeps that user in it.
-/

namespace Don.Crossplay

open Std (ExtTreeMap)
open Directory List Option Outcome Backend Request Member SessionStatus
open Directory (Enters Exits Stays)

namespace Backend

/-! ## What a request does -/

inductive Resolved (r : Request) (b : Backend) (d : Directory) (b' : Backend) (d' : Directory) : Prop
  | stayed (hb : b' = b) (hd : Stays d d')
  | restarted (u : String) (hr : r = .startSession u) (hb : b' = b.startedAs u) (hd : Stays d d')
  | entered (id : String) (hstatus : b.status = .started)
      (hb : b' = { b with joinedLobby := some id }) (hd : Enters b.user.userId id d d')
  | exited (id : String) (hstatus : b.status = .started)
      (hb : b' = if b.joinedLobby = some id then { b with joinedLobby := none } else b)
      (hd : Exits b.user.userId id d d')

variable {d : Directory}

lemma Resolved.refl (r : Request) (b : Backend) (hd : d.Sound) : Resolved r b d b d ∧ d.Sound :=
  ⟨.stayed rfl fun _ _ => Iff.rfl, hd⟩

variable {b : Backend}

lemma settle_resolved {α : Type} {q : Request} (hd : d.Sound)
    {f : α → Outcome} {r : Returns α} (hstays : Stays d r.2)
    (hstep : LobbyStep b.user.userId d r.2) :
    Resolved q b d (b.settle f r).2.1 (b.settle f r).2.2 ∧ (b.settle f r).2.2.Sound := by
  obtain ⟨result, d'⟩ := r
  cases result <;> exact ⟨.stayed rfl hstays, hd.step hstep⟩

variable {d' : Directory}

lemma resolveStarted_resolved {b' : Backend} (hd : d.Sound) {r : Request}
    {o : Outcome} (hstatus : b.status = .started)
    (h : b.resolveStarted d r = some (o, b', d')) : Resolved r b d b' d' ∧ d'.Sound := by
  cases r with
  | startSession => cases h
  | getLobby =>
    simp only [resolveStarted] at h
    split at h <;> cases h <;> exact Resolved.refl _ _ hd
  | findLobbies | failClosed =>
    cases h
    exact Resolved.refl _ _ hd
  | createLobby =>
    simp only [resolveStarted, map_eq_some_iff] at h
    obtain ⟨⟨result, d₁⟩, hr, heq⟩ := h
    obtain ⟨hstep, hfail, -⟩ := create_step hr
    cases result with
    | ok l =>
      cases heq
      exact ⟨.entered l.id hstatus rfl (create_enters hd hr), hd.step hstep⟩
    | error =>
      cases heq
      obtain rfl : d' = d := hfail rfl
      exact Resolved.refl _ _ hd
  | joinLobby id =>
    simp only [resolveStarted, some.injEq] at h
    obtain ⟨hstep, hfail, -⟩ := join_step d b.user id
    cases hr : d.join b.user id with
    | mk result =>
      rw [hr] at h hstep hfail
      cases result with
      | ok l =>
        cases h
        obtain ⟨hid, henters⟩ := join_enters hd hr
        exact ⟨.entered l.id hstatus rfl (hid ▸ henters), hd.step hstep⟩
      | error =>
        cases h
        obtain rfl : d' = d := hfail rfl
        exact Resolved.refl _ _ hd
  | leaveLobby id =>
    simp only [resolveStarted] at h
    obtain ⟨hstep, hfail, -⟩ := leave_step d b.user.userId id
    cases hr : d.leave b.user.userId id with
    | mk result =>
      rw [hr] at h hstep hfail
      cases result with
      | ok =>
        cases h
        exact ⟨.exited id hstatus rfl (leave_exits hr), hd.step hstep⟩
      | error =>
        cases h
        obtain rfl : d' = d := hfail rfl
        exact Resolved.refl _ _ hd
  | updateLobby id maxMembers botCount attributes =>
    simp only [resolveStarted, map_eq_some_iff] at h
    obtain ⟨r, hr, heq⟩ := h
    have := settle_resolved (b := b) hd
      (f := fun l => updated ⟨true, l, l.attributeVersion.toInt64⟩)
      (q := .updateLobby id maxMembers botCount attributes)
      (update_stays hr) (update_step hr).1
    rwa [heq] at this
  | startGame id reference =>
    simp only [resolveStarted, some.injEq] at h
    have := settle_resolved (b := b) hd (f := sessionReference)
      (q := .startGame id reference)
      (startGame_stays d b.user.userId id reference)
      (startGame_step d b.user.userId id reference).1
    rwa [h] at this
  | cancelGameStart id =>
    simp only [resolveStarted, some.injEq] at h
    have := settle_resolved (b := b) hd (f := sessionReference)
      (q := .cancelGameStart id)
      (cancelGameStart_stays d b.user.userId id)
      (cancelGameStart_step d b.user.userId id).1
    rwa [h] at this

lemma resolve_resolved {b' : Backend} (hd : d.Sound) {r : Request} {o : Outcome}
    (h : b.resolve d r = some (o, b', d')) : Resolved r b d b' d' ∧ d'.Sound := by
  unfold resolve at h
  split at h
  · cases h
    exact Resolved.refl _ _ hd
  split at h
  next u =>
    cases h
    refine ⟨.restarted u rfl rfl ?_, hd.step (u := u) (.same (by simp) (by simp))⟩
    intro v id
    exact memberAt_congr (by simp)
  · split at h
    · cases h
      exact Resolved.refl _ _ hd
    next hstatus => exact resolveStarted_resolved hd (not_not.1 hstatus) h

/-- The parts of a backend that membership depends on. -/
structure SameSession (b b' : Backend) : Prop where
  joined : b'.joinedLobby = b.joinedLobby
  user : b'.user = b.user
  status : b'.status = b.status
  queue : b'.queue = b.queue

/-- A tick resolves the request at the front, if there is one; the rest of it is about notices. -/
lemma tick_resolved {b' : Backend} (hd : d.Sound) {out : List Emission}
    (h : b.tick d = some (out, b', d')) :
    d'.Sound ∧ ((b.queue = [] ∧ SameSession b b' ∧ Stays d d') ∨
      ∃ n r rest b₁ d₁, b.queue = (n, r) :: rest ∧ Resolved r { b with queue := rest } d b₁ d₁ ∧
        d₁.Sound ∧ SameSession b₁ b' ∧ Stays d₁ d') := by
  have hdrain : ∀ (d : Directory) (u : String), (d.drainMailbox u).2.lobbies = d.lobbies ∧
      (d.drainMailbox u).2.nextLobby = d.nextLobby := by
    intro d u
    unfold drainMailbox
    split <;> exact ⟨rfl, rfl⟩
  simp only [tick, map_eq_some_iff, Prod.exists, Prod.mk.injEq] at h
  obtain ⟨emitted, b₁, d₁, hreq, -, rfl, rfl⟩ := h
  have hstays : Stays d₁ (d₁.drainMailbox b₁.user.userId).2 := fun v id =>
    memberAt_congr (hdrain _ _).1
  have hsound : d₁.Sound → (d₁.drainMailbox b₁.user.userId).2.Sound := fun hd₁ =>
    hd₁.step (u := b₁.user.userId) (.same (hdrain _ _).1 (hdrain _ _).2)
  unfold tickRequest at hreq
  cases hq : b.queue with
  | nil =>
    simp only [hq] at hreq
    cases hreq
    exact ⟨hsound hd, .inl ⟨rfl, ⟨rfl, rfl, rfl, rfl⟩, hstays⟩⟩
  | cons entry rest =>
    obtain ⟨n, r⟩ := entry
    simp only [hq, map_eq_some_iff] at hreq
    obtain ⟨⟨o, b₂, d₂⟩, hresolve, heq⟩ := hreq
    cases heq
    obtain ⟨hresolved, hd₁⟩ := resolve_resolved hd hresolve
    exact ⟨hsound hd₁, .inr ⟨n, r, rest, _, _, rfl, hresolved, hd₁, ⟨rfl, rfl, rfl, rfl⟩, hstays⟩⟩

end Backend

/-! ## Backends around a directory -/

structure System (ι : Type) where
  backends : ι → Backend
  directory : Directory

inductive Action (ι : Type) where
  | init (i : ι)
  | request (i : ι) (r : Request)
  | stopSession (i : ι)
  | tick (i : ι)

namespace System

variable {ι : Type}

def new (ids names : ι → String) : System ι where
  backends i := .new (ids i) (names i)
  directory := .new

def put [DecidableEq ι] (s : System ι) (i : ι) (b : Backend) (d : Directory) : System ι :=
  ⟨Function.update s.backends i b, d⟩

def step [DecidableEq ι] (s : System ι) : Action ι → Option (System ι)
  | .init i => some (s.put i (s.backends i).init s.directory)
  | .request i r => ((s.backends i).request r).map fun x => s.put i x.2 s.directory
  | .stopSession i =>
    let x := (s.backends i).stopSession s.directory
    some (s.put i x.2.1 x.2.2)
  | .tick i => ((s.backends i).tick s.directory).map fun x => s.put i x.2.1 x.2.2

/-- Each backend is in the lobby that the directory has its user in, and only users of started sessions
are in a lobby. -/
def Agrees (s : System ι) : Prop :=
  (∀ i id, (s.backends i).joinedLobby = some id ↔
      (s.directory.lobbyOf (s.backends i).user.userId).map Lobby.id = some id) ∧
    ∀ (id : String) (l : Lobby), s.directory.lobbies[id]? = some l → ∀ u ∈ l.memberIds,
      ∃ i, (s.backends i).user.userId = u ∧ (s.backends i).status = .started

def Owned (owner : String → ι) : Action ι → Prop
  | .request i (.startSession u) => owner u = i
  | _ => True

/-- A session is started by a backend that is in no lobby, under an id that is not the current one of
another backend; and it is resolved while the backend is in no lobby, or under its current id. -/
def Outside (s : System ι) : Action ι → Prop
  | .request i (.startSession u) =>
    (s.backends i).joinedLobby = none ∧ ∀ j, j ≠ i → (s.backends j).user.userId ≠ u
  | .tick i => ∀ n u, (s.backends i).queue.head? = some (n, .startSession u) →
      (s.backends i).joinedLobby = none ∨ u = (s.backends i).user.userId
  | _ => True

inductive Runs [DecidableEq ι] (owner : String → ι) (ok : System ι → Action ι → Prop) (ids names : ι → String) :
    System ι → Prop
  | new : Runs owner ok ids names (.new ids names)
  | step {s s' : System ι} {a : Action ι} (h : Runs owner ok ids names s) (howned : Owned owner a)
      (hok : ok s a) (hstep : s.step a = some s') : Runs owner ok ids names s'

/-! ### The invariant -/

structure Inv (owner : String → ι) (s : System ι) : Prop where
  sound : s.directory.Sound
  queued : ∀ i n u, (n, Request.startSession u) ∈ (s.backends i).queue →
    owner u = i ∧ ∀ j, j ≠ i → (s.backends j).user.userId ≠ u
  alone : ∀ i, (s.backends i).status = .started → owner (s.backends i).user.userId = i ∧
    ∀ j, j ≠ i → (s.backends j).user.userId ≠ (s.backends i).user.userId
  joined : ∀ i id, (s.backends i).joinedLobby = some id → (s.backends i).status = .started ∧
    s.directory.MemberAt (s.backends i).user.userId id
  free : ∀ i, (s.backends i).joinedLobby = none →
    ∀ id, ¬ s.directory.MemberAt (s.backends i).user.userId id
  members : ∀ u id, s.directory.MemberAt u id →
    ∃ i, (s.backends i).joinedLobby = some id ∧ (s.backends i).user.userId = u

variable {owner : String → ι} {s : System ι}

lemma inv_new (owner : String → ι) (ids names : ι → String) : Inv owner (new ids names) := by
  have hnobody : ∀ u id, ¬ Directory.new.MemberAt u id := by
    rintro u id ⟨l, hl, -⟩
    simp [Directory.new] at hl
  refine ⟨sound_new, ?_, ?_, ?_, fun i _ id => hnobody _ id,
    fun u id h => absurd h (hnobody u id)⟩
  · intro i n u h
    simp [new, Backend.new] at h
  · intro i h
    simp [new, Backend.new] at h
  · intro i id h
    simp [new, Backend.new] at h

lemma Inv.agrees (h : Inv owner s) : s.Agrees := by
  refine ⟨fun i id => ?_, fun id l hl u hu => ?_⟩
  · rw [h.sound.lobbyOf_id_iff]
    constructor
    · exact fun hj => (h.joined i id hj).2
    · intro hm
      cases hj : (s.backends i).joinedLobby with
      | none => exact absurd hm (h.free i hj id)
      | some id' =>
        obtain ⟨l, hl, hu⟩ := hm
        obtain ⟨l', hl', hu'⟩ := (h.joined i id' hj).2
        rw [h.sound.apart id' id l' l _ hl' hl hu' hu]
  · obtain ⟨i, hj, huser⟩ := h.members u id ⟨l, hl, hu⟩
    exact ⟨i, huser, (h.joined i id hj).1⟩

/-! ### Steps -/

/-- A user of the backend `i`, and of no other one. -/
def Sole (owner : String → ι) (s : System ι) (i : ι) (u : String) : Prop :=
  owner u = i ∧ ∀ j, j ≠ i → (s.backends j).user.userId ≠ u

/-- What a step of the backend `i` has to show about itself. -/
structure Moved (owner : String → ι) (s : System ι) (i : ι) (b' : Backend) (d' : Directory) : Prop where
  sound : d'.Sound
  queued : ∀ n u, (n, Request.startSession u) ∈ b'.queue → Sole owner s i u
  user : b'.user.userId = (s.backends i).user.userId ∨ Sole owner s i b'.user.userId
  alone : b'.status = .started → Sole owner s i b'.user.userId
  others : ∀ v, v ≠ b'.user.userId → ∀ id, d'.MemberAt v id ↔ s.directory.MemberAt v id
  joined : ∀ id, b'.joinedLobby = some id → b'.status = .started
  here : ∀ id, d'.MemberAt b'.user.userId id ↔ b'.joinedLobby = some id
  kept : (s.backends i).joinedLobby ≠ none → (s.backends i).user.userId = b'.user.userId

variable {i : ι} {b' : Backend} {d' : Directory}

lemma Inv.put [DecidableEq ι] (h : Inv owner s) (hm : Moved owner s i b' d') :
    Inv owner (s.put i b' d') := by
  have hself : (s.put i b' d').backends i = b' := by
    simp [System.put]
  have hother : ∀ j, j ≠ i → (s.put i b' d').backends j = s.backends j := by
    intro j hj
    simp [System.put, Function.update_of_ne hj]
  -- a user of another backend is not the new user of `i`
  have happart : ∀ j u, j ≠ i → Sole owner s j u → b'.user.userId ≠ u := by
    rintro j u hj ⟨howner, hall⟩ rfl
    rcases hm.user with hsame | hsole
    · exact hall i (Ne.symm hj) hsame.symm
    · exact hj (howner.symm.trans hsole.1)
  have hsole : ∀ j u, Sole owner s j u → Sole owner (s.put i b' d') j u := by
    rintro j u ⟨howner, hall⟩
    refine ⟨howner, fun k hk => ?_⟩
    by_cases hki : k = i
    · subst hki
      rw [hself]
      exact happart j u (Ne.symm hk) ⟨howner, hall⟩
    · rw [hother k hki]
      exact hall k hk
  refine ⟨hm.sound, ?_, ?_, ?_, ?_, ?_⟩
  · intro j n u hu
    by_cases hj : j = i
    · subst hj
      rw [hself] at hu
      exact hsole j u (hm.queued n u hu)
    · rw [hother j hj] at hu
      exact hsole j u (h.queued j n u hu)
  · intro j hstatus
    by_cases hj : j = i
    · subst hj
      rw [hself] at hstatus
      have := hsole j _ (hm.alone hstatus)
      rwa [hself]
    · rw [hother j hj] at hstatus
      have := hsole j _ (h.alone j hstatus)
      rwa [hother j hj]
  · intro j id hjoined
    by_cases hj : j = i
    · subst hj
      rw [hself] at hjoined ⊢
      exact ⟨hm.joined id hjoined, (hm.here id).2 hjoined⟩
    · rw [hother j hj] at hjoined ⊢
      obtain ⟨hstatus, hmember⟩ := h.joined j id hjoined
      exact ⟨hstatus, (hm.others _ (happart j _ hj (h.alone j hstatus)).symm id).2 hmember⟩
  · intro j hjoined id hmember
    by_cases hj : j = i
    · subst hj
      rw [hself] at hjoined hmember
      have := (hm.here id).1 hmember
      simp [hjoined] at this
    · rw [hother j hj] at hjoined hmember
      by_cases heq : (s.backends j).user.userId = b'.user.userId
      · rw [heq] at hmember
        have hhere := (hm.here id).1 hmember
        exact (hm.alone (hm.joined id hhere)).2 j hj heq
      · exact h.free j hjoined id ((hm.others _ heq id).1 hmember)
  · intro u id hmember
    by_cases heq : u = b'.user.userId
    · subst heq
      exact ⟨i, by rw [hself]; exact (hm.here id).1 hmember, by rw [hself]⟩
    · obtain ⟨j, hjoined, huser⟩ := h.members u id ((hm.others u heq id).1 hmember)
      have hj : j ≠ i := by
        rintro rfl
        exact heq (huser.symm.trans (hm.kept (by simp [hjoined])))
      exact ⟨j, by rw [hother j hj]; exact hjoined, by rw [hother j hj]; exact huser⟩

lemma Inv.here (h : Inv owner s) (i : ι) (id : String) :
    s.directory.MemberAt (s.backends i).user.userId id ↔ (s.backends i).joinedLobby = some id := by
  rw [← h.sound.lobbyOf_id_iff]
  exact (h.agrees.1 i id).symm

lemma Inv.moved_same (h : Inv owner s) (hd' : d'.Sound) (hstays : Stays s.directory d')
    (hqueue : ∀ n u, (n, startSession u) ∈ b'.queue → Sole owner s i u)
    (huser : b'.user = (s.backends i).user) (hjoined : b'.joinedLobby = (s.backends i).joinedLobby)
    (hstatus : b'.status = (s.backends i).status ∨
      (b'.status ≠ .started ∧ (s.backends i).joinedLobby = none)) : Moved owner s i b' d' := by
  have hid : b'.user.userId = (s.backends i).user.userId := congrArg userId huser
  refine ⟨hd', hqueue, .inl hid, ?_, fun v _ id => hstays v id, ?_, ?_, fun _ => hid.symm⟩
  · intro hstarted
    rw [hid]
    rcases hstatus with heq | ⟨hne, _⟩
    · exact h.alone i (heq ▸ hstarted)
    · exact absurd hstarted hne
  · intro id hj
    rw [hjoined] at hj
    rcases hstatus with heq | ⟨_, hnone⟩
    · rw [heq]
      exact (h.joined i id hj).1
    · simp [hnone] at hj
  · intro id
    rw [hstays, hid, hjoined]
    exact h.here i id

lemma Inv.request [DecidableEq ι] (h : Inv owner s) {r : Request} {n : ReqId}
    (howned : Owned owner (.request i r)) (houtside : s.Outside (.request i r))
    (hreq : (s.backends i).request r = some (n, b')) : Inv owner (s.put i b' s.directory) := by
  have hsubmit : ∀ {b b' : Backend} {r : Request} {n : ReqId}, b.submit r = some (n, b') →
      b'.user = b.user ∧ b'.joinedLobby = b.joinedLobby ∧ b'.status = b.status ∧
        b'.queue = b.queue ++ [(n, r)] := by
    intro b b' r n hsub
    unfold submit at hsub
    split at hsub
    · cases hsub
      exact ⟨rfl, rfl, rfl, rfl⟩
    · cases hsub
  refine h.put ?_
  cases r with
  | startSession =>
    obtain ⟨huser, hjoined, hstatus, hqueue⟩ := hsubmit hreq
    refine h.moved_same h.sound (fun _ _ => Iff.rfl) ?_ huser hjoined (.inr ⟨?_, houtside.1⟩)
    · intro m v hv
      rw [hqueue] at hv
      rcases mem_append.1 hv with hv | hv
      · exact h.queued i m v hv
      · simp only [mem_singleton, Prod.mk.injEq, startSession.injEq] at hv
        rw [hv.2]
        exact ⟨howned, houtside.2⟩
    · rw [hstatus]
      exact noConfusion
  | _ =>
    obtain ⟨huser, hjoined, hstatus, hqueue⟩ := hsubmit hreq
    refine h.moved_same h.sound (fun _ _ => Iff.rfl) ?_ huser hjoined (.inl hstatus)
    intro m v hv
    rw [hqueue] at hv
    rcases mem_append.1 hv with hv | hv
    · exact h.queued i m v hv
    · simp at hv

lemma Moved.congr {b : Backend} {d : Directory} (hm : Moved owner s i b d)
    (hsame : SameSession b b') (hstays : Stays d d') (hd' : d'.Sound) : Moved owner s i b' d' := by
  refine ⟨hd', ?_, ?_, ?_, ?_, ?_, ?_, ?_⟩
  · rw [hsame.queue]
    exact hm.queued
  · rw [hsame.user]
    exact hm.user
  · rw [hsame.user, hsame.status]
    exact hm.alone
  · intro v hv id
    rw [hsame.user] at hv
    rw [hstays, hm.others v hv]
  · rw [hsame.joined, hsame.status]
    exact hm.joined
  · intro id
    rw [hsame.user, hsame.joined, hstays]
    exact hm.here id
  · rw [hsame.user]
    exact hm.kept

section

variable (h : Inv owner s)
include h

section

variable {id : String} (hd' : d'.Sound)
  (hqueue : ∀ n u, (n, Request.startSession u) ∈ b'.queue → Sole owner s i u)
  (huser : b'.user = (s.backends i).user) (hstatus : (s.backends i).status = .started)
include hd' hqueue huser hstatus

lemma Inv.moved_entered (henters : Enters (s.backends i).user.userId id s.directory d')
    (hstatus' : b'.status = .started) (hjoined : b'.joinedLobby = some id) : Moved owner s i b' d' := by
  have hid : b'.user.userId = (s.backends i).user.userId := congrArg userId huser
  refine ⟨hd', hqueue, .inl hid, ?_, ?_, fun _ _ => hstatus', ?_, fun _ => hid.symm⟩
  · rw [hid]
    exact fun _ => h.alone i hstatus
  · intro v hv id'
    rw [henters.2]
    simp [hid ▸ hv]
  · intro id'
    rw [henters.2, hid, hjoined]
    simp [henters.1 id', eq_comm]

lemma Inv.moved_exited (hexits : Exits (s.backends i).user.userId id s.directory d')
    (hjoined : b'.joinedLobby = none) : Moved owner s i b' d' := by
  have hid : b'.user.userId = (s.backends i).user.userId := congrArg userId huser
  have hwas : (s.backends i).joinedLobby = some id := (h.here i id).1 hexits.1
  refine ⟨hd', hqueue, .inl hid, ?_, ?_, ?_, ?_, fun _ => hid.symm⟩
  · rw [hid]
    exact fun _ => h.alone i hstatus
  · intro v hv id'
    rw [hexits.2]
    simp [hid ▸ hv]
  · intro id' hj
    simp [hjoined] at hj
  · intro id'
    rw [hexits.2, hid, hjoined, h.here i id', hwas]
    simp [eq_comm]

end

lemma Inv.stop [DecidableEq ι] (i : ι) :
    Inv owner (s.put i ((s.backends i).stopSession s.directory).2.1
      ((s.backends i).stopSession s.directory).2.2) := by
  refine h.put ?_
  unfold Backend.stopSession
  split
  · exact h.moved_same h.sound (fun _ _ => Iff.rfl) (h.queued i) rfl rfl (.inl rfl)
  have hdetach : ∀ (d : Directory) (u : String), Stays d (d.detachPeer u) := fun d u v id =>
    memberAt_congr rfl
  have hsound : ∀ {d : Directory} (u : String), d.Sound → (d.detachPeer u).Sound := fun u hd =>
    hd.step (u := u) (.same rfl rfl)
  cases hjoined : (s.backends i).joinedLobby with
  | none =>
    refine h.moved_same (hsound _ h.sound) (hdetach _ _) ?_ rfl hjoined.symm
      (.inr ⟨noConfusion, hjoined⟩)
    intro n u hu
    cases hu
  | some id =>
    obtain ⟨hstarted, hmember⟩ := h.joined i id hjoined
    obtain ⟨d₁, hleave⟩ := leave_of_memberAt hmember
    have hstep := (leave_step s.directory (s.backends i).user.userId id).1
    rw [hleave] at hstep
    have hexits : Exits (s.backends i).user.userId id s.directory
        (d₁.detachPeer (s.backends i).user.userId) :=
      ⟨hmember, fun v id' => (hdetach d₁ _ v id').trans ((leave_exits hleave).2 v id')⟩
    simp only [hleave]
    refine h.moved_exited (hsound _ (h.sound.step hstep)) ?_ rfl hstarted hexits rfl
    intro n u hu
    cases hu

lemma Inv.tick [DecidableEq ι] {out : List Emission}
    (houtside : s.Outside (.tick i)) (htick : (s.backends i).tick s.directory = some (out, b', d')) :
    Inv owner (s.put i b' d') := by
  refine h.put ?_
  obtain ⟨hd', hcases⟩ := tick_resolved h.sound htick
  rcases hcases with ⟨hempty, hsame, hstays⟩ | ⟨n, r, rest, b₁, d₁, hqueue, hresolved, hd₁, hsame, hstays⟩
  · exact (h.moved_same h.sound (fun _ _ => Iff.rfl) (h.queued i) rfl rfl (.inl rfl)).congr hsame hstays hd'
  have hrest : ∀ m u, (m, startSession u) ∈ rest → Sole owner s i u := by
    intro m u hu
    exact h.queued i m u (hqueue ▸ mem_cons_of_mem _ hu)
  refine Moved.congr ?_ hsame hstays hd'
  cases hresolved with
  | stayed hb hd =>
    subst hb
    exact h.moved_same hd₁ hd hrest rfl rfl (.inl rfl)
  | restarted u hr hb hd =>
    subst hr hb
    have hsole : Sole owner s i u := h.queued i n u (hqueue ▸ mem_cons_self)
    have hhead := houtside n u (by rw [hqueue]; rfl)
    have hhere : ∀ id, s.directory.MemberAt u id ↔ (s.backends i).joinedLobby = some id := by
      intro id
      rcases hhead with hnone | hcurrent
      · -- nobody else is this user, so the user is in no lobby
        rw [hnone]
        refine iff_of_false (fun hmember => ?_) (by simp)
        obtain ⟨k, hk, hku⟩ := h.members u id hmember
        by_cases hki : k = i
        · subst hki
          simp [hnone] at hk
        · exact hsole.2 k hki hku
      · rw [hcurrent]
        exact h.here i id
    refine ⟨hd₁, hrest, .inr hsole, fun _ => hsole, fun v _ id => hd v id, fun _ _ => rfl, ?_, ?_⟩
    · intro id
      rw [hd]
      exact hhere id
    · intro hne
      rcases hhead with hnone | hcurrent
      · exact absurd hnone hne
      · exact hcurrent.symm
  | entered id hstatus hb hd =>
    subst hb
    exact h.moved_entered hd₁ hrest rfl hstatus hd hstatus rfl
  | exited id hstatus hb hd =>
    have hwas : (s.backends i).joinedLobby = some id := (h.here i id).1 hd.1
    rw [if_pos hwas] at hb
    subst hb
    exact h.moved_exited hd₁ hrest rfl hstatus hd rfl

lemma Inv.step [DecidableEq ι] {a : Action ι} {s' : System ι} (howned : Owned owner a)
    (houtside : s.Outside a) (hstep : s.step a = some s') : Inv owner s' := by
  cases a with
  | init i =>
    cases hstep
    exact h.put (h.moved_same h.sound (fun _ _ => Iff.rfl) (h.queued i) rfl rfl (.inl rfl))
  | request =>
    obtain ⟨⟨n, b'⟩, hreq, rfl⟩ := map_eq_some_iff.1 hstep
    exact h.request howned houtside hreq
  | stopSession i =>
    cases hstep
    exact h.stop i
  | tick =>
    obtain ⟨⟨out, b', d'⟩, htick, rfl⟩ := map_eq_some_iff.1 hstep
    exact h.tick houtside htick

end

/-- In every run in which sessions are started outside of lobbies, backends and directory agree. -/
theorem backends_agree [DecidableEq ι] (owner : String → ι) (ids names : ι → String) (s : System ι)
    (h : Runs owner Outside ids names s) : s.Agrees := by
  have hinv : Inv owner s := by
    induction h with
    | new => exact inv_new owner ids names
    | step _ howned hok hstep ih => exact ih.step howned hok hstep
  exact hinv.agrees

def after [DecidableEq ι] (s : System ι) (actions : List (Action ι)) : System ι :=
  actions.foldl (fun s a => (s.step a).getD s) s

lemma Runs.next [DecidableEq ι] {ok : System ι → Action ι → Prop} {ids names : ι → String}
    (h : Runs owner ok ids names s) (a : Action ι) (howned : Owned owner a) (hok : ok s a)
    (hsome : (s.step a).isSome = true) : Runs owner ok ids names (s.after [a]) := by
  obtain ⟨s', hs'⟩ := isSome_iff_exists.1 hsome
  have heq : s.after [a] = s' := by
    simp [after, hs']
  rw [heq]
  exact h.step howned hok hs'

/-- One backend makes a lobby and another one joins it. -/
theorem lobby_of_two_agrees : ∃ s : System Bool, s.Agrees ∧ (∀ i, (s.backends i).joinedLobby = some "1") ∧
      (s.directory.lobbyOf "a").map (·.members.map Member.userId) = some ["a", "b"] := by
  have h₀ : Runs (· == "a") Outside (fun i => if i then "a" else "b") (fun i => if i then "A" else "B")
    (new (fun i => if i then "a" else "b") fun i => if i then "A" else "B") := .new
  have h₁ := h₀.next (.init true) trivial trivial rfl
  have h₂ := h₁.next (.init false) trivial trivial rfl
  have h₃ := h₂.next (.request true (.startSession "a")) rfl ⟨rfl, by decide⟩ rfl
  have h₄ := h₃.next (.request false (.startSession "b")) rfl ⟨rfl, by decide⟩ rfl
  have h₅ := h₄.next (.tick true) trivial (fun _ _ _ => .inl rfl) (by decide)
  have h₆ := h₅.next (.tick false) trivial (fun _ _ _ => .inl rfl) (by decide)
  have h₇ := h₆.next (.request true (.createLobby 4 0 ∅)) trivial trivial (by decide)
  have h₈ := h₇.next (.tick true) trivial (fun _ _ _ => .inl rfl) (by decide)
  have h₉ := h₈.next (.request false (.joinLobby "1")) trivial trivial (by decide)
  have h₁₀ := h₉.next (.tick false) trivial (fun _ _ _ => .inl rfl) (by decide)
  exact ⟨_, backends_agree _ _ _ _ h₁₀, by decide, by decide⟩

/-- A backend in a lobby that starts a session under another id stays in the lobby, and so does the user
that it was; the directory has the new user in no lobby. -/
theorem restart_keeps_the_lobby :
    ∃ s : System Unit, Runs (fun _ => ()) (fun _ _ => True) (fun _ => "a") (fun _ => "A") s ∧
      (s.backends ()).user.userId = "b" ∧ (s.backends ()).joinedLobby = some "1" ∧
      s.directory.lobbyOf "b" = none ∧ ¬ s.Agrees := by
  have h₀ : Runs (fun _ => ()) (fun _ _ => True) (fun _ => "a") (fun _ => "A")
      (new (fun _ => "a") fun _ => "A") := .new
  have h₁ := h₀.next (.init ()) trivial trivial rfl
  have h₂ := h₁.next (.request () (.startSession "a")) rfl trivial rfl
  have h₃ := h₂.next (.tick ()) trivial trivial (by decide)
  have h₄ := h₃.next (.request () (.createLobby 4 0 ∅)) trivial trivial (by decide)
  have h₅ := h₄.next (.tick ()) trivial trivial (by decide)
  have h₆ := h₅.next (.request () (.startSession "b")) rfl trivial (by decide)
  have h₇ := h₆.next (.tick ()) trivial trivial (by decide)
  refine ⟨_, h₇, by decide, by decide, by decide, fun hagrees => ?_⟩
  have := (hagrees.1 () "1").1 (by decide)
  revert this
  decide

end System

end Don.Crossplay
