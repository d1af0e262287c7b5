import Don.Crossplay.Backend

/-!
# Remote — requests that a remote directory answers

A backend has at most one operation with the transport.  What the transport still has to answer is
kept beside the backend, with the number of stops at the time of the submission, so that an answer can
be told from one that has crossed a stop.  A stop is one that takes effect: `stop_session_remote` does
nothing when the session is stopped already.
-/

namespace Don.Crossplay

open Backend List Option

/-! ## Logs -/

/-- What the caller of a backend sees: a request with its id, a stop, the completion of a request. -/
inductive Entry where
  | submitted (id : ReqId)
  | stop
  | completed (id : ReqId)
  deriving DecidableEq

def Entry.completedId : Entry → Option ReqId
  | completed id => some id
  | _ => none

def completedIds (log : List Entry) : List ReqId :=
  log.filterMap Entry.completedId

/-- There was no stop since the request was submitted. -/
def Live (log : List Entry) (id : ReqId) : Prop :=
  ∀ before since, log = before ++ .submitted id :: since → .stop ∉ since

/-- No request is completed after a stop that followed its submission. -/
def Clean (log : List Entry) : Prop :=
  ∀ before id after, log = before ++ .completed id :: after → Live before id

lemma split_snoc {α : Type} {l a b : List α} {x y : α} (h : l ++ [x] = a ++ y :: b) :
    (b = [] ∧ x = y ∧ l = a) ∨ ∃ b', b = b' ++ [x] ∧ l = a ++ y :: b' := by
  rcases eq_nil_or_concat b with rfl | ⟨b', z, rfl⟩
  · obtain ⟨hl, hx⟩ := append_inj' h rfl
    exact .inl ⟨rfl, singleton_injective hx, hl⟩
  rw [concat_eq_append] at h ⊢
  have h' : l ++ [x] = (a ++ y :: b') ++ [z] := by
    simpa using h
  obtain ⟨hl, hx⟩ := append_inj' h' rfl
  obtain rfl := singleton_injective hx
  exact .inr ⟨b', rfl, hl⟩

variable {log : List Entry}

lemma Live.snoc {id : ReqId} (h : Live log id) {x : Entry} (hstop : x ≠ .stop)
    (hnew : x ≠ .submitted id) : Live (log ++ [x]) id := by
  intro before since heq
  rcases split_snoc heq with ⟨_, rfl, _⟩ | ⟨b', rfl, hl⟩
  · exact absurd rfl hnew
  · have := h before b' hl
    simp [this, Ne.symm hstop]

lemma live_submitted {id : ReqId} (hfresh : .submitted id ∉ log) :
    Live (log ++ [.submitted id]) id := by
  intro before since heq
  rcases split_snoc heq with ⟨rfl, _, _⟩ | ⟨b', rfl, hl⟩
  · simp
  · exact absurd (hl ▸ by simp) hfresh

lemma Clean.snoc (h : Clean log) {x : Entry}
    (hx : ∀ id, x = .completed id → Live log id) : Clean (log ++ [x]) := by
  intro before id after heq
  rcases split_snoc heq with ⟨_, rfl, rfl⟩ | ⟨b', rfl, hl⟩
  · exact hx id rfl
  · exact h before id b' hl

/-! ## The backend with its transport -/

/-- A submission that is not answered yet: the request, or none for a poll, and the stops before it. -/
structure Sent where
  request : Option ReqId
  since : Nat
  deriving DecidableEq

structure Remote where
  backend : Backend
  outstanding : List Sent
  stops : Nat
  log : List Entry

namespace Remote

def new (userId userName : String) : Remote :=
  ⟨.new userId userName, [], 0, []⟩

def completions (out : List Emission) : List ReqId :=
  out.filterMap fun
    | .completion id _ => some id
    | .notice _ => none

/-- An answer is one to the oldest submission. -/
def isAnswer : Option AsyncDirectoryEvent → Bool
  | some (.requested _) => true
  | _ => false

def afterEvent (s : Remote) (event : Option AsyncDirectoryEvent) : List Sent :=
  if isAnswer event then s.outstanding.tail else s.outstanding

def completed (s : Remote) (out : List Emission) : List Entry :=
  s.log ++ (completions out).map .completed

def poll (s : Remote) (event : Option AsyncDirectoryEvent) : Remote :=
  let x := s.backend.tickPoll event
  ⟨x.1, s.afterEvent event, s.stops, s.completed x.2⟩

def submit (s : Remote) (submitted : Except String Unit) : Remote :=
  let x := s.backend.tickSubmit submitted
  ⟨x.1,
    if x.2.2 && submitted.isOk then s.outstanding ++ [⟨x.1.remoteInflight.map Prod.fst, s.stops⟩]
    else s.outstanding,
    s.stops, s.completed x.2.1⟩

/-- `tick_remote` with the emissions that are left over from before. -/
def tick (s : Remote) (event : Option AsyncDirectoryEvent) (submitted : Except String Unit) : Remote :=
  let s' := (s.poll event).submit submitted
  { s' with
    backend := (s.backend.tickRemote event submitted).2
    log := s.completed (s.backend.tickRemote event submitted).1 }

def stop (s : Remote) (notified : Except String Unit) : Remote :=
  { s with
    backend := (s.backend.stopSessionRemote notified).2
    stops := if s.backend.isStopped then s.stops else s.stops + 1
    log := if s.backend.isStopped then s.log else s.log ++ [.stop] }

/-- The calls on a backend, with a transport that answers every submission once and in order. -/
inductive Step : Remote → Remote → Prop
  | init (s : Remote) : Step s { s with backend := s.backend.init }
  | request (s : Remote) (r : Request) (id : ReqId) (b : Backend)
      (h : s.backend.request r = some (id, b)) :
      Step s { s with backend := b, log := s.log ++ [.submitted id] }
  | stop (s : Remote) (notified : Except String Unit) : Step s (s.stop notified)
  | tick (s : Remote) (event : Option AsyncDirectoryEvent) (submitted : Except String Unit)
      (h : isAnswer event = true → s.outstanding ≠ []) : Step s (s.tick event submitted)

/-! ## The invariant -/

/-- The operation that the transport has is the one that the backend waits for, and is to be discarded
if there was a stop since. -/
inductive Flight (b : Backend) (outstanding : List Sent) (stops : Nat) : Prop
  | idle (hflight : b.remoteInflight = none) (hpoll : b.remotePolling = false)
      (hdiscard : b.remoteDiscarding = false) (hout : outstanding = [])
  | request (id : ReqId) (r : Request) (since : Nat) (hflight : b.remoteInflight = some (id, r))
      (hpoll : b.remotePolling = false) (hout : outstanding = [⟨some id, since⟩])
      (hsince : since ≤ stops) (hdiscard : b.remoteDiscarding = decide (since < stops))
  | poll (since : Nat) (hflight : b.remoteInflight = none) (hpoll : b.remotePolling = true)
      (hout : outstanding = [⟨none, since⟩]) (hsince : since ≤ stops)
      (hdiscard : b.remoteDiscarding = decide (since < stops))

variable (b : Backend)

def inflightIds : List ReqId :=
  b.remoteInflight.toList.map Prod.fst

/-- The requests that have no completion yet, oldest first. -/
def pendingIds : List ReqId :=
  inflightIds b ++ b.queue.map Prod.fst

structure Inv (s : Remote) : Prop where
  ready : s.backend.ready = []
  flight : Flight s.backend s.outstanding s.stops
  order : (pendingIds s.backend).Pairwise (· < ·)
  bound : ∀ id ∈ pendingIds s.backend, id ≤ s.backend.nextReq
  fresh : ∀ id, .submitted id ∈ s.log → id ≤ s.backend.nextReq
  sorted : (completedIds s.log).Pairwise (· < ·)
  past : ∀ id ∈ completedIds s.log, id ≤ s.backend.nextReq ∧
    ∀ id' ∈ pendingIds s.backend, id < id'
  queued : ∀ id ∈ s.backend.queue.map Prod.fst, Live s.log id
  flying : s.backend.remoteDiscarding = false → ∀ id ∈ inflightIds s.backend, Live s.log id
  clean : Clean s.log

lemma inv_new (userId userName : String) : Inv (new userId userName) := by
  refine ⟨rfl, .idle rfl rfl rfl rfl, .nil, ?_, ?_, .nil, ?_, ?_, ?_, ?_⟩
  · intro id h
    cases h
  · intro id h
    cases h
  · intro id h
    cases h
  · intro id h
    cases h
  · intro _ id h
    cases h
  · intro before id after h
    simp [new] at h

/-! ## What the steps of a tick leave alone -/

@[simp] lemma completions_append (out out' : List Emission) :
    completions (out ++ out') = completions out ++ completions out' :=
  filterMap_append ..

@[simp] lemma completions_notices (notices : List Notice) :
    completions (notices.map .notice) = [] := by
  simp [completions]

/-- What the remote side of a backend reads to tell whose answer it gets. -/
structure SameWork (b b' : Backend) : Prop where
  queue : b'.queue = b.queue
  ready : b'.ready = b.ready
  nextReq : b'.nextReq = b.nextReq
  remoteInflight : b'.remoteInflight = b.remoteInflight
  remotePolling : b'.remotePolling = b.remotePolling
  remoteDiscarding : b'.remoteDiscarding = b.remoteDiscarding

structure SameSession (b b' : Backend) : Prop where
  status : b'.status = b.status
  playerGuid : b'.playerGuid = b.playerGuid
  joinedLobby : b'.joinedLobby = b.joinedLobby

variable (answer : Except String DirectoryAnswer)

lemma sameWork_acceptDetachedAnswer : SameWork b (b.acceptDetachedAnswer answer).1 := by
  rcases answer with message | answer
  · exact ⟨rfl, rfl, rfl, rfl, rfl, rfl⟩
  · simp only [acceptDetachedAnswer]
    split <;> exact ⟨rfl, rfl, rfl, rfl, rfl, rfl⟩

lemma completions_acceptDetachedAnswer : completions (b.acceptDetachedAnswer answer).2 = [] := by
  rcases answer with message | answer
  · rfl
  · simp only [acceptDetachedAnswer]
    split <;> exact completions_notices _

lemma sameWork_failStart (r : Request) : SameWork b (b.failStart r) := by
  unfold failStart
  split <;> exact ⟨rfl, rfl, rfl, rfl, rfl, rfl⟩

lemma sameWork_acceptRemoteOutcome (r : Request) (outcome : Outcome) :
    SameWork b (b.acceptRemoteOutcome r outcome) := by
  unfold acceptRemoteOutcome
  split
  · exact sameWork_failStart b r
  · split
    case h_4 => split <;> exact ⟨rfl, rfl, rfl, rfl, rfl, rfl⟩
    all_goals exact ⟨rfl, rfl, rfl, rfl, rfl, rfl⟩

lemma sameWork_acceptOwned (r : Option (ReqId × Request)) (wasPoll discarded : Bool)
    (outcome : Outcome) : SameWork b (b.acceptOwned r wasPoll discarded outcome).1 := by
  unfold acceptOwned
  split
  · exact ⟨rfl, rfl, rfl, rfl, rfl, rfl⟩
  · split
    · exact sameWork_acceptRemoteOutcome b _ outcome
    · split <;> exact ⟨rfl, rfl, rfl, rfl, rfl, rfl⟩

def landed : Backend :=
  { b with remoteInflight := none, remotePolling := false, remoteDiscarding := false }

lemma sameWork_acceptRequestedAnswer :
    SameWork (landed b) (b.acceptRequestedAnswer answer).1 := by
  rcases answer with message | answer
  · simp only [acceptRequestedAnswer]
    split
    · have h := sameWork_failStart (landed b) ‹Request›
      exact ⟨h.queue, h.ready, h.nextReq, h.remoteInflight, h.remotePolling, h.remoteDiscarding⟩
    · exact ⟨rfl, rfl, rfl, rfl, rfl, rfl⟩
  · have h := sameWork_acceptOwned { landed b with remoteMoreNotices := answer.moreNotices }
      b.remoteInflight b.remotePolling b.remoteDiscarding answer.outcome
    exact ⟨h.queue, h.ready, h.nextReq, h.remoteInflight, h.remotePolling, h.remoteDiscarding⟩

lemma completions_acceptRequestedAnswer : completions (b.acceptRequestedAnswer answer).2 =
      if b.remoteDiscarding then [] else inflightIds b := by
  rcases answer with message | answer
  · simp only [acceptRequestedAnswer, inflightIds]
    rcases b.remoteInflight with - | ⟨id, r⟩ <;> cases b.remoteDiscarding <;> rfl
  · simp only [acceptRequestedAnswer, acceptNotices, acceptOwned,
      completions_append, completions_notices, append_nil, inflightIds]
    rcases b.remoteInflight with - | ⟨id, r⟩ <;> cases b.remoteDiscarding <;>
      cases b.remotePolling <;> rfl

lemma sameSession_acceptRequestedAnswer {b : Backend}
    (h : b.remoteDiscarding = true) : SameSession b (b.acceptRequestedAnswer answer).1 := by
  rcases answer with message | answer
  · simp only [acceptRequestedAnswer, h]
    rcases b.remoteInflight with - | ⟨id, r⟩ <;> exact ⟨rfl, rfl, rfl⟩
  · simp only [acceptRequestedAnswer, acceptNotices, acceptOwned, h]
    exact ⟨rfl, rfl, rfl⟩

/-! ## The steps keep the invariant -/

section Steps

variable {s : Remote} {b : Backend}

lemma Inv.shrink (h : Inv s) {outstanding : List Sent} (hready : b.ready = [])
    (hflight : Flight b outstanding s.stops) (hreq : b.nextReq = s.backend.nextReq)
    (hsub : (pendingIds b).Sublist (pendingIds s.backend))
    (hqueue : ∀ id ∈ b.queue.map Prod.fst, id ∈ s.backend.queue.map Prod.fst)
    (hflying : b.remoteDiscarding = false → ∀ id ∈ inflightIds b, Live s.log id) :
    Inv ⟨b, outstanding, s.stops, s.log⟩ where
  ready := hready
  flight := hflight
  order := h.order.sublist hsub
  bound := fun id hid => hreq ▸ h.bound id (hsub.subset hid)
  fresh := fun id hid => hreq ▸ h.fresh id hid
  sorted := h.sorted
  past := fun id hid =>
    ⟨hreq ▸ (h.past id hid).1, fun id' hid' => (h.past id hid).2 id' (hsub.subset hid')⟩
  queued := fun id hid => h.queued id (hqueue id hid)
  flying := hflying
  clean := h.clean

variable {id : ReqId}

open Entry

lemma Inv.complete (h : Inv s) (hlive : Live s.log id)
    (hpending : pendingIds s.backend = id :: b.queue.map Prod.fst) (hready : b.ready = [])
    (hidle : Flight b [] s.stops) (hreq : b.nextReq = s.backend.nextReq)
    (hqueue : ∀ id ∈ b.queue.map Prod.fst, id ∈ s.backend.queue.map Prod.fst) :
    Inv ⟨b, [], s.stops, s.log ++ [.completed id]⟩ := by
  have hnone : b.remoteInflight = none := by
    rcases hidle with ⟨hflight, _, _, _⟩ | ⟨_, _, _, _, _, hout, _, _⟩ | ⟨_, _, _, hout, _, _⟩
    · exact hflight
    all_goals cases hout
  have hids : pendingIds b = b.queue.map Prod.fst := by
    simp [pendingIds, inflightIds, hnone]
  have horder := h.order
  rw [hpending, pairwise_cons] at horder
  have hdone : completedIds (s.log ++ [.completed id]) = completedIds s.log ++ [id] := by
    simp [completedIds, completedId]
  constructor
  case ready => exact hready
  case flight => exact hidle
  case order => exact hids ▸ horder.2
  case bound =>
    intro id' hid'
    rw [hids] at hid'
    exact hreq ▸ h.bound id' (hpending ▸ mem_cons_of_mem _ hid')
  case fresh =>
    intro id' hid'
    have : submitted id' ∈ s.log := by
      simpa using hid'
    exact hreq ▸ h.fresh id' this
  case sorted =>
    rw [hdone, pairwise_append]
    refine ⟨h.sorted, pairwise_singleton _ _, ?_⟩
    intro old hold id' hid'
    rw [mem_singleton.mp hid']
    exact (h.past old hold).2 id (hpending ▸ mem_cons_self)
  case past =>
    intro old hold
    rw [hdone, mem_append, mem_singleton] at hold
    rcases hold with hold | rfl
    · refine ⟨hreq ▸ (h.past old hold).1, fun id' hid' => ?_⟩
      rw [hids] at hid'
      exact (h.past old hold).2 id' (hpending ▸ mem_cons_of_mem _ hid')
    · exact ⟨hreq ▸ h.bound old (hpending ▸ mem_cons_self), fun id' hid' =>
        horder.1 id' (hids ▸ hid')⟩
  case queued =>
    intro id' hid'
    exact (h.queued id' (hqueue id' hid')).snoc (by simp) (by simp)
  case flying =>
    intro _ id' hid'
    simp [inflightIds, hnone] at hid'
  case clean =>
    refine h.clean.snoc fun id' hid' => ?_
    cases hid'
    exact hlive

lemma Flight.congr {b' : Backend} {outstanding : List Sent} {stops : Nat}
    (h : Flight b outstanding stops) (hflight : b'.remoteInflight = b.remoteInflight)
    (hpoll : b'.remotePolling = b.remotePolling)
    (hdiscard : b'.remoteDiscarding = b.remoteDiscarding) : Flight b' outstanding stops := by
  cases h with
  | idle hflight' hpoll' hdiscard' hout =>
    exact .idle (hflight.trans hflight') (hpoll.trans hpoll') (hdiscard.trans hdiscard') hout
  | request id r since hflight' hpoll' hout hsince hdiscard' =>
    exact .request id r since (hflight.trans hflight') (hpoll.trans hpoll') hout hsince
      (hdiscard.trans hdiscard')
  | poll since hflight' hpoll' hout hsince hdiscard' =>
    exact .poll since (hflight.trans hflight') (hpoll.trans hpoll') hout hsince
      (hdiscard.trans hdiscard')

lemma Inv.congr (h : Inv s) (hw : SameWork s.backend b) : Inv { s with backend := b } := by
  have hids : inflightIds b = inflightIds s.backend := by
    unfold inflightIds
    rw [hw.remoteInflight]
  refine h.shrink (hw.ready ▸ h.ready) (h.flight.congr hw.remoteInflight hw.remotePolling
    hw.remoteDiscarding) hw.nextReq ?_ ?_ ?_
  · unfold pendingIds
    rw [hids, hw.queue]
  · rw [hw.queue]
    exact fun id hid => hid
  · rw [hw.remoteDiscarding, hids]
    exact h.flying

lemma Inv.land (h : Inv s) (hne : s.outstanding ≠ []) :
    Inv ⟨landed s.backend, s.outstanding.tail, s.stops, s.log ++
      (if s.backend.remoteDiscarding then [] else inflightIds s.backend).map .completed⟩ := by
  have hidle : Flight (landed s.backend) [] s.stops := .idle rfl rfl rfl rfl
  -- an answer that completes nothing: to a poll, or to a request that is discarded
  have hdrop : Inv ⟨landed s.backend, [], s.stops, s.log⟩ :=
    h.shrink h.ready hidle rfl (sublist_append_right _ _) (fun id hid => hid)
      (fun _ id hid => by simp [inflightIds, landed] at hid)
  cases h.flight with
  | idle hflight hpoll hdiscard hout => exact absurd hout hne
  | request id r since hflight hpoll hout =>
    rw [hout, tail_cons]
    cases hd : s.backend.remoteDiscarding with
    | true => simpa using hdrop
    | false =>
      have hids : inflightIds s.backend = [id] := by
        simp [inflightIds, hflight]
      rw [hids]
      refine h.complete (h.flying hd id (by simp [hids])) ?_ h.ready hidle rfl (fun id hid => hid)
      simp [pendingIds, hids, landed]
  | poll since hflight hpoll hout =>
    rw [hout, tail_cons]
    have hids : inflightIds s.backend = [] := by
      simp [inflightIds, hflight]
    simpa [hids] using hdrop

lemma Inv.poll (h : Inv s) (event : Option AsyncDirectoryEvent)
    (hne : isAnswer event = true → s.outstanding ≠ []) : Inv (s.poll event) := by
  rcases event with - | ⟨answer⟩ | ⟨answer⟩
  · simpa [Remote.poll, tickPoll, afterEvent, isAnswer, completed, completions] using h
  · have hland := (h.land (hne rfl)).congr (sameWork_acceptRequestedAnswer s.backend answer)
    rw [← completions_acceptRequestedAnswer s.backend answer] at hland
    exact hland
  · have hlog : s.completed (s.backend.acceptDetachedAnswer answer).2 = s.log := by
      simp [completed, completions_acceptDetachedAnswer]
    have hsame := h.congr (sameWork_acceptDetachedAnswer s.backend answer)
    simpa [Remote.poll, tickPoll, afterEvent, isAnswer, hlog] using hsame

section

variable (h : Inv s) (hflight : s.backend.remoteInflight = none)
  (hpoll : s.backend.remotePolling = false)
include h hflight hpoll

lemma Inv.idle :
    s.backend.remoteDiscarding = false ∧ s.outstanding = [] := by
  cases h.flight with
  | idle _ _ hdiscard hout => exact ⟨hdiscard, hout⟩
  | request id r since hsome => cases hflight.symm.trans hsome
  | poll since _ htrue => cases hpoll.symm.trans htrue

lemma Inv.submitPoll (submitted : Except String Unit) :
    Inv ⟨s.backend.submitPoll submitted,
      if submitted.isOk then
        s.outstanding ++ [⟨(s.backend.submitPoll submitted).remoteInflight.map Prod.fst, s.stops⟩]
      else s.outstanding, s.stops, s.log⟩ := by
  obtain ⟨hdiscard, hout⟩ := h.idle hflight hpoll
  rcases submitted with message | ⟨⟩
  · exact h.congr ⟨rfl, rfl, rfl, rfl, rfl, rfl⟩
  · refine h.shrink h.ready ?_ rfl (List.Sublist.refl _) (fun id hid => hid) h.flying
    refine .poll s.stops hflight rfl ?_ le_rfl ?_
    · simp [Backend.submitPoll, hflight, hout, Except.isOk, Except.toBool]
    · simpa [Backend.submitPoll] using hdiscard

variable {r : Request}

lemma Inv.refuse {queue : List (ReqId × Request)}
    (hqueue : s.backend.queue = (id, r) :: queue) (hw : SameWork { s.backend with queue } b) :
    Inv ⟨b, s.outstanding, s.stops, s.log ++ [.completed id]⟩ := by
  obtain ⟨hdiscard, hout⟩ := h.idle hflight hpoll
  rw [hout]
  refine h.complete ?_ ?_ ?_ ?_ hw.nextReq ?_
  · exact h.queued id (by simp [hqueue])
  · simp [pendingIds, inflightIds, hflight, hqueue, hw.queue]
  · exact hw.ready.trans h.ready
  · exact .idle (hw.remoteInflight.trans hflight) (hw.remotePolling.trans hpoll)
      (hw.remoteDiscarding.trans hdiscard) rfl
  · intro id' hid'
    rw [hw.queue] at hid'
    rw [hqueue]
    exact mem_cons_of_mem _ hid'

lemma Inv.depart {queue : List (ReqId × Request)}
    (hqueue : s.backend.queue = (id, r) :: queue) :
    Inv ⟨{ s.backend with queue := queue, remoteInflight := some (id, r) },
      s.outstanding ++ [⟨some id, s.stops⟩], s.stops, s.log⟩ := by
  obtain ⟨hdiscard, hout⟩ := h.idle hflight hpoll
  refine h.shrink h.ready ?_ rfl ?_ ?_ ?_
  · exact .request id r s.stops rfl hpoll (by rw [hout]; rfl) le_rfl (by simpa using hdiscard)
  · simp [pendingIds, inflightIds, hflight, hqueue]
  · intro id' hid'
    rw [hqueue]
    exact mem_cons_of_mem _ hid'
  · intro _ id' hid'
    have hid : id' = id := by
      simpa [inflightIds] using hid'
    exact hid ▸ h.queued id (by simp [hqueue])

end

lemma Inv.submit (h : Inv s) (submitted : Except String Unit) : Inv (s.submit submitted) := by
  by_cases hbusy : (s.backend.remoteInflight.isNone && !s.backend.remotePolling) = true
  case neg => simpa [Remote.submit, tickSubmit, hbusy, completed, completions] using h
  obtain ⟨hflight, hpoll⟩ : s.backend.remoteInflight = none ∧ s.backend.remotePolling = false := by
    simpa using hbusy
  have hpolled := h.submitPoll hflight hpoll submitted
  by_cases hmore : s.backend.remoteMoreNotices = true
  · simpa [Remote.submit, tickSubmit, hflight, hpoll, hmore, completed, completions]
      using hpolled
  cases hqueue : s.backend.queue with
  | nil =>
    by_cases hstarted : s.backend.status = .started
    · simpa [Remote.submit, tickSubmit, hflight, hpoll, hmore, hqueue, hstarted, completed,
        completions] using hpolled
    · simpa [Remote.submit, tickSubmit, hflight, hpoll, hmore, hqueue, hstarted, completed,
        completions] using h
  | cons head queue =>
    obtain ⟨id, r⟩ := head
    -- the request leaves the queue, and is refused or taken
    cases hpre : ({ s.backend with queue } : Backend).remotePreflight r with
    | some outcome =>
      have hsubmit : s.backend.tickSubmit submitted =
          ({ s.backend with queue }, [.completion id outcome], false) := by
        unfold tickSubmit
        rw [if_pos hbusy, if_neg hmore, hqueue]
        simp only [hpre]
      rw [Remote.submit, hsubmit]
      exact h.refuse hflight hpoll hqueue ⟨rfl, rfl, rfl, rfl, rfl, rfl⟩
    | none =>
      have hsubmit : s.backend.tickSubmit submitted =
          ((({ s.backend with queue } : Backend).submitRequest id r submitted).1,
            (({ s.backend with queue } : Backend).submitRequest id r submitted).2, true) := by
        unfold tickSubmit
        rw [if_pos hbusy, if_neg hmore, hqueue]
        simp only [hpre]
      rcases submitted with message | ⟨⟩
      · have hw := sameWork_failStart { s.backend with queue } r
        rw [Remote.submit, hsubmit]
        exact h.refuse hflight hpoll hqueue
          (b := (({ s.backend with queue } : Backend).failStart r).reportServiceError message)
          ⟨hw.queue, hw.ready, hw.nextReq, hw.remoteInflight, hw.remotePolling,
            hw.remoteDiscarding⟩
      · have hlog : s.completed [] = s.log := append_nil _
        rw [Remote.submit, hsubmit]
        simp only [submitRequest, hlog]
        exact h.depart hflight hpoll hqueue

lemma Inv.tick_eq (h : Inv s) (event : Option AsyncDirectoryEvent) (submitted : Except String Unit)
    (hne : isAnswer event = true → s.outstanding ≠ []) :
    s.tick event submitted = (s.poll event).submit submitted := by
  have hready : ((s.backend.tickPoll event).1.tickSubmit submitted).1.ready = [] :=
    ((h.poll event hne).submit submitted).ready
  have hbackend : (s.backend.tickRemote event submitted).2 =
      ((s.backend.tickPoll event).1.tickSubmit submitted).1 := by
    simp only [tickRemote]
    rw [← hready]
  have hout : (s.backend.tickRemote event submitted).1 =
      (s.backend.tickPoll event).2 ++ ((s.backend.tickPoll event).1.tickSubmit submitted).2.1 := by
    simp only [tickRemote, hready, append_nil]
  simp [Remote.tick, Remote.submit, Remote.poll, hbackend, hout, completed]

/-- After a stop, only the operation that is with the transport is left, and it is to be discarded. -/
lemma Inv.stop (h : Inv s) (notified : Except String Unit) : Inv (s.stop notified) := by
  by_cases hstopped : s.backend.isStopped = true
  · simpa [Remote.stop, stopSessionRemote, hstopped] using h
  obtain ⟨b, hb, hqueue, hready, hreq, hflight, hpoll, hdiscard⟩ :
      ∃ b, (s.backend.stopSessionRemote notified).2 = b ∧ b.queue = [] ∧ b.ready = [] ∧
        b.nextReq = s.backend.nextReq ∧ b.remoteInflight = s.backend.remoteInflight ∧
        b.remotePolling = s.backend.remotePolling ∧
        b.remoteDiscarding = (s.backend.remoteInflight.isSome || s.backend.remotePolling) := by
    refine ⟨_, rfl, ?_⟩
    rw [stopSessionRemote, if_neg hstopped]
    rcases notified with message | ⟨⟩ <;> exact ⟨rfl, rfl, rfl, rfl, rfl, rfl⟩
  have hstate : s.stop notified = ⟨b, s.outstanding, s.stops + 1, s.log ++ [.stop]⟩ := by
    simp [Remote.stop, hb, hstopped]
  rw [hstate]
  have hids : inflightIds b = inflightIds s.backend := by
    simp [inflightIds, hflight]
  have hpending : pendingIds b = inflightIds s.backend := by
    simp [pendingIds, hids, hqueue]
  have hsub : ∀ id ∈ pendingIds b, id ∈ pendingIds s.backend := by
    intro id hid
    exact mem_append_left _ (hpending ▸ hid)
  have hdone : completedIds (s.log ++ [.stop]) = completedIds s.log := by
    simp [completedIds, completedId]
  constructor
  case ready => exact hready
  case flight =>
    cases h.flight with
    | idle hflight' hpoll' _ hout =>
      exact .idle (hflight.trans hflight') (hpoll.trans hpoll')
        (by simp [hdiscard, hflight', hpoll']) hout
    | request id r since hflight' hpoll' hout hsince =>
      exact .request id r since (hflight.trans hflight') (hpoll.trans hpoll') hout
        (Nat.le_succ_of_le hsince) (by simp [hdiscard, hflight', Nat.lt_succ_of_le hsince])
    | poll since hflight' hpoll' hout hsince =>
      exact .poll since (hflight.trans hflight') (hpoll.trans hpoll') hout
        (Nat.le_succ_of_le hsince) (by simp [hdiscard, hpoll', Nat.lt_succ_of_le hsince])
  case order => exact hpending ▸ h.order.sublist (sublist_append_left _ _)
  case bound => exact fun id hid => hreq ▸ h.bound id (hsub id hid)
  case fresh =>
    intro id hid
    have : submitted id ∈ s.log := by
      simpa using hid
    exact hreq ▸ h.fresh id this
  case sorted => exact hdone ▸ h.sorted
  case past =>
    intro id hid
    obtain ⟨hle, hlt⟩ := h.past id (hdone ▸ hid)
    exact ⟨hreq ▸ hle, fun id' hid' => hlt id' (hsub id' hid')⟩
  case queued =>
    intro id hid
    simp [hqueue] at hid
  case flying =>
    intro hkept id hid
    have hnone : s.backend.remoteInflight = none := by
      have := hdiscard.symm.trans hkept
      simp only [Bool.or_eq_false_iff, isSome_eq_false_iff, isNone_iff_eq_none] at this
      exact this.1
    have hid : id ∈ inflightIds s.backend := hids ▸ hid
    simp [inflightIds, hnone] at hid
  case clean => exact h.clean.snoc fun id hid => by cases hid

lemma request_eq_some {b' : Backend} (h : b.request r = some (id, b')) :
    id = b.nextReq + 1 ∧ b'.nextReq = id ∧ b'.queue = b.queue ++ [(id, r)] ∧ b'.ready = b.ready ∧
      b'.remoteInflight = b.remoteInflight ∧ b'.remotePolling = b.remotePolling ∧
      b'.remoteDiscarding = b.remoteDiscarding := by
  cases r <;> (
    simp only [request, Backend.submit, Option.ite_none_right_eq_some, Option.some.injEq,
      Prod.mk.injEq] at h
    obtain ⟨_, rfl, rfl⟩ := h
    exact ⟨rfl, rfl, rfl, rfl, rfl, rfl, rfl⟩)

lemma Inv.request (h : Inv s) (hr : s.backend.request r = some (id, b)) :
    Inv { s with backend := b, log := s.log ++ [.submitted id] } := by
  obtain ⟨hid, hreq, hqueue, hready, hflight, hpoll, hdiscard⟩ := request_eq_some hr
  have hids : inflightIds b = inflightIds s.backend := by
    simp [inflightIds, hflight]
  have hpending : pendingIds b = pendingIds s.backend ++ [id] := by
    simp [pendingIds, hids, hqueue]
  have hnext : s.backend.nextReq < id := hid ▸ Nat.lt_succ_self _
  have hold : ∀ id' ∈ pendingIds s.backend, id' < id := by
    intro id' hid'
    exact (h.bound id' hid').trans_lt hnext
  have hfresh : submitted id ∉ s.log := by
    intro hin
    exact absurd (h.fresh id hin) hnext.not_ge
  have hlive : ∀ id', id' ≠ id → Live s.log id' → Live (s.log ++ [.submitted id]) id' := by
    intro id' hne hl
    exact hl.snoc (by simp) (by simpa using Ne.symm hne)
  have hdone : completedIds (s.log ++ [.submitted id]) = completedIds s.log := by
    simp [completedIds, completedId]
  constructor
  case ready => exact hready.trans h.ready
  case flight => exact h.flight.congr hflight hpoll hdiscard
  case order =>
    simp only [hpending, pairwise_append]
    refine ⟨h.order, pairwise_singleton _ _, ?_⟩
    intro id' hid' new hnew
    rw [mem_singleton.mp hnew]
    exact hold id' hid'
  case bound =>
    intro id' hid'
    simp only [hpending, mem_append, mem_singleton] at hid'
    rcases hid' with hid' | rfl
    · exact (hold id' hid').le.trans hreq.ge
    · exact hreq.ge
  case fresh =>
    intro id' hid'
    simp only [mem_append, mem_singleton, submitted.injEq] at hid'
    rcases hid' with hid' | rfl
    · exact ((h.fresh id' hid').trans hnext.le).trans hreq.ge
    · exact hreq.ge
  case sorted => exact hdone ▸ h.sorted
  case past =>
    intro id' hid'
    obtain ⟨hle, hlt⟩ := h.past id' (hdone ▸ hid')
    refine ⟨(hle.trans hnext.le).trans hreq.ge, ?_⟩
    intro id'' hid''
    simp only [hpending, mem_append, mem_singleton] at hid''
    rcases hid'' with hid'' | rfl
    · exact hlt id'' hid''
    · exact hle.trans_lt hnext
  case queued =>
    intro id' hid'
    simp only [hqueue, map_append, map_cons, map_nil, mem_append,
      mem_singleton] at hid'
    rcases hid' with hid' | rfl
    · exact hlive id' (hold id' (mem_append_right _ hid')).ne (h.queued id' hid')
    · exact live_submitted hfresh
  case flying =>
    intro hkept id' hid'
    have hid' := hids ▸ hid'
    exact hlive id' (hold id' (mem_append_left _ hid')).ne
      (h.flying (hdiscard ▸ hkept) id' hid')
  case clean => exact h.clean.snoc fun id' hid' => by cases hid'

lemma Inv.step {s' : Remote} (h : Inv s) (hstep : Step s s') : Inv s' := by
  cases hstep with
  | init => exact h.congr ⟨rfl, rfl, rfl, rfl, rfl, rfl⟩
  | request r id b hr => exact h.request hr
  | stop notified => exact h.stop notified
  | tick event submitted hne =>
    rw [h.tick_eq event submitted hne]
    exact (h.poll event hne).submit submitted

end Steps

/-! ## Every run -/

/-- The states that the calls on a new backend lead to. -/
inductive Runs (userId userName : String) : Remote → Prop
  | new : Runs userId userName (new userId userName)
  | step {s s' : Remote} (h : Runs userId userName s) (hstep : Step s s') : Runs userId userName s'

lemma Runs.inv {userId userName : String} {s : Remote} (h : Runs userId userName s) : Inv s := by
  induction h with
  | new => exact inv_new userId userName
  | step _ hstep ih => exact ih.step hstep

/-- An answer observed in a state: the request that it is for completes in the tick if there was no
stop since it was sent, and otherwise the answer leaves the session alone and completes nothing. -/
structure Answered (s : Remote) (sent : Sent) (answer : Except String DirectoryAnswer) : Prop where
  completes : sent.since = s.stops → ∀ id, sent.request = some id →
    ∀ submitted, id ∈ completions (s.backend.tickRemote (some (.requested answer)) submitted).1
  crosses : sent.since < s.stops →
    SameSession s.backend (s.backend.tickPoll (some (.requested answer))).1 ∧
      completions (s.backend.tickPoll (some (.requested answer))).2 = []

lemma Inv.answered {s : Remote} (h : Inv s) {sent : Sent} {rest : List Sent}
    (hout : s.outstanding = sent :: rest) (answer : Except String DirectoryAnswer) :
    Answered s sent answer := by
  have hcompletions := completions_acceptRequestedAnswer s.backend answer
  obtain ⟨hdiscard, hrequest⟩ : s.backend.remoteDiscarding = decide (sent.since < s.stops) ∧
      ∀ id, sent.request = some id → inflightIds s.backend = [id] := by
    cases h.flight with
    | idle _ _ _ hnone => cases hnone.symm.trans hout
    | request id r since hflight _ hone _ hdiscard =>
      obtain ⟨rfl, _⟩ := cons.inj (hone.symm.trans hout)
      refine ⟨hdiscard, fun id' hid' => ?_⟩
      obtain rfl := some.inj hid'
      simp [inflightIds, hflight]
    | poll since _ _ hone _ hdiscard =>
      obtain ⟨rfl, _⟩ := cons.inj (hone.symm.trans hout)
      exact ⟨hdiscard, fun id' hid' => by cases hid'⟩
  constructor
  · intro hsince id hid submitted
    rw [hdiscard, hsince, hrequest id hid] at hcompletions
    simp only [tickRemote, completions_append, mem_append]
    refine .inl (.inl ?_)
    simp [tickPoll, hcompletions]
  · intro hcrossed
    have htrue : s.backend.remoteDiscarding = true := by
      simp [hdiscard, hcrossed]
    exact ⟨sameSession_acceptRequestedAnswer answer htrue, by
      simpa [tickPoll, htrue] using hcompletions⟩

/-- In every run of a backend with a remote directory, requests complete in the order of their ids and
at most once; none completes after a stop that followed it; and the answer to the oldest submission
completes its request unless it has crossed a stop, when it does not touch the session. -/
theorem completions_in_order {userId userName : String} {s : Remote} (h : Runs userId userName s) :
    (completedIds s.log).Nodup ∧ (completedIds s.log).Pairwise (· < ·) ∧ Clean s.log ∧
      ∀ sent rest, s.outstanding = sent :: rest → ∀ answer, Answered s sent answer :=
  have hinv := h.inv
  ⟨hinv.sorted.imp fun hlt => hlt.ne, hinv.sorted, hinv.clean, fun _ _ hout answer =>
    hinv.answered hout answer⟩

def startAnswer (outcome : Outcome) : Option AsyncDirectoryEvent :=
  some (.requested (.ok ⟨outcome, [], false⟩))

lemma runs_second_start : ∃ s, Runs "a" "A" s ∧ s.outstanding = [⟨some 2, 0⟩] ∧ s.stops = 0 ∧
    s.log = [.submitted 1, .submitted 2, .completed 1] ∧ s.backend.status = .stopped ∧
    s.backend.remoteInflight = some (2, .startSession "a") ∧ s.backend.remoteDiscarding = false := by
  have h := ((@Runs.new "a" "A").step (.init _)).step (.request _ (.startSession "a") 1 _ rfl)
  have h' := (h.step (.request _ (.startSession "a") 2 _ rfl)).step
    (.tick _ none (.ok ()) (fun hanswer => by cases hanswer))
  have h'' := h'.step (.tick _ (startAnswer (.failed 0 "")) (.ok ()) (fun _ => by decide))
  exact ⟨_, h'', by decide, rfl, by decide, by decide, by decide,
    by decide⟩

theorem second_start_in_order : ∃ s, Runs "a" "A" s ∧ completedIds s.log = [1] ∧ Clean s.log := by
  obtain ⟨s, h, _, _, hlog, _⟩ := runs_second_start
  exact ⟨s, h, by rw [hlog]; rfl, (completions_in_order h).2.2.1⟩

/-- A stop does nothing in that state: the second start completes after it, and starts the session. -/
theorem stop_misses_the_second_start : ∃ s, Runs "a" "A" s ∧ .submitted 2 ∈ s.log ∧
    s.outstanding = [⟨some 2, 0⟩] ∧ (s.backend.stopSessionRemote (.ok ())).2 = s.backend ∧
    (∀ submitted, 2 ∈ completions
      (s.backend.tickRemote (startAnswer (.sessionStarted "a")) submitted).1) ∧
    s.backend.status = .stopped ∧
    (s.backend.tickPoll (startAnswer (.sessionStarted "a"))).1.status = .started := by
  obtain ⟨s, h, hout, hstops, hlog, hstatus, hflight, hdiscard⟩ := runs_second_start
  have hanswered := h.inv.answered hout (.ok ⟨.sessionStarted "a", [], false⟩)
  refine ⟨s, h, by simp [hlog], hout, ?_, hanswered.completes hstops.symm 2 rfl, hstatus, ?_⟩
  · simp [stopSessionRemote, isStopped, hstatus]
  · simp [startAnswer, tickPoll, acceptRequestedAnswer, acceptOwned, hflight,
      hdiscard, acceptRemoteOutcome, Outcome.isError, acceptNotices,
      startedAs]

end Remote

end Don.Crossplay
