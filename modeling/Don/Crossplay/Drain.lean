import Don.Crossplay.Server
import Don.Crossplay.Delivery
import Don.Crossplay.History

/-!
# Drain — what a stop leaves to be read

After a stop is accepted, a connection keeps its identity until its mailbox has been read.  One
connection is watched through a run: the session it was told to be in, the notices that were in its
mailbox when the last stop was accepted, and the notices that it has written since.  The answer that ends
the drain is written after the release.
-/

namespace Don.Crossplay

open Std (ExtTreeMap ExtTreeSet)
open Foundation Directory Function List Option

namespace Rpc

structure Watch where
  session : Option Member
  due : List Notice
  sent : List Notice

namespace Watch

def new : Watch := ⟨none, [], []⟩

def receive (w : Watch) (call : DirectoryCall) : Watch :=
  { w with session := if isStop call.operation then none else w.session }

/-- An answer of the directory, which has its page out of the mailbox; `d` is what it has left behind. -/
def answer (w : Watch) (call : DirectoryCall) (a : DirectoryAnswer) (d : Directory) : Watch :=
  if isStop call.operation && !a.outcome.isError then
    { w with due := a.notices ++ mailbox d call.user.userId, sent := [] }
  else
    { w with session := if isStart call.operation && !a.outcome.isError then some call.user else w.session }

/-- An answer is written. -/
def reply (w : Watch) (a : DirectoryAnswer) : Watch :=
  { w with sent := w.sent ++ a.notices }

end Watch

namespace Server

variable {ι : Type} [DecidableEq ι]

def isSilent : Act → Bool
  | .claim _ => true
  | .clean _ => true
  | .remove _ => true
  | _ => false

/-- Runs in which connection `i` is watched and does not break, and every call that it receives is
allowed in the state that it is received in. -/
inductive Watched (allowed : Conn → DirectoryCall → Prop) (i : ι) : Server ι → Watch → Prop
  | new : Watched allowed i new .new
  | other {s s' : Server ι} {w : Watch} {j : ι} {act : Act} (h : Watched allowed i s w) (hj : j ≠ i)
      (hstep : Step s j act s') : Watched allowed i s' w
  | receive {s s' : Server ι} {w : Watch} {call : DirectoryCall} (h : Watched allowed i s w)
      (hallowed : allowed (s.conns i) call) (hstep : Step s i (.receive call) s') :
      Watched allowed i s' (w.receive call)
  | execute {s : Server ι} {w : Watch} {call : DirectoryCall} {d d' : Directory} {a : DirectoryAnswer}
      (h : Watched allowed i s w)
      (hstage : (s.conns i).stage = .claimed call ∨ (s.conns i).stage = .calling call)
      (hd : s.directory = some d) (ht : transact d call = some (a, d')) :
      Watched allowed i { s.put i ((s.conns i).finish call a) with directory := some d' }
        (w.answer call a d')
  | reply {s s' : Server ι} {w : Watch} {a : DirectoryAnswer} (h : Watched allowed i s w)
      (hstep : Step s i (.reply a) s') : Watched allowed i s' (w.reply a)
  | silent {s s' : Server ι} {w : Watch} {act : Act} (h : Watched allowed i s w)
      (hact : isSilent act = true) (hstep : Step s i act s') : Watched allowed i s' w

lemma Watched.runs {allowed : Conn → DirectoryCall → Prop} {i : ι} {s : Server ι} {w : Watch}
    (h : Watched allowed i s w) : Runs s := by
  induction h with
  | new => exact .new
  | other _ _ hstep ih | receive _ _ hstep ih | reply _ hstep ih | silent _ _ hstep ih => exact ih.step hstep
  | execute _ hstage hd ht ih => exact ih.step (.execute hstage hd ht)

def PollsWhileDraining (c : Conn) (call : DirectoryCall) : Prop :=
  c.stoppingIdentity = true → isPoll call.operation = true ∧ c.identity = some call.user

/-! ## Mailboxes of other users -/

section Others

variable {d d' : Directory} {u : String}

lemma mail_transact (hbounded : Bounded d) {call : DirectoryCall} (hcall : CallOk call)
    {a : DirectoryAnswer} (h : transact d call = some (a, d')) (hu : u ≠ call.user.userId) :
    ∃ posted, mailbox d' u = mailbox d u ++ posted := by
  obtain ⟨o, d₁, hexec, hans⟩ := transact_eq_some h
  obtain ⟨posted, hposted, _⟩ := (executed_safe hbounded.lobbies hcall hexec).mail u
  exact ⟨posted, by rw [← hposted, mailbox, (answered_paged hans).others u hu, mailbox]⟩

lemma mail_cleanupPeer (hbounded : Bounded d) {v : String} (hu : u ≠ v) :
    ∃ posted, mailbox (d.cleanupPeer v) u = mailbox d u ++ posted := by
  have hdetach : ∀ d₁ : Directory, mailbox (d₁.detachPeer v) u = mailbox d₁ u := by
    intro d₁
    have hne : compare v u ≠ .eq := fun heq => hu (Std.LawfulEqCmp.eq_of_compare heq).symm
    simp [mailbox, detachPeer, ExtTreeMap.getElem?_erase, hne]
  unfold cleanupPeer
  rw [hdetach]
  split
  next l _ =>
    obtain ⟨posted, hposted, _⟩ := (leave_safe hbounded.lobbies v l.id).posts.mail u
    exact ⟨posted, hposted⟩
  next => exact ⟨[], by simp⟩

lemma mail_own (hbounded : Bounded d) {call : DirectoryCall} (hcall : CallOk call)
    {a : DirectoryAnswer} (h : transact d call = some (a, d')) :
    ∃ posted, a.notices ++ mailbox d' call.user.userId = mailbox d call.user.userId ++ posted := by
  obtain ⟨o, d₁, hexec, hans⟩ := transact_eq_some h
  obtain ⟨posted, hposted, _⟩ := (executed_safe hbounded.lobbies hcall hexec).mail call.user.userId
  exact ⟨posted, by rw [← hposted, (answered_paged hans).taken]⟩

end Others

lemma mail_step {s s' : Server ι} (hinv : Inv s) {j : ι} {act : Act} (hstep : Step s j act s')
    {u : String} (hu : (s.conns j).holds ≠ some u) {d' : Directory} (hd' : s'.directory = some d') :
    ∃ d posted, s.directory = some d ∧ mailbox d' u = mailbox d u ++ posted := by
  have hsame : s.directory = some d' → ∃ d posted, s.directory = some d ∧
      mailbox d' u = mailbox d u ++ posted := fun h => ⟨d', [], h, by simp⟩
  cases hstep with
  | receive | refuse | claim | poisoned | remove | reply | disconnect => exact hsame hd'
  | @execute call d d₁ a hstage hd ht =>
    obtain rfl := some.inj hd'
    obtain ⟨_, hcall, hholds⟩ := Conn.Ok.bound_eq (hinv.ok j) hstage
    have hne : u ≠ call.user.userId := fun heq => hu (heq ▸ hholds)
    obtain ⟨posted, hposted⟩ := mail_transact (hinv.sound d hd).2 hcall ht hne
    exact ⟨d, posted, hd, hposted⟩
  | poison => cases hd'
  | @clean user reply hstage =>
    obtain ⟨d, hd, rfl⟩ := map_eq_some_iff.1 hd'
    have hholds : (s.conns j).holds = some user.userId := by
      rw [Conn.holds, hstage]
    have hne : u ≠ user.userId := fun heq => hu (heq ▸ hholds)
    obtain ⟨posted, hposted⟩ := mail_cleanupPeer (hinv.sound d hd).2 hne
    exact ⟨d, posted, hd, hposted⟩

/-! ## The invariant of a watched connection -/

/-- The notices of an answer that is made and not yet written. -/
def pending : Stage → List Notice
  | .cleaning _ (some a) => a.notices
  | .removing _ (some a) => a.notices
  | .replying a => a.notices
  | _ => []

/-- What the notices that are due, those that were written and the mailbox have to do with each other
while the connection `c` drains its mailbox in the directory `o`, and when it has drained it. -/
structure Draining (c : Conn) (o : Option Directory) (w : Watch) : Prop where
  bound : c.stoppingIdentity = true → c.identity ≠ none
  owed : c.stoppingIdentity = true → ∀ m, c.identity = some m → ∀ d, o = some d →
    ∃ posted, w.due ++ posted = w.sent ++ pending c.stage ++ mailbox d m.userId
  polls : ∀ call, c.stage = .calling call → c.stoppingIdentity = true → isPoll call.operation = true
  claiming : ∀ call, c.stage = .claiming call → isStart call.operation = true
  claimed : ∀ call, c.stage = .claimed call → isStart call.operation = true ∧ c.stoppingIdentity = false
  stops : ∀ call, c.stage = .calling call → isStop call.operation = true → w.session = none
  released : c.stoppingIdentity = false → w.due <+: w.sent ++ pending c.stage
  session : ∀ m, w.session = some m → c.identity = some m ∧ c.stoppingIdentity = false

namespace Draining

variable {c : Conn} {o : Option Directory} {w : Watch}

/-- A connection that does not drain and waits for a frame or a write. -/
lemma of_resumed {identity : Option Member} (reply : Option DirectoryAnswer)
    (hdue : w.due <+: w.sent ++ pending (Conn.resumed reply))
    (hsession : ∀ m, w.session = some m → identity = some m) :
    Draining ⟨identity, false, Conn.resumed reply⟩ o w := by
  cases reply <;> exact ⟨by simp, by simp, by simp, by simp [Conn.resumed], by simp [Conn.resumed],
    by simp [Conn.resumed], fun _ => hdue, fun m hm => ⟨hsession m hm, rfl⟩⟩

/-- A step to a stage with no answer, from another such stage. -/
lemma released_of_reading (h : Draining c o w) (hstage : pending c.stage = []) (l : List Notice)
    (hstop : c.stoppingIdentity = false) : w.due <+: w.sent ++ l := by
  have hdue := h.released hstop
  rw [hstage, append_nil] at hdue
  exact hdue.trans (prefix_append _ l)

lemma not_stopping (h : Draining c o w) (hid : c.identity = none) : c.stoppingIdentity = false := by
  cases hstop : c.stoppingIdentity with
  | false => rfl
  | true => exact absurd hid (h.bound hstop)

lemma no_session (h : Draining c o w) (hid : c.identity = none) : w.session = none := by
  cases hs : w.session with
  | none => rfl
  | some m =>
    have := (h.session m hs).1
    rw [hid] at this
    cases this

end Draining

lemma receive_cases (c : Conn) {call : DirectoryCall} (hallowed : PollsWhileDraining c call) :
    (c.receive call = { c with stage := .calling call } ∧
        (c.stoppingIdentity = true → isPoll call.operation = true)) ∨
      (c.receive call = { c with stage := .claiming call } ∧ isStart call.operation = true) ∨
      ∃ a, c.stoppingIdentity = false ∧ c.receive call = ⟨c.identity, false, .replying a⟩ := by
  -- a refusal only answers when the connection does not drain
  have hrefused : ∀ code message, c.stoppingIdentity = false →
      c.finish call (failureAnswer code message) =
        ⟨c.identity, false, .replying (failureAnswer code message)⟩ := by
    intro code message hstop
    simp [Conn.finish, hstop, failureAnswer, Outcome.isError]
  have hother : c.identity ≠ some call.user → c.stoppingIdentity = false := by
    intro hne
    cases hstop : c.stoppingIdentity with
    | false => rfl
    | true => exact absurd (hallowed hstop).2 hne
  unfold Conn.receive
  dsimp only
  cases hid : c.identity with
  | none =>
    have hstop := hother (by rw [hid]; simp)
    split
    next hstart =>
      dsimp only
      split
      · exact .inr (.inr ⟨_, hstop, hid ▸ hrefused _ _ hstop⟩)
      · exact .inr (.inl ⟨rfl, hstart⟩)
    next => exact .inr (.inr ⟨_, hstop, hid ▸ hrefused _ _ hstop⟩)
  | some m =>
    have hmismatch : m ≠ call.user → c.stoppingIdentity = false := by
      intro hne
      exact hother (by rw [hid]; simpa using hne)
    have hpolls : c.stoppingIdentity = true → isPoll call.operation = true :=
      fun hstop => (hallowed hstop).1
    split
    · dsimp only
      split
      next hne => exact .inr (.inr ⟨_, hmismatch hne, hid ▸ hrefused _ _ (hmismatch hne)⟩)
      next => exact .inl ⟨rfl, hpolls⟩
    · dsimp only
      split
      next hne => exact .inr (.inr ⟨_, hmismatch hne, hid ▸ hrefused _ _ (hmismatch hne)⟩)
      next =>
        split
        next hdrain =>
          simp only [Bool.and_eq_true, Bool.not_eq_true'] at hdrain
          cases hdrain.2.symm.trans (hpolls hdrain.1)
        next => exact .inl ⟨rfl, hpolls⟩

lemma Draining.receive {c : Conn} {o : Option Directory} {w : Watch} (h : Draining c o w)
    (hstage : c.stage = .reading) {call : DirectoryCall} (hallowed : PollsWhileDraining c call) :
    Draining (c.receive call) o (w.receive call) := by
  have hsession : ∀ m, (w.receive call).session = some m → w.session = some m := by
    intro m hm
    simp only [Watch.receive] at hm
    split at hm
    · cases hm
    · exact hm
  have hnone : pending c.stage = [] := by rw [hstage]; rfl
  have howed := h.owed
  rw [hnone] at howed
  rcases receive_cases c hallowed with ⟨heq, hpolls⟩ | ⟨heq, hstart⟩ | ⟨a, hstop, heq⟩
  · rw [heq]
    refine ⟨h.bound, howed, ?_, by simp, by simp, ?_, h.released_of_reading hnone [],
      fun m hm => h.session m (hsession m hm)⟩
    · intro call' hcall' hstop
      cases hcall'
      exact hpolls hstop
    · intro call' hcall' hstops
      cases hcall'
      simp [Watch.receive, hstops]
  · rw [heq]
    refine ⟨h.bound, howed, by simp, ?_, by simp, by simp, h.released_of_reading hnone [],
      fun m hm => h.session m (hsession m hm)⟩
    intro call' hcall'
    cases hcall'
    exact hstart
  · rw [heq]
    exact .of_resumed (some a) (h.released_of_reading hnone _ hstop) fun m hm => (h.session m (hsession m hm)).1

lemma conns_put_self (s : Server ι) (i : ι) (c : Conn) : (s.put i c).conns i = c := by
  simp [put]

lemma conns_of_step {s s' : Server ι} {i j : ι} {act : Act} (h : Step s j act s') (hij : i ≠ j) :
    s'.conns i = s.conns i := by
  cases h <;> exact update_of_ne hij _ _

section Steps

variable {i : ι} {s : Server ι} {w : Watch}

lemma Draining.other {s' : Server ι} {j : ι} {act : Act}
    (h : Draining (s.conns i) s.directory w) (hinv : Inv s) (hij : i ≠ j) (hstep : Step s j act s') :
    Draining (s'.conns i) s'.directory w := by
  rw [conns_of_step hstep hij]
  refine ⟨h.bound, ?_, h.polls, h.claiming, h.claimed, h.stops, h.released, h.session⟩
  intro hstop m hm d' hd'
  -- no other connection holds the user of this one
  have hholds : (s.conns i).holds = some m.userId :=
    Conn.Ok.holds_of_bound (hinv.ok i) (by rw [Conn.bound, hm]; rfl)
  have hother : (s.conns j).holds ≠ some m.userId := fun hj => hij (hinv.unique i j _ hholds hj)
  obtain ⟨d, posted, hd, hmail⟩ := mail_step hinv hstep hother hd'
  obtain ⟨posted', howed⟩ := h.owed hstop m hm d hd
  refine ⟨posted' ++ posted, ?_⟩
  rw [hmail, ← append_assoc, howed, append_assoc]

lemma isStart_of_isPoll {op : DirectoryOperation} (h : isPoll op = true) :
    isStart op = false ∧ isStop op = false := by
  cases op <;> first | exact ⟨rfl, rfl⟩ | cases h

lemma draining_release {c : Conn} {o : Option Directory} {a : DirectoryAnswer}
    (hdue : w.due <+: w.sent ++ a.notices) (hsession : w.session = none) :
    Draining (c.release (some a)) o w := by
  unfold Conn.release
  cases c.identity with
  | none => exact .of_resumed (some a) hdue fun m hm => by cases hsession.symm.trans hm
  | some =>
    refine ⟨by simp, by simp, by simp, by simp, by simp, by simp, fun _ => hdue, ?_⟩
    intro m' hm'
    cases hsession.symm.trans hm'

/-- A page after which more is due. -/
lemma draining_replying {identity : Option Member} {d : Directory} {a : DirectoryAnswer}
    {m : Member}
    (hid : identity = some m) (hsession : w.session = none)
    (howed : ∃ posted, w.due ++ posted = w.sent ++ a.notices ++ mailbox d m.userId) :
    Draining ⟨identity, true, .replying a⟩ (some d) w := by
  subst hid
  refine ⟨by simp, ?_, by simp, by simp, by simp, by simp, by simp, ?_⟩
  · rintro _ _ ⟨⟩ _ ⟨⟩
    exact howed
  · intro m' hm'
    cases hsession.symm.trans hm'

/-- After a page, a connection that drains releases its identity or goes on. -/
lemma draining_finish {c : Conn} {d : Directory} {call : DirectoryCall} {a : DirectoryAnswer}
    (hstops : (c.stoppingIdentity || (isStop call.operation && !a.outcome.isError)) = true)
    (hid : c.identity = some call.user) (hsession : w.session = none)
    (hmore : a.moreNotices = !(mailbox d call.user.userId).isEmpty)
    (howed : ∃ posted, w.due ++ posted = w.sent ++ a.notices ++ mailbox d call.user.userId) :
    Draining (c.finish call a) (some d) w := by
  unfold Conn.finish
  simp only [hstops, Bool.true_and]
  cases hm : a.moreNotices with
  | false =>
    have hempty : mailbox d call.user.userId = [] := by simpa [hm] using hmore
    rw [hempty, append_nil] at howed
    exact draining_release howed hsession
  | true => exact draining_replying hid hsession howed

lemma Draining.execute {c : Conn} {d d' : Directory} {w : Watch} (h : Draining c (some d) w)
    (hok : c.Ok) (hbounded : Bounded d) {call : DirectoryCall} {a : DirectoryAnswer}
    (hstage : c.stage = .claimed call ∨ c.stage = .calling call)
    (ht : transact d call = some (a, d')) :
    Draining (c.finish call a) (some d') (w.answer call a d') := by
  obtain ⟨hid, hcall, _⟩ := Conn.Ok.bound_eq hok hstage
  obtain ⟨posted, hown⟩ := mail_own hbounded hcall ht
  obtain ⟨_, _, _, hans⟩ := transact_eq_some ht
  have hmore : a.moreNotices = !(mailbox d' call.user.userId).isEmpty := (answered_paged hans).more
  have hnone : pending c.stage = [] := by
    rcases hstage with hstage | hstage
    all_goals
      rw [hstage]
      rfl
  by_cases hstop : (isStop call.operation && !a.outcome.isError) = true
  · -- an accepted stop: what is due is its page and what that has left
    have hstops : isStop call.operation = true := by
      simp only [Bool.and_eq_true] at hstop
      exact hstop.1
    have hcalling : c.stage = .calling call := by
      rcases hstage with hstage | hstage
      · have hstart := (h.claimed call hstage).1
        revert hstart hstops
        cases call.operation <;> simp [isStart, isStop]
      · exact hstage
    rw [Watch.answer, if_pos hstop]
    exact draining_finish (by rw [hstop, Bool.or_true]) hid (h.stops call hcalling hstops) hmore
      ⟨[], by simp⟩
  · rw [Watch.answer, if_neg hstop]
    cases hdrain : c.stoppingIdentity with
    | false =>
      simp only [Conn.finish, hdrain, hstop, Bool.or_false, Bool.false_and, Bool.false_eq_true, if_false]
      refine .of_resumed (some a) (h.released_of_reading hnone _ hdrain) fun m hm => ?_
      dsimp only at hm
      split at hm
      · exact hid.trans hm
      · exact (h.session m hm).1
    | true =>
      have hcalling : c.stage = .calling call := by
        rcases hstage with hstage | hstage
        · cases hdrain.symm.trans (h.claimed call hstage).2
        · exact hstage
      have hstart := (isStart_of_isPoll (h.polls call hcalling hdrain)).1
      have hsession : w.session = none := by
        cases hs : w.session with
        | none => rfl
        | some m => cases hdrain.symm.trans (h.session m hs).2
      -- the page moves from the mailbox to the answer
      obtain ⟨posted', howed⟩ := h.owed hdrain call.user hid d rfl
      rw [hnone, append_nil] at howed
      have howed' : w.due ++ (posted' ++ posted) =
          (w.sent ++ a.notices) ++ mailbox d' call.user.userId := by
        rw [← append_assoc, howed, append_assoc, append_assoc, ← hown]
      simp only [hstart, Bool.false_and, Bool.false_eq_true, if_false]
      exact draining_finish (by rw [hdrain, Bool.true_or]) hid hsession hmore ⟨_, howed'⟩

lemma Draining.silent {s' : Server ι} {act : Act} (h : Draining (s.conns i) s.directory w)
    (hinv : Inv s) (hact : isSilent act = true) (hstep : Step s i act s') :
    Draining (s'.conns i) s'.directory w := by
  have hok := hinv.ok i
  cases hstep with
  | receive | execute | poison | poisoned | reply | disconnect => cases hact
  | @refuse call hstage _ =>
    have hid := (hok.claiming call hstage).1
    have hstop := h.not_stopping hid
    rw [conns_put_self]
    simp only [Conn.finish, hstop, failureAnswer, Outcome.isError, Bool.not_true, Bool.and_false,
      Bool.or_false, Bool.false_and, Bool.false_eq_true, if_false]
    exact .of_resumed (some _) (h.released_of_reading (by rw [hstage]; rfl) _ hstop)
      fun m hm => (h.session m hm).1
  | @claim call hstage _ =>
    have hid := (hok.claiming call hstage).1
    have hstop := h.not_stopping hid
    have hsession := h.no_session hid
    change Draining ((s.put i _).conns i) s.directory w
    rw [conns_put_self]
    refine ⟨by simp, by simp [hstop], by simp, by simp, ?_, by simp,
      h.released_of_reading (by rw [hstage]; rfl) [], ?_⟩
    · intro call' hcall'
      cases hcall'
      exact ⟨h.claiming call hstage, hstop⟩
    · intro m hm
      cases hsession.symm.trans hm
  | @clean user reply hstage =>
    have hid := hok.cleaning user reply hstage
    have hstop := h.not_stopping hid
    have hsession := h.no_session hid
    change Draining ((s.put i _).conns i) _ w
    rw [conns_put_self]
    have hdue := h.released hstop
    rw [hstage] at hdue
    refine ⟨by simp [hstop], by simp [hstop], by simp, by simp, by simp, by simp, fun _ => ?_, ?_⟩
    · cases reply <;> exact hdue
    intro m hm
    cases hsession.symm.trans hm
  | @remove user reply hstage =>
    have hid := hok.removing user reply hstage
    have hstop := h.not_stopping hid
    change Draining ((s.put i _).conns i) s.directory w
    have hdue := h.released hstop
    rw [hstage] at hdue
    rw [conns_put_self, hstop]
    refine .of_resumed reply ?_ fun m hm => (h.session m hm).1
    cases reply <;> exact hdue

/-- The write of an answer moves its notices from what is pending to what was sent. -/
lemma Draining.reply {s' : Server ι} {a : DirectoryAnswer} (h : Draining (s.conns i) s.directory w)
    (hstep : Step s i (.reply a) s') : Draining (s'.conns i) s'.directory (w.reply a) := by
  cases hstep with
  | reply hstage =>
    have howed := h.owed
    have hdue := h.released
    rw [hstage] at howed hdue
    rw [conns_put_self]
    refine ⟨h.bound, ?_, by simp, by simp, by simp, by simp, ?_, h.session⟩
    · intro hstop m hm d hd
      obtain ⟨posted, hsum⟩ := howed hstop m hm d hd
      exact ⟨posted, by simpa [Watch.reply, pending] using hsum⟩
    · simpa [Watch.reply, pending] using hdue

lemma Watched.draining (h : Watched PollsWhileDraining i s w) :
    Draining (s.conns i) s.directory w := by
  induction h with
  | new =>
    exact ⟨by simp [Server.new, Conn.new], by simp [Server.new, Conn.new], by simp [Server.new, Conn.new],
      by simp [Server.new, Conn.new], by simp [Server.new, Conn.new], by simp [Server.new, Conn.new],
      fun _ => nil_prefix, by simp [Watch.new]⟩
  | other h hj hstep ih => exact ih.other h.runs.inv (Ne.symm hj) hstep
  | receive _ hallowed hstep ih =>
    cases hstep with
    | receive hstage =>
      rw [conns_put_self]
      exact ih.receive hstage hallowed
  | execute h hstage hd ht ih =>
    change Draining ((put _ i _).conns i) _ _
    rw [conns_put_self]
    have hinv := h.runs.inv
    exact (hd ▸ ih).execute (hinv.ok i) (hinv.sound _ hd).2 hstage ht
  | reply _ hstep ih => exact ih.reply hstep
  | silent h hact hstep ih => exact ih.silent h.runs.inv hact hstep

end Steps

def AnyCall (_ : Conn) (_ : DirectoryCall) : Prop := True

section Calls

variable {i : ι} {d d' : Directory} {users : ExtTreeSet String} {c : ι → Conn} {w : Watch}
  {a : DirectoryAnswer} {allowed : Conn → DirectoryCall → Prop}
  (hallow : ∀ c call, c.stoppingIdentity = false → allowed c call)

include hallow

lemma Watched.any_step {s s' : Server ι} {j : ι} {act : Act} (h : Watched allowed i s w)
    (hstop : (s.conns j).stoppingIdentity = false) (hstep : Step s j act s') (hfail : act ≠ .fail)
    (hbreak : act ≠ .disconnect) : ∃ w', Watched allowed i s' w' := by
  by_cases hj : j = i
  · subst hj
    cases act with
    | receive => exact ⟨_, h.receive (hallow _ _ hstop) hstep⟩
    | execute =>
      cases hstep with
      | execute hstage hd ht => exact ⟨_, h.execute hstage hd ht⟩
    | claim | clean | remove => exact ⟨w, h.silent rfl hstep⟩
    | reply => exact ⟨_, h.reply hstep⟩
    | disconnect => exact absurd rfl hbreak
    | fail => exact absurd rfl hfail
  · exact ⟨w, h.other hj hstep⟩

lemma Watched.call (h : Watched allowed i ⟨some d, users, c⟩ w) (j : ι) {call : DirectoryCall}
    (hj : c j = ⟨some call.user, false, .reading⟩) (hok : CallOk call)
    (hstart : isStart call.operation = false) (hstop : isStop call.operation = false)
    (ht : transact d call = some (a, d')) : ∃ w', Watched allowed i ⟨some d', users, c⟩ w' := by
  obtain ⟨w₁, h₁⟩ := h.any_step hallow (j := j) (by simp [hj]) (.receive (by simp [hj]) (decodeCall_encodeCall hok))
    (by simp) (by simp)
  have hreceived : (c j).receive call = ⟨some call.user, false, .calling call⟩ := by
    simp [Conn.receive, hj, hstart]
  simp only [put, hreceived] at h₁
  obtain ⟨w₂, h₂⟩ := h₁.any_step hallow (j := j) (by simp) (.execute (.inr (by simp)) rfl ht) (by simp) (by simp)
  have hfinished : (⟨some call.user, false, .calling call⟩ : Conn).finish call a =
      ⟨some call.user, false, .replying a⟩ := by
    simp [Conn.finish, hstop]
  simp only [put, update_self, hfinished, update_idem] at h₂
  obtain ⟨w₃, h₃⟩ := h₂.any_step hallow (j := j) (by simp) (@Step.reply ι _ _ j a (by simp)) (by simp) (by simp)
  simp only [put, update_self, update_idem] at h₃
  rw [← hj, update_eq_self] at h₃
  exact ⟨w₃, h₃⟩

lemma Watched.start (h : Watched allowed i ⟨some d, users, c⟩ w) (j : ι) {m : Member}
    (hj : c j = .new) (hok : MemberOk m) (hname : m.userId.isEmpty = false) (hfree : m.userId ∉ users)
    (ht : transact d ⟨m, .startSession⟩ = some (a, d')) :
    ∃ w', Watched allowed i ⟨some d', users.insert m.userId,
      update c j ⟨some m, false, .reading⟩⟩ w' := by
  obtain ⟨w₁, h₁⟩ := h.any_step hallow (j := j) (by simp [hj, Conn.new]) (.receive (by simp [hj, Conn.new])
    (decodeCall_encodeCall (c := ⟨m, .startSession⟩) ⟨hok, trivial⟩)) (by simp) (by simp)
  have hreceived : (c j).receive ⟨m, .startSession⟩ = ⟨none, false, .claiming ⟨m, .startSession⟩⟩ := by
    simp [Conn.receive, hj, Conn.new, isStart, hname]
  simp only [put, hreceived] at h₁
  obtain ⟨w₂, h₂⟩ := h₁.any_step hallow (j := j) (by simp) (@Step.claim ι _ _ j ⟨m, .startSession⟩ (by simp) hfree)
    (by simp) (by simp)
  simp only [put, update_self, update_idem] at h₂
  obtain ⟨w₃, h₃⟩ := h₂.any_step hallow (j := j) (by simp) (.execute (.inl (by simp)) rfl ht) (by simp) (by simp)
  have hfinished : (⟨some m, false, .claimed ⟨m, .startSession⟩⟩ : Conn).finish ⟨m, .startSession⟩ a =
      ⟨some m, false, .replying a⟩ := by
    simp [Conn.finish, isStop]
  simp only [put, update_self, hfinished, update_idem] at h₃
  obtain ⟨w₄, h₄⟩ := h₃.any_step hallow (j := j) (by simp) (@Step.reply ι _ _ j a (by simp)) (by simp) (by simp)
  simp only [put, update_self, update_idem] at h₄
  exact ⟨w₄, h₄⟩

omit hallow

/-- A stop that leaves notices behind, and then a call that is not a poll. -/
lemma Watched.leaks (h : Watched AnyCall i ⟨some d, users, c⟩ w) {m : Member}
    (hi : c i = ⟨some m, false, .reading⟩) (hok : MemberOk m)
    (ht : transact d ⟨m, .stopSession none⟩ = some (a, d')) (hdone : a.outcome.isError = false)
    (hmore : mailbox d' m.userId ≠ []) :
    ∃ s' w' reply, Watched AnyCall i s' w' ∧ (s'.conns i).stage = .cleaning m (some reply) ∧
      ¬ w'.due <+: w'.sent ++ reply.notices := by
  obtain ⟨_, _, _, hans⟩ := transact_eq_some ht
  have hflag : a.moreNotices = true := by
    rw [(answered_paged hans).more]
    simpa using hmore
  have h₁ := h.receive trivial (.receive (by simp [hi])
    (decodeCall_encodeCall (c := ⟨m, .stopSession none⟩) ⟨hok, by simp [OperationOk]⟩))
  have hreceived : (c i).receive ⟨m, .stopSession none⟩ =
      ⟨some m, false, .calling ⟨m, .stopSession none⟩⟩ := by
    simp [Conn.receive, hi, isStart]
  simp only [put, hreceived] at h₁
  have h₂ := h₁.execute (.inr (by simp)) rfl ht
  have hfinished : (⟨some m, false, .calling ⟨m, .stopSession none⟩⟩ : Conn).finish
      ⟨m, .stopSession none⟩ a = ⟨some m, true, .replying a⟩ := by
    simp [Conn.finish, isStop, hdone, hflag]
  simp only [put, update_self, hfinished, update_idem] at h₂
  have h₃ := h₂.reply (@Step.reply ι _ _ i a (by simp))
  simp only [put, update_self, update_idem] at h₃
  have h₄ := h₃.receive trivial (.receive (by simp)
    (decodeCall_encodeCall (c := ⟨m, .getLobby ""⟩) ⟨hok, stringOk_empty⟩))
  refine ⟨_, _, failureAnswer error.notAvailable "StopSession is draining this connection", h₄, ?_, ?_⟩
  · simp [put, Conn.receive, isStart, isPoll, Conn.finish, Conn.release, failureAnswer]
  · intro hprefix
    have hle := hprefix.length_le
    simp [Watch.reply, Watch.receive, Watch.answer, isStop, hdone, failureAnswer] at hle
    exact hmore hle

end Calls

section Packets

variable {d d' : Directory} {a : DirectoryAnswer} {m : Member} {v : String} {x : List UInt8}

lemma transact_sendTo (hshares : d.shares m.userId v = true) (hbox : v ∈ d.mailboxes) :
    ∃ a d', transact d ⟨m, .sendTo v x⟩ = some (a, d') ∧ d'.lobbies = d.lobbies ∧
      v ∈ d'.mailboxes ∧ mailbox d' v = mailbox d v ++ [.data m.userId x] := by
  obtain ⟨box, hget⟩ := isSome_iff_exists.1 (ExtTreeMap.mem_iff_isSome_getElem?.1 hbox)
  have hne : v ≠ m.userId := by
    rintro rfl
    unfold shares at hshares
    split at hshares
    · cases hshares
    · simp at hshares
  have hexec : executed d ⟨m, .sendTo v x⟩ =
      some (.done, d.post v (.data m.userId x)) := by
    simp [executed, exceedsMemberCap, execute, sendTo, hshares]
  rcases hans : answered m.userId .done (d.post v (.data m.userId x)) with ⟨a, d'⟩
  have hpaged := answered_paged hans
  refine ⟨a, d', by rw [transact, hexec, map_some, hans], ?_, ?_, ?_⟩
  · rw [hpaged.lobbies, lobbies_post]
  · rw [hpaged.attached]
    simp [post, hget]
  · rw [mailbox, hpaged.others v hne]
    simp [post, hget, mailbox]

lemma shares_congr (h : d'.lobbies = d.lobbies) (u v : String) : d'.shares u v = d.shares u v := by
  simp [shares, lobbyOf, values, h]

/-- A stop is accepted, and a mailbox of more than a frame is not emptied by its answer. -/
lemma transact_stop (hbounded : Bounded d) {m : Member} (hok : MemberOk m)
    (hlong : maxFrameBytes < ((mailbox d m.userId).map encodedNoticeSize).sum) :
    ∃ a d', transact d ⟨m, .stopSession none⟩ = some (a, d') ∧ a.outcome.isError = false ∧
      mailbox d' m.userId ≠ [] := by
  rcases hans : answered m.userId .done (d.stopSession m.userId none) with ⟨a, d'⟩
  have hexec : executed d ⟨m, .stopSession none⟩ = some (.done, d.stopSession m.userId none) := rfl
  have ht : transact d ⟨m, .stopSession none⟩ = some (a, d') := by
    rw [transact, hexec, map_some, hans]
  refine ⟨a, d', ht, ?_, fun hempty => ?_⟩
  · rw [answered_outcome hans]
    cases (d.stopSession m.userId none).hasPendingNotices m.userId <;> decide
  · have hcall : CallOk ⟨m, .stopSession none⟩ := ⟨hok, by simp [OperationOk]⟩
    obtain ⟨posted, hown⟩ := mail_own hbounded hcall ht
    have hfits := (answered_fits hans).1
    obtain ⟨o, notices, more⟩ := a
    rw [length_encodeAnswer] at hfits
    dsimp only at hown
    rw [hempty, append_nil] at hown
    rw [hown, map_append, sum_append] at hfits
    omega

end Packets

lemma watched_lobbyOfTwo {allowed : Conn → DirectoryCall → Prop}
    (hallow : ∀ c call, c.stoppingIdentity = false → allowed c call) : ∃ users c w,
    Watched allowed true (⟨some lobbyOfTwo, users, c⟩ : Server Bool) w ∧
      c true = ⟨some (.new "guest" "Guest"), false, .reading⟩ ∧
      c false = ⟨some (.new "host" "Host"), false, .reading⟩ := by
  obtain ⟨a₁, h₁⟩ := transact_afterCall (by decide : (transact .new hostStarts).isSome = true)
  obtain ⟨a₂, h₂⟩ := transact_afterCall
    (by decide : (transact (afterCall .new hostStarts) guestStarts).isSome = true)
  obtain ⟨a₃, h₃⟩ := transact_afterCall
    (by decide : (transact (afterCall (afterCall .new hostStarts) guestStarts)
      hostCreates).isSome = true)
  obtain ⟨a₄, h₄⟩ := transact_afterCall
    (by decide : (transact (afterCall (afterCall (afterCall .new hostStarts) guestStarts)
      hostCreates) guestJoins).isSome = true)
  have hnew : Watched allowed true (⟨some .new, ∅, fun _ => .new⟩ : Server Bool) .new := .new
  obtain ⟨_, hhost⟩ := hnew.start hallow false rfl member_ok_host (by decide) (by simp) h₁
  obtain ⟨_, hboth⟩ := hhost.start hallow true rfl member_ok_guest (by decide)
    (by decide) h₂
  obtain ⟨_, hcreated⟩ := hboth.call hallow false rfl ⟨member_ok_host, by
    exact ⟨by decide, fun k v hget => by simp at hget⟩⟩ rfl rfl h₃
  obtain ⟨w, hjoined⟩ := hcreated.call hallow true rfl ⟨member_ok_guest, by
    exact (by decide : StringOk "1")⟩ rfl rfl h₄
  exact ⟨_, _, w, hjoined, rfl, rfl⟩

def hostSends : DirectoryCall := ⟨.new "host" "Host", .sendTo "guest" [1]⟩

def guestStops : DirectoryCall := ⟨.new "guest" "Guest", .stopSession none⟩

end Server

end Rpc

end Don.Crossplay
