import Don.Crossplay.Transact
import Don.Crossplay.History

/-!
# Delivery — answers reach the caller whole

Every answer of a transaction fits a frame and is read back by the caller as it was sent.  A page takes
the oldest notices of the mailbox and nothing else, and polling empties the mailbox page by page: the
largest notice fits beside the answer to a poll.
-/

namespace Don.Crossplay

open Foundation List Option

namespace Rpc

/-- Poll until an answer has no more notices behind it; `none` when that takes more than `n` polls. -/
def pollAll (user : Member) : Nat → Directory → Option (List Notice × Directory)
  | 0, _ => none
  | n + 1, d => do
    let (a, d') ← transact d ⟨user, .poll⟩
    if a.moreNotices then
      let (notices, d'') ← pollAll user n d'
      return (a.notices ++ notices, d'')
    else
      return (a.notices, d')

variable {d d' : Directory}

lemma answered_fits {u : String} {o : Outcome} {a : DirectoryAnswer}
    (h : answered u o d = (a, d')) :
    (encodeAnswer a).length ≤ maxFrameBytes ∧ a.notices.length ≤ maxNoticePageItems := by
  cases h
  have hfixed := framed_fits (capped o) (d.hasPendingNotices u)
  rw [length_encodeAnswer] at hfixed
  simp only [map_nil, sum_nil, Nat.add_zero] at hfixed
  rw [length_encodeAnswer]
  unfold Directory.drainMailboxPage
  cases d.mailboxes[u]? with
  | none => exact ⟨hfixed, Nat.zero_le _⟩
  | some box =>
    obtain ⟨-, hlen, hsum⟩ := page_spec encodedNoticeSize maxNoticePageItems
      (maxFrameBytes - (encodeAnswer ⟨framed (d.hasPendingNotices u) (capped o), [],
        d.hasPendingNotices u⟩).length) box
    -- the page has the room that the fixed part leaves
    refine ⟨(Nat.add_le_add_left hsum _).trans ?_, hlen⟩
    rw [length_encodeAnswer]
    simp only [map_nil, sum_nil, Nat.add_zero]
    omega

/-! ## Polls -/

open Encoder

lemma encodedNoticeSize_le {n : Notice} (h : NoticeOk n) :
    encodedNoticeSize n ≤ maxFrameBytes - 12 := by
  have hbound : maxStringBytes + maxPacketBytes + 9 ≤ maxFrameBytes - 12 := by decide
  have hsmall : maxStringBytes ≤ maxPacketBytes := by decide
  cases n with
  | peerOpened peer | peerClosed peer =>
    have hp : (utf8Bytes peer).length ≤ maxStringBytes := h
    simp only [encodedNoticeSize, notice, noticeBody, length_cons,
      length_stringText, ← length_utf8Bytes]
    omega
  | data sender bytes =>
    have hs : (utf8Bytes sender).length ≤ maxStringBytes := h.1
    have hb : bytes.length ≤ maxPacketBytes := h.2
    simp only [encodedNoticeSize, notice, noticeBody, length_cons,
      length_append, length_stringText, ← length_utf8Bytes, blobText, length_lengthText]
    omega
  | text sender text =>
    have hs : (utf8Bytes sender).length ≤ maxStringBytes := h.1
    have ht : (utf8Bytes text).length ≤ maxStringBytes := h.2
    simp only [encodedNoticeSize, notice, noticeBody, length_cons,
      length_append, length_stringText, ← length_utf8Bytes]
    omega

lemma poll_takes (hd : Bounded d) {u : String} {a : DirectoryAnswer}
    (h : answered u .done d = (a, d')) (hne : mailbox d u ≠ []) : a.notices ≠ [] := by
  cases h
  have hdone : ∀ more, framed more (capped .done) = .done := by
    intro more
    cases more <;> decide
  have hfixed : (encodeAnswer ⟨.done, [], d.hasPendingNotices u⟩).length = 12 := by
    rw [length_encodeAnswer]
    rfl
  simp only [hdone, hfixed]
  unfold Directory.drainMailboxPage
  cases hbox : d.mailboxes[u]? with
  | none => simp [mailbox, hbox] at hne
  | some box =>
    have hmail : mailbox d u = box := by
      simp [mailbox, hbox]
    rw [hmail] at hne
    obtain ⟨n, rest, rfl⟩ := exists_cons_of_ne_nil hne
    have hn : NoticeOk n := hd.notices u n (by simp [hmail])
    exact page_ne_nil encodedNoticeSize (encodedNoticeSize_le hn)

lemma transact_poll (user : Member) :
    transact d ⟨user, .poll⟩ = some (answered user.userId .done d) := rfl

/-- As many polls as there are notices, and one more, empty a mailbox in order. -/
lemma pollAll_eq (user : Member) : ∀ (n : Nat) (d : Directory), Bounded d →
    (mailbox d user.userId).length < n →
      ∃ d', pollAll user n d = some (mailbox d user.userId, d') ∧ mailbox d' user.userId = [] := by
  intro n
  induction n with
  | zero =>
    intro d _ hlen
    exact absurd hlen (Nat.not_lt_zero _)
  | succ n ih =>
    intro d hd hlen
    rcases hans : answered user.userId .done d with ⟨a, d'⟩
    have hpaged := answered_paged hans
    unfold pollAll
    rw [transact_poll, hans]
    dsimp only [bind_eq_bind, bind_some]
    cases hmore : a.moreNotices with
    | false =>
      have hempty : mailbox d' user.userId = [] := by
        simpa [hmore] using hpaged.more
      refine ⟨d', ?_, hempty⟩
      rw [hpaged.taken, hempty, append_nil]
      rfl
    | true =>
      have hrest : mailbox d' user.userId ≠ [] := by
        simpa [hmore] using hpaged.more
      have hpending : mailbox d user.userId ≠ [] := by
        rw [hpaged.taken]
        simp [hrest]
      -- the page is not empty, so the mailbox is shorter than it was
      have hpage := length_pos_iff.2 (poll_takes hd hans hpending)
      have hshorter : (mailbox d' user.userId).length < n := by
        rw [hpaged.taken, length_append] at hlen
        omega
      obtain ⟨d'', hpoll, hdone⟩ := ih d' (hpaged.bounded hd) hshorter
      refine ⟨d'', ?_, hdone⟩
      rw [hpoll, hpaged.taken]
      rfl

/-! ## Every answer -/

/-- In every reachable directory, the answer to a decoded call fits a frame and is read back as it was
sent; it takes exactly its notices from the front of the caller's mailbox; and polling until there are
no more notices ends, with every notice of the mailbox once and in order. -/
theorem answers_delivered {b : Bytes} {call : DirectoryCall} {a : DirectoryAnswer}
    (hd : Reachable d) (hcall : decodeCall b = .ok call) (h : transact d call = some (a, d')) :
    decodeAnswer (encodeAnswer a) = .ok a ∧ (encodeAnswer a).length ≤ maxFrameBytes ∧
      (∃ o d₁ posted, executed d call = some (o, d₁) ∧
        mailbox d₁ call.user.userId = mailbox d call.user.userId ++ posted ∧
        mailbox d₁ call.user.userId = a.notices ++ mailbox d' call.user.userId) ∧
      ∃ n d'', pollAll call.user n d = some (mailbox d call.user.userId, d'') ∧
        mailbox d'' call.user.userId = [] := by
  have hbounded := hd.bounded
  obtain ⟨o, d₁, hexec, hans⟩ := transact_eq_some h
  have hsafe := executed_safe hbounded.lobbies (callOk_of_decodeCall hcall) hexec
  have hpaged := answered_paged hans
  obtain ⟨hframe, hitems⟩ := answered_fits hans
  obtain ⟨posted, hposted, hnew⟩ := hsafe.mail call.user.userId
  have hok : AnswerOk a := by
    refine ⟨?_, hitems.trans (by decide), ?_⟩
    · rw [answered_outcome hans]
      exact framed_ok (capped_ok hsafe.outcome) _
    · intro n hn
      have hmail := (hbounded.mail hsafe.lobbies hsafe.mail).notices call.user.userId n
      exact hmail (hpaged.taken ▸ mem_append_left _ hn)
  obtain ⟨d'', hpoll, hdone⟩ := pollAll_eq call.user _ d hbounded (Nat.lt_succ_self _)
  exact ⟨Decoder.frame_run rfl Decoder.answer_decodes hok, hframe,
    ⟨o, d₁, posted, hexec, hposted, hpaged.taken⟩,
    _, d'', hpoll, hdone⟩

/-- Both have started, the host has made a lobby and the guest has joined it. -/
def lobbyOfTwo : Directory :=
  afterCall (afterCall (afterCall (afterCall .new hostStarts) guestStarts) Directory.hostCreates)
    Directory.guestJoins

lemma reachable_lobbyOfTwo : Reachable lobbyOfTwo := by
  have hone : Reachable (afterCall .new hostStarts) :=
    .afterCall .new ⟨member_ok_host, trivial⟩ (by decide)
  have hboth : Reachable (afterCall (afterCall .new hostStarts) guestStarts) :=
    hone.afterCall ⟨member_ok_guest, trivial⟩ (by decide)
  have hcreated : Reachable (afterCall (afterCall (afterCall .new hostStarts) guestStarts)
      Directory.hostCreates) :=
    hboth.afterCall ⟨member_ok_host, by decide, fun k v hget => by simp at hget⟩ (by decide)
  exact hcreated.afterCall ⟨member_ok_guest, (by decide : StringOk "1")⟩ (by decide)

def hostPolls : DirectoryCall := ⟨.new "host" "Host", .poll⟩

/-- The host is told that the guest has joined. -/
theorem host_poll_delivered : ∃ d a d', transact d hostPolls = some (a, d') ∧ a.notices ≠ [] ∧
    decodeAnswer (encodeAnswer a) = .ok a ∧
      ∃ n d'', pollAll hostPolls.user n d = some (mailbox d "host", d'') ∧ mailbox d'' "host" = [] := by
  obtain ⟨a, h⟩ := transact_afterCall (by decide : (transact lobbyOfTwo hostPolls).isSome = true)
  obtain ⟨hback, _, _, hpolled⟩ := answers_delivered reachable_lobbyOfTwo
    (decodeCall_encodeCall (c := hostPolls) ⟨member_ok_host, trivial⟩) h
  refine ⟨_, a, _, h, ?_, hback, hpolled⟩
  obtain rfl : a = ((transact lobbyOfTwo hostPolls).get (by decide)).1 := by simp [h]
  decide +kernel

end Rpc

end Don.Crossplay
