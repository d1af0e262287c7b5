import Don.Crossplay.Membership
import Don.Crossplay.Wire

/-!
# Transact — one directory transaction

The model of `transact_directory`: a call is executed, an outcome that does not fit a frame is replaced
by a failure, and a page of the caller's mailbox is taken.  Every string and packet in a directory that
is reached by decoded calls is within the bounds of the decoder.
-/

namespace Don.Crossplay

open Std (ExtTreeMap)
open Foundation Directory List

namespace Rpc

/-! ## The transaction -/

def lobbyFits (l : Lobby) : Bool :=
  l.members.length ≤ maxCollectionItems && l.attributes.size ≤ maxCollectionItems

def outcomeCollectionsFit : Outcome → Bool
  | .lobby l => lobbyFits l
  | .lobbies ls => ls.length ≤ maxCollectionItems && ls.all lobbyFits
  | .updated r => lobbyFits r.lobby
  | _ => true

def encodedNoticeSize (n : Notice) : Nat :=
  (Encoder.notice n).length

def exceedsMemberCap : DirectoryOperation → Bool
  | .createLobby maxMembers _ _ => 4096 < maxMembers
  | .updateLobby _ maxMembers _ _ => 4096 < maxMembers
  | _ => false

/-- The call is executed, unless its member bound is above the cap. -/
def executed (d : Directory) (call : DirectoryCall) : Option (Outcome × Directory) :=
  if exceedsMemberCap call.operation then
    some (.failed error.badArgument "lobby member bound exceeds the RPC collection cap", d)
  else d.execute call

def capped (o : Outcome) : Outcome :=
  if outcomeCollectionsFit o then o
  else .failed error.notAvailable "directory outcome exceeds the RPC collection cap"

def framed (more : Bool) (o : Outcome) : Outcome :=
  if maxFrameBytes < (encodeAnswer ⟨o, [], more⟩).length then
    .failed error.notAvailable "directory outcome exceeds the RPC frame bound"
  else o

def answered (userId : String) (o : Outcome) (d : Directory) : DirectoryAnswer × Directory :=
  let more := d.hasPendingNotices userId
  let o := framed more (capped o)
  let fixedBytes := (encodeAnswer ⟨o, [], more⟩).length
  let page := d.drainMailboxPage userId maxNoticePageItems (maxFrameBytes - fixedBytes)
    encodedNoticeSize
  (⟨o, page.1.1, page.1.2⟩, page.2)

/-- `transact_directory` -/
def transact (d : Directory) (call : DirectoryCall) : Option (DirectoryAnswer × Directory) :=
  (executed d call).map fun r => answered call.user.userId r.1 r.2

inductive Reachable : Directory → Prop
  | new : Reachable .new
  | call {d d' : Directory} {a : DirectoryAnswer} {c : DirectoryCall} {b : Bytes} (h : Reachable d)
      (hc : decodeCall b = .ok c) (ht : transact d c = some (a, d')) : Reachable d'
  | cleanup {d : Directory} (h : Reachable d) (u : String) : Reachable (d.cleanupPeer u)

/-! ## Mailboxes -/

/-- The notices of a user; none if there is no mailbox. -/
def mailbox (d : Directory) (u : String) : List Notice :=
  (d.mailboxes[u]?).getD []

/-- Mailboxes only get longer, by notices within the bounds. -/
def Mail (d d' : Directory) : Prop :=
  ∀ u, ∃ posted, mailbox d' u = mailbox d u ++ posted ∧ ∀ n ∈ posted, NoticeOk n

/-- Mailboxes only get longer, and none is made or removed. -/
structure Posts (d d' : Directory) : Prop where
  mail : Mail d d'
  boxes : ∀ v, v ∈ d'.mailboxes ↔ v ∈ d.mailboxes

variable {d d' : Directory}

lemma Mail.of_eq (h : d'.mailboxes = d.mailboxes) : Mail d d' :=
  fun u => ⟨[], by simp [mailbox, h], by simp⟩

lemma Mail.trans {d'' : Directory} (h : Mail d d') (h' : Mail d' d'') : Mail d d'' := by
  intro u
  obtain ⟨p, hp, hok⟩ := h u
  obtain ⟨p', hp', hok'⟩ := h' u
  refine ⟨p ++ p', by rw [hp', hp, append_assoc], ?_⟩
  intro n hn
  rcases mem_append.1 hn with hn | hn
  · exact hok n hn
  · exact hok' n hn

lemma Posts.of_eq (h : d'.mailboxes = d.mailboxes) : Posts d d' :=
  ⟨.of_eq h, fun v => by rw [h]⟩

lemma Posts.refl (d : Directory) : Posts d d :=
  .of_eq rfl

lemma Posts.trans {d'' : Directory} (h : Posts d d') (h' : Posts d' d'') : Posts d d'' :=
  ⟨h.mail.trans h'.mail, fun v => (h'.boxes v).trans (h.boxes v)⟩

lemma mem_insert_box {u : String} {box : List Notice} (h : d.mailboxes[u]? = some box)
    (box' : List Notice) (v : String) : v ∈ d.mailboxes.insert u box' ↔ v ∈ d.mailboxes := by
  rw [ExtTreeMap.mem_insert]
  constructor
  · rintro (heq | hin)
    · obtain rfl := Std.LawfulEqCmp.eq_of_compare heq
      exact ExtTreeMap.mem_iff_isSome_getElem?.2 (by simp [h])
    · exact hin
  · exact .inr

lemma posts_post (d : Directory) (u : String) {n : Notice} (hn : NoticeOk n) :
    Posts d (d.post u n) := by
  unfold post
  cases hbox : d.mailboxes[u]? with
  | none => exact .refl d
  | some =>
    constructor
    · intro v
      by_cases huv : u = v
      · subst huv
        exact ⟨[n], by simp [mailbox, hbox], by simpa using hn⟩
      · have hne : compare u v ≠ .eq := fun heq => huv (Std.LawfulEqCmp.eq_of_compare heq)
        exact ⟨[], by simp [mailbox, ExtTreeMap.getElem?_insert, hne], by simp⟩
    · exact mem_insert_box hbox _

variable {α : Type}

lemma posts_foldl {f : Directory → α → Directory} {l : List α}
    (hf : ∀ a ∈ l, ∀ d, Posts d (f d a)) (d : Directory) : Posts d (l.foldl f d) := by
  induction l generalizing d with
  | nil => exact .refl d
  | cons a l ih =>
    exact (hf a mem_cons_self d).trans (ih (fun a ha => hf a (mem_cons_of_mem _ ha)) _)

variable {u : String}

lemma posts_announce (notice : String → Notice)
    (hnotice : ∀ u, StringOk u → NoticeOk (notice u)) (hu : StringOk u) {peers : List String} (hpeers : ∀ p ∈ peers, StringOk p)
    (d : Directory) : Posts d (announce notice u peers d) :=
  posts_foldl (fun p hp d =>
    (posts_post d p (hnotice u hu)).trans (posts_post _ u (hnotice p (hpeers p hp)))) d

lemma mail_attachPeer (d : Directory) (u : String) : Mail d (d.attachPeer u) := by
  intro v
  refine ⟨[], ?_, by simp⟩
  unfold attachPeer
  split
  · simp
  next hnew =>
    by_cases huv : u = v
    · subst huv
      have hnone : d.mailboxes[u]? = none := by
        simpa using hnew
      simp [mailbox, hnone]
    · have hne : compare u v ≠ .eq := fun heq => huv (Std.LawfulEqCmp.eq_of_compare heq)
      simp [mailbox, ExtTreeMap.getElem?_insert, hne]

lemma mem_attachPeer {v : String} (hv : v ≠ u) :
    v ∈ (d.attachPeer u).mailboxes ↔ v ∈ d.mailboxes := by
  unfold attachPeer
  split
  · exact Iff.rfl
  rw [ExtTreeMap.mem_insert]
  constructor
  · rintro (heq | hin)
    · exact absurd (Std.LawfulEqCmp.eq_of_compare heq).symm hv
    · exact hin
  · exact .inr

/-! ## Bounds of a directory -/

def LobbiesOk (d : Directory) : Prop :=
  ∀ (id : String) (l : Lobby), d.lobbies[id]? = some l → LobbyStrings l

structure Bounded (d : Directory) : Prop where
  lobbies : LobbiesOk d
  notices : ∀ u, ∀ n ∈ mailbox d u, NoticeOk n

lemma Bounded.mail (h : Bounded d) (hl : LobbiesOk d') (hp : Mail d d') : Bounded d' := by
  refine ⟨hl, fun u n hn => ?_⟩
  obtain ⟨posted, heq, hok⟩ := hp u
  rw [heq] at hn
  rcases mem_append.1 hn with hn | hn
  · exact h.notices u n hn
  · exact hok n hn

variable {l : Lobby}

lemma LobbiesOk.put (h : LobbiesOk d) (id : String)
    (hl : LobbyStrings l) : LobbiesOk (d.putLobby id l) := by
  intro id' l' hget
  rcases getElem?_putLobby hget with ⟨rfl, rfl⟩ | ⟨_, hold⟩
  · exact hl
  · exact h id' l' hold

lemma LobbyStrings.memberIds (h : LobbyStrings l) : ∀ u ∈ l.memberIds, StringOk u := by
  intro u hu
  obtain ⟨m, hm, rfl⟩ := mem_map.1 hu
  exact (h.members m hm).userId

/-- What a directory call returns and leaves behind is within the bounds. -/
structure Safe {α : Type} (P : α → Prop) (d : Directory) (r : Directory.Returns α) : Prop where
  lobbies : LobbiesOk r.2
  posts : Posts d r.2
  result : ∀ a, r.1 = .ok a → P a
  message : ∀ e, r.1 = .error e → StringOk e.2

lemma Safe.refused {P : α → Prop} (hd : LobbiesOk d) (code : Int32)
    {message : String} (h : StringOk message) : Safe P d (.error (code, message), d) where
  lobbies := hd
  posts := .refl d
  result := fun _ hok => by cases hok
  message := by
    intro e herr
    cases herr
    exact h

lemma Safe.returned {P : α → Prop} {a : α} (hl : LobbiesOk d')
    (hp : Posts d d') (ha : P a) : Safe P d (.ok a, d') where
  lobbies := hl
  posts := hp
  result := by
    intro a' hok
    cases hok
    exact ha
  message := fun _ herr => by cases herr

/-! ### The operations -/

instance (s : String) : Decidable (StringOk s) :=
  inferInstanceAs (Decidable (_ ≤ _))

lemma stringOk_empty : StringOk "" := by decide

lemma length_utf8Bytes (s : String) : (utf8Bytes s).length = s.utf8ByteSize := rfl

lemma utf8Len_le (cs : List Char) : String.utf8Len cs ≤ 4 * cs.length := by
  induction cs with
  | nil => simp
  | cons c =>
    have hc := Char.utf8Size_le_four c
    rw [String.utf8Len_cons, length_cons]
    omega

lemma stringOk_base36 {n : Nat} (h : n < 2 ^ 64) : StringOk (base36 n) := by
  have hdigits : (Nat.digits 36 n).length ≤ 13 :=
    (Nat.digits_length_le_iff (by decide) n).2 (h.trans (by decide))
  unfold base36
  split
  · decide
  · have hlen := utf8Len_le ((Nat.digits 36 n).reverse.map base36Digit)
    rw [length_map, length_reverse] at hlen
    rw [StringOk, length_utf8Bytes, String.utf8ByteSize_ofList, maxStringBytes]
    omega

variable {d : Directory}

open LobbiesOk

lemma create_safe (hd : LobbiesOk d) {owner : Member} (howner : MemberOk owner)
    {maxMembers visibility : Int32} {a : Attributes} (ha : EntriesOk a) {r : Directory.Returns Lobby}
    (h : d.create owner maxMembers visibility a = some r) : Safe LobbyStrings d r := by
  unfold create at h
  split at h
  · cases h
    exact .refused hd _ (by decide)
  split at h
  · cases h
    exact .refused hd _ (by decide)
  split at h
  next hnext =>
    cases h
    have hl : LobbyStrings
        (newLobby (base36 (d.nextLobby + 1)) owner maxMembers visibility a) :=
      ⟨stringOk_base36 hnext, howner.userId, stringOk_empty, by
        simpa [newLobby] using howner, ha⟩
    exact .returned (put hd _ hl) (.of_eq rfl) hl
  next => cases h

lemma join_safe (hd : LobbiesOk d) {who : Member} (hwho : MemberOk who) (id : String) :
    Safe LobbyStrings d (d.join who id) := by
  unfold join
  split
  · exact .refused hd _ (by decide)
  cases hl : d.lobbies[id]? with
  | none => exact .refused hd _ (by decide)
  | some l =>
    have hok := hd id l hl
    dsimp only
    split
    · exact .refused hd _ (by decide)
    split
    · exact .refused hd _ (by decide)
    have hjoined : LobbyStrings { l with members := l.members ++ [who] } := by
      refine ⟨hok.id, hok.ownerUserId, hok.sessionReference, ?_, hok.attributes⟩
      intro m hm
      rcases mem_append.1 hm with hm | hm
      · exact hok.members m hm
      · exact mem_singleton.1 hm ▸ hwho
    refine .returned ?_ ?_ hjoined
    · intro id' l' hget
      rw [lobbies_announce] at hget
      exact LobbiesOk.put hd id hjoined id' l' hget
    · refine Posts.trans ?_ (posts_announce .peerOpened (fun _ h => h) hwho.userId hok.memberIds _)
      exact .of_eq rfl

lemma withoutMember_strings (h : LobbyStrings l) (u : String) :
    LobbyStrings (withoutMember l u) := by
  have hmembers : ∀ m ∈ (withoutMember l u).members, MemberOk m :=
    fun m hm => h.members m (mem_filter.1 hm).1
  refine ⟨h.id, ?_, h.sessionReference, hmembers, h.attributes⟩
  unfold withoutMember at hmembers ⊢
  dsimp only at hmembers ⊢
  split
  · exact h.ownerUserId
  next next rest heq =>
    split
    · exact (hmembers next (heq ▸ mem_cons_self)).userId
    · exact h.ownerUserId

lemma leave_safe (hd : LobbiesOk d) (u id : String) : Safe (fun _ => True) d (d.leave u id) := by
  unfold leave
  cases hl : d.lobbies[id]? with
  | none => exact .refused hd _ (by decide)
  | some l =>
    have hok := hd id l hl
    dsimp only
    split
    next hmember =>
      have hu : StringOk u := hok.memberIds u (Lobby.isMember_iff.1 hmember)
      have hleft := withoutMember_strings hok u
      refine .returned ?_ ?_ trivial
      · intro id' l' hget
        rw [lobbies_announce] at hget
        split at hget
        · exact hd id' l' (getElem?_eraseLobby hget).2
        · exact put hd id hleft id' l' hget
      · refine Posts.trans ?_ (posts_announce .peerClosed (fun _ h => h) hu hleft.memberIds _)
        refine .of_eq ?_
        split <;> rfl
    next => exact .refused hd _ (by decide)

lemma mergeAttributes_entries {old delta : Attributes} (hold : EntriesOk old)
    (hdelta : EntriesOk delta) : EntriesOk (mergeAttributes old delta) := by
  unfold mergeAttributes
  have hes : ∀ e ∈ delta.toList, StringOk e.1 ∧ StringOk e.2 := fun e he =>
    hdelta e.1 e.2 (ExtTreeMap.mem_toList_iff_getElem?_eq_some.1 he)
  generalize delta.toList = es at hes
  induction es generalizing old with
  | nil => exact hold
  | cons e es ih =>
    refine ih ?_ fun e' he' => hes e' (mem_cons_of_mem _ he')
    intro k v hget
    dsimp only at hget
    split at hget
    · rw [ExtTreeMap.getElem?_erase] at hget
      split at hget
      · cases hget
      · exact hold k v hget
    · rw [ExtTreeMap.getElem?_insert] at hget
      split at hget
      next heq =>
        obtain rfl := Std.LawfulEqCmp.eq_of_compare heq
        obtain rfl := Option.some.inj hget
        exact hes e mem_cons_self
      next => exact hold k v hget

lemma update_safe (hd : LobbiesOk d) {id : String} {maxMembers botCount : Int32} {a : Attributes}
    (ha : EntriesOk a) {r : Directory.Returns Lobby}
    (h : d.update u id maxMembers botCount a = some r) : Safe LobbyStrings d r := by
  unfold update at h
  cases hl : d.lobbies[id]? with
  | none =>
    rw [hl] at h
    cases h
    exact .refused hd _ (by decide)
  | some l =>
    have hok := hd id l hl
    rw [hl] at h
    dsimp only at h
    split at h
    · cases h
      exact .refused hd _ (by decide)
    split at h
    · cases h
      exact .refused hd _ (by decide)
    split at h
    · cases h
      have hupdated : LobbyStrings { updatedLobby l maxMembers botCount a with
          attributeVersion := (updatedLobby l maxMembers botCount a).attributeVersion + 1 } :=
        ⟨hok.id, hok.ownerUserId, hok.sessionReference, hok.members,
          mergeAttributes_entries hok.attributes ha⟩
      exact .returned (put hd id hupdated) (.of_eq rfl) hupdated
    · cases h

lemma startGame_safe (hd : LobbiesOk d) (u id : String) {reference : String}
    (hreference : StringOk reference) : Safe StringOk d (d.startGame u id reference) := by
  unfold startGame
  cases hl : d.lobbies[id]? with
  | none => exact .refused hd _ (by decide)
  | some l =>
    have hok := hd id l hl
    dsimp only
    split
    · exact .refused hd _ (by decide)
    split
    · exact .refused hd _ (by decide)
    · exact .returned (put hd id
        ⟨hok.id, hok.ownerUserId, hreference, hok.members, hok.attributes⟩) (.of_eq rfl) hreference

lemma cancelGameStart_safe (hd : LobbiesOk d) (u id : String) :
    Safe StringOk d (d.cancelGameStart u id) := by
  unfold cancelGameStart
  cases hl : d.lobbies[id]? with
  | none => exact .refused hd _ (by decide)
  | some l =>
    have hok := hd id l hl
    dsimp only
    split
    · exact .refused hd _ (by decide)
    · exact .returned (put hd id
        ⟨hok.id, hok.ownerUserId, stringOk_empty, hok.members, hok.attributes⟩) (.of_eq rfl)
        hok.sessionReference

lemma posts_sendToAll (hu : StringOk u) {bytes : List UInt8}
    (hb : bytes.length ≤ maxPacketBytes) : Posts d (d.sendToAll u bytes) := by
  unfold sendToAll
  cases d.lobbyOf u with
  | none => exact .refl d
  | some => exact posts_foldl (fun p _ d => posts_post d p (n := .data u bytes) ⟨hu, hb⟩) d

/-! ### Calls -/

def OutcomeStrings : Outcome → Prop
  | .sessionStarted s => StringOk s
  | .lobby l => LobbyStrings l
  | .lobbies ls => ∀ l ∈ ls, LobbyStrings l
  | .updated r => LobbyStrings r.lobby
  | .sessionReference s => StringOk s
  | .done => True
  | .failed _ message => StringOk message

/-- What a call leaves behind and answers is within the bounds. -/
structure CallSafe (u : String) (d : Directory) (o : Outcome) (d' : Directory) : Prop where
  lobbies : LobbiesOk d'
  mail : Mail d d'
  boxes : ∀ v, v ≠ u → (v ∈ d'.mailboxes ↔ v ∈ d.mailboxes)
  outcome : OutcomeStrings o

variable {o : Outcome}

lemma CallSafe.of_posts (hl : LobbiesOk d')
    (hp : Posts d d') (ho : OutcomeStrings o) : CallSafe u d o d' :=
  ⟨hl, hp.mail, fun v _ => hp.boxes v, ho⟩

lemma Safe.call {P : α → Prop} {r : Directory.Returns α} (h : Safe P d r)
    {f : α → Outcome} (hf : ∀ a, P a → OutcomeStrings (f a)) (u : String) :
    CallSafe u d (outcome f r).1 (outcome f r).2 := by
  obtain ⟨result, d'⟩ := r
  cases result with
  | ok a => exact .of_posts h.lobbies h.posts (hf a (h.result a rfl))
  | error e => exact .of_posts h.lobbies h.posts (h.message e rfl)

lemma mem_find {maxResults minSlots : Int32} (h : l ∈ d.find maxResults minSlots) :
    l ∈ d.values := by
  unfold find at h
  dsimp only at h
  split at h
  · exact (mem_filter.1 h).1
  · exact (mem_filter.1 (mem_of_mem_take h)).1

variable {call : DirectoryCall}

lemma execute_safe (hd : LobbiesOk d) (hc : CallOk call) {d' : Directory}
    (h : d.execute call = some (o, d')) : CallSafe call.user.userId d o d' := by
  obtain ⟨user, operation⟩ := call
  obtain ⟨huser, hop⟩ := hc
  cases operation with
  | startSession =>
    cases h
    refine ⟨?_, mail_attachPeer d _, fun _ hv => mem_attachPeer hv, huser.userId⟩
    intro id l hget
    rw [lobbies_attachPeer] at hget
    exact hd id l hget
  | stopSession =>
    cases h
    unfold stopSession
    split
    next id _ =>
      have hleave := leave_safe hd user.userId id
      exact .of_posts hleave.lobbies hleave.posts trivial
    · exact .of_posts hd (.refl d) trivial
  | getLobby id =>
    simp only [execute, Directory.get] at h
    cases hl : d.lobbies[id]? with
    | none =>
      rw [hl] at h
      cases h
      exact .of_posts hd (.refl d) (by decide : StringOk "no such lobby")
    | some l =>
      rw [hl] at h
      cases h
      exact .of_posts hd (.refl d) (hd id l hl)
  | findLobbies =>
    cases h
    refine .of_posts hd (.refl d) fun l hl => ?_
    obtain ⟨id, hid⟩ := mem_values_iff.1 (mem_find hl)
    exact hd id l hid
  | createLobby =>
    obtain ⟨r, hr, heq⟩ := Option.map_eq_some_iff.1 h
    have := (create_safe hd huser hop.2 hr).call (f := .lobby) (fun _ hl => hl) user.userId
    rwa [heq] at this
  | joinLobby id =>
    have := (join_safe hd huser id).call (f := .lobby) (fun _ hl => hl) user.userId
    rwa [Option.some.inj h] at this
  | leaveLobby id =>
    have := (leave_safe hd user.userId id).call (f := fun _ => .done) (fun _ _ => trivial)
      user.userId
    rwa [Option.some.inj h] at this
  | updateLobby =>
    obtain ⟨r, hr, heq⟩ := Option.map_eq_some_iff.1 h
    have := (update_safe hd hop.2.2 hr).call
      (f := fun l => .updated ⟨true, l, l.attributeVersion.toInt64⟩) (fun _ hl => hl) user.userId
    rwa [heq] at this
  | startGame lobbyId =>
    have := (startGame_safe hd user.userId lobbyId hop.2).call (f := .sessionReference)
      (fun _ hs => hs) user.userId
    rwa [Option.some.inj h] at this
  | cancelGameStart id =>
    have := (cancelGameStart_safe hd user.userId id).call (f := .sessionReference)
      (fun _ hs => hs) user.userId
    rwa [Option.some.inj h] at this
  | sendToAll =>
    cases h
    refine .of_posts ?_ (posts_sendToAll huser.userId hop) trivial
    intro id l hget
    rw [(sendToAll_frame d _ _).1] at hget
    exact hd id l hget
  | sendTo peer bytes =>
    by_cases hshares : d.shares user.userId peer = true
    · simp only [execute, sendTo, hshares, if_true] at h
      cases h
      refine .of_posts ?_ (posts_post d peer (n := .data user.userId bytes) ⟨huser.userId, hop.2⟩)
        trivial
      intro id l hget
      rw [lobbies_post] at hget
      exact hd id l hget
    · simp only [execute, sendTo, if_neg hshares] at h
      cases h
      exact .of_posts hd (.refl d) (by decide : StringOk "peer is not in the same lobby")
  | poll =>
    cases h
    exact .of_posts hd (.refl d) trivial

lemma executed_safe (hd : LobbiesOk d) (hc : CallOk call) {d' : Directory}
    (h : executed d call = some (o, d')) :
    CallSafe call.user.userId d o d' := by
  unfold executed at h
  split at h
  · cases h
    exact .of_posts hd (.refl d)
      (by decide : StringOk "lobby member bound exceeds the RPC collection cap")
  · exact execute_safe hd hc h

lemma LobbyStrings.ok (h : LobbyStrings l) (hfits : lobbyFits l = true) : LobbyOk l := by
  simp only [lobbyFits, Bool.and_eq_true, decide_eq_true_eq] at hfits
  exact ⟨h, hfits.1, hfits.2⟩

lemma OutcomeStrings.ok (h : OutcomeStrings o) (hfits : outcomeCollectionsFit o = true) :
    OutcomeOk o := by
  cases o with
  | lobby | updated => exact LobbyStrings.ok h hfits
  | lobbies =>
    simp only [outcomeCollectionsFit, Bool.and_eq_true, decide_eq_true_eq, all_eq_true] at hfits
    exact ⟨hfits.1, fun l hl => (h l hl).ok (hfits.2 l hl)⟩
  | sessionStarted | sessionReference | done | failed => exact h

lemma capped_ok (h : OutcomeStrings o) : OutcomeOk (capped o) := by
  unfold capped
  split
  next hfits => exact h.ok hfits
  next => exact (by decide : StringOk "directory outcome exceeds the RPC collection cap")

lemma framed_ok (h : OutcomeOk o) (more : Bool) : OutcomeOk (framed more o) := by
  unfold framed
  split
  · exact (by decide : StringOk "directory outcome exceeds the RPC frame bound")
  · exact h

/-! ## Sizes -/

lemma length_listText (text : α → Bytes) (as : List α) :
    (listText text as).length = 4 + (as.map fun a => (text a).length).sum := by
  simp [listText]

@[simp] lemma length_stringText (s : String) : (stringText s).length = 4 + s.utf8ByteSize := by
  simp [stringText, blobText, length_utf8Bytes]

open Encoder

lemma length_encodeAnswer (o : Outcome) (notices : List Notice) (more : Bool) :
    (encodeAnswer ⟨o, notices, more⟩).length =
      11 + (outcome o).length + (notices.map encodedNoticeSize).sum := by
  simp only [encodeAnswer, header, responseMagic, length_append,
    length_listText, flagText, length_u16ToLe, length_cons, length_nil]
  change _ = _ + (notices.map fun n => (notice n).length).sum
  omega

lemma framed_fits (o : Outcome) (more : Bool) :
    (encodeAnswer ⟨framed more o, [], more⟩).length ≤ maxFrameBytes := by
  unfold framed
  split
  · cases more <;> decide
  next h => exact Nat.not_lt.1 h

/-! ## Pages -/

section Pages

variable (size : Notice → Nat)

/-- A page is the front of the mailbox and keeps both limits. -/
lemma page_spec (items room : Nat) (box : List Notice) :
    page size items room box ++ box.drop (page size items room box).length = box ∧
      (page size items room box).length ≤ items ∧
      ((page size items room box).map size).sum ≤ room := by
  induction items generalizing room box with
  | zero => simp [page]
  | succ items ih =>
    cases box with
    | nil => simp [page]
    | cons n rest =>
      unfold page
      split
      next hfits =>
        obtain ⟨htaken, hlen, hsum⟩ := ih (room - size n) rest
        refine ⟨by simpa using htaken, Nat.succ_le_succ hlen, ?_⟩
        rw [map_cons, sum_cons]
        omega
      next => simp

lemma page_ne_nil {items room : Nat} {n : Notice} {rest : List Notice} (hfits : size n ≤ room) :
    page size (items + 1) room (n :: rest) ≠ [] := by
  unfold page
  rw [if_pos hfits]
  exact cons_ne_nil _ _

end Pages

/-! ## Answers -/

structure Paged (u : String) (d d' : Directory) (notices : List Notice) (more : Bool) : Prop where
  lobbies : d'.lobbies = d.lobbies
  nextLobby : d'.nextLobby = d.nextLobby
  taken : mailbox d u = notices ++ mailbox d' u
  others : ∀ v, v ≠ u → d'.mailboxes[v]? = d.mailboxes[v]?
  attached : ∀ v, v ∈ d'.mailboxes ↔ v ∈ d.mailboxes
  more : more = !(mailbox d' u).isEmpty

lemma drainMailboxPage_paged (u : String) (items room : Nat) (size : Notice → Nat) :
    Paged u d (d.drainMailboxPage u items room size).2 (d.drainMailboxPage u items room size).1.1
      (d.drainMailboxPage u items room size).1.2 := by
  unfold drainMailboxPage
  cases hbox : d.mailboxes[u]? with
  | none =>
    refine ⟨rfl, rfl, by simp [mailbox, hbox], fun _ _ => rfl, fun _ => Iff.rfl, ?_⟩
    simp [mailbox, hbox]
  | some box =>
    refine ⟨rfl, rfl, ?_, ?_, ?_, ?_⟩
    · simp [mailbox, hbox, (page_spec _ _ _ box).1]
    · intro v hv
      have hne : compare u v ≠ .eq := fun heq => hv (Std.LawfulEqCmp.eq_of_compare heq).symm
      simp [ExtTreeMap.getElem?_insert, hne]
    · exact mem_insert_box hbox _
    · simp [mailbox]

variable {a : DirectoryAnswer}

lemma answered_paged (h : answered u o d = (a, d')) : Paged u d d' a.notices a.moreNotices := by
  have hpaged := drainMailboxPage_paged (d := d) u maxNoticePageItems
    (maxFrameBytes - (encodeAnswer ⟨framed (d.hasPendingNotices u) (capped o), [],
      d.hasPendingNotices u⟩).length) encodedNoticeSize
  cases h
  exact hpaged

lemma answered_outcome
    (h : answered u o d = (a, d')) : a.outcome = framed (d.hasPendingNotices u) (capped o) := by
  cases h
  rfl

lemma LobbiesOk.congr (h : LobbiesOk d) (heq : d'.lobbies = d.lobbies) : LobbiesOk d' := by
  unfold LobbiesOk
  rw [heq]
  exact h

lemma Paged.bounded {notices : List Notice} {more : Bool}
    (hp : Paged u d d' notices more) (h : Bounded d) : Bounded d' := by
  refine ⟨h.lobbies.congr hp.lobbies, ?_⟩
  intro v n hn
  by_cases hv : v = u
  · subst hv
    exact h.notices v n (hp.taken ▸ mem_append_right _ hn)
  · refine h.notices v n ?_
    rw [mailbox, hp.others v hv] at hn
    exact hn

lemma transact_eq_some (h : transact d call = some (a, d')) :
    ∃ o d₁, executed d call = some (o, d₁) ∧ answered call.user.userId o d₁ = (a, d') := by
  obtain ⟨⟨o, d₁⟩, hexec, hans⟩ := Option.map_eq_some_iff.1 h
  exact ⟨o, d₁, hexec, hans⟩

lemma bounded_new : Bounded .new := by
  refine ⟨fun id l h => by simp [new] at h, fun u n h => ?_⟩
  simp [mailbox, new] at h

lemma Bounded.cleanupPeer (h : Bounded d) (u : String) : Bounded (d.cleanupPeer u) := by
  have hleft : ∀ d₁, Bounded d₁ → Bounded (d₁.detachPeer u) := by
    intro d₁ h₁
    refine ⟨h₁.lobbies, fun v n hn => ?_⟩
    unfold mailbox detachPeer at hn
    rw [ExtTreeMap.getElem?_erase] at hn
    split at hn
    · cases hn
    · exact h₁.notices v n hn
  unfold Directory.cleanupPeer
  split
  next l _ =>
    have hleave := leave_safe h.lobbies u l.id
    exact hleft _ (h.mail hleave.lobbies hleave.posts.mail)
  next => exact hleft d h

lemma Reachable.bounded (h : Reachable d) : Bounded d := by
  induction h with
  | new => exact bounded_new
  | call _ hc ht ih =>
    obtain ⟨o, d₁, hexec, hans⟩ := transact_eq_some ht
    have hsafe := executed_safe ih.lobbies (callOk_of_decodeCall hc) hexec
    exact (answered_paged hans).bounded (ih.mail hsafe.lobbies hsafe.mail)
  | cleanup _ u ih => exact ih.cleanupPeer u

/-! ## Calls of two players -/

def afterCall (d : Directory) (call : DirectoryCall) : Directory :=
  match transact d call with
  | some (_, d') => d'
  | none => d

lemma transact_afterCall {d : Directory} {call : DirectoryCall}
    (h : (transact d call).isSome = true) : ∃ a, transact d call = some (a, afterCall d call) := by
  unfold afterCall
  cases ht : transact d call with
  | none =>
    rw [ht] at h
    cases h
  | some r => exact ⟨r.1, rfl⟩

lemma Reachable.afterCall {d : Directory} {call : DirectoryCall} (h : Reachable d) (hok : CallOk call)
    (hsome : (transact d call).isSome = true) : Reachable (afterCall d call) := by
  obtain ⟨a, ht⟩ := transact_afterCall hsome
  exact h.call (decodeCall_encodeCall hok) ht

def hostStarts : DirectoryCall := ⟨.new "host" "Host", .startSession⟩

def guestStarts : DirectoryCall := ⟨.new "guest" "Guest", .startSession⟩

lemma member_ok_host : MemberOk (.new "host" "Host") :=
  ⟨by decide, by decide, by decide, by decide⟩

lemma member_ok_guest : MemberOk (.new "guest" "Guest") :=
  ⟨by decide, by decide, by decide, by decide⟩

end Rpc

end Don.Crossplay
