import Don.Crossplay.Transact
import Don.Crossplay.History

/-!
# Refusal — when a failure has changed a lobby

A transaction executes its call first and measures the outcome afterwards, so a call that has created,
joined or updated a lobby is answered with a failure if the lobby does not fit the answer.
-/

namespace Don.Crossplay

open Std (ExtTreeMap)
open Foundation Directory List

namespace Rpc

/-- The collections of the outcome are within the cap, and the answer is within a frame. -/
def OutcomeFits (o : Outcome) : Prop :=
  outcomeCollectionsFit o = true ∧ (encodeAnswer ⟨o, [], false⟩).length ≤ maxFrameBytes

def updateOf (l : Lobby) (maxMembers botCount : Int32) (a : Attributes) : Lobby :=
  { Directory.updatedLobby l maxMembers botCount a with attributeVersion := l.attributeVersion + 1 }

/-- The call passes the checks of its operation and changes a lobby; `o` is what it has to answer. -/
def Commits (d : Directory) (call : DirectoryCall) (o : Outcome) : Prop :=
  match call.operation with
  | .createLobby maxMembers visibility a =>
    d.lobbyOf call.user.userId = none ∧ 1 ≤ maxMembers ∧ maxMembers ≤ 4096 ∧
      o = .lobby (Directory.newLobby (base36 (d.nextLobby + 1)) call.user maxMembers visibility a)
  | .joinLobby id =>
    d.lobbyOf call.user.userId = none ∧ ∃ l : Lobby, d.lobbies[id]? = some l ∧
      l.gameStarted = false ∧ 1 ≤ l.availableSlots ∧
      o = .lobby { l with members := l.members ++ [call.user] }
  | .updateLobby id maxMembers botCount a =>
    maxMembers ≤ 4096 ∧ ∃ l : Lobby, d.lobbies[id]? = some l ∧
      l.ownerUserId = call.user.userId ∧ ¬ (0 < maxMembers ∧ maxMembers < l.memberCount) ∧
      o = .updated ⟨true, updateOf l maxMembers botCount a, (l.attributeVersion + 1).toInt64⟩
  | _ => False

/-! ## The answered outcome -/

@[simp] lemma isError_failed (code : Int32) (message : String) :
    (Outcome.failed code message).isError = true := rfl

lemma isError_capped {o : Outcome} (h : o.isError = true) : capped o = o := by
  cases o with
  | failed => rfl
  | _ => cases h

/-- A failure is answered exactly when the call has failed or its outcome does not fit. -/
lemma isError_framed_capped (o : Outcome) (more : Bool) :
    (framed more (capped o)).isError = true ↔ o.isError = true ∨ ¬ OutcomeFits o := by
  have hlength : ∀ o, (encodeAnswer ⟨o, [], more⟩).length = (encodeAnswer ⟨o, [], false⟩).length := by
    intro o
    rw [length_encodeAnswer, length_encodeAnswer]
  unfold framed
  rw [hlength]
  by_cases herr : o.isError = true
  · rw [isError_capped herr]
    split <;> simp [herr]
  by_cases hcap : outcomeCollectionsFit o = true
  · rw [capped, if_pos hcap]
    split
    next hlong => simp [OutcomeFits, hcap, hlong]
    next hshort => simp [herr, OutcomeFits, hcap, Nat.not_lt.1 hshort]
  · have hcapped : (capped o).isError = true := by
      rw [capped, if_neg hcap]
      rfl
    split <;> simp [OutcomeFits, hcap, hcapped]

lemma stringOutcome_fits {s : String} (hs : StringOk s) : OutcomeFits (.sessionReference s) := by
  refine ⟨rfl, ?_⟩
  have hs : (utf8Bytes s).length ≤ maxStringBytes := hs
  have hbound : maxStringBytes + 16 ≤ maxFrameBytes := by decide
  rw [length_encodeAnswer]
  simp only [Encoder.outcome, Encoder.outcomeBody, length_cons, length_stringText,
    ← length_utf8Bytes, map_nil, sum_nil]
  omega

lemma done_fits : OutcomeFits .done := by
  refine ⟨rfl, ?_⟩
  decide

variable {d d₁ : Directory} {call : DirectoryCall} {o : Outcome}

/-! ## Calls that commit -/

lemma executed_of_commits {o' : Outcome} (hc : Commits d call o')
    (h : executed d call = some (o, d₁)) : o = o' ∧ d₁.lobbies ≠ d.lobbies := by
  obtain ⟨user, operation⟩ := call
  cases operation with
  | createLobby maxMembers visibility a =>
    obtain ⟨hfree, hone, hcap, rfl⟩ := hc
    have hcap' : ¬ (4096 : Int32) < maxMembers := Int32.not_lt.2 hcap
    have hone' : ¬ maxMembers < 1 := Int32.not_lt.2 hone
    simp only [executed, exceedsMemberCap, hcap', decide_false, Bool.false_eq_true, if_false,
      execute, create, hfree, Option.isSome_none, hone',
      Option.map_eq_some_iff, Option.ite_none_right_eq_some] at h
    obtain ⟨r, ⟨_, hr⟩, heq⟩ := h
    cases hr
    cases heq
    refine ⟨rfl, fun hsame => ?_⟩
    -- the user would be in a lobby of the old directory
    have hget := congrArg (·[base36 (d.nextLobby + 1)]?) hsame
    simp only [putLobby, ExtTreeMap.getElem?_insert_self] at hget
    refine lobbyOf_eq_none_iff.1 hfree _ _ hget.symm ?_
    simp [newLobby, Lobby.memberIds]
  | joinLobby id =>
    obtain ⟨hfree, l, hl, hstarted, hseat, rfl⟩ := hc
    have hseat' : ¬ l.availableSlots < 1 := Int32.not_lt.2 hseat
    simp only [executed, exceedsMemberCap, Bool.false_eq_true, if_false, execute,
      join, hfree, Option.isSome_none, hl, hstarted, hseat', outcome] at h
    cases h
    refine ⟨by rw [hstarted], fun hsame => ?_⟩
    have hget := congrArg (·[id]?) hsame
    simp only [lobbies_announce, putLobby, ExtTreeMap.getElem?_insert_self,
      hl, Option.some.injEq] at hget
    have := congrArg (fun l : Lobby => l.members.length) hget
    simp at this
  | updateLobby id maxMembers =>
    obtain ⟨hcap, l, hl, howner, hlow, rfl⟩ := hc
    have hcap' : ¬ (4096 : Int32) < maxMembers := Int32.not_lt.2 hcap
    simp only [executed, exceedsMemberCap, hcap', decide_false, Bool.false_eq_true, if_false,
      execute, update, hl, howner, ne_eq, not_true_eq_false, hlow,
      Option.map_eq_some_iff, Option.ite_none_right_eq_some] at h
    obtain ⟨r, ⟨_, hr⟩, heq⟩ := h
    cases hr
    cases heq
    refine ⟨rfl, fun hsame => ?_⟩
    have hget := congrArg (·[id]?) hsame
    simp only [putLobby, ExtTreeMap.getElem?_insert_self, hl, Option.some.injEq] at hget
    have hversion := congrArg Lobby.attributeVersion hget
    simp [updatedLobby] at hversion
  | _ => cases hc

/-- What any other call does: it fails, answers with something that fits, or leaves the lobbies. -/
def Harmless (d : Directory) (o : Outcome) (d₁ : Directory) : Prop :=
  o.isError = true ∨ OutcomeFits o ∨ d₁.lobbies = d.lobbies

lemma outcome_harmless {α : Type} {f : α → Outcome} {r : Directory.Returns α}
    (h : ∀ a, r.1 = .ok a → OutcomeFits (f a)) :
    Harmless d (outcome f r).1 (outcome f r).2 := by
  obtain ⟨result, d'⟩ := r
  cases result with
  | ok a => exact .inr (.inl (h a rfl))
  | error => exact .inl rfl

lemma execute_commits_or_harmless (hd : LobbiesOk d) (hc : CallOk call)
    (hcap : exceedsMemberCap call.operation = false) (h : d.execute call = some (o, d₁)) :
    Commits d call o ∨ Harmless d o d₁ := by
  obtain ⟨user, operation⟩ := call
  obtain ⟨huser, hop⟩ := hc
  cases operation with
  | startSession =>
    cases h
    exact .inr (.inr (.inr (lobbies_attachPeer d _)))
  | stopSession =>
    cases h
    exact .inr (.inr (.inl done_fits))
  | getLobby =>
    simp only [execute] at h
    split at h <;> cases h
    · exact .inr (.inr (.inr rfl))
    · exact .inr (.inl rfl)
  | findLobbies | poll =>
    cases h
    exact .inr (.inr (.inr rfl))
  | createLobby maxMembers =>
    have hcap : maxMembers ≤ 4096 := by
      simpa [exceedsMemberCap] using hcap
    obtain ⟨r, hr, heq⟩ := Option.map_eq_some_iff.1 h
    unfold create at hr
    split at hr
    · cases hr
      cases heq
      exact .inr (.inl rfl)
    next hfree =>
      split at hr
      · cases hr
        cases heq
        exact .inr (.inl rfl)
      next hone =>
        split at hr
        · cases hr
          cases heq
          exact .inl ⟨by simpa using hfree, Int32.not_lt.1 hone, hcap, rfl⟩
        · cases hr
  | joinLobby =>
    simp only [execute, join] at h
    split at h
    · cases h
      exact .inr (.inl rfl)
    next hfree =>
      split at h
      · cases h
        exact .inr (.inl rfl)
      next l hl =>
        split at h
        · cases h
          exact .inr (.inl rfl)
        next hstarted =>
          split at h
          · cases h
            exact .inr (.inl rfl)
          next hseat =>
            cases h
            exact .inl ⟨by simpa using hfree, l, hl, by simpa using hstarted,
              Int32.not_lt.1 hseat, rfl⟩
  | leaveLobby id =>
    have := outcome_harmless (d := d) (r := d.leave user.userId id) (f := fun _ => .done)
      fun _ _ => done_fits
    rw [Option.some.inj h] at this
    exact .inr this
  | updateLobby lobbyId maxMembers =>
    have hcap : maxMembers ≤ 4096 := by
      simpa [exceedsMemberCap] using hcap
    obtain ⟨r, hr, heq⟩ := Option.map_eq_some_iff.1 h
    unfold update at hr
    split at hr
    · cases hr
      cases heq
      exact .inr (.inl rfl)
    next l hl =>
      split at hr
      · cases hr
        cases heq
        exact .inr (.inl rfl)
      next howner =>
        split at hr
        · cases hr
          cases heq
          exact .inr (.inl rfl)
        next hlow =>
          split at hr
          · cases hr
            cases heq
            exact .inl ⟨hcap, l, hl, not_not.1 howner, hlow, rfl⟩
          · cases hr
  | startGame lobbyId =>
    have := outcome_harmless (d := d) (f := .sessionReference) fun s hs => stringOutcome_fits
      ((startGame_safe hd user.userId lobbyId hop.2).result s hs)
    rw [Option.some.inj h] at this
    exact .inr this
  | cancelGameStart id =>
    have := outcome_harmless (d := d) (f := .sessionReference) fun s hs => stringOutcome_fits
      ((cancelGameStart_safe hd user.userId id).result s hs)
    rw [Option.some.inj h] at this
    exact .inr this
  | sendToAll =>
    cases h
    exact .inr (.inr (.inr (sendToAll_frame d _ _).1))
  | sendTo =>
    simp only [execute] at h
    split at h <;> cases h
    · exact .inr (.inr (.inl done_fits))
    · exact .inr (.inl rfl)

lemma executed_failed (h : executed d call = some (o, d₁)) (herr : o.isError = true) :
    d₁.lobbies = d.lobbies := by
  unfold executed at h
  split at h
  · cases h
    rfl
  · exact (execute_step h).1.failed herr

lemma executed_commits_or_harmless (hd : LobbiesOk d) (hc : CallOk call)
    (h : executed d call = some (o, d₁)) : Commits d call o ∨ Harmless d o d₁ := by
  unfold executed at h
  split at h
  · cases h
    exact .inr (.inl rfl)
  next hcap => exact execute_commits_or_harmless hd hc (by simpa using hcap) h

/-! ## Failures -/

/-- A failure that is answered leaves every lobby as it was, exactly when the lobby that the call
creates, joins or updates, if it does, fits the answer. -/
theorem failure_changes_nothing_iff {b : Bytes} {a : DirectoryAnswer} {d' : Directory}
    (hd : Reachable d) (hcall : decodeCall b = .ok call) (h : transact d call = some (a, d')) :
    (a.outcome.isError = true → d'.lobbies = d.lobbies) ↔ ∀ o, Commits d call o → OutcomeFits o := by
  obtain ⟨o, d₁, hexec, hans⟩ := transact_eq_some h
  have hlobbies : d'.lobbies = d₁.lobbies := (answered_paged hans).lobbies
  have herror : a.outcome.isError = true ↔ o.isError = true ∨ ¬ OutcomeFits o := by
    rw [answered_outcome hans]
    exact isError_framed_capped o _
  rw [hlobbies]
  constructor
  · intro hfail o' hcommits
    obtain ⟨rfl, hchanged⟩ := executed_of_commits hcommits hexec
    by_contra hfits
    exact hchanged (hfail (herror.2 (.inr hfits)))
  · intro hfits herr
    rcases herror.1 herr with herr | hlong
    · exact executed_failed hexec herr
    rcases executed_commits_or_harmless hd.bounded.lobbies (callOk_of_decodeCall hcall) hexec with
      hcommits | herr | hshort | hsame
    · exact absurd (hfits o hcommits) hlong
    · exact executed_failed hexec herr
    · exact absurd hshort hlong
    · exact hsame

def guestLeaves : DirectoryCall := ⟨.new "guest" "Guest", .leaveLobby "1"⟩

lemma guestLeaves_ok : CallOk guestLeaves :=
  ⟨member_ok_guest, (by decide : StringOk "1")⟩

/-- A guest leaves a lobby that it is not in: the lobby is there before and after. -/
theorem guest_leave_changes_nothing : ∃ d a d', transact d guestLeaves = some (a, d') ∧
    a.outcome.isError = true ∧ d'.lobbies = d.lobbies ∧ "1" ∈ d.lobbies := by
  have hcreated : Reachable (afterCall .new hostCreates) := .afterCall .new
    ⟨member_ok_host, by decide, fun k v hget => by simp at hget⟩ (by decide)
  obtain ⟨a, h⟩ := transact_afterCall
    (by decide : (transact (afterCall .new hostCreates) guestLeaves).isSome = true)
  have herror : a.outcome.isError = true := by
    obtain rfl : a = ((transact (afterCall .new hostCreates) guestLeaves).get (by decide)).1 := by
      simp [h]
    decide +kernel
  have hsame := (failure_changes_nothing_iff hcreated (decodeCall_encodeCall guestLeaves_ok) h).2
    (fun o hcommits => by cases hcommits) herror
  exact ⟨_, a, _, h, herror, hsame, by decide⟩

/-! ## A lobby that is created and refused -/

def letters (n : Nat) : String :=
  String.ofList (List.replicate n 'a')

lemma utf8ByteSize_letters (n : Nat) : (letters n).utf8ByteSize = n := by
  rw [letters, String.utf8ByteSize_ofList]
  induction n with
  | zero => rfl
  | succ n ih =>
    rw [replicate_succ, String.utf8Len_cons, ih]
    rfl

lemma letters_ok {n : Nat} (h : n ≤ maxStringBytes) : StringOk (letters n) := by
  rw [StringOk, length_utf8Bytes, utf8ByteSize_letters]
  exact h

def attributeKeys : List String :=
  ["0", "1", "2", "3", "4", "5", "6", "7", "8", "9", "a", "b", "c", "d", "e", "f", "g", "h", "i", "j",
    "k", "l", "m", "n", "o", "p", "q", "r", "s", "t", "u"]

variable (v : String)

def manyEntries : List (String × String) :=
  attributeKeys.map fun k => (k, v)

/-- Thirty-one attributes with one value. -/
def manyAttributes : Attributes :=
  insertAll ∅ (manyEntries v)

lemma manyEntries_distinct : (manyEntries v).Pairwise fun a b => a.1 ≠ b.1 := by
  have hkeys : attributeKeys.Pairwise (· ≠ ·) := by decide
  exact pairwise_map.2 hkeys

lemma getElem?_manyAttributes {v k x : String} (h : (manyAttributes v)[k]? = some x) :
    k ∈ attributeKeys ∧ x = v := by
  rcases (getElem?_insertAll (manyEntries_distinct v) ∅ k x).1 h with hin | ⟨_, hnone⟩
  · obtain ⟨key, hkey, heq⟩ := mem_map.1 hin
    cases heq
    exact ⟨hkey, rfl⟩
  · simp at hnone

lemma size_manyAttributes : (manyAttributes v).size = 31 := by
  rw [manyAttributes, size_insertAll (manyEntries_distinct v) ∅ (by simp)]
  rfl

lemma length_manyAttributes :
    (Encoder.attributes (manyAttributes v)).length = 4 + 31 * (9 + v.utf8ByteSize) := by
  have hentry : ∀ n ∈ (manyAttributes v).toList.map
      (fun e => (entryText stringText stringText e).length), n = 9 + v.utf8ByteSize := by
    intro n hn
    obtain ⟨⟨k, x⟩, he, rfl⟩ := mem_map.1 hn
    obtain ⟨hk, rfl⟩ := getElem?_manyAttributes (ExtTreeMap.mem_toList_iff_getElem?_eq_some.1 he)
    have hone : ∀ k ∈ attributeKeys, k.utf8ByteSize = 1 := by decide
    simp only [entryText, length_append, length_stringText, hone k hk]
    omega
  rw [Encoder.attributes, mapText, length_listText, sum_eq_card_nsmul _ _ hentry,
    length_map, ExtTreeMap.length_toList, size_manyAttributes, smul_eq_mul]

section LongCall

variable (n m : Nat)

def longUser : Member := ⟨letters n, "", "", ""⟩

/-- A call that makes a lobby with long attributes; the owner's id is written twice in the lobby. -/
def longCall : DirectoryCall := ⟨longUser n, .createLobby 2 0 (manyAttributes (letters m))⟩

def longLobby : Lobby :=
  Directory.newLobby (base36 1) (longUser n) 2 0 (manyAttributes (letters m))

lemma longCall_ok (hn : n ≤ maxStringBytes) (hm : m ≤ maxStringBytes) : CallOk (longCall n m) := by
  refine ⟨⟨letters_ok hn, stringOk_empty, stringOk_empty, stringOk_empty⟩, ?_, ?_⟩
  · rw [size_manyAttributes]
    decide
  · intro k v hget
    obtain ⟨hk, rfl⟩ := getElem?_manyAttributes hget
    have hkeys : ∀ k ∈ attributeKeys, StringOk k := by decide
    exact ⟨hkeys k hk, letters_ok hm⟩

lemma length_longUser : (Encoder.member (longUser n)).length = 16 + n := by
  have hempty : "".utf8ByteSize = 0 := rfl
  simp only [Encoder.member, longUser, length_append, length_stringText, utf8ByteSize_letters,
    hempty]
  omega

lemma length_longCall : (encodeCall (longCall n m)).length = 314 + n + 31 * m := by
  simp only [encodeCall, longCall, length_append, length_longUser, Encoder.operation,
    Encoder.operationBody, length_cons, length_manyAttributes, utf8ByteSize_letters,
    Encoder.header, Encoder.requestMagic, length_u16ToLe, length_i32ToLe, length_nil]
  omega

lemma longLobby_does_not_fit (h : maxFrameBytes < 2 * n + 31 * m) :
    ¬ OutcomeFits (.lobby (longLobby n m)) := by
  rintro ⟨_, hlength⟩
  have hid : (longLobby n m).ownerUserId = letters n := rfl
  have hmembers : (longLobby n m).members = [longUser n] := rfl
  have hattributes : (longLobby n m).attributes = manyAttributes (letters m) := rfl
  rw [length_encodeAnswer] at hlength
  simp only [Encoder.outcome, Encoder.outcomeBody, length_cons, Encoder.lobby,
    flatten_cons, length_append, length_stringText, hid, hmembers, hattributes,
    length_listText, map_cons, map_nil, sum_cons, sum_nil, length_longUser,
    length_manyAttributes, utf8ByteSize_letters] at hlength
  omega

lemma lobbyOf_new (u : String) : new.lobbyOf u = none :=
  lobbyOf_eq_none_iff.2 fun id l hl => by simp [new] at hl

lemma longCall_isSome : (transact .new (longCall n m)).isSome = true := by
  have hnext : new.nextLobby + 1 < 2 ^ 64 := by decide
  have hseats : ¬ (2 : Int32) < 1 := by decide
  have hcap : exceedsMemberCap (longCall n m).operation = false := by
    simp [exceedsMemberCap, longCall]
  rw [transact, Option.isSome_map, executed, hcap]
  simp only [Bool.false_eq_true, if_false, longCall, execute, create, lobbyOf_new,
    Option.isSome_none, hseats, hnext, if_true, Option.map_some, Option.isSome_some]

lemma longCall_refused (hn : n ≤ maxStringBytes) (hm : m ≤ maxStringBytes)
    (hcall : 314 + n + 31 * m ≤ maxFrameBytes) (hlobby : maxFrameBytes < 2 * n + 31 * m) :
    ∃ a d', decodeCall (encodeCall (longCall n m)) = .ok (longCall n m) ∧
      (encodeCall (longCall n m)).length ≤ maxFrameBytes ∧
      transact .new (longCall n m) = some (a, d') ∧ a.outcome.isError = true ∧
      d'.lobbies ≠ new.lobbies := by
  obtain ⟨⟨a, d'⟩, h⟩ := Option.isSome_iff_exists.1 (longCall_isSome n m)
  obtain ⟨o, d₁, hexec, hans⟩ := transact_eq_some h
  have hcommits : Commits .new (longCall n m) (.lobby (longLobby n m)) :=
    ⟨lobbyOf_new _, by decide, by decide, rfl⟩
  obtain ⟨rfl, hchanged⟩ := executed_of_commits hcommits hexec
  refine ⟨a, d', decodeCall_encodeCall (longCall_ok n m hn hm), ?_, h, ?_, ?_⟩
  · rw [length_longCall]
    exact hcall
  · rw [answered_outcome hans]
    exact (isError_framed_capped _ _).2 (.inr (longLobby_does_not_fit n m hlobby))
  · rw [(answered_paged hans).lobbies]
    exact hchanged

end LongCall

/-- The first call to a directory, within a frame: it is answered with a failure, and its lobby is
there. -/
theorem refused_lobby_is_kept : ∃ call a d', decodeCall (encodeCall call) = .ok call ∧
    (encodeCall call).length ≤ maxFrameBytes ∧ transact .new call = some (a, d') ∧
    a.outcome.isError = true ∧ d'.lobbies ≠ Directory.new.lobbies :=
  ⟨_, longCall_refused 65536 65500 (by decide) (by decide) (by decide) (by decide)⟩

end Rpc

end Don.Crossplay
