import Mathlib.Data.Nat.Bitwise
import Don.Foundation.Layout
import Don.Net.Transport

/-!
# Tcp — frames out of a byte stream

The part of `TcpTransport::poll` in `crates/don-net/src/transport.rs` that belongs to one peer: what
the socket had is put behind what was left over, and frames are taken off as long as one is
complete.  The first is the peer's hello, every other a datagram.  However the stream is cut into
reads, the datagrams are the same; but a refused hello does not end the loop, so that frames behind
it in the same buffer are still looked at.
-/

namespace Don.Net

open Foundation List

namespace Tcp

def maxFrame : Nat := 512 * 1024

/-- Header bit of a frame that a host passes on for another client. -/
def relayedFrame : UInt32 := 0x80000000

structure Peer where
  id : Int32
  rx : Bytes
  identified : Bool
  dead : Bool
  deriving DecidableEq

/-- A new connection. -/
def Peer.new : Peer :=
  ⟨0, [], false, false⟩

def writeFrame (payload : Bytes) : Bytes :=
  u32ToLe (UInt32.ofNat payload.length) ++ payload

def writeRelayedFrame (origin : Int32) (payload : Bytes) : Bytes :=
  u32ToLe (UInt32.ofNat (4 + payload.length) ||| relayedFrame) ++ (i32ToLe origin ++ payload)

/-! ## The loop over a buffer -/

inductive Next where
  | wait
  | refuse
  | frame (relayed : Bool) (body rest : Bytes)

/-- The head of the buffer: nothing complete yet, a header that is refused, or a frame. -/
def nextFrame (isHost : Bool) (rx : Bytes) : Next :=
  if rx.length < 4 then
    .wait
  else
    let header := u32le rx 0
    let relayed : Bool := header &&& relayedFrame ≠ 0
    let len := (header &&& ~~~relayedFrame).toNat
    if maxFrame + relayed.toNat * 4 < len || (relayed && (isHost || len < 4)) then
      .refuse
    else if rx.length < 4 + len then
      .wait
    else
      .frame relayed ((rx.drop 4).take len) (rx.drop (4 + len))

/-- A peer, with the inbox and what has been handed to the relay. -/
structure Scan where
  peer : Peer
  inbox : List Datagram
  relay : List (Int32 × Bytes)
  deriving DecidableEq

/-- What a frame does: the hello of a peer that has not said one, or a datagram. -/
def accept (isHost : Bool) (s : Scan) (frame : Bool × Bytes) : Scan :=
  let (relayed, body) := frame
  if s.peer.identified then
    let sender := if relayed then i32le body 0 else s.peer.id
    let bytes := if relayed then body.drop 4 else body
    { s with
      inbox := s.inbox ++ [⟨sender, bytes⟩]
      relay := if isHost then s.relay ++ [(s.peer.id, bytes)] else s.relay }
  else if body.length = 4 then
    { s with peer := { s.peer with id := i32le body 0, identified := true } }
  else
    -- the peer is given up, but the loop goes on with what is behind the frame
    { s with peer := { s.peer with dead := true } }

/-- The deframing loop; every frame takes at least its header off the buffer. -/
def deframe (isHost : Bool) : Nat → Scan → Scan
  | 0, s => s
  | fuel + 1, s =>
    match nextFrame isHost s.peer.rx with
    | .wait => s
    | .refuse => { s with peer := { s.peer with dead := true } }
    | .frame relayed body rest =>
      deframe isHost fuel
        (accept isHost { s with peer := { s.peer with rx := rest } } (relayed, body))

/-- One peer in one round of `poll`: what the socket gives, and whether the connection has ended. -/
def visit (isHost ended : Bool) (s : Scan) (reads : List Bytes) : Scan :=
  if s.peer.dead then
    s
  else
    let rx := s.peer.rx ++ reads.flatten
    deframe isHost (rx.length + 1) { s with peer := { s.peer with rx, dead := ended } }

variable {isHost : Bool}

def Scan.withRx (s : Scan) (rx : Bytes) : Scan :=
  { s with peer := { s.peer with rx } }

open Scan

lemma accept_withRx (s : Scan) (frame : Bool × Bytes) (rx : Bytes) :
    (accept isHost s frame).withRx rx = accept isHost (s.withRx rx) frame := by
  by_cases hid : s.peer.identified = true
  · simp [accept, withRx, hid]
  · by_cases hello : frame.2.length = 4 <;> simp [accept, withRx, hid, hello]

lemma rx_accept (s : Scan) (frame : Bool × Bytes) : (accept isHost s frame).peer.rx = s.peer.rx :=
  (congrArg (·.peer.rx) (accept_withRx s frame s.peer.rx)).symm

lemma foldl_withRx (fs : List (Bool × Bytes)) (s : Scan) (rx : Bytes) :
    (fs.foldl (accept isHost) s).withRx rx = fs.foldl (accept isHost) (s.withRx rx) := by
  induction fs generalizing s with
  | nil => rfl
  | cons f fs ih => rw [foldl_cons, ih, accept_withRx, foldl_cons]

/-! ## A refused hello -/

/-- The complete frames at the front of a buffer. -/
def frames (isHost : Bool) : Nat → Bytes → List (Bool × Bytes)
  | 0, _ => []
  | fuel + 1, rx =>
    match nextFrame isHost rx with
    | .frame relayed body rest => (relayed, body) :: frames isHost fuel rest
    | _ => []

/-- The frames of a buffer from the first on that can be a hello. -/
def fromHello (isHost : Bool) (rx : Bytes) : List (Bool × Bytes) :=
  (frames isHost (rx.length + 1) rx).dropWhile (·.2.length ≠ 4)

/-- A buffer that a peer without a hello is refused for. -/
def refused (isHost : Bool) (rx : Bytes) : Bool :=
  match nextFrame isHost rx with
  | .wait => false
  | .refuse => true
  | .frame _ body _ => body.length ≠ 4

/-- The loop accepts the complete frames; the buffer itself plays no part in what they do. -/
lemma deframe_eq (isHost : Bool) (fuel : Nat) (s : Scan) : (deframe isHost fuel s).inbox =
        ((frames isHost fuel s.peer.rx).foldl (accept isHost) s).inbox ∧
      (deframe isHost fuel s).relay =
        ((frames isHost fuel s.peer.rx).foldl (accept isHost) s).relay := by
  induction fuel generalizing s with
  | zero => exact ⟨rfl, rfl⟩
  | succ fuel ih =>
    rw [deframe, frames]
    cases nextFrame isHost s.peer.rx with
    | wait => exact ⟨rfl, rfl⟩
    | refuse => exact ⟨rfl, rfl⟩
    | frame relayed body rest =>
      have hrest := ih (accept isHost (s.withRx rest) (relayed, body))
      have hfold : (frames isHost fuel rest).foldl (accept isHost) (accept isHost (s.withRx rest)
          (relayed, body)) = (((relayed, body) :: frames isHost fuel rest).foldl (accept isHost) s).withRx rest := by
        rw [← accept_withRx, ← foldl_withRx, foldl_cons]
      rw [rx_accept] at hrest
      exact ⟨hrest.1.trans (congrArg inbox hfold :), hrest.2.trans (congrArg relay hfold :)⟩

variable {s : Scan}

lemma length_inbox_of_identified (fs : List (Bool × Bytes)) (h : s.peer.identified = true) :
    (fs.foldl (accept isHost) s).inbox.length = s.inbox.length + fs.length := by
  induction fs generalizing s with
  | nil => rfl
  | cons f fs ih =>
    rw [foldl_cons, ih (by simp [accept, h])]
    simp [accept, h]
    omega

/-- Up to the first frame of four bytes nothing is taken for a datagram, and from there on
everything. -/
lemma length_inbox_of_unidentified (fs : List (Bool × Bytes)) (isHost : Bool)
    (h : s.peer.identified = false) :
    (fs.foldl (accept isHost) s).inbox.length =
      s.inbox.length + ((fs.dropWhile (·.2.length ≠ 4)).length - 1) := by
  induction fs generalizing s with
  | nil => rfl
  | cons f fs ih =>
    by_cases hello : f.2.length = 4
    · rw [foldl_cons, length_inbox_of_identified fs (by simp [accept, h, hello])]
      simp [accept, h, hello]
    · rw [foldl_cons, ih (by simp [accept, h, hello])]
      simp [accept, h, hello]

lemma length_relay_le (fs : List (Bool × Bytes)) (isHost : Bool)
    (h : s.relay.length ≤ s.inbox.length) :
    (fs.foldl (accept isHost) s).relay.length ≤ (fs.foldl (accept isHost) s).inbox.length := by
  induction fs generalizing s with
  | nil => exact h
  | cons f fs ih =>
    apply ih
    simp only [accept]
    split
    · cases isHost <;> simp <;> omega
    · split <;> exact h

/-- A poll takes nothing from a peer without a hello exactly if no complete frame follows one of four
bytes in what was read; a first frame of another length makes no difference. -/
theorem visit_silent_iff (isHost ended : Bool) (p : Peer) (reads : List Bytes)
    (hnew : p.identified = false) (halive : p.dead = false) :
    let s := visit isHost ended ⟨p, [], []⟩ reads
    s.inbox = [] ∧ s.relay = [] ↔ (fromHello isHost (p.rx ++ reads.flatten)).length ≤ 1 := by
  let s₀ : Scan := ⟨⟨p.id, p.rx ++ reads.flatten, p.identified, ended⟩, [], []⟩
  have hframes := deframe_eq isHost (s₀.peer.rx.length + 1) s₀
  have hinbox := length_inbox_of_unidentified (frames isHost (s₀.peer.rx.length + 1) s₀.peer.rx)
    isHost (s := s₀) hnew
  have hrelay := length_relay_le (frames isHost (s₀.peer.rx.length + 1) s₀.peer.rx) isHost (s := s₀)
    (Nat.le_refl 0)
  have hvisit : visit isHost ended ⟨p, [], []⟩ reads = deframe isHost (s₀.peer.rx.length + 1) s₀ := by
    simp [visit, halive, s₀]
  simp only [hvisit, hframes.1, hframes.2, fromHello, ← length_eq_zero_iff]
  simp only [s₀, length_nil, Nat.zero_add] at hinbox hrelay ⊢
  omega

theorem visit_silent_five :
    (visit true false ⟨Peer.new, [], []⟩ [writeFrame [1, 2, 3, 4, 5]]).inbox = [] :=
  ((visit_silent_iff true false Peer.new [writeFrame [1, 2, 3, 4, 5]] rfl rfl).mpr (by decide)).1

/-- A host that refuses a hello of five bytes still takes a datagram from the peer, under the id of
the hello behind it, and relays it. -/
theorem visit_refused_not_final :
    let stream := writeFrame [1, 2, 3, 4, 5] ++ writeFrame [7, 0, 0, 0] ++ writeFrame [9]
    refused true stream = true ∧
      visit true false ⟨Peer.new, [], []⟩ [stream] =
        ⟨⟨7, [], true, true⟩, [⟨7, [9]⟩], [(7, [9])]⟩ := by
  decide

/-! ## The stream, however it is cut -/

/-- A frame as it is written. -/
def wire (frame : Bool × Bytes) : Bytes :=
  u32ToLe (UInt32.ofNat frame.2.length ||| if frame.1 then relayedFrame else 0) ++ frame.2

/-- The frames a peer may send. -/
def Sendable (isHost : Bool) (frame : Bool × Bytes) : Prop :=
  frame.2.length ≤ maxFrame + frame.1.toNat * 4 ∧
    (frame.1 = true → isHost = false ∧ 4 ≤ frame.2.length)

lemma header_parts {n : Nat} (hn : n < 2 ^ 31) (relayed : Bool) :
    decide ((UInt32.ofNat n ||| if relayed then relayedFrame else 0) &&& relayedFrame ≠ 0) = relayed ∧
      ((UInt32.ofNat n ||| if relayed then relayedFrame else 0) &&& ~~~relayedFrame).toNat = n := by
  have hval : (UInt32.ofNat n).toNat = n := by
    rw [UInt32.toNat_ofNat']
    omega
  have hbit : n &&& relayedFrame.toNat = 0 :=
    (Nat.and_two_pow n 31).trans (by rw [Nat.testBit_lt_two_pow hn]; rfl)
  have hlen : n &&& (~~~relayedFrame).toNat = n :=
    (Nat.and_two_pow_sub_one_eq_mod n 31).trans (Nat.mod_eq_of_lt hn)
  have hparts : ∀ flag mask : UInt32, ((UInt32.ofNat n ||| flag) &&& mask).toNat =
      n &&& mask.toNat ||| flag.toNat &&& mask.toNat := by
    intro flag mask
    rw [UInt32.toNat_and, UInt32.toNat_or, hval, Nat.and_or_distrib_right]
  rw [hparts, hlen, Bool.eq_iff_iff, decide_eq_true_iff, ne_eq, ← UInt32.toNat_inj, hparts, hbit]
  cases relayed with
  | false => simp
  | true =>
    have hclear : relayedFrame.toNat &&& (~~~relayedFrame).toNat = 0 := by decide
    have hset : ¬ 0 ||| relayedFrame.toNat &&& relayedFrame.toNat = (0 : UInt32).toNat := by decide
    simp only [if_true, hclear, hset, Nat.or_zero, not_false_eq_true, and_self]

/-- A buffer at the start of a frame waits until the whole frame is there. -/
lemma nextFrame_of_append {frame : Bool × Bytes} (hf : Sendable isHost frame)
    {rx later more : Bytes} (h : rx ++ later = wire frame ++ more) :
    nextFrame isHost rx =
      if rx.length < (wire frame).length then .wait
      else .frame frame.1 frame.2 (rx.drop (wire frame).length) := by
  obtain ⟨relayed, body⟩ := frame
  obtain ⟨hmax, hrelay⟩ := hf
  have hlength : (wire (relayed, body)).length = 4 + body.length := by simp [wire]
  rw [hlength]
  by_cases hshort : rx.length < 4
  · rw [nextFrame, if_pos hshort, if_pos (by omega)]
  -- the header is there, so it is the one that was written
  have hsplit : rx.take 4 ++ (rx.drop 4 ++ later) =
      u32ToLe (UInt32.ofNat body.length ||| if relayed then relayedFrame else 0) ++
        (body ++ more) := by
    rw [← append_assoc, take_append_drop, h, wire, append_assoc]
  obtain ⟨hhead, htail⟩ := append_inj hsplit (by simp; omega)
  have hword : u32le rx 0 = UInt32.ofNat body.length ||| if relayed then relayedFrame else 0 :=
    u32le_of_drop (t := rx.drop 4) (by rw [← hhead, take_append_drop]; rfl)
  have hfits : body.length < 2 ^ 31 := by
    cases relayed <;> simp [maxFrame] at hmax <;> omega
  obtain ⟨hflag, hlen⟩ := header_parts hfits relayed
  have hok : ¬ (decide (maxFrame + relayed.toNat * 4 < body.length) ||
      (relayed && (isHost || decide (body.length < 4)))) = true := by
    cases relayed with
    | false => simpa using hmax
    | true => simp [hrelay rfl]; simpa using hmax
  rw [nextFrame, if_neg hshort]
  simp only [hword, hflag, hlen, hok, Bool.false_eq_true, if_false]
  by_cases hwait : rx.length < 4 + body.length
  · rw [if_pos hwait, if_pos hwait]
  · rw [if_neg hwait, if_neg hwait]
    have hbody : (rx.drop 4).take body.length = body := by
      have hfront := congrArg (take body.length) htail
      rwa [take_append_of_le_length (by simp; omega), take_left] at hfront
    rw [hbody]

/-- The loop accepts the frames that are complete and leaves the start of the next one. -/
lemma deframe_stream {fs : List (Bool × Bytes)} (hfs : ∀ f ∈ fs, Sendable isHost f)
    (later : Bytes) (fuel : Nat) (s : Scan) (hfuel : s.peer.rx.length < fuel)
    (h : s.peer.rx ++ later = fs.flatMap wire) :
    ∃ done todo left, fs = done ++ todo ∧ left ++ later = todo.flatMap wire ∧
      (later = [] → todo = []) ∧
      deframe isHost fuel s = done.foldl (accept isHost) (s.withRx left) := by
  induction fs generalizing fuel s with
  | nil =>
    obtain ⟨fuel, rfl⟩ : ∃ k, fuel = k + 1 := ⟨fuel - 1, by omega⟩
    have hnil := append_eq_nil_iff.mp h
    refine ⟨[], [], s.peer.rx, rfl, h, fun _ => rfl, ?_⟩
    have hwait : nextFrame isHost s.peer.rx = .wait := by rw [nextFrame, if_pos (by simp [hnil.1])]
    rw [deframe, hwait]
    rfl
  | cons f fs ih =>
    obtain ⟨fuel, rfl⟩ : ∃ k, fuel = k + 1 := ⟨fuel - 1, by omega⟩
    rw [flatMap_cons] at h
    have hnext := nextFrame_of_append (hfs f (by simp)) h
    by_cases hwait : s.peer.rx.length < (wire f).length
    · refine ⟨[], f :: fs, s.peer.rx, rfl, h, ?_, ?_⟩
      · rintro rfl
        have hlen := congrArg length h
        simp at hlen
        omega
      · rw [deframe, hnext, if_pos hwait]
        rfl
    · -- the frame is complete; what is behind it is the start of the other frames
      have hrest : s.peer.rx.drop (wire f).length ++ later = fs.flatMap wire := by
        have hdrop := congrArg (drop (wire f).length) h
        rwa [drop_append_of_le_length (by omega), drop_left] at hdrop
      have hpos : 4 ≤ (wire f).length := by simp [wire]
      rw [if_neg hwait] at hnext
      obtain ⟨done, todo, left, rfl, hleft, hend, heq⟩ := ih (fun g hg => hfs g (by simp [hg]))
        fuel (accept isHost (s.withRx (s.peer.rx.drop (wire f).length)) f)
        (by rw [rx_accept]; simp [withRx]; omega) (by rw [rx_accept]; exact hrest)
      refine ⟨f :: done, todo, left, rfl, hleft, hend, ?_⟩
      rw [deframe, hnext]
      exact heq.trans (by rw [accept_withRx]; rfl)

/-- The peer has said its hello, or says it next. -/
def Greeted (p : Peer) (fs : List (Bool × Bytes)) : Prop :=
  p.identified = true ∨ ∀ f ∈ fs.head?, f.2.length = 4

lemma Greeted.foldl (isHost : Bool) {done todo : List (Bool × Bytes)}
    (h : Greeted s.peer (done ++ todo)) :
    (done.foldl (accept isHost) s).peer.dead = s.peer.dead ∧
      Greeted (done.foldl (accept isHost) s).peer todo := by
  induction done generalizing s with
  | nil => exact ⟨rfl, h⟩
  | cons f done ih =>
    have hone : (accept isHost s f).peer.dead = s.peer.dead ∧
        (accept isHost s f).peer.identified = true := by
      by_cases hid : s.peer.identified = true
      · simp [accept, hid]
      · have hello : f.2.length = 4 := h.resolve_left hid f (by simp)
        simp [accept, hid, hello]
    rw [foldl_cons, (ih (.inl hone.2)).1, hone.1]
    exact ⟨rfl, (ih (.inl hone.2)).2⟩

lemma visits_eq {rounds : List (List Bytes)} {fs : List (Bool × Bytes)}
    (hfs : ∀ f ∈ fs, Sendable isHost f) (halive : s.peer.dead = false) (hgreeted : Greeted s.peer fs)
    (h : s.peer.rx ++ rounds.flatten.flatten = fs.flatMap wire) (hend : rounds = [] → fs = []) :
    rounds.foldl (visit isHost false) s = fs.foldl (accept isHost) (s.withRx []) := by
  induction rounds generalizing s fs with
  | nil =>
    cases hend rfl
    rw [← (append_eq_nil_iff.mp h).1]
    rfl
  | cons reads more ih =>
    obtain ⟨done, todo, left, rfl, hleft, htodo, heq⟩ := deframe_stream hfs more.flatten.flatten
      _ (s.withRx (s.peer.rx ++ reads.flatten)) (Nat.lt_succ_self _) (by simpa [withRx] using h)
    have hvisit : visit isHost false s reads = done.foldl (accept isHost) (s.withRx left) := by
      rw [visit, halive, if_neg Bool.false_ne_true]
      simpa [withRx, halive] using heq
    have hdone := Greeted.foldl isHost (s := s.withRx left) hgreeted
    have hrx : (visit isHost false s reads).peer.rx = left := by
      rw [hvisit, ← foldl_withRx]
      rfl
    rw [foldl_cons, ih (fun f hf => hfs f (by simp [hf])) (by rw [hvisit, hdone.1]; exact halive)
      (by rw [hvisit]; exact hdone.2) (by rw [hrx]; exact hleft) (fun hmore => htodo (by simp [hmore])),
      hvisit, foldl_withRx, foldl_append]
    rfl

inductive Sent where
  | own (body : Bytes)
  | relayed (origin : Int32) (body : Bytes)

namespace Sent

def bytes : Sent → Bytes
  | own body => writeFrame body
  | relayed origin body => writeRelayedFrame origin body

def frame : Sent → Bool × Bytes
  | own body => (false, body)
  | relayed origin body => (true, i32ToLe origin ++ body)

/-- At most 512 KiB, and relayed only towards a client. -/
def Fits (isHost : Bool) : Sent → Prop
  | own body => body.length ≤ maxFrame
  | relayed _ body => isHost = false ∧ body.length ≤ maxFrame

/-- What the other end is to receive from the peer `id`. -/
def datagram (id : Int32) : Sent → Datagram
  | own body => ⟨id, body⟩
  | relayed origin body => ⟨origin, body⟩

lemma bytes_eq_wire (sent : Sent) : sent.bytes = wire sent.frame := by
  cases sent with
  | own => simp [bytes, frame, writeFrame, wire]
  | relayed => simp [bytes, frame, writeRelayedFrame, wire]

lemma Fits.sendable {sent : Sent} (h : sent.Fits isHost) : Sendable isHost sent.frame := by
  cases sent with
  | own => exact ⟨by simpa [frame, Fits] using h, by simp [frame]⟩
  | relayed => exact ⟨by simp [frame]; have := h.2; omega, fun _ => ⟨h.1, by simp [frame]⟩⟩

end Sent

open Sent

lemma foldl_sent (items : List Sent) (h : s.peer.identified = true) :
    ((items.map frame).foldl (accept isHost) s).peer = s.peer ∧
      ((items.map frame).foldl (accept isHost) s).inbox =
        s.inbox ++ items.map (datagram s.peer.id) := by
  induction items generalizing s with
  | nil => simp
  | cons sent items ih =>
    have hone : (accept isHost s sent.frame).peer = s.peer ∧
        (accept isHost s sent.frame).inbox = s.inbox ++ [sent.datagram s.peer.id] := by
      cases sent with
      | own => simp [accept, h, frame, datagram]
      | relayed origin body =>
        have hword : i32le (i32ToLe origin ++ body) 0 = origin := i32le_of_drop rfl
        have hdrop : (i32ToLe origin ++ body).drop 4 = body := rfl
        simp [accept, h, frame, datagram, hword, hdrop]
    have hrest := ih (s := accept isHost s sent.frame) (by rw [hone.1]; exact h)
    rw [map_cons, foldl_cons, hrest.1, hrest.2, hone.1, hone.2]
    simp

/-- However the stream of a peer is cut into reads and rounds, its datagrams are filed in order and
nothing is left over. -/
theorem visits_stream (isHost : Bool) (id : Int32) (items : List Sent)
    (hfits : ∀ sent ∈ items, sent.Fits isHost) (rounds : List (List Bytes))
    (h : rounds.flatten.flatten = writeFrame (i32ToLe id) ++ items.flatMap Sent.bytes)
    (inbox : List Datagram) (relay : List (Int32 × Bytes)) :
    let s := rounds.foldl (visit isHost false) ⟨Peer.new, inbox, relay⟩
    s.peer = ⟨id, [], true, false⟩ ∧ s.inbox = inbox ++ items.map (Sent.datagram id) := by
  let sents := own (i32ToLe id) :: items
  have hwire : sents.flatMap bytes = (sents.map frame).flatMap wire := by
    rw [flatMap_map]
    exact flatMap_congr fun sent _ => sent.bytes_eq_wire
  have hfs : ∀ f ∈ sents.map frame, Sendable isHost f := by
    rw [forall_mem_map, forall_mem_cons]
    exact ⟨Fits.sendable (by simp [Fits, maxFrame]), fun sent hs => (hfits sent hs).sendable⟩
  have hrounds : rounds ≠ [] := by
    rintro rfl
    have hlen := congrArg length h
    simp [writeFrame] at hlen
    omega
  have hword : i32le (i32ToLe id) 0 = id := i32le_of_drop (t := []) (by simp)
  have hello : accept isHost (withRx ⟨Peer.new, inbox, relay⟩ []) (false, i32ToLe id) =
      ⟨⟨id, [], true, false⟩, inbox, relay⟩ := by
    simp [accept, withRx, Peer.new, hword]
  have hall := visits_eq (s := ⟨Peer.new, inbox, relay⟩) hfs rfl (.inr (by simp [sents, frame]))
    (h.trans hwire) (absurd · hrounds)
  rw [map_cons, foldl_cons, frame, hello] at hall
  simp only [hall]
  exact foldl_sent items rfl

theorem visits_stream_cut :
    let stream := writeFrame (i32ToLe 7) ++ (writeFrame [9] ++ writeRelayedFrame 3 [8])
    ([[stream.take 5, (stream.drop 5).take 6], [], [stream.drop 11]].foldl (visit false false)
      ⟨Peer.new, [], []⟩).inbox = [⟨7, [9]⟩, ⟨3, [8]⟩] :=
  (visits_stream false 7 [.own [9], .relayed 3 [8]] (by simp [Sent.Fits, maxFrame]) _ (by decide)
    [] []).2

end Tcp
end Don.Net
