import Don.Net.Session.Slots

/-!
# Session.Loop — sessions over the in-process transport

Over `LoopTransport` a send always succeeds and appends to the queues of the connected peers, so every
method of a session has a closed form in terms of `say`.  The sessions here have one peer, as the two
ends of `LoopTransport::pump` do.
-/

namespace Don.Net

open Foundation List Outcome InternalPacket

namespace LoopTransport

/-- One datagram queued on `src` for `dst` arrives. -/
def deliver (src dst : LoopTransport) : LoopTransport × LoopTransport :=
  match src.outbox.find? (·.1 = dst.id) with
  | some (_, bytes :: _) =>
    ({ src with outbox := src.outbox.map fun q => if q.1 = dst.id then (q.1, q.2.tail) else q },
      { dst with inbox := dst.inbox ++ [{ sender := src.id, bytes := bytes }] })
  | _ => (src, dst)

variable {dst : LoopTransport}

lemma deliver_cons {src : LoopTransport} {bytes : Bytes} {rest : List Bytes}
    (h : src.outbox = [(dst.id, bytes :: rest)]) :
    deliver src dst = ({ src with outbox := [(dst.id, rest)] },
      { dst with inbox := dst.inbox ++ [{ sender := src.id, bytes := bytes }] }) := by
  simp [deliver, h]

lemma deliver_nil {src : LoopTransport} (h : src.outbox = [(dst.id, [])]) :
    deliver src dst = (src, dst) := by
  simp [deliver, h]

lemma deliver_ids (src dst : LoopTransport) :
    (deliver src dst).1.id = src.id ∧ (deliver src dst).2.id = dst.id := by
  unfold deliver
  split <;> exact ⟨rfl, rfl⟩

end LoopTransport

namespace Session

variable {s : Session LoopTransport} {peer : Int32}

/-- The session with messages appended to every queue. -/
def say (s : Session LoopTransport) (ms : List Bytes) : Session LoopTransport :=
  { s with
    transport := { s.transport with
      outbox := s.transport.outbox.map fun q => (q.1, q.2 ++ ms) } }

/-- One connected peer. -/
def Wired (peer : Int32) (s : Session LoopTransport) : Prop :=
  s.transport.outbox.map Prod.fst = [peer]

/-- Everything queued. -/
def outgoing (s : Session LoopTransport) : List Bytes :=
  s.transport.outbox.flatMap Prod.snd

/-- Everything arrived and not yet read. -/
def inbound (s : Session LoopTransport) : List Bytes :=
  s.transport.inbox.map (·.bytes)

lemma wired_iff : s.Wired peer ↔ s.transport.outbox = [(peer, s.outgoing)] := by
  unfold Wired outgoing
  constructor
  · intro h
    rcases map_eq_singleton_iff.1 h with ⟨⟨id, queue⟩, hout, hid⟩
    obtain rfl : id = peer := hid
    simp [hout]
  · intro h
    rw [h]
    rfl

@[simp] lemma say_nil (s : Session LoopTransport) : s.say [] = s := by
  simp [say]

lemma say_say (s : Session LoopTransport) (a b : List Bytes) :
    (s.say a).say b = s.say (a ++ b) := by
  simp [say]

lemma Wired.say (h : s.Wired peer) (ms : List Bytes) : (s.say ms).Wired peer := by
  unfold Wired at h ⊢
  simpa [Session.say, Function.comp_def] using h

lemma outgoing_say (h : s.Wired peer) (ms : List Bytes) :
    (s.say ms).outgoing = s.outgoing ++ ms := by
  rw [wired_iff] at h
  conv_lhs => unfold outgoing Session.say
  simp [h]

/-! ## Closed forms -/

lemma transmit_all (s : Session LoopTransport) (m : Bytes) :
    s.transmit .all m = .ok (s.say [m]) () := by
  simp [transmit, Transport.send, LoopTransport.send, say, Outcome.ok]

lemma transmit_one (h : s.Wired peer) (m : Bytes) :
    s.transmit (.one peer) m = .ok (s.say [m]) () := by
  rw [wired_iff] at h
  simp [transmit, Transport.send, LoopTransport.send, say, Outcome.ok, h]

lemma republishReady_eq (s : Session LoopTransport) :
    s.republishReady = .ok (s.say [(readyFlag s.localReady).encode]) () :=
  transmit_all _ _

lemma answerAdd_eq (s : Session LoopTransport) : s.answerAdd = .ok (if s.role = .host then
      s.say [s.playerListPacket.encode, (addPlayer s.localName s.localId true).encode]
      else s) () := by
  unfold answerAdd
  split
  · rw [emitAll, transmit_all, ok_andThen, emitAll, transmit_all, say_say]
    rfl
  · rfl

def greeting (s : Session LoopTransport) (peer : Int32) : Session LoopTransport :=
  if peer ∈ s.announcedTo then s
  else
    { s.say [(InternalPacket.addPlayer s.localName s.localId (s.role = .host)).encode,
        (InternalPacket.readyFlag s.localReady).encode] with
      announcedTo := s.announcedTo ++ [peer] }

lemma greetFresh_eq (h : s.Wired peer) : s.greetFresh = .ok (s.greeting peer) () := by
  have hpeers : Transport.peers s.transport = [peer] := h
  unfold greetFresh greeting
  simp only [hpeers]
  by_cases hknown : peer ∈ s.announcedTo
  · simp [hknown, greetAll]
  · simp only [hknown, not_false_eq_true, decide_true, filter_cons_of_pos, filter_nil,
      if_false, greetAll, emitTo]
    rw [transmit_one h, ok_andThen, transmit_one (h.say _), ok_andThen, say_say]
    rfl

lemma sendPulse_eq (s : Session LoopTransport) (nowMs : UInt64) :
    s.sendPulse nowMs = .ok (if s.pulseIntervalMs ≤ saturatingSub nowMs s.lastPulseSentMs then
      { s.say [pulse.encode] with lastPulseSentMs := nowMs } else s) () := by
  unfold sendPulse
  split
  · rw [emitAll, transmit_all, ok_andThen]
  · rfl

end Session

end Don.Net
