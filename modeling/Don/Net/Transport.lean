import Don.Foundation.Bytes
import Don.Foundation.Outcome

/-!
# Transport — the datagram contract under a session

`crates/don-net/src/transport.rs`: the trait a session is generic over, and the in-process
implementation.  A transport keeps its own identity for life; both implementations hold it in a field
that no method writes, and the class records that as a law.
-/

namespace Don.Net

open Foundation

inductive IoErrorKind where
  | invalidInput
  | invalidData
  | brokenPipe
  | connectionReset
  | writeZero
  | other
  deriving DecidableEq

structure IoError where
  kind : IoErrorKind
  message : String
  deriving DecidableEq

inductive Dest where
  | all
  | one (uniqueId : Int32)
  deriving DecidableEq

/-- One received datagram and the unique id of the peer it came from (`from` in the source). -/
structure Datagram where
  sender : Int32
  bytes : Bytes
  deriving DecidableEq

class Transport (τ : Type) where
  send : τ → Dest → Bytes → Outcome τ IoError Unit
  recv : τ → Outcome τ IoError (Option Datagram)
  /-- Drive I/O for at most a budget, in nanoseconds. -/
  poll : τ → Nat → Outcome τ IoError Unit
  peers : τ → List Int32
  localId : τ → Int32
  localId_send : ∀ t dest bytes, localId (send t dest bytes).state = localId t
  localId_recv : ∀ t, localId (recv t).state = localId t
  localId_poll : ∀ t budget, localId (poll t budget).state = localId t

/-! ## The in-process transport -/

/-- An endpoint wired to others in the same process; `outbox` is drained by whoever pumps it. -/
structure LoopTransport where
  id : Int32
  inbox : List Datagram
  outbox : List (Int32 × List Bytes)
  deriving DecidableEq

namespace LoopTransport

def new (id : Int32) : LoopTransport :=
  { id,
    inbox := []
    outbox := [] }

def connect (t : LoopTransport) (peer : Int32) : LoopTransport :=
  if t.outbox.any (·.1 = peer) then t else { t with outbox := t.outbox ++ [(peer, [])] }

def send (t : LoopTransport) (dest : Dest) (bytes : Bytes) : LoopTransport :=
  { t with
    outbox := t.outbox.map fun q =>
      if dest = .all ∨ dest = .one q.1 then (q.1, q.2 ++ [bytes]) else q }

end LoopTransport

instance : Transport LoopTransport where
  send t dest bytes := .ok (t.send dest bytes) ()
  recv t :=
    match t.inbox with
    | [] => .ok t none
    | d :: rest => .ok { t with inbox := rest } (some d)
  poll t _ := .ok t ()
  peers t := t.outbox.map Prod.fst
  localId t := t.id
  localId_send _ _ _ := rfl
  localId_recv t := by cases h : t.inbox <;> simp
  localId_poll _ _ := rfl

end Don.Net
