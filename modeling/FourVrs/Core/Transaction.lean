import FourVrs.Core.Deadline
import FourVrs.Lib.RingBuffer

/-!
# Transactions and their queue (`core/transaction.h`, `core/port_runtime.c`)

A transaction is the record the port runtime copies from its queue to the active
slot and hands to the completion callback. One field is not the source's:
`serial`, the position of the transaction among all accepted ones. Transaction
ids wrap after 2³² submissions, so the id cannot say *which* acceptance a record
stems from; no function reads `serial`, every struct copy carries it along.
-/

set_option autoImplicit false

namespace FourVrs.Core

def coreTransactionPayloadMax : Nat := 256
def coreTransportMetadataWords : Nat := 4
def coreQueueCapacity : Nat := 8
def coreQueueBytesMax : Nat := 1024

-- Ports, clients and peers are counted from 0 to 7.
instance neZeroEight : @NeZero Nat Zero.ofOfNat0 8 := ⟨by decide⟩

inductive CoreTransactionStatus where
  | queued | active | completed | timedOut | cancelled | failed | malformed
  deriving DecidableEq, Repr, Inhabited

inductive CoreOperationDirection where
  | txOnly | rxOnly | txThenRx
  deriving DecidableEq, Repr, Inhabited

inductive CoreResponsePolicy where
  | none | fixedLength | backendFramed
  deriving DecidableEq, Repr, Inhabited

structure CoreOperation where
  direction : CoreOperationDirection
  responsePolicy : CoreResponsePolicy
  expectedResponseLength : Nat
  deriving DecidableEq, Repr, Inhabited

structure CoreTransaction where
  id : BitVec 32
  generation : BitVec 32
  ownerKind : BitVec 32
  ownerId : BitVec 32
  transportMetadata : List (BitVec 32)
  operation : CoreOperation
  enqueuedAt : CoreTick
  startedAt : CoreTick
  queueDeadline : CoreDeadline
  responseDeadline : CoreDeadline
  responseTimeout : CoreTick
  payload : List UInt8
  status : CoreTransactionStatus
  cancelled : Bool
  requestTransmitted : Bool
  /-- Ghost: how many transactions were accepted before this one. -/
  serial : Nat
  deriving DecidableEq, Repr

/-- `memset(&transaction, 0, sizeof(transaction))`. -/
def zeroTransaction : CoreTransaction where
  id := 0
  generation := 0
  ownerKind := 0
  ownerId := 0
  transportMetadata := List.replicate coreTransportMetadataWords 0
  operation := { direction := .txOnly, responsePolicy := .none, expectedResponseLength := 0 }
  enqueuedAt := 0
  startedAt := 0
  queueDeadline := { dueAt := 0, armed := false }
  responseDeadline := { dueAt := 0, armed := false }
  responseTimeout := 0
  payload := []
  status := .queued
  cancelled := false
  requestTransmitted := false
  serial := 0

instance : Inhabited CoreTransaction := ⟨zeroTransaction⟩

/-- The transaction as it was queued: what the runtime writes into a record after
    its acceptance is taken back. -/
def CoreTransaction.submitted (t : CoreTransaction) : CoreTransaction :=
  { t with
    generation := 0, startedAt := 0, responseDeadline := { dueAt := 0, armed := false }
    status := .queued, cancelled := false, requestTransmitted := false }

/-! ## The queue -/

structure TransactionQueue where
  ring : RingBuffer CoreTransaction coreQueueCapacity
  bytes : Nat

def emptyQueue : TransactionQueue :=
  { ring := RingBuffer.empty zeroTransaction (by decide), bytes := 0 }

def TransactionQueue.count (queue : TransactionQueue) : Nat := queue.ring.count

/-- The queued transactions, oldest first. -/
def TransactionQueue.toList (queue : TransactionQueue) : List CoreTransaction :=
  queue.ring.toList

/-- `none` is the source's `-1`: no slot free, or too many payload bytes queued. -/
def queuePush (queue : TransactionQueue) (transaction : CoreTransaction) :
    Option TransactionQueue :=
  if h : queue.ring.count < coreQueueCapacity then
    if queue.bytes + transaction.payload.length > coreQueueBytesMax then none
    else some
      { ring := queue.ring.push transaction h
        bytes := queue.bytes + transaction.payload.length }
  else none

def queuePop (queue : TransactionQueue) : Option (CoreTransaction × TransactionQueue) :=
  if h : 0 < queue.ring.count then
    some ((queue.ring.pop h).1,
      { ring := (queue.ring.pop h).2
        bytes := queue.bytes - (queue.ring.pop h).1.payload.length })
  else none

@[simp] theorem toList_emptyQueue : emptyQueue.toList = [] := RingBuffer.toList_empty _ _

@[simp] theorem length_queue (queue : TransactionQueue) :
    queue.toList.length = queue.count := RingBuffer.length_toList _

theorem queuePush_toList {queue queue' : TransactionQueue} {t : CoreTransaction}
    (h : queuePush queue t = some queue') : queue'.toList = queue.toList ++ [t] := by
  unfold queuePush at h
  split at h
  · split at h
    · exact absurd h (by simp)
    · simp only [Option.some.injEq] at h
      subst h
      exact RingBuffer.toList_push _ _ _
  · exact absurd h (by simp)

theorem queuePop_toList {queue queue' : TransactionQueue} {t : CoreTransaction}
    (h : queuePop queue = some (t, queue')) : queue.toList = t :: queue'.toList := by
  unfold queuePop at h
  split at h
  · rename_i hpos
    simp only [Option.some.injEq, Prod.mk.injEq] at h
    obtain ⟨rfl, rfl⟩ := h
    exact RingBuffer.toList_pop _ hpos
  · exact absurd h (by simp)

theorem queuePop_eq_none {queue : TransactionQueue} :
    queuePop queue = none ↔ queue.toList = [] := by
  unfold queuePop TransactionQueue.toList
  rw [RingBuffer.toList_eq_nil]
  split
  · simp; omega
  · simp; omega

end FourVrs.Core
