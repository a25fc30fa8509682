import OvsP4ctl.Python

/-!
# Sessions: `with_client`

Every command is wrapped by `with_client`: it resolves the bridge's device id, builds a
`P4RuntimeClient` (which opens the channel, starts the receiver thread and does the arbitration
handshake), runs the command, and in its `finally` block calls `tear_down` **if `client` is
set**.  `client` is set only when the constructor returns.

`with_client env` runs it against `env`, the outcome of each step, and records the events that
acquire and release resources.  The handshake assigns the device id to the `uint64` field
`arbitration.device_id`, which raises `ValueError` for an id out of its range, after the receiver
thread has started; a handshake without a reply (the sentinel, or no reply within 2 s) makes the
constructor call `sys.exit(1)`.

* `runSession_events` : the events of every exit path, by how far the steps got;
* `released_sessionEvents` : **a session releases what it acquired exactly when its client was
  built**: once the channel is created, the channel is closed and the receiver thread is sent the
  sentinel and joined (each once) on every exit of the command, return or exception, and on no
  exit of the constructor after the channel exists.

What this does not say: whether `tear_down`'s `join` returns; the model assumes it does (the
server ends the stream once the request iterator stops).
-/

namespace OvsP4ctl

/-- The events of a session that acquire or release a resource. -/
inductive SessionEvent where
  | openChannel
  | startThread
  /-- A request put on `stream_out_q`. -/
  | putRequest
  /-- The closing sentinel put on `stream_out_q`. -/
  | putSentinel
  | joinThread
  | closeChannel
  deriving DecidableEq, Repr

/-- How a session ends. -/
inductive SessionExit where
  | raised (e : PyExc)
  | systemExit (code : Nat)
  deriving DecidableEq, Repr

/-- The outcome of each step of a session. -/
structure SessionEnv where
  deviceId : Except PyExc Int
  /-- `grpc.insecure_channel(grpc_addr)`. -/
  channel : Except PyExc Unit
  /-- `self.stub.StreamChannel(stream_req_iterator())`. -/
  stream : Except PyExc Unit
  /-- `self.stream_recv_thread.start()`. -/
  threadStart : Except PyExc Unit
  /-- `get_stream_packet("arbitration", timeout=2)`: the reply's `is_master`, or `None`. -/
  arbitration : Option Bool
  /-- The command `f(client, *args)`. -/
  command : Except PyExc Unit

/-- The values of a `uint64` field such as `arbitration.device_id`; assigning another one raises
`ValueError`. -/
def InUInt64 (n : Int) : Prop := 0 ≤ n ∧ n < 2 ^ 64

instance : DecidablePred InUInt64 := fun _ => inferInstanceAs (Decidable (_ ∧ _))

/-- Code that records session events and may raise or exit. -/
abbrev Session := ExceptT SessionExit (StateM (List SessionEvent))

/-- Records `ev`. -/
def emit (ev : SessionEvent) : Session Unit := modify (· ++ [ev])

/-- Raises the exception of a step that failed. -/
def raiseOf {α : Type} : Except PyExc α → Session α
  | .ok a => pure a
  | .error e => throw (.raised e)

@[simp] theorem raiseOf_ok {α : Type} (a : α) : raiseOf (.ok a) = pure a := rfl

/-- The statement `r` run to its end: its outcome, with what it raised or exited with. -/
def observe {α : Type} (r : Session α) : Session (Except SessionExit α) :=
  tryCatch (Except.ok <$> r) fun x => pure (.error x)

/-- `P4RuntimeClient.__init__` for the device id `deviceId`, with `set_up_stream` and `handshake`. -/
def P4RuntimeClient.init (env : SessionEnv) (deviceId : Int) : Session Unit := do
  raiseOf env.channel
  emit .openChannel
  raiseOf env.stream
  raiseOf env.threadStart
  emit .startThread
  if ¬ InUInt64 deviceId then
    throw (.raised (.valueError ("Value out of range: " ++ toString deviceId)))
  emit .putRequest
  match env.arbitration with
  | none => throw (.systemExit 1)
  | some _ => pure ()

/-- `P4RuntimeClient.tear_down`. -/
def P4RuntimeClient.tear_down : Session Unit := do
  emit .putSentinel
  emit .joinThread
  emit .closeChannel

/-- `with_client(f)(*args)`. -/
def with_client (env : SessionEnv) : Session Unit := do
  let client ← observe do
    let deviceId ← raiseOf env.deviceId
    P4RuntimeClient.init env deviceId
  match client with
  | .error x => throw x
  | .ok () =>
    let r ← observe (raiseOf env.command)
    P4RuntimeClient.tear_down
    match r with
    | .ok () => pure ()
    | .error x => throw x

/-- The events and the outcome of a whole session. -/
def runSession (env : SessionEnv) : Except SessionExit Unit × List SessionEvent :=
  (with_client env).run.run []

/-- Every channel opened is closed once, and every receiver thread started has been sent the
sentinel and joined once. -/
def Released (evs : List SessionEvent) : Prop :=
  evs.count .closeChannel = evs.count .openChannel ∧
    evs.count .putSentinel = evs.count .startThread ∧
    evs.count .joinThread = evs.count .startThread

instance (evs : List SessionEvent) : Decidable (Released evs) := by
  unfold Released; infer_instance

/-! ### The resources of a session -/

/-- The events of a session, by how far its steps got: the channel is opened once the device id
is resolved and the channel created, the receiver thread once the stream is set up and started,
the request is put once the id fits in `uint64`, and the session is torn down only when the
constructor returns. -/
def sessionEvents (env : SessionEnv) : List SessionEvent :=
  match env.deviceId with
  | .error _ => []
  | .ok n =>
    if env.channel.isOk then
      .openChannel :: if env.stream.isOk && env.threadStart.isOk then
        .startThread :: if InUInt64 n then
          .putRequest :: if env.arbitration.isSome then [.putSentinel, .joinThread, .closeChannel]
          else []
        else []
      else []
    else []

/-- The case analysis over every exit path: the events of `with_client`. -/
theorem runSession_events (env : SessionEnv) : (runSession env).2 = sessionEvents env := by
  rcases env with ⟨_ | n, _ | _, _ | _, _ | _, _ | _, _ | _⟩ <;> try rfl
  all_goals by_cases hn : InUInt64 n <;>
    simp only [runSession, with_client, P4RuntimeClient.init, sessionEvents, raiseOf_ok, pure_bind,
      hn, not_true_eq_false, not_false_eq_true, if_true, if_false] <;> rfl

/-- **A session releases its resources exactly when its client was built**: once the channel is
opened, the channel is closed and the receiver thread stopped only if the constructor returned,
which needs a device id that fits in `uint64` and an arbitration reply. -/
theorem released_sessionEvents (env : SessionEnv) :
    Released (sessionEvents env) ↔ ∀ n, env.deviceId = .ok n → env.channel.isOk →
      InUInt64 n ∧ env.stream.isOk ∧ env.threadStart.isOk ∧ env.arbitration.isSome := by
  unfold sessionEvents
  rcases env.deviceId with e | n
  · simp [Released]
  by_cases hn : InUInt64 n <;>
    cases env.channel.isOk <;> cases env.stream.isOk <;> cases env.threadStart.isOk <;>
    cases env.arbitration.isSome <;> simp [hn, Released]

/-- No arbitration reply within the timeout: the constructor exits, and the channel stays open
and the receiver thread is neither sent the sentinel nor joined. -/
theorem with_client_noArbitration (command : Except PyExc Unit) :
    runSession ⟨.ok 1, .ok (), .ok (), .ok (), none, command⟩ =
      (.error (.systemExit 1), [.openChannel, .startThread, .putRequest]) ∧
    ¬ Released [.openChannel, .startThread, .putRequest] :=
  ⟨by cases command <;> rfl, by decide⟩

end OvsP4ctl
