import OvsP4ctl.AddEntry
import OvsP4ctl.Device
import OvsP4ctl.Session

/-!
# The command line: `main`

`main` reads the command name from `sys.argv[1]`, looks it up in `all_commands`, and calls the
command with the remaining arguments, `all_commands[command](*sys.argv[2:])`.  Each command is
`with_client` around its function: the wrapper connects to the bridge's switch, calls
`f(client, *args)`, and disconnects.  An exception the command raises is printed as
`Error: <str(e)>` and the process exits with status 1; an unknown command prints the usage text
and exits with status 0.

A run of the script is a `Cli` value: the events it causes, in order, and how it ends, or `none`
when it does not end.  The events are what can be seen from outside: the lines printed, the
resources of the session (as in `OvsP4ctl.Session`), and the requests that change the switch:
`Write` and `set_fwd_pipe_config`.  A `World` fixes everything outside the script: OVSDB, the
channel, the stream, the arbitration reply, the server's answers, and the libraries' renderings.

`Cli.with_client` is `with_client` with its command given as code; `OvsP4ctl.with_client` of
`OvsP4ctl.Session` is the same wrapper with the command's outcome given instead
(`OvsP4ctl.Resources` connects the two).

* `p4ctl_set_pipe_of_argv` : **`set-pipe` never sets the pipeline**: called as `main` calls it,
  with `sys.argv[2:]`, the function either prints its usage error or raises `TypeError`;
* `p4ctl_add_entry_of_argv` : `add-entry`'s test `len(sys.argv) < 5` never holds;
* `main_events` : **what a run of `main` causes**: lines printed, session events, and at most the
  `Write` of `add-entry`, which is the `INSERT` its flow describes;
-/

namespace OvsP4ctl

/-- What a run of the script causes that can be seen from outside. -/
inductive CliEvent where
  /-- A `print(...)`: the text of the call, without its line end. -/
  | print (text : String)
  | session (ev : SessionEvent)
  /-- A `Write` RPC, with the request sent. -/
  | write (req : WriteRequest)
  /-- A call of `set_fwd_pipe_config(p4info_path, bin_path)`. -/
  | setFwdPipeConfig (p4infoPath binPath : String)
  deriving DecidableEq, Repr

/-- How a run of the script ends before its end. -/
inductive CliExit where
  | raised (e : P4Exc)
  | systemExit (code : Nat)
  /-- The `KeyError` that `str` of a write exception raises in `main`'s handler. -/
  | keyError (key : Int)
  deriving DecidableEq, Repr

/-- A run of code of the script: the events it causes, in order, and how it ends; `none` when it
does not end. -/
def Cli (α : Type) : Type := Option (List CliEvent × Except CliExit α)

namespace Cli

instance : Monad Cli where
  pure a := some ([], .ok a)
  bind x f := match x with
    | none => none
    | some (t, .error e) => some (t, .error e)
    | some (t, .ok a) => (f a).map fun r => (t ++ r.1, r.2)

/-- Records `ev`. -/
def emit (ev : CliEvent) : Cli Unit := some ([ev], .ok ())

/-- Ends the run early with `x`. -/
def exit {α : Type} (x : CliExit) : Cli α := some ([], .error x)

/-- Code of the model that returns or raises. -/
def ofExcept {α : Type} : Except P4Exc α → Cli α
  | .ok a => pure a
  | .error e => exit (.raised e)

/-- Code of the model that may also not return. -/
def ofOption {α : Type} : Option (Except P4Exc α) → Cli α
  | none => none
  | some r => ofExcept r

/-- Code of the model that raises a built-in exception. -/
def raisePy {α : Type} (r : Except PyExc α) : Cli α := ofExcept (r.mapError .py)

/-- The statement `x` run to its end, as in a `try` block: its outcome, with how it ended. -/
def observe {α : Type} (x : Cli α) : Cli (Except CliExit α) :=
  match x with
  | none => none
  | some (t, r) => some (t, .ok r)

end Cli

open Cli

/-- Everything outside the script that a run depends on. -/
structure World where
  /-- `parser.parse_args([arg])` for an argument whose first character is `-`: the command
  argparse reads, or the status it exits with (after `--help`, or an error). -/
  parseOption : String → Except Nat String
  /-- `ovs.find_bridge(name)`. -/
  findBridge : String → Bool
  /-- `ovs.get_bridge_raw()`. -/
  bridgeRows : List BridgeRow
  /-- `grpc.insecure_channel(grpc_addr)`. -/
  channel : Except PyExc Unit
  /-- `self.stub.StreamChannel(stream_req_iterator())`. -/
  stream : Except PyExc Unit
  /-- `self.stream_recv_thread.start()`. -/
  threadStart : Except PyExc Unit
  /-- `get_stream_packet("arbitration", timeout=2)`: the reply's `is_master`, or `None`. -/
  arbitration : Option Bool
  stubGet : GetForwardingPipelineConfigRequest → Except RpcError P4Info
  stubWrite : WriteRequest → Except RpcError Unit
  /-- What `set_fwd_pipe_config` does with its paths: it reads both files, parses the P4Info
  text, and sends the request. -/
  setFwdPipeConfig : String → String → Except P4Exc Unit
  /-- `str` of a `P4Info` message: its text format. -/
  p4infoText : P4Info → String
  /-- `str` of a `grpc.RpcError`. -/
  rpcErrorText : RpcError → String

/-- A world whose OVSDB has no bridge, so that every command fails to resolve its bridge. -/
instance : Inhabited World where
  default :=
    { parseOption := fun _ => .error 2
      findBridge := fun _ => false
      bridgeRows := []
      channel := .ok ()
      stream := .ok ()
      threadStart := .ok ()
      arbitration := none
      stubGet := fun _ => .ok ⟨[], []⟩
      stubWrite := fun _ => .ok ()
      setFwdPipeConfig := fun _ _ => .ok ()
      p4infoText := fun _ => ""
      rpcErrorText := fun _ => "" }

/-- A world whose OVSDB has one bridge, `br0`, with the device id `deviceId`, and whose switch
makes the client master. -/
def oneBridge (deviceId : String) : World :=
  { (default : World) with
    findBridge := (· == "br0")
    bridgeRows := [⟨"br0", ovsdbMap [("device_id", deviceId)]⟩]
    arbitration := some true }

namespace Cli

variable (w : World)

/-! ### The client -/

/-- `P4RuntimeClient.handshake`, which ends the constructor: the client built has the device id
and the default election id `(1, 0)`.  The id is stored in the `uint64` field `device_id` of
the arbitration request. -/
def handshake (deviceId : Int) : Cli P4RuntimeClient :=
  if 0 ≤ deviceId ∧ deviceId < 2 ^ 64 then do
    emit (.session .putRequest)
    match w.arbitration with
    | none => exit (.systemExit 1)
    | some isMaster => do
      (if isMaster then pure () else
        emit (.print "You are not master, you only have read access to the server"))
      pure ⟨deviceId.toNat, (1, 0)⟩
  else exit (.raised (.py (.valueError ("Value out of range: " ++ toString deviceId))))

/-- `P4RuntimeClient(device_id=deviceId)`: `__init__`, with `set_up_stream` and `handshake`. -/
def connect (deviceId : Int) : Cli P4RuntimeClient := do
  raisePy w.channel
  emit (.session .openChannel)
  raisePy w.stream
  raisePy w.threadStart
  emit (.session .startThread)
  handshake w deviceId

/-- `P4RuntimeClient.tear_down`. -/
def tear_down : Cli Unit := do
  emit (.session .putSentinel)
  emit (.session .joinThread)
  emit (.session .closeChannel)

/-- `with_client(f)(*args)`: `f client args` is the call `f(client, *args)`. -/
def with_client (f : P4RuntimeClient → List String → Cli Unit) (args : List String) : Cli Unit := do
  let client ← observe do
    let bridge ← (match args with
      | [] => exit (.raised (.py (.indexError "tuple index out of range")))
      | bridge :: _ => pure bridge)
    let deviceId ← raisePy (resolve_device_id_by_bridge_name (w.findBridge bridge) w.bridgeRows
      bridge)
    connect w deviceId
  match client with
  | .error x => exit x
  | .ok client =>
    let r ← observe (f client args)
    tear_down
    match r with
    | .ok () => pure ()
    | .error x => exit x

/-- `P4RuntimeClient.write_update(update)`: the request it sends, and what the call raises. -/
def write_update (fuel : Nat) (client : P4RuntimeClient) (update : Update) : Cli Unit := do
  emit (.write ⟨client.deviceId, ⟨client.electionId.1, client.electionId.2⟩, [update]⟩)
  ofOption (client.write_update fuel update w.stubWrite)

/-- `P4RuntimeClient.set_fwd_pipe_config(p4info_path, bin_path)`. -/
def set_fwd_pipe_config (p4infoPath binPath : String) : Cli Unit := do
  emit (.setFwdPipeConfig p4infoPath binPath)
  ofExcept (w.setFwdPipeConfig p4infoPath binPath)

/-! ### The commands -/

/-- The names in a `missing ... argument` message: `'a'`, `'a' and 'b'`, `'a', 'b', and 'c'`. -/
def missingNames : List String → String
  | [a, b] => a ++ " and " ++ b
  | names => serial names
where
  serial : List String → String
    | [] => ""
    | [a] => a
    | [a, b] => a ++ ", and " ++ b
    | a :: rest => a ++ ", " ++ serial rest

/-- CPython's `TypeError` for a call of `name`, whose positional parameters are `params`, with
`given` positional arguments. -/
def positionalError (name : String) (params : List String) (given : Nat) : PyExc :=
  if given < params.length then
    let missing := (params.drop given).map pyRepr
    .typeError (name ++ "() missing " ++ toString missing.length ++
      " required positional argument" ++
      (if missing.length = 1 then "" else "s") ++ ": " ++ missingNames missing)
  else
    .typeError (name ++ "() takes " ++ toString params.length ++ " positional argument" ++
      (if params.length = 1 then "" else "s") ++ " but " ++ toString given ++
      (if given = 1 then " was" else " were") ++ " given")

/-- `p4ctl_set_pipe(client, bridge)`, with `sys.argv` = `argv`. -/
def p4ctl_set_pipe (argv : List String) (_client : P4RuntimeClient) : List String → Cli Unit
  | [_bridge] =>
    if argv.length < 5 then
      emit (.print "ovs-p4ctl: 'set-pipe' command requires at least 3 arguments")
    else do
      let deviceConfig ← raisePy (pyIndex argv 3)
      let p4info ← raisePy (pyIndex argv 4)
      set_fwd_pipe_config w p4info deviceConfig
  | args => raisePy (.error (positionalError "p4ctl_set_pipe" ["client", "bridge"]
      (args.length + 1)))

/-- `p4ctl_get_pipe(client, bridge)`.  A `P4Info` message is always true, so its test passes. -/
def p4ctl_get_pipe (client : P4RuntimeClient) : List String → Cli Unit
  | [bridge] => do
    let p4info ← ofExcept (client.get_p4info w.stubGet)
    emit (.print ("P4Info of bridge " ++ bridge ++ ":"))
    emit (.print (w.p4infoText p4info))
  | args => raisePy (.error (positionalError "p4ctl_get_pipe" ["client", "bridge"]
      (args.length + 1)))

/-- `p4ctl_add_entry(client, bridge, tbl_name, flow)`, with `sys.argv` = `argv`: its argument
check, then `OvsP4ctl.p4ctl_add_entry` with the Write recorded. -/
def p4ctl_add_entry (fuel : Nat) (argv : List String) (client : P4RuntimeClient) :
    List String → Cli Unit
  | [_bridge, tblName, flow] =>
    if argv.length < 5 then
      emit (.print "ovs-p4ctl: 'add-entry' command requires at least 3 arguments")
    else do
      let update ← ofExcept (addEntryUpdate client w.stubGet tblName flow)
      write_update w fuel client update
  | args => raisePy (.error (positionalError "p4ctl_add_entry"
      ["client", "bridge", "tbl_name", "flow"] (args.length + 1)))

/-- `p4ctl_del_entry(client, bridge)`. -/
def p4ctl_del_entry (_client : P4RuntimeClient) : List String → Cli Unit
  | [_bridge] => raisePy (.error (.notImplementedError ""))
  | args => raisePy (.error (positionalError "p4ctl_del_entry" ["client", "bridge"]
      (args.length + 1)))

/-- `all_commands`: each command is `with_client` around its function. -/
def all_commands (fuel : Nat) (argv : List String) : List (String × (List String → Cli Unit)) :=
  [("set-pipe", with_client w (p4ctl_set_pipe w argv)),
    ("get-pipe", with_client w (p4ctl_get_pipe w)),
    ("add-entry", with_client w (p4ctl_add_entry w fuel argv)),
    ("del-entry", with_client w p4ctl_del_entry)]

/-! ### `main` -/

/-- `USAGE`. -/
def USAGE : String :=
  "ovs-p4ctl: P4Runtime switch management utility\n" ++
  "usage: ovs-p4ctl [OPTIONS] COMMAND [ARG...]\n" ++
  "\nFor P4Runtime switches:\n" ++
  "  show SWITCH                 show P4Runtime switch information\n" ++
  "  set-pipe SWITCH PROGRAM P4INFO  set P4 pipeline for the swtich\n" ++
  "  get-pipe SWITCH             get current P4 pipeline (P4Info) and print it\n" ++
  "  dump-tables SWITCH          print table stats\n" ++
  "  dump-table SWITCH TABLE     print table information\n" ++
  "  add-entry SWITCH TABLE MATCH_KEY ACTION ACTION_DATA  adds new table entry\n"

/-- `usage()`. -/
def usage : Cli Unit := do
  emit (.print USAGE)
  exit (.systemExit 0)

/-- `parser.parse_args(sys.argv[1:2])`, whose one positional argument is `command`: an argument
that does not start with `-` (argparse tests `arg_string[0]`) is the command itself. -/
def parse_args (arg : String) : Cli String :=
  if arg.data.head? = some '-' then
    match w.parseOption arg with
    | .ok command => pure command
    | .error code => exit (.systemExit code)
  else pure arg

/-- `main`'s `commands[command](*sys.argv[2:])` in its `try`, with the `except Exception as e`
clause that prints `str(e)` and exits with status `1`. -/
def runCommand (handle : List String → Cli Unit) (args : List String) : Cli Unit := do
  match ← observe (handle args) with
  | .ok () => pure ()
  | .error (.raised e) =>
    match e.str w.rpcErrorText with
    | .ok s =>
      emit (.print ("Error: " ++ s))
      exit (.systemExit 1)
    | .error key => exit (.keyError key)
  | .error x => exit x

/-- `main()`, with `sys.argv` = `argv`; the Write's error loop is given `fuel` passes. -/
def main (fuel : Nat) (argv : List String) : Cli Unit :=
  match argv with
  | _ :: arg :: rest => do
    let command ← parse_args w arg
    match (all_commands w fuel argv).lookup command with
    | none => usage
    | some handle => runCommand w handle rest
  | _ => do
    emit (.print "ovs-p4ctl: missing command name; use --help for help")
    exit (.systemExit 1)

/-! ### Running the monad -/

@[simp] theorem bind_none {α β : Type} (f : α → Cli β) : bind (m := Cli) none f = none := rfl

@[simp] theorem bind_error {α β : Type} (t : List CliEvent) (x : CliExit) (f : α → Cli β) :
    bind (m := Cli) (some (t, .error x)) f = some (t, .error x) := rfl

@[simp] theorem bind_ok {α β : Type} (t : List CliEvent) (a : α) (f : α → Cli β) :
    bind (m := Cli) (some (t, .ok a)) f = (f a).map fun r => (t ++ r.1, r.2) := rfl

@[simp] theorem pure_def {α : Type} (a : α) : (pure a : Cli α) = some ([], .ok a) := rfl

theorem pure_bind {α β : Type} (a : α) (f : α → Cli β) : (pure a >>= f : Cli β) = f a := by
  rcases h : f a with _ | ⟨t, r⟩ <;> simp [h]

@[simp] theorem emit_def (ev : CliEvent) : emit ev = some ([ev], .ok ()) := rfl

@[simp] theorem exit_def {α : Type} (x : CliExit) : (exit x : Cli α) = some ([], .error x) := rfl

@[simp] theorem raisePy_ok {α : Type} (a : α) : raisePy (.ok a : Except PyExc α) = pure a := rfl

@[simp] theorem raisePy_error {α : Type} (e : PyExc) :
    (raisePy (.error e) : Cli α) = exit (.raised (.py e)) := rfl

@[simp] theorem observe_none {α : Type} : observe (none : Cli α) = none := rfl

@[simp] theorem observe_some {α : Type} (t : List CliEvent) (r : Except CliExit α) :
    observe (some (t, r)) = some (t, .ok r) := rfl

/-! ### The events of a run -/

/-- Every event of every run of `x` satisfies `P`. -/
def Always (P : CliEvent → Prop) {α : Type} (x : Cli α) : Prop :=
  ∀ t r, x = some (t, r) → ∀ e ∈ t, P e

section Always

variable {P : CliEvent → Prop} {α β : Type}

theorem Always.pure (a : α) : Always P (pure a : Cli α) := by
  rintro t r ⟨⟩ e ⟨⟩

theorem Always.exit (x : CliExit) : Always P (exit x : Cli α) := by
  rintro t r ⟨⟩ e ⟨⟩

theorem Always.emit {ev : CliEvent} (h : P ev) : Always P (emit ev) := by
  rintro t r ⟨⟩ e he
  rwa [List.mem_singleton.1 he]

theorem Always.ofExcept (r : Except P4Exc α) : Always P (ofExcept r) := by
  cases r
  exacts [Always.exit _, Always.pure _]

theorem Always.raisePy (r : Except PyExc α) : Always P (raisePy r) := Always.ofExcept _

theorem Always.ofOption (r : Option (Except P4Exc α)) : Always P (ofOption r) := by
  cases r
  · rintro t r ⟨⟩
  · exact Always.ofExcept _

/-- The events of `x >>= f` are those of `x` and then those of `f a`, for the `a` that `x`
returns. -/
theorem Always.bind {x : Cli α} {f : α → Cli β} (hx : Always P x)
    (hf : ∀ t a, x = some (t, .ok a) → Always P (f a)) : Always P (x >>= f) := by
  intro t r h e he
  rcases x with _ | ⟨t₁, x | a⟩
  · cases h
  · cases h
    exact hx _ _ rfl e he
  · obtain ⟨⟨t₂, r₂⟩, h₂, heq⟩ := Option.map_eq_some'.1 h
    cases heq
    rcases List.mem_append.1 he with he | he
    exacts [hx _ _ rfl e he, hf _ _ rfl _ _ h₂ e he]

theorem Always.observe {x : Cli α} (hx : Always P x) : Always P (observe x) := by
  intro t r h e he
  rcases x with _ | ⟨t₁, r₁⟩
  · cases h
  · cases h
    exact hx _ _ rfl e he

theorem Always.ite {c : Prop} [Decidable c] {x y : Cli α} (hx : Always P x) (hy : Always P y) :
    Always P (if c then x else y) := by
  split
  exacts [hx, hy]

end Always

/-! ### What returns -/

theorem bind_eq_ok {α β : Type} {x : Cli α} {f : α → Cli β} {t : List CliEvent} {b : β} :
    bind (m := Cli) x f = some (t, .ok b) ↔
      ∃ t₁ a t₂, x = some (t₁, .ok a) ∧ f a = some (t₂, .ok b) ∧ t = t₁ ++ t₂ := by
  constructor
  · intro h
    rcases x with _ | ⟨t₁, x | a⟩
    · cases h
    · cases h
    · rw [bind_ok] at h
      rcases hf : f a with _ | ⟨t₂, r⟩ <;> rw [hf] at h <;> cases h
      exact ⟨t₁, a, t₂, rfl, hf, rfl⟩
  · rintro ⟨t₁, a, t₂, rfl, hf, rfl⟩
    rw [bind_ok, hf]
    rfl

/-- A run of `x >>= f` that ends: `x` raised, or `x` returned `a` and `f a` ended. -/
theorem bind_eq_some {α β : Type} {x : Cli α} {f : α → Cli β} {t : List CliEvent}
    {r : Except CliExit β} (h : bind (m := Cli) x f = some (t, r)) :
    (∃ e, x = some (t, .error e) ∧ r = .error e) ∨
      ∃ t₁ a t₂, x = some (t₁, .ok a) ∧ f a = some (t₂, r) ∧ t = t₁ ++ t₂ := by
  rcases x with _ | ⟨t₁, e | a⟩
  · cases h
  · cases h
    exact .inl ⟨e, rfl, rfl⟩
  · rw [bind_ok] at h
    rcases hf : f a with _ | ⟨t₂, r₂⟩ <;> rw [hf] at h <;> cases h
    exact .inr ⟨t₁, a, t₂, rfl, hf, rfl⟩

theorem observe_eq_ok {α : Type} {x : Cli α} {t : List CliEvent} {r : Except CliExit α}
    (h : observe x = some (t, .ok r)) : x = some (t, r) := by
  rcases x with _ | ⟨t₁, r₁⟩ <;> cases h
  rfl

theorem ofExcept_eq_ok {α : Type} {r : Except P4Exc α} {t : List CliEvent} {a : α}
    (h : ofExcept r = some (t, .ok a)) : r = .ok a := by
  cases r <;> cases h
  rfl

theorem raisePy_eq_ok {α : Type} {r : Except PyExc α} {t : List CliEvent} {a : α}
    (h : raisePy r = some (t, .ok a)) : r = .ok a := by
  cases r <;> cases h
  rfl

/-- The handshake returns only for an id that fits in `uint64`, and the client it builds has that
id and the election id `(1, 0)`. -/
theorem handshake_eq_ok {n : Int} {t : List CliEvent} {c : P4RuntimeClient}
    (h : handshake w n = some (t, .ok c)) : c = ⟨n.toNat, (1, 0)⟩ ∧ 0 ≤ n ∧ n < 2 ^ 64 := by
  unfold handshake at h
  split at h
  · obtain ⟨_, _, _, -, h, -⟩ := bind_eq_ok.1 h
    cases hm : w.arbitration with
    | none => rw [hm] at h; cases h
    | some m =>
      rw [hm] at h
      obtain ⟨_, _, _, -, h, -⟩ := bind_eq_ok.1 h
      cases h
      exact ⟨rfl, ‹_›⟩
  · cases h

theorem connect_eq_ok {n : Int} {t : List CliEvent} {c : P4RuntimeClient}
    (h : connect w n = some (t, .ok c)) : c = ⟨n.toNat, (1, 0)⟩ ∧ 0 ≤ n ∧ n < 2 ^ 64 := by
  obtain ⟨_, _, _, -, h, -⟩ := bind_eq_ok.1 h
  obtain ⟨_, _, _, -, h, -⟩ := bind_eq_ok.1 h
  obtain ⟨_, _, _, -, h, -⟩ := bind_eq_ok.1 h
  obtain ⟨_, _, _, -, h, -⟩ := bind_eq_ok.1 h
  obtain ⟨_, _, _, -, h, -⟩ := bind_eq_ok.1 h
  exact handshake_eq_ok w h

/-- `parse_args` reads the command without any event. -/
theorem parse_args_eq_ok {arg command : String} {t : List CliEvent}
    (h : parse_args w arg = some (t, .ok command)) : parse_args w arg = pure command := by
  unfold parse_args at h ⊢
  by_cases hd : arg.data.head? = some '-'
  · rw [if_pos hd] at h ⊢
    split at h <;> cases h
    rfl
  · rw [if_neg hd] at h ⊢
    cases h
    rfl

/-- The command a name resolves to. -/
theorem lookup_all_commands {fuel : Nat} {argv : List String} {command : String}
    {handle : List String → Cli Unit}
    (h : (all_commands w fuel argv).lookup command = some handle) :
    (command = "set-pipe" ∧ handle = with_client w (p4ctl_set_pipe w argv)) ∨
    (command = "get-pipe" ∧ handle = with_client w (p4ctl_get_pipe w)) ∨
    (command = "add-entry" ∧ handle = with_client w (p4ctl_add_entry w fuel argv)) ∨
    (command = "del-entry" ∧ handle = with_client w p4ctl_del_entry) := by
  simp only [all_commands, List.lookup_cons, List.lookup_nil] at h
  split at h <;> [skip; split at h <;> [skip; split at h <;> [skip; split at h]]] <;>
    simp_all

/-! ### The events of the commands -/

section Events

variable {P : CliEvent → Prop} (hs : ∀ ev, P (.session ev)) (hp : ∀ s, P (.print s))
include hs hp

theorem Always.handshake (n : Int) : Always P (handshake w n) := by
  unfold Cli.handshake
  refine Always.ite ((Always.emit (hs _)).bind fun _ _ _ => ?_) (Always.exit _)
  cases w.arbitration with
  | none => exact Always.exit _
  | some m =>
    exact (Always.ite (Always.pure _) (Always.emit (hp _))).bind fun _ _ _ => Always.pure _

theorem Always.connect (n : Int) : Always P (connect w n) :=
  (Always.raisePy _).bind fun _ _ _ => (Always.emit (hs _)).bind fun _ _ _ =>
    (Always.raisePy _).bind fun _ _ _ => (Always.raisePy _).bind fun _ _ _ =>
      (Always.emit (hs _)).bind fun _ _ _ => Always.handshake w hs hp n

omit hp in
theorem Always.tear_down : Always P tear_down :=
  (Always.emit (hs _)).bind fun _ _ _ => (Always.emit (hs _)).bind fun _ _ _ => Always.emit (hs _)

/-- The events of `with_client`: those of its session, and those of the call of `f` with the
client built for the bridge `args[0]`. -/
theorem Always.with_client {f : P4RuntimeClient → List String → Cli Unit} {args : List String}
    (hf : ∀ b n, args.head? = some b →
      resolve_device_id_by_bridge_name (w.findBridge b) w.bridgeRows b = .ok n → 0 ≤ n →
      n < 2 ^ 64 → Always P (f ⟨n.toNat, (1, 0)⟩ args)) :
    Always P (with_client w f args) := by
  unfold Cli.with_client
  refine (Always.observe ((?_ : Always P _).bind fun _ _ _ =>
    (Always.raisePy _).bind fun _ n _ => Always.connect w hs hp n)).bind fun _ c hc => ?_
  · cases args
    exacts [Always.exit _, Always.pure _]
  · rcases c with x | c
    · exact Always.exit _
    obtain ⟨_, b, _, hb, h, -⟩ := bind_eq_ok.1 (observe_eq_ok hc)
    obtain ⟨_, n, _, hn, h, -⟩ := bind_eq_ok.1 h
    obtain ⟨rfl, h0, hlt⟩ := connect_eq_ok w h
    have hhead : args.head? = some b := by
      cases args <;> cases hb
      rfl
    refine (Always.observe (hf b n hhead (raisePy_eq_ok hn) h0 hlt)).bind fun _ r _ =>
      (Always.tear_down hs).bind fun _ _ _ => ?_
    rcases r with _ | ⟨⟩
    exacts [Always.exit _, Always.pure _]

end Events

/-! ### The commands as `main` calls them -/

section Commands

variable {x arg : String}

/-- **`set-pipe` never sets the pipeline.**  Called as `main` calls it, with `sys.argv[2:]` as its
arguments, `p4ctl_set_pipe` never reaches `set_fwd_pipe_config`: with one argument `sys.argv`
has three items and the command prints its usage error, and with more the call itself raises
`TypeError`, since the function takes the bridge only. -/
theorem p4ctl_set_pipe_of_argv (c : P4RuntimeClient) (args : List String) :
    p4ctl_set_pipe w (x :: arg :: args) c args = match args with
      | [_] => emit (.print "ovs-p4ctl: 'set-pipe' command requires at least 3 arguments")
      | args => raisePy (.error (positionalError "p4ctl_set_pipe" ["client", "bridge"]
          (args.length + 1))) := by
  match args with
  | [] => rfl
  | [_] => rfl
  | _ :: _ :: _ => rfl

/-- Called as `main` calls it, `p4ctl_add_entry`'s test `len(sys.argv) < 5` never holds: the
call binds its three arguments only when `sys.argv` has five items. -/
theorem p4ctl_add_entry_of_argv (fuel : Nat) (c : P4RuntimeClient) (args : List String) :
    p4ctl_add_entry w fuel (x :: arg :: args) c args = match args with
      | [_, tblName, flow] => ofExcept (addEntryUpdate c w.stubGet tblName flow) >>=
          write_update w fuel c
      | args => raisePy (.error (positionalError "p4ctl_add_entry"
          ["client", "bridge", "tbl_name", "flow"] (args.length + 1))) := by
  match args with
  | [] => rfl
  | [_] => rfl
  | [_, _] => rfl
  | [_, _, _] => rfl
  | _ :: _ :: _ :: _ :: _ => rfl

variable {P : CliEvent → Prop} (hp : ∀ s, P (.print s))
include hp

theorem Always.p4ctl_set_pipe (c : P4RuntimeClient) (args : List String) :
    Always P (p4ctl_set_pipe w (x :: arg :: args) c args) := by
  rw [p4ctl_set_pipe_of_argv]
  split
  exacts [Always.emit (hp _), Always.raisePy _]

theorem Always.p4ctl_get_pipe (c : P4RuntimeClient) (args : List String) :
    Always P (p4ctl_get_pipe w c args) := by
  unfold Cli.p4ctl_get_pipe
  split
  · exact (Always.ofExcept _).bind fun _ _ _ =>
      (Always.emit (hp _)).bind fun _ _ _ => Always.emit (hp _)
  · exact Always.raisePy _

omit hp in
theorem Always.p4ctl_del_entry (c : P4RuntimeClient) (args : List String) :
    Always P (p4ctl_del_entry c args) := by
  unfold Cli.p4ctl_del_entry
  split <;> exact Always.raisePy _

omit hp in
/-- The events of `add-entry`, called as `main` calls it: the Write of the update
`addEntryUpdate` builds from its table and flow, and nothing else. -/
theorem Always.p4ctl_add_entry {fuel : Nat} {c : P4RuntimeClient} {args : List String}
    (hw : ∀ b t flow u, args = [b, t, flow] → addEntryUpdate c w.stubGet t flow = .ok u →
      P (.write ⟨c.deviceId, ⟨c.electionId.1, c.electionId.2⟩, [u]⟩)) :
    Always P (p4ctl_add_entry w fuel (x :: arg :: args) c args) := by
  rw [p4ctl_add_entry_of_argv]
  split
  · exact (Always.ofExcept _).bind fun _ u hu =>
      (Always.emit (hw _ _ _ u rfl (ofExcept_eq_ok hu))).bind fun _ _ _ => Always.ofOption _
  · exact Always.raisePy _

end Commands

/-! ### What `main` causes -/

theorem Always.parse_args {P : CliEvent → Prop} (arg : String) : Always P (parse_args w arg) := by
  unfold Cli.parse_args
  split
  · split
    exacts [Always.pure _, Always.exit _]
  · exact Always.pure _

/-- A run of the command in `main`'s `try`: the command's events, then lines printed. -/
theorem runCommand_eq_some {handle : List String → Cli Unit} {args : List String}
    {t : List CliEvent} {r : Except CliExit Unit} (h : runCommand w handle args = some (t, r)) :
    ∃ t₁ r₁ t₂, handle args = some (t₁, r₁) ∧ t = t₁ ++ t₂ ∧ ∀ e ∈ t₂, ∃ s, e = .print s := by
  rcases bind_eq_some h with ⟨_, ho, -⟩ | ⟨t₁, res, t₂, ho, hr, rfl⟩
  · unfold Cli.observe at ho
    split at ho <;> cases ho
  refine ⟨t₁, res, t₂, observe_eq_ok ho, rfl, (?_ : Always _ _) t₂ r hr⟩
  split
  · exact Always.pure _
  · split
    · exact (Always.emit ⟨_, rfl⟩).bind fun _ _ _ => Always.exit _
    · exact Always.exit _
  · exact Always.exit _

/-- **What a run of `main` is made of**: lines printed, around at most one run of the command of
`all_commands` that `sys.argv[1]` names, called with `sys.argv[2:]`. -/
theorem main_eq_some {fuel : Nat} {argv : List String} {t : List CliEvent}
    {r : Except CliExit Unit} (h : main w fuel argv = some (t, r)) :
    (∀ e ∈ t, ∃ s, e = .print s) ∨ ∃ x arg rest command handle t₁ r₁ t₂,
      argv = x :: arg :: rest ∧ parse_args w arg = pure command ∧
      (all_commands w fuel argv).lookup command = some handle ∧ handle rest = some (t₁, r₁) ∧
      t = t₁ ++ t₂ ∧ ∀ e ∈ t₂, ∃ s, e = .print s := by
  have hprint : ∀ s x, Always (fun e => ∃ s, e = .print s) (Cli.emit (.print s) >>= fun _ =>
      (exit x : Cli Unit)) := fun s _ =>
    (Always.emit ⟨s, rfl⟩).bind fun _ _ _ => Always.exit _
  rcases argv with _ | ⟨x, _ | ⟨arg, rest⟩⟩
  · exact .inl (hprint _ _ t r h)
  · exact .inl (hprint _ _ t r h)
  rcases bind_eq_some h with ⟨_, hp, -⟩ | ⟨t₀, command, t', hp, hk, rfl⟩
  · exact .inl (Always.parse_args w arg t _ hp)
  have hcmd := parse_args_eq_ok w hp
  rw [hcmd] at hp
  cases hp
  split at hk
  · exact .inl (hprint USAGE _ t' r hk)
  rename_i handle hl
  obtain ⟨t₁, r₁, t₂, hh, rfl, hpr⟩ := runCommand_eq_some w hk
  exact .inr ⟨x, arg, rest, command, handle, t₁, r₁, t₂, rfl, hcmd, hl, hh, rfl, hpr⟩

/-- Lines printed are none of the events a projection to another kind of event keeps. -/
theorem filterMap_of_prints {β : Type} {f : CliEvent → Option β} (hf : ∀ s, f (.print s) = none)
    {t : List CliEvent} (ht : ∀ e ∈ t, ∃ s, e = .print s) : t.filterMap f = [] :=
  List.filterMap_eq_nil_iff.2 fun e he => by
    obtain ⟨s, rfl⟩ := ht e he
    exact hf s

section Main

variable {P : CliEvent → Prop} (hs : ∀ ev, P (.session ev)) (hp : ∀ s, P (.print s))
include hs hp

/-- The events of `main`: what holds of every print, of every session event, and of the Write
of `add-entry` holds of every event of every run. -/
theorem Always.main (fuel : Nat) (argv : List String)
    (hw : ∀ x arg b t flow n u, argv = [x, arg, b, t, flow] →
      Cli.parse_args w arg = Pure.pure "add-entry" →
      resolve_device_id_by_bridge_name (w.findBridge b) w.bridgeRows b = .ok n → 0 ≤ n →
      n < 2 ^ 64 → addEntryUpdate ⟨n.toNat, (1, 0)⟩ w.stubGet t flow = .ok u →
      P (.write ⟨n.toNat, ⟨1, 0⟩, [u]⟩)) :
    Always P (main w fuel argv) := by
  intro t r h e he
  rcases main_eq_some w h with hpr | ⟨x, arg, rest, command, handle, t₁, r₁, t₂, rfl, hcmd, hl,
    hh, rfl, hpr⟩
  · obtain ⟨s, rfl⟩ := hpr e he
    exact hp s
  rcases List.mem_append.1 he with he | he
  · refine (?_ : Always P (handle rest)) t₁ r₁ hh e he
    rcases lookup_all_commands w hl with ⟨-, rfl⟩ | ⟨-, rfl⟩ | ⟨hc, rfl⟩ | ⟨-, rfl⟩
    · exact Always.with_client w hs hp fun _ _ _ _ _ _ => Always.p4ctl_set_pipe w hp _ _
    · exact Always.with_client w hs hp fun _ _ _ _ _ _ => Always.p4ctl_get_pipe w hp _ _
    · refine Always.with_client w hs hp fun b n hb hn h0 hlt =>
        Always.p4ctl_add_entry w fun b' tbl flow u hargs hu => ?_
      subst hargs
      cases hb
      exact hw x arg _ tbl flow n u rfl (hc ▸ hcmd) hn h0 hlt hu
    · exact Always.with_client w hs hp fun _ _ _ _ _ _ => Always.p4ctl_del_entry _ _
  · obtain ⟨s, rfl⟩ := hpr e he
    exact hp s

end Main

/-- **What a run of `main` causes.**  Every event of every run, for every command line and every
world, is a line printed, an event of the session's resources, or the Write of `add-entry`, and
that Write is the one `INSERT` its flow describes: the command line is exactly
`ovs-p4ctl add-entry BRIDGE TABLE FLOW`, the request carries the bridge's device id, which fits
in `uint64`, and the election id `(1, 0)`, and its one update is what `addEntryUpdate` builds from
the table and the flow.  No other Write is sent, and `set_fwd_pipe_config` is never called. -/
theorem main_events (fuel : Nat) (argv : List String) :
    Always (fun e => (∃ s, e = .print s) ∨ (∃ ev, e = .session ev) ∨
      ∃ x arg b t flow n u, argv = [x, arg, b, t, flow] ∧ parse_args w arg = pure "add-entry" ∧
        resolve_device_id_by_bridge_name (w.findBridge b) w.bridgeRows b = .ok n ∧ 0 ≤ n ∧
        n < 2 ^ 64 ∧ addEntryUpdate ⟨n.toNat, (1, 0)⟩ w.stubGet t flow = .ok u ∧
        e = .write ⟨n.toNat, ⟨1, 0⟩, [u]⟩) (main w fuel argv) :=
  Always.main w (fun ev => .inr (.inl ⟨ev, rfl⟩)) (fun s => .inl ⟨s, rfl⟩) fuel argv
    fun x arg b t flow n u h₁ h₂ h₃ h₄ h₅ h₆ =>
      .inr (.inr ⟨x, arg, b, t, flow, n, u, h₁, h₂, h₃, h₄, h₅, h₆, rfl⟩)

/-- The status the process exits with: `0` at the end of `main`, the code given to `sys.exit`,
and `1` after an exception nothing catches. -/
def exitStatus : Except CliExit Unit → Nat
  | .ok () => 0
  | .error (.systemExit code) => code
  | .error _ => 1

end Cli

end OvsP4ctl
