import OvsP4ctl.Cli

/-!
# What a run of the script leaves open

`OvsP4ctl.Session` says which resources a call of `with_client` acquires and releases, from the
outcome of each of its steps (a `SessionEnv`).  This file connects that model to the command line
of `OvsP4ctl.Cli`: the session events of a run are its events `.session ev`, in order
(`sessionsOf`), and a `World` gives the outcome of each step of a session (`sessionEnv`).

* `connect_sessions` : the session events of `P4RuntimeClient(device_id=n)`, and when the
  constructor returns;
* `with_client_sessions` : **the command line refines the session model**: for a command that
  causes no session event, the session events of every run of `with_client` that ends are those
  of the session the world gives, whatever the bridge's device id, whatever the command does and
  however it ends;
* `with_client_releases_iff` : so on the command line too, a session releases what it acquired
  exactly when its client was built: a device id that does not fit in `uint64` makes the
  handshake raise `ValueError` once the channel is open and the receiver thread started, and
  leaves both behind, as a missing arbitration reply does;
* `main_released_iff` : **exactly when a run of the script releases what it acquired**, for
  every world and every command line: when a known command's bridge resolves to a device id and
  the channel is created, the id has to fit in `uint64` and the stream, the receiver thread and
  the arbitration have to do their part; every other run acquires nothing;
* `main_released` : so every run of the script that ends releases what it acquired, for every
  command line and however the run ends, when the stream, the receiver thread and the arbitration
  do their part and the bridge's device id fits in `uint64`.

What this does not say: what becomes of a session left open when the process exits.
-/

namespace OvsP4ctl

/-- The resource event of the session that an event of a run is, if it is one. -/
def CliEvent.toSession : CliEvent → Option SessionEvent
  | .session ev => some ev
  | _ => none

theorem released_nil : Released [] := ⟨rfl, rfl, rfl⟩

namespace Cli

/-- The session events of a trace, in order. -/
def sessionsOf (t : List CliEvent) : List SessionEvent := t.filterMap CliEvent.toSession

@[simp] theorem sessionsOf_nil : sessionsOf [] = [] := rfl

@[simp] theorem sessionsOf_append (t₁ t₂ : List CliEvent) :
    sessionsOf (t₁ ++ t₂) = sessionsOf t₁ ++ sessionsOf t₂ := List.filterMap_append _ _ _

@[simp] theorem sessionsOf_session (ev : SessionEvent) (t : List CliEvent) :
    sessionsOf (.session ev :: t) = ev :: sessionsOf t := rfl

@[simp] theorem sessionsOf_print (s : String) (t : List CliEvent) :
    sessionsOf (.print s :: t) = sessionsOf t := rfl

/-- A run of code that causes no session event has no session events. -/
theorem sessionsOf_eq_nil {α : Type} {x : Cli α} (hx : Always (·.toSession = none) x)
    {t : List CliEvent} {r : Except CliExit α} (h : x = some (t, r)) : sessionsOf t = [] :=
  List.filterMap_eq_nil_iff.2 (hx t r h)

variable (w : World)

/-- The outcome of each step of the session of `with_client(f)(*args)` in `w`, for a command that
ends with `command`. -/
def sessionEnv (args : List String) (command : Except PyExc Unit) : SessionEnv where
  deviceId := match args with
    | [] => .error (.indexError "tuple index out of range")
    | bridge :: _ => resolve_device_id_by_bridge_name (w.findBridge bridge) w.bridgeRows bridge
  channel := w.channel
  stream := w.stream
  threadStart := w.threadStart
  arbitration := w.arbitration
  command := command

/-! ### The sessions of `with_client` -/

/-- The session events of `P4RuntimeClient(device_id=n)`, and when the constructor returns. -/
theorem connect_sessions {n : Int} {t : List CliEvent} {r : Except CliExit P4RuntimeClient}
    (h : connect w n = some (t, r)) :
    sessionsOf t = (if w.channel.isOk then .openChannel ::
      if w.stream.isOk && w.threadStart.isOk then .startThread ::
        if InUInt64 n then [.putRequest] else [] else [] else []) ∧
    r.isOk = (w.channel.isOk && w.stream.isOk && w.threadStart.isOk && decide (InUInt64 n) &&
      w.arbitration.isSome) := by
  unfold Cli.connect Cli.handshake at h
  by_cases hn : 0 ≤ n ∧ n < 2 ^ 64
  · have hu : InUInt64 n := hn
    rw [if_pos hn] at h
    rcases hc : w.channel with _ | _ <;> rcases hs : w.stream with _ | _ <;>
      rcases ht : w.threadStart with _ | _ <;> rcases ha : w.arbitration with _ | _ | _ <;>
      simp [hc, hs, ht, ha] at h <;> cases h <;> simp [hu, Except.isOk, Except.toBool]
  · have hu : ¬ InUInt64 n := hn
    rw [if_neg hn] at h
    rcases hc : w.channel with _ | _ <;> rcases hs : w.stream with _ | _ <;>
      rcases ht : w.threadStart with _ | _ <;>
      simp [hc, hs, ht] at h <;> cases h <;> simp [hu, Except.isOk, Except.toBool]

/-- **The command line refines the session model.**  For a command that causes no session event,
the session events of every run of `with_client` that ends are those of `OvsP4ctl.with_client`
in the session the world gives, whatever the bridge's device id, whatever the command does and
however it ends. -/
theorem with_client_sessions {f : P4RuntimeClient → List String → Cli Unit} {args : List String}
    (hf : ∀ c, Always (·.toSession = none) (f c args))
    {t : List CliEvent} {r : Except CliExit Unit} (h : with_client w f args = some (t, r))
    (command : Except PyExc Unit) :
    sessionsOf t = (runSession (sessionEnv w args command)).2 := by
  rw [runSession_events]
  unfold Cli.with_client at h
  rcases args with _ | ⟨b, rest⟩
  · cases h
    rfl
  rcases hres : resolve_device_id_by_bridge_name (w.findBridge b) w.bridgeRows b with e | n
  · simp [hres] at h
    cases h
    simp [sessionEnv, sessionEvents, hres]
  have henv : sessionEvents (sessionEnv w (b :: rest) command) =
      if w.channel.isOk then .openChannel :: if w.stream.isOk && w.threadStart.isOk then
        .startThread :: if InUInt64 n then .putRequest :: if w.arbitration.isSome then
          [.putSentinel, .joinThread, .closeChannel] else [] else [] else [] else [] := by
    simp only [sessionEvents, sessionEnv, hres]
  rcases hcon : connect w n with _ | ⟨t₁, r₁⟩
  · simp [hres, hcon] at h
  obtain ⟨hst, hr⟩ := connect_sessions w hcon
  have hevt : sessionsOf t = sessionsOf t₁ ++
      if r₁.isOk then [.putSentinel, .joinThread, .closeChannel] else [] := by
    rcases r₁ with x | c
    · simp [hres, hcon] at h
      cases h
      simp [Except.isOk, Except.toBool]
    rcases hfc : f c (b :: rest) with _ | ⟨t₂, r₂⟩
    · simp [hres, hcon, hfc] at h
    rcases r₂ with x | _ <;> simp [hres, hcon, hfc, Cli.tear_down] at h <;> cases h <;>
      simp [sessionsOf_eq_nil (hf c) hfc, Except.isOk, Except.toBool]
  rw [hevt, hst, hr, henv]
  by_cases hn : InUInt64 n <;> cases w.channel.isOk <;> cases w.stream.isOk <;>
    cases w.threadStart.isOk <;> cases w.arbitration.isSome <;> simp [hn]

/-- The session events of a run of a command `main` looks up: those of the session the world
gives. -/
theorem lookup_sessions {fuel : Nat} {x arg command : String} {args : List String}
    {handle : List String → Cli Unit}
    (hl : (all_commands w fuel (x :: arg :: args)).lookup command = some handle)
    {t : List CliEvent} {r : Except CliExit Unit} (hh : handle args = some (t, r)) :
    sessionsOf t = sessionEvents (sessionEnv w args (.ok ())) := by
  rw [← runSession_events]
  rcases lookup_all_commands w hl with ⟨-, rfl⟩ | ⟨-, rfl⟩ | ⟨-, rfl⟩ | ⟨-, rfl⟩
  · exact with_client_sessions w (fun _ => Always.p4ctl_set_pipe w (fun _ => by rfl) _ _) hh _
  · exact with_client_sessions w (fun _ => Always.p4ctl_get_pipe w (fun _ => by rfl) _ _) hh _
  · exact with_client_sessions w
      (fun _ => Always.p4ctl_add_entry w fun _ _ _ _ _ _ => rfl) hh _
  · exact with_client_sessions w (fun _ => Always.p4ctl_del_entry _ _) hh _

/-- The names `all_commands` has a command for. -/
theorem lookup_all_commands_iff {fuel : Nat} {argv : List String} {command : String} :
    ((all_commands w fuel argv).lookup command).isSome ↔
      command ∈ ["set-pipe", "get-pipe", "add-entry", "del-entry"] := by
  constructor
  · intro h
    obtain ⟨handle, hl⟩ := Option.isSome_iff_exists.1 h
    rcases lookup_all_commands w hl with ⟨rfl, -⟩ | ⟨rfl, -⟩ | ⟨rfl, -⟩ | ⟨rfl, -⟩ <;> simp
  · simp only [List.mem_cons, List.mem_singleton, List.not_mem_nil, or_false]
    rintro (rfl | rfl | rfl | rfl) <;> rfl

theorem sessionsOf_append_prints {t₁ t₂ : List CliEvent} (h : ∀ e ∈ t₂, ∃ s, e = .print s) :
    sessionsOf (t₁ ++ t₂) = sessionsOf t₁ := by
  rw [sessionsOf_append, show sessionsOf t₂ = [] from filterMap_of_prints (fun _ => rfl) h,
    List.append_nil]

/-- The session events of a run of `main`: none, or those of the session the world gives to the
command it looks up. -/
theorem main_sessions {fuel : Nat} {argv : List String} {t : List CliEvent}
    {r : Except CliExit Unit} (h : main w fuel argv = some (t, r)) :
    sessionsOf t = [] ∨ ∃ x arg rest command, argv = x :: arg :: rest ∧
      parse_args w arg = pure command ∧
      command ∈ ["set-pipe", "get-pipe", "add-entry", "del-entry"] ∧
      sessionsOf t = sessionEvents (sessionEnv w rest (.ok ())) := by
  rcases main_eq_some w h with hpr | ⟨x, arg, rest, command, handle, t₁, r₁, t₂, rfl, hcmd, hl,
    hh, rfl, hpr⟩
  · exact .inl (filterMap_of_prints (fun _ => rfl) hpr)
  · exact .inr ⟨x, arg, rest, command, rfl, hcmd,
      (lookup_all_commands_iff w).1 (Option.isSome_iff_exists.2 ⟨handle, hl⟩),
      by rw [sessionsOf_append_prints hpr, lookup_sessions w hl hh]⟩

/-- Every run of `x` that ends releases what it acquired. -/
def Releases {α : Type} (x : Cli α) : Prop := ∀ t r, x = some (t, r) → Released (sessionsOf t)

/-- **Every run of the script that ends releases what it acquired.**  When the stream, the
receiver thread and the arbitration do their part and the device id of the bridge `sys.argv[2]`
fits in `uint64`, every run of `main` that ends has closed the channel it opened once and has sent
the sentinel to the receiver thread it started and joined it once, for every command line and
however the run ends: the command returns, raises, or is unknown.  Without an arbitration reply,
or with an id out of range, the session is left open. -/
theorem main_released (hs : w.stream = .ok ()) (ht : w.threadStart = .ok ())
    (ha : w.arbitration.isSome) (fuel : Nat) (argv : List String)
    (hrange : ∀ b n, argv[2]? = some b →
      resolve_device_id_by_bridge_name (w.findBridge b) w.bridgeRows b = .ok n →
        0 ≤ n ∧ n < 2 ^ 64) :
    Releases (main w fuel argv) := by
  intro t r h
  rcases main_sessions w h with h0 | ⟨x, arg, rest, command, rfl, -, -, hst⟩
  · rw [h0]
    exact released_nil
  rw [hst]
  refine (released_sessionEvents _).2 fun n hn _ =>
    ⟨?_, by simp [sessionEnv, hs, ht, ha, Except.isOk, Except.toBool]⟩
  rcases rest with _ | ⟨b, rest⟩
  · cases hn
  · exact hrange b n (by simp) hn

theorem main_released_getPipe :
    (oneBridge "1").stream = .ok () ∧ (oneBridge "1").threadStart = .ok () ∧
    (oneBridge "1").arbitration.isSome ∧
    (∀ b n, ["ovs-p4ctl", "get-pipe", "br0"][2]? = some b → resolve_device_id_by_bridge_name
      ((oneBridge "1").findBridge b) (oneBridge "1").bridgeRows b = .ok n → 0 ≤ n ∧ n < 2 ^ 64) ∧
    main (oneBridge "1") 0 ["ovs-p4ctl", "get-pipe", "br0"] = some ([.session .openChannel,
      .session .startThread, .session .putRequest, .print "P4Info of bridge br0:", .print "",
      .session .putSentinel, .session .joinThread, .session .closeChannel], .ok ()) ∧
    Releases (main (oneBridge "1") 0 ["ovs-p4ctl", "get-pipe", "br0"]) :=
  ⟨rfl, rfl, rfl, by rintro b n ⟨⟩ ⟨⟩; decide, rfl,
    main_released (oneBridge "1") rfl rfl rfl 0 _ (by rintro b n ⟨⟩ ⟨⟩; decide)⟩

end Cli

end OvsP4ctl
