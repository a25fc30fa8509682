import OvsP4ctl.Write
import OvsP4ctl.Flow

/-!
# Adding a table entry

`p4ctl_add_entry` parses the flow, fetches the P4Info from the device, builds the table entry,
and writes it as one `INSERT` update.  The action params it passes to `buildTableEntry` are
`{a.name: action_data[idx] for idx, a in enumerate(get_action_params(action))}`: one item per
param the action declares, with the datum at the param's position.

`addEntryUpdate` is everything before the Write: the Write RPC is issued exactly when it returns
an update, and it is issued with that update.

* `addEntryUpdate_short` : with fewer data than the action has params, `IndexError` is raised
  before any Write;
* `addEntryUpdate_params` : **the params written**: when the Write is issued, the data are at
  least as many as the params, and the `i`-th param written is the `i`-th declared one with the
  encoding of the `i`-th datum.  The data after the last param are not read at all.
* `addEntryUpdate_match` : **the match keys written**: the value of every key is a string, so
  the Write is issued only when each key names an exact match field and its value is a MAC
  address text or a dotted quad of the field's byte length;
* `p4ctl_add_entry_write` : conversely, when every part resolves, the command writes exactly
  the entry its flow describes.
-/

namespace OvsP4ctl

/-- `p4.v1.GetForwardingPipelineConfigRequest.ResponseType`. -/
inductive ResponseType where
  | all | cookieOnly | p4infoAndCookie | deviceConfigAndCookie
  deriving DecidableEq, Repr

/-- `p4.v1.GetForwardingPipelineConfigRequest`. -/
structure GetForwardingPipelineConfigRequest where
  deviceId : Nat
  responseType : ResponseType
  deriving DecidableEq, Repr

/-- `P4RuntimeClient.get_p4info`, under `parse_p4runtime_error`; `stubGet` is the server's
answer. -/
def P4RuntimeClient.get_p4info (client : P4RuntimeClient)
    (stubGet : GetForwardingPipelineConfigRequest → Except RpcError P4Info) : Except P4Exc P4Info :=
  match stubGet ⟨client.deviceId, .p4infoAndCookie⟩ with
  | .ok p4info => .ok p4info
  | .error e => .error (.p4RuntimeException e)

/-- One pass of the comprehension building `action_params`. -/
def addActionParam (actionData : List Int) (d : List (String × PyValue)) (e : Nat × Param) :
    Except PyExc (List (String × PyValue)) := do
  let v ← pyIndex actionData e.1
  pure (dictSet d e.2.name (.int v))

/-- The `action_params` argument of `p4ctl_add_entry`. -/
def actionParamsDict (p : P4Info) (action : String) (actionData : List Int) :
    Except PyExc (List (String × PyValue)) :=
  match get_action_params p action with
  | none => .error (.typeError "'NoneType' object is not iterable")
  | some params => params.enum.foldlM (addActionParam actionData) []

/-- `p4ctl_add_entry` up to its Write: the update it writes, or what it raises first.  The
match values are the strings `parse_flow` returns. -/
def addEntryUpdate (client : P4RuntimeClient)
    (stubGet : GetForwardingPipelineConfigRequest → Except RpcError P4Info)
    (tblName flow : String) : Except P4Exc Update := do
  let (matchKeys, action, actionData) ← (parse_flow flow).mapError .py
  let p4info ← client.get_p4info stubGet
  let te ← (do
    let actionParams ← actionParamsDict p4info action actionData
    buildTableEntry p4info tblName (matchKeys.map fun (kv : String × String) => (kv.1, .str kv.2))
      false (some action) actionParams none).mapError .py
  pure ⟨.insert, te⟩

/-- `p4ctl_add_entry`, the Write given at most `fuel` passes of its error loop. -/
def p4ctl_add_entry (fuel : Nat) (client : P4RuntimeClient)
    (stubGet : GetForwardingPipelineConfigRequest → Except RpcError P4Info)
    (stubWrite : WriteRequest → Except RpcError Unit) (tblName flow : String) :
    Option (Except P4Exc Unit) :=
  match addEntryUpdate client stubGet tblName flow with
  | .error e => some (.error e)
  | .ok update => client.write_update fuel update stubWrite

/-! ### The action params -/

section Comprehension

variable {d : List Int}

theorem foldlM_addActionParam_short : ∀ {ps : List Param} {i : Nat}
    {acc : List (String × PyValue)}, i ≤ d.length → d.length < i + ps.length →
    (ps.enumFrom i).foldlM (addActionParam d) acc =
      .error (.indexError "list index out of range")
  | [], _, _, h1, h2 => by rw [List.length_nil] at h2; omega
  | q :: ps, i, acc, h1, h2 => by
    rw [List.enumFrom_cons, List.foldlM_cons]
    rcases Nat.lt_or_ge i d.length with hi | hi
    · simp only [addActionParam, pyIndex_of_lt hi, ok_bind, pure_eq_ok]
      exact foldlM_addActionParam_short hi (by rw [List.length_cons] at h2; omega)
    · simp only [addActionParam, pyIndex_of_le hi, error_bind]

theorem foldlM_addActionParam : ∀ {ps : List Param} {i : Nat} {acc : List (String × PyValue)},
    i + ps.length ≤ d.length → (ps.map (·.name)).Nodup → (∀ q ∈ ps, ∀ e ∈ acc, e.1 ≠ q.name) →
    (ps.enumFrom i).foldlM (addActionParam d) acc =
      .ok (acc ++ (ps.zip (d.drop i)).map fun e => (e.1.name, .int e.2))
  | [], _, acc, _, _, _ => by simp
  | q :: ps, i, acc, h, hnd, hacc => by
    rw [List.length_cons] at h
    rw [List.map_cons, List.nodup_cons, List.mem_map] at hnd
    have hi : i < d.length := by omega
    rw [List.enumFrom_cons, List.foldlM_cons, List.drop_eq_getElem_cons hi, List.zip_cons_cons,
      List.map_cons]
    simp only [addActionParam, pyIndex_of_lt hi, ok_bind, pure_eq_ok,
      dictSet_of_new _ (hacc q (List.mem_cons_self _ _))]
    rw [foldlM_addActionParam (by omega) hnd.2 fun q' hq' e he => ?_]
    · simp
    · rcases List.mem_append.1 he with he | he
      · exact hacc q' (List.mem_cons_of_mem _ hq') e he
      · rw [List.mem_singleton.1 he]
        exact fun hqq => hnd.1 ⟨q', hq', hqq.symm⟩

theorem actionParamsDict_short {p : P4Info} {a : String} {A : Action}
    (hA : p.actions.find? (·.preamble.name == a) = some A) (h : d.length < A.params.length) :
    actionParamsDict p a d = .error (.indexError "list index out of range") := by
  simp only [actionParamsDict, get_action_params, hA, Option.map_some']
  exact foldlM_addActionParam_short (Nat.zero_le _) (by omega)

theorem actionParamsDict_eq {p : P4Info} {a : String} {A : Action}
    (hA : p.actions.find? (·.preamble.name == a) = some A) (hnd : (A.params.map (·.name)).Nodup)
    (h : A.params.length ≤ d.length) :
    actionParamsDict p a d = .ok ((A.params.zip d).map fun e => (e.1.name, .int e.2)) := by
  simp only [actionParamsDict, get_action_params, hA, Option.map_some']
  rw [List.enum, foldlM_addActionParam (by omega) hnd (by simp)]
  simp

end Comprehension

/-- The params built from the comprehension: each declared param with the encoding of its
datum. -/
theorem buildAction_params {p : P4Info} {a : String} {A : Action} {d : List Int}
    {act : TableAction} (hA : p.actions.find? (·.preamble.name == a) = some A)
    (hnd : (A.params.map (·.name)).Nodup)
    (h : buildAction p a ((A.params.zip d).map fun e => (e.1.name, .int e.2)) = .ok act) :
    List.Forall₂ (fun e ap => ap.paramId = e.1.id ∧ encode (.int e.2) e.1.bitwidth =
      .ok (.bytes ap.value)) (A.params.zip d) act.params := by
  have hmem := (List.forall₂_and_left (p := (· ∈ A.params.zip d)) _ _).2
    ⟨fun _ h => h, List.forall₂_map_left_iff.1 (buildAction_ok.1 h).2⟩
  refine hmem.imp fun e ap ⟨he, hap⟩ => ?_
  obtain ⟨q, hq, hid, henc⟩ := get_action_param_pb_ok.1 hap
  rw [get_action_param_of_first hA hnd (List.of_mem_zip he).1] at hq
  cases hq
  exact ⟨hid, henc⟩

/-- Conversely, data that fit their params give the declared params, in order, each with the
big-endian bytes of its datum. -/
theorem buildAction_params_eq {p : P4Info} {a : String} {A : Action} {d : List Int} {aid : Nat}
    (hA : p.actions.find? (·.preamble.name == a) = some A) (hnd : (A.params.map (·.name)).Nodup)
    (haid : get_actions_id p a = .ok aid)
    (hd : ∀ e ∈ A.params.zip d,
      1 ≤ e.1.bitwidth ∧ e.1.bitwidth < 2 ^ 53 ∧ 0 ≤ e.2 ∧ e.2 < 2 ^ e.1.bitwidth) :
    buildAction p a ((A.params.zip d).map fun e => (e.1.name, .int e.2)) =
      .ok ⟨aid, (A.params.zip d).map
        fun e => ⟨e.1.id, toBytesBE ((e.1.bitwidth + 7) / 8) e.2.toNat⟩⟩ := by
  refine buildAction_ok.2 ⟨haid, List.forall₂_map_left_iff.2 (List.forall₂_map_right_iff.2
    (List.forall₂_same.2 fun e he => get_action_param_pb_ok.2
      ⟨e.1, get_action_param_of_first hA hnd (List.of_mem_zip he).1, rfl, ?_⟩))⟩
  obtain ⟨h1, h53, h0, hlt⟩ := hd e he
  have h := encode_int (v := e.2.toNat) h1 h53 ((Int.toNat_lt h0).2 (by exact_mod_cast hlt))
  rwa [Int.toNat_of_nonneg h0] at h

/-! ### What `p4ctl_add_entry` writes -/

section AddEntry

variable {client : P4RuntimeClient}
  {stubGet : GetForwardingPipelineConfigRequest → Except RpcError P4Info} {tblName flow : String}
  {M : List (String × String)} {a : String} {d : List Int} {p : P4Info} {A : Action}

/-- With fewer data than the action has params, the command raises `IndexError` before any
Write. -/
theorem addEntryUpdate_short (hflow : parse_flow flow = .ok (M, a, d))
    (hget : client.get_p4info stubGet = .ok p)
    (hA : p.actions.find? (·.preamble.name == a) = some A) (h : d.length < A.params.length) :
    addEntryUpdate client stubGet tblName flow =
      .error (.py (.indexError "list index out of range")) := by
  simp only [addEntryUpdate, hflow, hget, mapError_ok, ok_bind, actionParamsDict_short hA h,
    error_bind, mapError_error]

/-- **The params written.**  When the Write is issued, the data are at least as many as the
params of the first action named `a`, and the entry's params are these params, in order, each
with its id and the encoding of the datum at its position. -/
theorem addEntryUpdate_params (hflow : parse_flow flow = .ok (M, a, d))
    (hget : client.get_p4info stubGet = .ok p) (ha : a ≠ "")
    (hA : p.actions.find? (·.preamble.name == a) = some A) (hnd : (A.params.map (·.name)).Nodup)
    {u : Update} (hu : addEntryUpdate client stubGet tblName flow = .ok u) :
    A.params.length ≤ d.length ∧ ∃ act, u.tableEntry.action = some act ∧
      List.Forall₂ (fun e ap => ap.paramId = e.1.id ∧
        encode (.int e.2) e.1.bitwidth = .ok (.bytes ap.value)) (A.params.zip d) act.params := by
  have hlen : A.params.length ≤ d.length := by
    refine Nat.le_of_not_lt fun h => ?_
    rw [addEntryUpdate_short hflow hget hA h] at hu
    cases hu
  refine ⟨hlen, ?_⟩
  simp only [addEntryUpdate, hflow, hget, mapError_ok, ok_bind,
    actionParamsDict_eq hA hnd hlen] at hu
  cases hte : buildTableEntry p tblName (M.map fun kv => (kv.1, .str kv.2)) false (some a)
    ((A.params.zip d).map fun e => (e.1.name, .int e.2)) none with
  | error e => rw [hte] at hu; cases hu
  | ok te =>
    rw [hte] at hu
    cases hu
    obtain ⟨act, hact, hsome⟩ := buildTableEntry_action ha hte
    exact ⟨act, hsome, buildAction_params hA hnd hact⟩

/-- **The action data of an added entry**: too few data raise before any Write, and a Write that
is issued carries the declared params with the leading data, the surplus left out. -/
theorem addEntry_actionData (hflow : parse_flow flow = .ok (M, a, d))
    (hget : client.get_p4info stubGet = .ok p) (ha : a ≠ "")
    (hA : p.actions.find? (·.preamble.name == a) = some A) (hnd : (A.params.map (·.name)).Nodup) :
    (d.length < A.params.length → addEntryUpdate client stubGet tblName flow =
      .error (.py (.indexError "list index out of range"))) ∧
    ∀ u, addEntryUpdate client stubGet tblName flow = .ok u →
      A.params.length ≤ d.length ∧ ∃ act, u.tableEntry.action = some act ∧
        List.Forall₂ (fun e ap => ap.paramId = e.1.id ∧
          encode (.int e.2) e.1.bitwidth = .ok (.bytes ap.value)) (A.params.zip d) act.params :=
  ⟨addEntryUpdate_short hflow hget hA, fun _ hu => addEntryUpdate_params hflow hget ha hA hnd hu⟩

/-- **The match keys written**: when the Write is issued, each key of the flow names an exact
match field of the table, and its value encodes to bytes, so it is a MAC address text or a dotted
quad (`encode_str_eq_bytes`); the `i`-th `FieldMatch` carries the `i`-th key's field id and
bytes. -/
theorem addEntryUpdate_match (hflow : parse_flow flow = .ok (M, a, d))
    (hget : client.get_p4info stubGet = .ok p) {u : Update}
    (hu : addEntryUpdate client stubGet tblName flow = .ok u) :
    List.Forall₂ (fun kv fm => ∃ mf b, get_match_field p tblName (some kv.1) none = .ok mf ∧
      mf.matchType = .exact ∧ encode (.str kv.2) mf.bitwidth = .ok (.bytes b) ∧
        fm = ⟨mf.id, .exact b⟩) M u.tableEntry.match := by
  simp only [addEntryUpdate, hflow, hget, mapError_ok, ok_bind, bind_eq_ok, mapError_eq_ok,
    pure_eq_ok, Except.ok.injEq] at hu
  obtain ⟨te, ⟨P, -, hte⟩, rfl⟩ := hu
  exact (List.forall₂_map_left_iff.1 (buildTableEntry_ok.1 hte).2.2.1).imp
    fun _ _ h => get_match_field_pb_str_ok.1 h

theorem addEntryUpdate_match_dottedQuad :
    List.Forall₂ (fun (kv : String × String) (fm : FieldMatch) => ∃ mf b,
      get_match_field ⟨[⟨⟨1, "ingress.t", "t"⟩, [⟨1, "f", 32, .exact⟩]⟩],
        [⟨⟨2, "a", "a"⟩, [⟨1, "p", 8⟩]⟩]⟩ "ingress.t" (some kv.1) none = .ok mf ∧
      mf.matchType = .exact ∧ encode (.str kv.2) mf.bitwidth = .ok (.bytes b) ∧
        fm = ⟨mf.id, .exact b⟩) [("f", "10.0.0.1")] [⟨1, .exact [10, 0, 0, 1]⟩] :=
  @addEntryUpdate_match ⟨1, (1, 0)⟩ (fun _ => .ok ⟨[⟨⟨1, "ingress.t", "t"⟩,
      [⟨1, "f", 32, .exact⟩]⟩], [⟨⟨2, "a", "a"⟩, [⟨1, "p", 8⟩]⟩]⟩) "ingress.t"
    "f=10.0.0.1,action=a(1)" [("f", "10.0.0.1")] "a" [1] _ rfl rfl
    ⟨.insert, ⟨1, [⟨1, .exact [10, 0, 0, 1]⟩], 0, false, some ⟨2, [⟨1, [1]⟩]⟩⟩⟩ rfl

/-- **What the command writes when every part resolves**: the flow parses, the table is found,
every match key gives a `FieldMatch`, the action is found by name with no fewer data than params,
and each datum fits its param, whose bitwidth is below `2 ^ 53` (as every `int32` bitwidth is).
Then the Write is one `INSERT` of the entry with the table's id, those `FieldMatch`es in the order
of the keys, priority `0`, and the action's id with the declared params, each with the
`⌈bitwidth / 8⌉` big-endian bytes of its datum. -/
theorem p4ctl_add_entry_write (hflow : parse_flow flow = .ok (M, a, d))
    (hget : client.get_p4info stubGet = .ok p) (ha : a ≠ "") {tid aid : Nat} {ms : List FieldMatch}
    (hT : get_tables_id p tblName = .ok tid)
    (hM : List.Forall₂ (fun kv fm => get_match_field_pb p tblName kv.1 (.str kv.2) = .ok fm) M ms)
    (hA : p.actions.find? (·.preamble.name == a) = some A) (hnd : (A.params.map (·.name)).Nodup)
    (haid : get_actions_id p a = .ok aid) (hlen : A.params.length ≤ d.length)
    (hd : ∀ e ∈ A.params.zip d,
      1 ≤ e.1.bitwidth ∧ e.1.bitwidth < 2 ^ 53 ∧ 0 ≤ e.2 ∧ e.2 < 2 ^ e.1.bitwidth)
    (fuel : Nat) (stubWrite : WriteRequest → Except RpcError Unit) :
    p4ctl_add_entry fuel client stubGet stubWrite tblName flow =
      client.write_update fuel ⟨.insert, ⟨tid, ms, 0, false, some ⟨aid, (A.params.zip d).map
        fun e => ⟨e.1.id, toBytesBE ((e.1.bitwidth + 7) / 8) e.2.toNat⟩⟩⟩⟩ stubWrite := by
  have hf : (some a).filter (· ≠ "") = some a := by simp [Option.filter, ha]
  have hte : buildTableEntry p tblName (M.map fun (kv : String × String) => (kv.1, .str kv.2))
      false (some a) ((A.params.zip d).map fun e => (e.1.name, .int e.2)) none =
      .ok ⟨tid, ms, 0, false, some ⟨aid, (A.params.zip d).map
        fun e => ⟨e.1.id, toBytesBE ((e.1.bitwidth + 7) / 8) e.2.toNat⟩⟩⟩ :=
    buildTableEntry_ok.2 ⟨hT, rfl, List.forall₂_map_left_iff.2 hM, rfl,
      by rw [hf]; exact ⟨_, buildAction_params_eq hA hnd haid hd, rfl⟩⟩
  simp only [p4ctl_add_entry, addEntryUpdate, hflow, hget, mapError_ok, ok_bind,
    actionParamsDict_eq hA hnd hlen, hte, pure_eq_ok]

theorem p4ctl_add_entry_write_dottedQuad :
    p4ctl_add_entry 0 ⟨1, (1, 0)⟩
        (fun _ => .ok ⟨[⟨⟨1, "ingress.t", "t"⟩, [⟨1, "f", 32, .exact⟩]⟩],
          [⟨⟨2, "a", "a"⟩, [⟨1, "p", 8⟩]⟩]⟩)
        (fun _ => .ok ()) "ingress.t" "f=10.0.0.1,action=a(1)" =
      P4RuntimeClient.write_update 0 ⟨1, (1, 0)⟩
        ⟨.insert, ⟨1, [⟨1, .exact [10, 0, 0, 1]⟩], 0, false, some ⟨2, [⟨1, [1]⟩]⟩⟩⟩
        (fun _ => .ok ()) :=
  @p4ctl_add_entry_write ⟨1, (1, 0)⟩ (fun _ => .ok ⟨[⟨⟨1, "ingress.t", "t"⟩,
      [⟨1, "f", 32, .exact⟩]⟩], [⟨⟨2, "a", "a"⟩, [⟨1, "p", 8⟩]⟩]⟩) "ingress.t"
    "f=10.0.0.1,action=a(1)" [("f", "10.0.0.1")] "a" [1] _ _ rfl rfl (by decide) 1 2
    [⟨1, .exact [10, 0, 0, 1]⟩] rfl (.cons rfl .nil) rfl (by decide) rfl (by decide) (by decide)
    0 (fun _ => .ok ())

end AddEntry

/-- Two data for an action with one param: the Write is issued, with the first datum only. -/
theorem addEntry_surplusData :
    parse_flow "f=10.0.0.1,action=a(1,2)" = .ok ([("f", "10.0.0.1")], "a", [1, 2]) ∧
    ∀ (fuel : Nat) (stubWrite : WriteRequest → Except RpcError Unit),
      p4ctl_add_entry fuel ⟨1, (1, 0)⟩
          (fun _ => .ok ⟨[⟨⟨1, "ingress.t", "t"⟩, [⟨1, "f", 32, .exact⟩]⟩],
            [⟨⟨2, "a", "a"⟩, [⟨1, "p", 8⟩]⟩]⟩)
          stubWrite "ingress.t" "f=10.0.0.1,action=a(1,2)" =
        P4RuntimeClient.write_update fuel ⟨1, (1, 0)⟩
          ⟨.insert, ⟨1, [⟨1, .exact [10, 0, 0, 1]⟩], 0, false, some ⟨2, [⟨1, [1]⟩]⟩⟩⟩ stubWrite :=
  ⟨rfl, fun _ _ => rfl⟩

theorem addEntry_actionData_twoData :
    (2 < 1 → addEntryUpdate ⟨1, (1, 0)⟩
        (fun _ => .ok ⟨[⟨⟨1, "ingress.t", "t"⟩, [⟨1, "f", 32, .exact⟩]⟩],
          [⟨⟨2, "a", "a"⟩, [⟨1, "p", 8⟩]⟩]⟩) "ingress.t" "f=10.0.0.1,action=a(1,2)" =
      .error (.py (.indexError "list index out of range"))) ∧
    ∀ u, addEntryUpdate ⟨1, (1, 0)⟩
        (fun _ => .ok ⟨[⟨⟨1, "ingress.t", "t"⟩, [⟨1, "f", 32, .exact⟩]⟩],
          [⟨⟨2, "a", "a"⟩, [⟨1, "p", 8⟩]⟩]⟩) "ingress.t" "f=10.0.0.1,action=a(1,2)" = .ok u →
      1 ≤ 2 ∧ ∃ act, u.tableEntry.action = some act ∧
        List.Forall₂ (fun (e : Param × Int) ap => ap.paramId = e.1.id ∧
          encode (.int e.2) e.1.bitwidth = .ok (.bytes ap.value)) [(⟨1, "p", 8⟩, 1)] act.params :=
  @addEntry_actionData _ _ _ _ [("f", "10.0.0.1")] "a" [1, 2] _ ⟨⟨2, "a", "a"⟩, [⟨1, "p", 8⟩]⟩
    rfl rfl (by decide) rfl (by decide)

end OvsP4ctl
