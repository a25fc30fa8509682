import OvsP4ctl.Python

/-!
# Resolving a bridge's device id

`resolve_device_id_by_bridge_name` asks OVSDB, through `ovspy`, for the `Bridge` rows and reads
the `device_id` key of the `other_config` column of the row of the bridge.  OVSDB sends a map
column as `["map", [[k1, v1], ..., [kn, vn]]]`.  The script takes `br['other_config'][1][0]`, the
first pair `[k1, v1]`, and looks for `device_id` among its two items.

* `resolve_device_id_by_bridge_name_ovsdbMap` : **only the first pair is read**: the device id is
  found when `k1` is `device_id`; when `device_id` is a later key, the bridge is reported as not
  having one; and an empty map raises `IndexError`.
-/

namespace OvsP4ctl

/-- A `Bridge` row as `get_bridge_raw` returns it: the columns the script reads. -/
structure BridgeRow where
  name : String
  otherConfig : PyValue
  deriving Repr

/-- The inner loop, over `enumerate(other_configs)` from position `i`: the value after the first
item equal to `device_id`, or `none` when the loop ends. -/
def findDeviceId (otherConfigs : PyValue) : List PyValue → Nat → Option (Except PyExc Int)
  | [], _ => none
  | cfg :: rest, i =>
    if cfg.eqStr "device_id" then some (otherConfigs.getItem (i + 1) >>= PyValue.toInt)
    else findDeviceId otherConfigs rest (i + 1)

/-- The outer loop, over the rows: the id found, or `none` when the loop ends. -/
def resolveRows (bridgeName : String) : List BridgeRow → Except PyExc (Option Int)
  | [] => .ok none
  | br :: rows =>
    if br.name = bridgeName then do
      let otherConfigs ← br.otherConfig.getItem 1 >>= (·.getItem 0)
      match findDeviceId otherConfigs (← otherConfigs.iter) 0 with
      | some r => some <$> r
      | none => resolveRows bridgeName rows
    else resolveRows bridgeName rows

/-- `resolve_device_id_by_bridge_name`; `findBridge` and `rows` are what `ovspy`'s
`find_bridge` and `get_bridge_raw` return. -/
def resolve_device_id_by_bridge_name (findBridge : Bool) (rows : List BridgeRow)
    (bridgeName : String) : Except PyExc Int :=
  if !findBridge then .error (.exception ("bridge '" ++ bridgeName ++ "' doesn't exist")) else
  match resolveRows bridgeName rows with
  | .ok (some n) => .ok n
  | .ok none => .error (.exception ("bridge '" ++ bridgeName ++
      "' does not have 'device_id' configured"))
  | .error e => .error e

/-- The OVSDB encoding `["map", [[k1, v1], ..., [kn, vn]]]` of a map. -/
def ovsdbMap (pairs : List (String × String)) : PyValue :=
  .list [.str "map", .list (pairs.map fun kv => .list [.str kv.1, .str kv.2])]

/-! ### What the loops read -/

/-- What the inner loop makes of the pair `[k, v]`: `int(v)` when `k` is `device_id`, an
`IndexError` when `v` is, and `none` otherwise. -/
def firstPairResult (k v : String) : Option (Except PyExc Int) :=
  if k = "device_id" then some (parseInt v)
  else if v = "device_id" then some (.error (.indexError "list index out of range"))
  else none

theorem findDeviceId_pair (k v : String) :
    findDeviceId (.list [.str k, .str v]) [.str k, .str v] 0 = firstPairResult k v := by
  by_cases hk : k = "device_id" <;> by_cases hv : v = "device_id" <;>
    simp [findDeviceId, firstPairResult, PyValue.eqStr, PyValue.getItem, PyValue.toInt, hk, hv]

/-- Over rows whose bridge of that name, if any, has a non-empty map, the outer loop reads the
first pair of the map only. -/
theorem resolveRows_eq {name k v : String} {rest : List (String × String)} :
    ∀ {rows : List BridgeRow},
      (∀ br ∈ rows, br.name = name → br.otherConfig = ovsdbMap ((k, v) :: rest)) →
      resolveRows name rows = if rows.any (·.name = name) then
        (firstPairResult k v).elim (.ok none) (some <$> ·) else .ok none
  | [], _ => rfl
  | br :: rows, h => by
    have ih := resolveRows_eq fun br' hbr' => h br' (List.mem_cons_of_mem _ hbr')
    by_cases hb : br.name = name
    · have hcfg := h br (List.mem_cons_self _ _) hb
      simp only [resolveRows, if_pos hb, hcfg, ovsdbMap, List.map_cons, PyValue.getItem,
        List.getElem?_cons_succ, List.getElem?_cons_zero, ok_bind, PyValue.iter,
        findDeviceId_pair, List.any_cons, hb, decide_True, Bool.true_or, if_true, ih]
      cases firstPairResult k v <;> simp
    · simp only [resolveRows, if_neg hb, ih, List.any_cons, hb, decide_False, Bool.false_or,
        if_false]

/-- **Only the first pair of `other_config` is read.** -/
theorem resolve_device_id_by_bridge_name_ovsdbMap {rows : List BridgeRow} {name k v : String}
    {rest : List (String × String)} (hmem : ∃ br ∈ rows, br.name = name)
    (h : ∀ br ∈ rows, br.name = name → br.otherConfig = ovsdbMap ((k, v) :: rest)) :
    resolve_device_id_by_bridge_name true rows name =
      if k = "device_id" then parseInt v
      else if v = "device_id" then .error (.indexError "list index out of range")
      else .error (.exception ("bridge '" ++ name ++ "' does not have 'device_id' configured")) := by
  have hany : rows.any (·.name = name) = true := by simpa using hmem
  rw [resolve_device_id_by_bridge_name, resolveRows_eq h, hany]
  unfold firstPairResult
  by_cases hk : k = "device_id" <;> by_cases hv : v = "device_id" <;> simp only [hk, hv, if_true,
    if_false, Option.elim] <;> cases parseInt v <;> rfl

theorem resolve_device_id_by_bridge_name_firstKey :
    (∃ br ∈ [(⟨"br0", ovsdbMap [("device_id", "1"), ("datapath-id", "0000000000000001")]⟩ :
      BridgeRow)], br.name = "br0") ∧
    (∀ br ∈ [(⟨"br0", ovsdbMap [("device_id", "1"), ("datapath-id", "0000000000000001")]⟩ :
      BridgeRow)], br.name = "br0" →
        br.otherConfig = ovsdbMap [("device_id", "1"), ("datapath-id", "0000000000000001")]) ∧
    resolve_device_id_by_bridge_name true
        [⟨"br0", ovsdbMap [("device_id", "1"), ("datapath-id", "0000000000000001")]⟩] "br0" =
      .ok 1 := by
  have hmem : ∃ br ∈ [(⟨"br0", ovsdbMap [("device_id", "1"),
      ("datapath-id", "0000000000000001")]⟩ : BridgeRow)], br.name = "br0" :=
    ⟨_, List.mem_singleton_self _, rfl⟩
  have h : ∀ br ∈ [(⟨"br0", ovsdbMap [("device_id", "1"),
      ("datapath-id", "0000000000000001")]⟩ : BridgeRow)], br.name = "br0" →
        br.otherConfig = ovsdbMap [("device_id", "1"), ("datapath-id", "0000000000000001")] := by
    rintro br hbr -
    rw [List.mem_singleton.1 hbr]
  exact ⟨hmem, h, resolve_device_id_by_bridge_name_ovsdbMap hmem h⟩

/-- An empty map raises `IndexError`. -/
theorem resolve_device_id_by_bridge_name_empty {rows : List BridgeRow} {name : String}
    (hmem : ∃ br ∈ rows, br.name = name)
    (h : ∀ br ∈ rows, br.name = name → br.otherConfig = ovsdbMap []) :
    resolve_device_id_by_bridge_name true rows name =
      .error (.indexError "list index out of range") := by
  suffices resolveRows name rows = .error (.indexError "list index out of range") by
    rw [resolve_device_id_by_bridge_name, this]; rfl
  induction rows with
  | nil => obtain ⟨_, hbr, _⟩ := hmem; cases hbr
  | cons br rows ih =>
    by_cases hb : br.name = name
    · rw [resolveRows, if_pos hb, h br (List.mem_cons_self _ _) hb]; rfl
    · simp only [resolveRows, if_neg hb]
      exact ih (by simpa [hb] using hmem) fun br' hbr' => h br' (List.mem_cons_of_mem _ hbr')

theorem resolve_device_id_secondKey :
    resolve_device_id_by_bridge_name true
        [⟨"br0", ovsdbMap [("datapath-id", "0000000000000001"), ("device_id", "1")]⟩] "br0" =
      .error (.exception "bridge 'br0' does not have 'device_id' configured") := rfl

end OvsP4ctl
