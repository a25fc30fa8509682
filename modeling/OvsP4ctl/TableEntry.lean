import OvsP4ctl.Codec.Encode
import OvsP4ctl.Schema

/-!
# Building table entries

`buildTableEntry` resolves a table reference, builds one `FieldMatch` per match key with
`get_match_field_pb`, and, given an action name, resolves it and builds one param per action
datum with `get_action_param_pb`.  The table and the action are resolved with `get`, which takes
a name **or an alias**; their match fields and params are resolved with `get_match_field` and
`get_action_param`, which compare names only.

* `get_action_param_pb_ok` : a param is built exactly when the param is found and its value
  encodes to bytes, and then it carries the param's id and those bytes;
* `buildAction_ok`, `buildTableEntry_ok` : the action part of an entry, item by item, and the
  whole entry;
* `get_match_field_pb_str_ok` : a string match value, as `p4ctl_add_entry` passes them, gives a
  `FieldMatch` only for an exact match field, and only when it encodes to bytes;
* `buildTableEntry_by_alias` : a table referred to by an alias that is no table's name gets no
  entry once a match key is given: `get` resolves the alias, but the match-field lookup
  compares names only.
-/

namespace OvsP4ctl

/-- `p4.v1.FieldMatch`'s `field_match_type`, for the four kinds the script writes. -/
inductive FieldMatchType where
  | exact (value : List UInt8)
  | lpm (value : List UInt8) (prefixLen : Int)
  | ternary (value mask : List UInt8)
  | range (low high : List UInt8)
  deriving DecidableEq, Repr

/-- `p4.v1.FieldMatch`. -/
structure FieldMatch where
  fieldId : Nat
  fieldMatchType : FieldMatchType
  deriving DecidableEq, Repr

/-- `p4.v1.Action.Param`. -/
structure ActionParam where
  paramId : Nat
  value : List UInt8
  deriving DecidableEq, Repr

/-- `p4.v1.Action`. -/
structure TableAction where
  actionId : Nat
  params : List ActionParam
  deriving DecidableEq, Repr

/-- `p4.v1.TableEntry`: the fields `buildTableEntry` sets. -/
structure TableEntry where
  tableId : Nat
  «match» : List FieldMatch
  priority : Int
  isDefaultAction : Bool
  action : Option TableAction
  deriving DecidableEq, Repr

/-! ### Protobuf field assignment -/

/-- Assigning `x` to a `bytes` field: protobuf accepts `bytes` only. -/
def bytesField : PyValue → Except PyExc (List UInt8)
  | .bytes b => .ok b
  | x => .error (.typeError (x.repr ++ " has type " ++ x.typeName ++ ", but expected one of: bytes"))

theorem bytesField_eq_ok {x : PyValue} {b : List UInt8} :
    bytesField x = .ok b ↔ x = .bytes b := by
  cases x <;> simp [bytesField]

/-- Assigning `x` to an `int32` field. -/
def int32Field : PyValue → Except PyExc Int
  | .int n =>
    if -2 ^ 31 ≤ n ∧ n < 2 ^ 31 then .ok n else .error (.valueError ("Value out of range: " ++
      toString n))
  | x => .error (.typeError (x.repr ++ " has type " ++ x.typeName ++ ", but expected one of: int"))

/-! ### The builders -/

/-- `P4InfoHelper.get_match_field_pb`. -/
def get_match_field_pb (p : P4Info) (tableName matchFieldName : String) (value : PyValue) :
    Except PyExc FieldMatch := do
  let p4infoMatch ← get_match_field p tableName (some matchFieldName) none
  let bitwidth := p4infoMatch.bitwidth
  let fieldMatchType ← match p4infoMatch.matchType with
    | .exact => FieldMatchType.exact <$> (encode value bitwidth >>= bytesField)
    | .lpm => do
      let v ← bytesField (← encode (← value.getItem 0) bitwidth)
      let prefixLen ← int32Field (← value.getItem 1)
      pure (.lpm v prefixLen)
    | .ternary => do
      let v ← bytesField (← encode (← value.getItem 0) bitwidth)
      let mask ← bytesField (← encode (← value.getItem 1) bitwidth)
      pure (.ternary v mask)
    | .range => do
      let low ← bytesField (← encode (← value.getItem 0) bitwidth)
      let high ← bytesField (← encode (← value.getItem 1) bitwidth)
      pure (.range low high)
    | matchType => throw (.exception ("Unsupported match type with type " ++
        toString matchType.number))
  pure ⟨p4infoMatch.id, fieldMatchType⟩

/-- `P4InfoHelper.get_match_field_value`: the value a `FieldMatch` carries, as the Python value
the protobuf fields give (`bytes` for the `bytes` fields).  The `valid`, `optional` and `other`
kinds, which it would return or reject, are not among the kinds the script writes. -/
def get_match_field_value (matchField : FieldMatch) : PyValue :=
  match matchField.fieldMatchType with
  | .exact value => .bytes value
  | .lpm value prefixLen => .tuple [.bytes value, .int prefixLen]
  | .ternary value mask => .tuple [.bytes value, .bytes mask]
  | .range low high => .tuple [.bytes low, .bytes high]

/-- `P4InfoHelper.get_action_param_pb`. -/
def get_action_param_pb (p : P4Info) (actionName paramName : String) (value : PyValue) :
    Except PyExc ActionParam := do
  let p4infoParam ← get_action_param p actionName (some paramName) none
  let v ← bytesField (← encode value p4infoParam.bitwidth)
  pure ⟨p4infoParam.id, v⟩

/-- The action part of `buildTableEntry`, for a truthy action name. -/
def buildAction (p : P4Info) (actionName : String) (actionParams : List (String × PyValue)) :
    Except PyExc TableAction := do
  let actionId ← get_actions_id p actionName
  let params ← (if actionParams.isEmpty then pure [] else
    actionParams.mapM fun e => get_action_param_pb p actionName e.1 e.2)
  pure ⟨actionId, params⟩

/-- `P4InfoHelper.buildTableEntry`.  The dicts `match_fields` and `action_params` are lists of
their items in insertion order; `None` and the empty dict are both `[]`. -/
def buildTableEntry (p : P4Info) (tableName : String) (matchFields : List (String × PyValue))
    (defaultAction : Bool) (actionName : Option String) (actionParams : List (String × PyValue))
    (priority : Option Int) : Except PyExc TableEntry := do
  let tableId ← get_tables_id p tableName
  let priority ← match priority with
    | some pr => int32Field (.int pr)
    | none => pure 0
  let «match» ← (if matchFields.isEmpty then pure [] else
    matchFields.mapM fun e => get_match_field_pb p tableName e.1 e.2)
  let action ← match actionName.filter (· ≠ "") with
    | some a => some <$> buildAction p a actionParams
    | none => pure none
  pure { tableId, «match», priority, isDefaultAction := defaultAction, action }

/-! ### What the builders return -/

/-- The script's `if d:` guard before a comprehension over `d` changes nothing. -/
@[simp] theorem isEmpty_mapM {ε α β : Type} {f : α → Except ε β} (xs : List α) :
    (if xs.isEmpty then .ok [] else xs.mapM f) = xs.mapM f := by
  cases xs <;> rfl

/-- A param is built exactly when the param is found and its value encodes to bytes: it carries
the param's id and those bytes. -/
theorem get_action_param_pb_ok {p : P4Info} {a n : String} {v : PyValue} {ap : ActionParam} :
    get_action_param_pb p a n v = .ok ap ↔ ∃ q, get_action_param p a (some n) none = .ok q ∧
      ap.paramId = q.id ∧ encode v q.bitwidth = .ok (.bytes ap.value) := by
  simp only [get_action_param_pb, bind_eq_ok, bytesField_eq_ok, pure_eq_ok, Except.ok.injEq]
  constructor
  · rintro ⟨q, hq, _, hx, b, rfl, rfl⟩; exact ⟨q, hq, rfl, hx⟩
  · rintro ⟨q, hq, hid, hx⟩; exact ⟨q, hq, _, hx, _, rfl, by rw [← hid]⟩

/-- The action part of an entry: the action's id, and one param per item, in order. -/
theorem buildAction_ok {p : P4Info} {a : String} {P : List (String × PyValue)}
    {act : TableAction} : buildAction p a P = .ok act ↔ get_actions_id p a = .ok act.actionId ∧
      List.Forall₂ (fun e ap => get_action_param_pb p a e.1 e.2 = .ok ap) P act.params := by
  simp only [buildAction, pure_eq_ok, isEmpty_mapM, ← mapM_eq_ok]
  cases h1 : get_actions_id p a with
  | error e => simp
  | ok i =>
    cases h2 : P.mapM fun e => get_action_param_pb p a e.1 e.2 with
    | error e => simp
    | ok ps => cases act; simp [eq_comm]

/-- **What `buildTableEntry` returns**: an entry is built exactly when the table is found, the
priority fits an `int32`, every match key gives a `FieldMatch` and, for a truthy action name,
the action part is built; the entry holds the table's id, the `FieldMatch`es in the order of the
keys, the priority (`0` when none is given), the default-action flag and the action. -/
theorem buildTableEntry_ok {p : P4Info} {t : String} {M P : List (String × PyValue)} {da : Bool}
    {a : Option String} {pr : Option Int} {e : TableEntry} :
    buildTableEntry p t M da a P pr = .ok e ↔
      get_tables_id p t = .ok e.tableId ∧
      (match pr with
        | some n => int32Field (.int n) = .ok e.priority
        | none => e.priority = 0) ∧
      List.Forall₂ (fun kv fm => get_match_field_pb p t kv.1 kv.2 = .ok fm) M e.match ∧
      e.isDefaultAction = da ∧
      (match a.filter (· ≠ "") with
        | some a => ∃ act, buildAction p a P = .ok act ∧ e.action = some act
        | none => e.action = none) := by
  rcases e with ⟨tid, ms, prio, isDef, act⟩
  unfold buildTableEntry
  simp only [pure_eq_ok, isEmpty_mapM]
  cases pr <;> cases a.filter (· ≠ "") <;>
    simp only [bind_eq_ok, map_eq_ok, ok_bind, pure_eq_ok, ← mapM_eq_ok, Except.ok.injEq,
      TableEntry.mk.injEq] <;> constructor
  case none.none.mp => rintro ⟨_, h1, _, h2, rfl, rfl, rfl, rfl, rfl⟩; exact ⟨h1, rfl, h2, rfl, rfl⟩
  case none.none.mpr =>
    rintro ⟨h1, rfl, h2, rfl, rfl⟩; exact ⟨_, h1, _, h2, rfl, rfl, rfl, rfl, rfl⟩
  case none.some.mp =>
    rintro ⟨_, h1, _, h2, _, ⟨b, h3, rfl⟩, rfl, rfl, rfl, rfl, rfl⟩
    exact ⟨h1, rfl, h2, rfl, b, h3, rfl⟩
  case none.some.mpr =>
    rintro ⟨h1, rfl, h2, rfl, b, h3, rfl⟩
    exact ⟨_, h1, _, h2, _, ⟨b, h3, rfl⟩, rfl, rfl, rfl, rfl, rfl⟩
  case some.none.mp =>
    rintro ⟨_, h1, _, h0, _, h2, rfl, rfl, rfl, rfl, rfl⟩; exact ⟨h1, h0, h2, rfl, rfl⟩
  case some.none.mpr =>
    rintro ⟨h1, h0, h2, rfl, rfl⟩; exact ⟨_, h1, _, h0, _, h2, rfl, rfl, rfl, rfl, rfl⟩
  case some.some.mp =>
    rintro ⟨_, h1, _, h0, _, h2, _, ⟨b, h3, rfl⟩, rfl, rfl, rfl, rfl, rfl⟩
    exact ⟨h1, h0, h2, rfl, b, h3, rfl⟩
  case some.some.mpr =>
    rintro ⟨h1, h0, h2, rfl, b, h3, rfl⟩
    exact ⟨_, h1, _, h0, _, h2, _, ⟨b, h3, rfl⟩, rfl, rfl, rfl, rfl, rfl⟩

/-- Given a truthy action name, the entry's action is the one `buildAction` builds. -/
theorem buildTableEntry_action {p : P4Info} {t a : String} {M P : List (String × PyValue)}
    {da : Bool} {pr : Option Int} {e : TableEntry} (ha : a ≠ "")
    (h : buildTableEntry p t M da (some a) P pr = .ok e) :
    ∃ act, buildAction p a P = .ok act ∧ e.action = some act := by
  have hf : (some a).filter (· ≠ "") = some a := by simp [Option.filter, ha]
  simpa only [hf] using (buildTableEntry_ok.1 h).2.2.2.2

/-- **A string match value gives a `FieldMatch` only for an exact match field**, and only when
the string encodes to bytes (by `encode_str_eq_bytes`, a MAC address text or a dotted quad of the
field's byte length).  For the other kinds the script indexes the string, and a one-character
string never encodes to bytes. -/
theorem get_match_field_pb_str_ok {p : P4Info} {t n s : String} {fm : FieldMatch} :
    get_match_field_pb p t n (.str s) = .ok fm ↔ ∃ mf b,
      get_match_field p t (some n) none = .ok mf ∧ mf.matchType = .exact ∧
        encode (.str s) mf.bitwidth = .ok (.bytes b) ∧ fm = ⟨mf.id, .exact b⟩ := by
  unfold get_match_field_pb
  cases hmf : get_match_field p t (some n) none with
  | error e => exact iff_of_false (fun h => nomatch h) fun ⟨_, _, h, _⟩ => nomatch h
  | ok mf =>
    simp only [ok_bind, Except.ok.injEq, exists_and_left, exists_eq_left']
    cases hk : mf.matchType
    case exact =>
      simp only [map_eq_ok, bind_eq_ok, bytesField_eq_ok, pure_eq_ok, Except.ok.injEq]
      constructor
      · rintro ⟨_, ⟨b, ⟨_, he, rfl⟩, rfl⟩, rfl⟩; exact ⟨trivial, b, he, rfl⟩
      · rintro ⟨-, b, he, rfl⟩; exact ⟨_, ⟨b, ⟨_, he, rfl⟩, rfl⟩, rfl⟩
    all_goals refine iff_of_false (fun h => ?_) fun ⟨h, _⟩ => nomatch h
    case unspecified | optional => exact nomatch h
    all_goals
      obtain ⟨x, hx, h⟩ := bind_eq_ok.1 h
      obtain ⟨c, rfl⟩ := getItem_str hx
      obtain ⟨y, hy, h⟩ := bind_eq_ok.1 h
      obtain ⟨v, hv, -⟩ := bind_eq_ok.1 h
      exact encode_single_ne_bytes c _ v (bytesField_eq_ok.1 hv ▸ hy)

theorem get_match_field_of_not_name {p : P4Info} {t : String}
    (hno : ∀ T ∈ p.tables, T.preamble.name ≠ t) (name : Option String) (id : Option Nat) :
    get_match_field p t name id =
      .error (.attributeError (pyRepr t ++ " has no attribute " ++ reprKey name id)) := by
  have : p.tables.filter (·.preamble.name == t) = [] :=
    List.filter_eq_nil_iff.2 fun T hT => by simpa using hno T hT
  simp [get_match_field, findItem, this]

theorem buildTableEntry_by_alias :
    buildTableEntry ⟨[⟨⟨1, "ingress.t", "t"⟩, [⟨1, "f", 8, .exact⟩]⟩],
        [⟨⟨2, "ingress.a", "a"⟩, [⟨1, "p", 8⟩]⟩]⟩ "t" [("f", .int 1)] false (some "a")
        [("p", .int 1)] none =
      .error (.attributeError "'t' has no attribute 'f'") ∧
    buildTableEntry ⟨[⟨⟨1, "ingress.t", "t"⟩, [⟨1, "f", 8, .exact⟩]⟩],
        [⟨⟨2, "ingress.a", "a"⟩, [⟨1, "p", 8⟩]⟩]⟩ "ingress.t" [("f", .int 1)] false (some "a")
        [("p", .int 1)] none =
      .error (.attributeError "action 'a' has no param 'p', (has: [id: 1\nname: \"p\"\nbitwidth: 8\n])") :=
  ⟨rfl, rfl⟩

end OvsP4ctl
