import OvsP4ctl.Python

/-!
# The P4Info schema and `P4InfoHelper`'s lookups

`P4InfoHelper` resolves names and ids against the P4Info the switch returns.  Three lookups scan
the schema linearly and return the first match:

* `get` scans the entities of one kind by preamble, matching a name against the `name` **or the
  `alias`** of the preamble, or else an id; Python's truth test `if name:` decides which;
* `get_match_field` scans the match fields of the tables whose `name` (never the alias) is the
  given one, by field name or field id;
* `get_action_param` does the same for the params of an action.

`lookup_roundTrip` : on a schema whose ids are unique within each kind and whose names are
unique, each lookup by name is undone by the lookup by the id it returned.
-/

namespace OvsP4ctl

/-- `p4.config.v1.Preamble`, the fields the lookups read. -/
structure Preamble where
  id : Nat
  name : String
  «alias» : String
  deriving DecidableEq, Repr

/-- `p4.config.v1.MatchField.MatchType`. -/
inductive MatchType where
  | unspecified | exact | lpm | ternary | range | optional
  deriving DecidableEq, Repr

/-- The number of a match type, as `%r` prints the protobuf enum field. -/
def MatchType.number : MatchType → Nat
  | unspecified => 0
  | exact => 2
  | lpm => 3
  | ternary => 4
  | range => 5
  | optional => 6

/-- `p4.config.v1.MatchField`. -/
structure MatchField where
  id : Nat
  name : String
  bitwidth : Nat
  matchType : MatchType
  deriving DecidableEq, Repr

/-- `p4.config.v1.Table`. -/
structure Table where
  preamble : Preamble
  matchFields : List MatchField
  deriving DecidableEq, Repr

/-- `p4.config.v1.Action.Param`. -/
structure Param where
  id : Nat
  name : String
  bitwidth : Nat
  deriving DecidableEq, Repr

/-- `p4.config.v1.Action`. -/
structure Action where
  preamble : Preamble
  params : List Param
  deriving DecidableEq, Repr

/-- `p4.config.v1.P4Info`: the tables and actions the script reads. -/
structure P4Info where
  tables : List Table
  actions : List Action
  deriving DecidableEq, Repr

/-! ### Lookups -/

/-- `%r` of an optional id. -/
def reprId : Option Nat → String
  | some i => toString i
  | none => "None"

/-- `%r` of `name if name is not None else id`. -/
def reprKey (name : Option String) (id : Option Nat) : String :=
  match name with
  | some n => pyRepr n
  | none => reprId id

/-- `P4InfoHelper.get` over the entities `objs` of kind `entityType`, each with its preamble. -/
def get {α : Type} (entityType : String) (objs : List α) (preamble : α → Preamble)
    (name : Option String) (id : Option Nat) : Except PyExc α :=
  if name.isSome ∧ id.isSome then .error (.assertionError "name or id must be None") else
  match name.filter (· ≠ "") with
  | some n =>
    match objs.find? fun o => (preamble o).name == n || (preamble o).alias == n with
    | some o => .ok o
    | none => .error (.attributeError ("Could not find " ++ pyRepr n ++ " of type " ++ entityType))
  | none =>
    match objs.find? fun o => some (preamble o).id == id with
    | some o => .ok o
    | none => .error (.attributeError ("Could not find id " ++ reprId id ++ " of type " ++
        entityType))

/-- `P4InfoHelper.get_id`. -/
def get_id {α : Type} (entityType : String) (objs : List α) (preamble : α → Preamble)
    (name : String) : Except PyExc Nat :=
  (fun o => (preamble o).id) <$> get entityType objs preamble (some name) none

/-- `P4InfoHelper.get_name`. -/
def get_name {α : Type} (entityType : String) (objs : List α) (preamble : α → Preamble)
    (id : Nat) : Except PyExc String :=
  (fun o => (preamble o).name) <$> get entityType objs preamble none (some id)

/-- `P4InfoHelper.get_alias`. -/
def get_alias {α : Type} (entityType : String) (objs : List α) (preamble : α → Preamble)
    (id : Nat) : Except PyExc String :=
  (fun o => (preamble o).alias) <$> get entityType objs preamble none (some id)

/-- `get_tables_id`, synthesised by `__getattr__`. -/
def get_tables_id (p : P4Info) (name : String) : Except PyExc Nat :=
  get_id "tables" p.tables Table.preamble name

/-- `get_actions_id`, synthesised by `__getattr__`. -/
def get_actions_id (p : P4Info) (name : String) : Except PyExc Nat :=
  get_id "actions" p.actions Action.preamble name

/-- The test in the loops of `get_match_field` and `get_action_param`: by name when a name is
given, else by id. -/
def keyMatches (name : Option String) (id : Option Nat) (itemName : String) (itemId : Nat) :
    Bool :=
  match name, id with
  | some n, _ => itemName == n
  | none, some i => itemId == i
  | none, none => false

/-- The nested loop of `get_match_field` and `get_action_param`: the first item, among the items
of the containers named `containerName` taken in order, that `keyMatches` the key. -/
def findItem {γ δ : Type} (containers : List γ) (containerName : γ → String) (items : γ → List δ)
    (itemName : δ → String) (itemId : δ → Nat) (cname : String) (name : Option String)
    (id : Option Nat) : Option δ :=
  ((containers.filter (containerName · == cname)).flatMap items).find?
    fun x => keyMatches name id (itemName x) (itemId x)

/-- `P4InfoHelper.get_match_field`. -/
def get_match_field (p : P4Info) (tableName : String) (name : Option String) (id : Option Nat) :
    Except PyExc MatchField :=
  match findItem p.tables (·.preamble.name) (·.matchFields) (·.name) (·.id) tableName name id with
  | some mf => .ok mf
  | none => .error (.attributeError (pyRepr tableName ++ " has no attribute " ++ reprKey name id))

/-- `P4InfoHelper.get_match_field_id`. -/
def get_match_field_id (p : P4Info) (tableName matchFieldName : String) : Except PyExc Nat :=
  (·.id) <$> get_match_field p tableName (some matchFieldName) none

/-- `P4InfoHelper.get_match_field_name`. -/
def get_match_field_name (p : P4Info) (tableName : String) (matchFieldId : Nat) :
    Except PyExc String :=
  (·.name) <$> get_match_field p tableName none (some matchFieldId)

/-- `P4InfoHelper.get_match_field_width`. -/
def get_match_field_width (p : P4Info) (tableName matchFieldName : String) : Except PyExc Nat :=
  (·.bitwidth) <$> get_match_field p tableName (some matchFieldName) none

/-- `repr` of a list of params: each message in the protobuf text format, which leaves out
fields holding their default value. -/
def reprParams (params : List Param) : String :=
  let field (key value : String) (isDefault : Bool) := if isDefault then "" else
    key ++ ": " ++ value ++ "\n"
  "[" ++ ", ".intercalate (params.map fun q =>
    field "id" (toString q.id) (q.id = 0) ++ field "name" ("\"" ++ q.name ++ "\"") (q.name = "") ++
      field "bitwidth" (toString q.bitwidth) (q.bitwidth = 0)) ++ "]"

/-- `P4InfoHelper.get_action_param`.  Its error message shows the params of the loop variable
`a`, the last action scanned; with no action at all, `a` is unbound. -/
def get_action_param (p : P4Info) (actionName : String) (name : Option String)
    (id : Option Nat) : Except PyExc Param :=
  match findItem p.actions (·.preamble.name) (·.params) (·.name) (·.id) actionName name id with
  | some q => .ok q
  | none =>
    match p.actions.getLast? with
    | some a => .error (.attributeError ("action " ++ pyRepr actionName ++ " has no param " ++
        reprKey name id ++ ", (has: " ++ reprParams a.params ++ ")"))
    | none => .error (.unboundLocalError
        "cannot access local variable 'a' where it is not associated with a value")

/-- `P4InfoHelper.get_action_param_id`. -/
def get_action_param_id (p : P4Info) (actionName paramName : String) : Except PyExc Nat :=
  (·.id) <$> get_action_param p actionName (some paramName) none

/-- `P4InfoHelper.get_action_param_name`. -/
def get_action_param_name (p : P4Info) (actionName : String) (paramId : Nat) :
    Except PyExc String :=
  (·.name) <$> get_action_param p actionName none (some paramId)

/-- `P4InfoHelper.get_action_params`: the params of the first action named `actionName`, or
`None`. -/
def get_action_params (p : P4Info) (actionName : String) : Option (List Param) :=
  (p.actions.find? (·.preamble.name == actionName)).map (·.params)

/-! ### Lookups on unique keys -/

section Unique

variable {α β : Type} {f : α → β}

/-- On a list with distinct keys, the first element passing a test that holds exactly at the key
of a member is that member. -/
theorem find?_eq_of_nodup {xs : List α} (hnd : (xs.map f).Nodup) {x : α} (hx : x ∈ xs)
    {P : α → Bool} (hP : ∀ y ∈ xs, P y = true ↔ f y = f x) : xs.find? P = some x := by
  induction xs with
  | nil => cases hx
  | cons a rest ih =>
    rw [List.map_cons, List.nodup_cons] at hnd
    rcases List.mem_cons.1 hx with rfl | hx'
    · exact List.find?_cons_of_pos _ ((hP _ (List.mem_cons_self _ _)).2 rfl)
    · have hne : f a ≠ f x := fun h => hnd.1 (h ▸ List.mem_map_of_mem f hx')
      rw [List.find?_cons_of_neg _ fun h => hne ((hP a (List.mem_cons_self _ _)).1 h)]
      exact ih hnd.2 hx' fun y hy => hP y (List.mem_cons_of_mem _ hy)

/-- A list with distinct keys that all equal one key has at most one element. -/
theorem eq_nil_or_singleton_of_nodup : ∀ {xs : List α}, (xs.map f).Nodup → ∀ {b : β},
    (∀ x ∈ xs, f x = b) → xs = [] ∨ ∃ x, xs = [x]
  | [], _, _, _ => .inl rfl
  | [x], _, _, _ => .inr ⟨x, rfl⟩
  | x :: y :: _, hnd, _, h => by
    rw [List.map_cons, List.map_cons, List.nodup_cons] at hnd
    exact absurd (by rw [h x (by simp), h y (by simp)]; exact List.mem_cons_self _ _) hnd.1

theorem filter_eq_cons_of_find? {P : α → Bool} : ∀ {l : List α} {a : α}, l.find? P = some a →
    ∃ rest, l.filter P = a :: rest
  | [], _, h => by cases h
  | x :: l, a, h => by
    by_cases hx : P x
    · rw [List.find?_cons_of_pos _ hx] at h
      cases h
      exact ⟨_, List.filter_cons_of_pos hx⟩
    · rw [List.find?_cons_of_neg _ hx] at h
      rw [List.filter_cons_of_neg hx]
      exact filter_eq_cons_of_find? h

end Unique

section FindItem

variable {γ δ : Type} {containers : List γ} {containerName : γ → String} {items : γ → List δ}
  {itemName : δ → String} {itemId : δ → Nat}

/-- **The nested loop, by name then by id.**  With container names distinct and item ids
distinct within each container, the item found by name is found again by its id. -/
theorem findItem_id_of_name (hnames : (containers.map containerName).Nodup)
    (hids : ∀ c ∈ containers, ((items c).map itemId).Nodup) {cname n : String} {x : δ}
    (h : findItem containers containerName items itemName itemId cname (some n) none = some x) :
    findItem containers containerName items itemName itemId cname none (some (itemId x)) =
      some x := by
  unfold findItem at h ⊢
  set cs := containers.filter (containerName · == cname) with hcs
  have hsub : cs.Sublist containers := List.filter_sublist _
  rcases eq_nil_or_singleton_of_nodup (hnames.sublist (hsub.map _)) (b := cname)
      (fun c hc => by simpa using (List.mem_filter.1 hc).2) with hnil | ⟨c, hc⟩
  · rw [hnil] at h
    cases h
  · have hc' : c ∈ containers := hsub.subset (by simp [hc])
    rw [hc, List.flatMap_cons, List.flatMap_nil, List.append_nil] at h ⊢
    exact find?_eq_of_nodup (hids c hc') (List.mem_of_find?_eq_some h)
      fun y _ => by simp [keyMatches]

end FindItem

/-- The uniqueness a P4Info compiler guarantees: ids unique within each kind, table and action
names unique, match-field ids unique within each table and param ids within each action. -/
structure P4Info.Unique (p : P4Info) : Prop where
  tableIds : (p.tables.map (·.preamble.id)).Nodup
  actionIds : (p.actions.map (·.preamble.id)).Nodup
  tableNames : (p.tables.map (·.preamble.name)).Nodup
  actionNames : (p.actions.map (·.preamble.name)).Nodup
  fieldIds : ∀ t ∈ p.tables, (t.matchFields.map (·.id)).Nodup
  paramIds : ∀ a ∈ p.actions, (a.params.map (·.id)).Nodup

/-- `get` by name returns a member with a non-empty name: an empty name is falsy, so the lookup
goes by the id `None` and finds nothing. -/
theorem get_name_spec {α : Type} {kind : String} {objs : List α} {pre : α → Preamble} {n : String}
    {o : α} (h : get kind objs pre (some n) none = .ok o) :
    o ∈ objs ∧ ((pre o).name = n ∨ (pre o).alias = n) := by
  unfold get at h
  rw [if_neg (by simp)] at h
  by_cases hn : n = ""
  · subst hn
    rw [show (some "").filter (· ≠ "") = none from rfl,
      List.find?_eq_none.2 fun o _ => by simp] at h
    cases h
  · rw [show (some n).filter (· ≠ "") = some n by simp [Option.filter, hn]] at h
    dsimp only at h
    split at h
    · rename_i o' ho'
      cases h
      exact ⟨List.mem_of_find?_eq_some ho', by simpa using List.find?_some ho'⟩
    · cases h

/-- With ids unique, `get` by the id of a member returns that member. -/
theorem get_id_of_mem {α : Type} {kind : String} {objs : List α} {pre : α → Preamble}
    (hids : (objs.map fun o => (pre o).id).Nodup) {o : α} (ho : o ∈ objs) :
    get kind objs pre none (some (pre o).id) = .ok o := by
  unfold get
  rw [if_neg (by simp)]
  simp only [Option.filter]
  rw [find?_eq_of_nodup hids ho fun y _ => by simp]

theorem get_match_field_ok {p : P4Info} {t : String} {name : Option String} {id : Option Nat}
    {mf : MatchField} : get_match_field p t name id = .ok mf ↔
      findItem p.tables (·.preamble.name) (·.matchFields) (·.name) (·.id) t name id = some mf := by
  unfold get_match_field
  split <;> simp_all

theorem get_action_param_ok {p : P4Info} {a : String} {name : Option String} {id : Option Nat}
    {q : Param} : get_action_param p a name id = .ok q ↔
      findItem p.actions (·.preamble.name) (·.params) (·.name) (·.id) a name id = some q := by
  unfold get_action_param
  split
  · simp_all
  · split <;> simp_all

/-- The params of the first action named `a` are found by their names, when these are
distinct. -/
theorem get_action_param_of_first {p : P4Info} {a : String} {A : Action}
    (hA : p.actions.find? (·.preamble.name == a) = some A) (hnd : (A.params.map (·.name)).Nodup)
    {q : Param} (hq : q ∈ A.params) : get_action_param p a (some q.name) none = .ok q := by
  obtain ⟨rest, hrest⟩ := filter_eq_cons_of_find? hA
  rw [get_action_param_ok, findItem, hrest, List.flatMap_cons, List.find?_append,
    find?_eq_of_nodup hnd hq fun y _ => by simp [keyMatches]]
  rfl

/-- **Lookups by name are undone by lookups by id.**  For every kind whose ids are unique, `get`
by the id of the entity `get` found by a name (or alias) finds that entity again, so
`get_name (get_id n)` is its name; and on a schema with the uniqueness of `P4Info.Unique`, the
match field (param) found by name is found again by its id. -/
theorem lookup_roundTrip :
    (∀ {α : Type} (kind : String) (objs : List α) (pre : α → Preamble),
      (objs.map fun o => (pre o).id).Nodup → ∀ (n : String) (o : α),
        get kind objs pre (some n) none = .ok o →
          get kind objs pre none (some (pre o).id) = .ok o ∧
            (get_id kind objs pre n >>= get_name kind objs pre) = .ok (pre o).name) ∧
    (∀ p : P4Info, p.Unique → ∀ (t f : String) (mf : MatchField),
      get_match_field p t (some f) none = .ok mf → get_match_field p t none (some mf.id) = .ok mf) ∧
    (∀ p : P4Info, p.Unique → ∀ (a n : String) (q : Param),
      get_action_param p a (some n) none = .ok q → get_action_param p a none (some q.id) = .ok q)
    := by
  refine ⟨fun kind objs pre hids n o h => ?_, fun p hp t f mf h => ?_, fun p hp a n q h => ?_⟩
  · have hid : get kind objs pre none (some (pre o).id) = .ok o :=
      get_id_of_mem hids (get_name_spec h).1
    exact ⟨hid, by simp [get_id, h, get_name, hid]⟩
  · exact get_match_field_ok.2 (findItem_id_of_name hp.tableNames hp.fieldIds
      (get_match_field_ok.1 h))
  · exact get_action_param_ok.2 (findItem_id_of_name hp.actionNames hp.paramIds
      (get_action_param_ok.1 h))

theorem lookup_roundTrip_byAlias :
    get "tables" [⟨⟨1, "ingress.t", "t"⟩, []⟩] Table.preamble none (some 1) =
        .ok ⟨⟨1, "ingress.t", "t"⟩, []⟩ ∧
      get_match_field ⟨[⟨⟨1, "ingress.t", "t"⟩, [⟨5, "f", 8, .exact⟩]⟩], []⟩ "ingress.t" none
        (some 5) = .ok ⟨5, "f", 8, .exact⟩ ∧
      get_action_param ⟨[], [⟨⟨2, "ingress.a", "a"⟩, [⟨3, "p", 8⟩]⟩]⟩ "ingress.a" none (some 3) =
        .ok ⟨3, "p", 8⟩ :=
  ⟨(lookup_roundTrip.1 "tables" ([⟨⟨1, "ingress.t", "t"⟩, []⟩] : List Table) Table.preamble
      (by decide) "t" ⟨⟨1, "ingress.t", "t"⟩, []⟩ rfl).1,
    lookup_roundTrip.2.1 ⟨[⟨⟨1, "ingress.t", "t"⟩, [⟨5, "f", 8, .exact⟩]⟩], []⟩
      ⟨by decide, by decide, by decide, by decide, by decide, by decide⟩
      "ingress.t" "f" ⟨5, "f", 8, .exact⟩ rfl,
    lookup_roundTrip.2.2 ⟨[], [⟨⟨2, "ingress.a", "a"⟩, [⟨3, "p", 8⟩]⟩]⟩
      ⟨by decide, by decide, by decide, by decide, by decide, by decide⟩
      "ingress.a" "p" ⟨3, "p", 8⟩ rfl⟩

end OvsP4ctl
