import OvsP4ctl.Cli

/-!
# What a run of the script asks of the switch

The only request of the script that changes a table is the `Write` of `add-entry`.  The `Write`
requests of a run are its events `.write req`, in order (`writesOf`); `WritesAtMost k x` says
that every run of `x` that ends sends at most `k` of them, and it composes through `bind` as the
counts add up.

* `main_writes` : **a run of the script sends at most one `Write`**, and it sends one only for
  the command line `ovs-p4ctl add-entry BRIDGE TABLE FLOW`: the request carries the bridge's
  device id, which fits in `uint64`, and the election id `(1, 0)`, and its one update is what
  `addEntryUpdate` builds from the table and the flow.  The script never retries a `Write`, and
  no other command sends one.
-/

namespace OvsP4ctl

/-- The `Write` request an event of a run sends, if it is one. -/
def CliEvent.toWrite : CliEvent → Option WriteRequest
  | .write req => some req
  | _ => none

namespace Cli

/-- The `Write` requests of a trace, in order. -/
def writesOf (t : List CliEvent) : List WriteRequest := t.filterMap CliEvent.toWrite

@[simp] theorem writesOf_append (t₁ t₂ : List CliEvent) :
    writesOf (t₁ ++ t₂) = writesOf t₁ ++ writesOf t₂ := List.filterMap_append _ _ _

/-- Every run of `x` that ends sends at most `k` `Write` requests. -/
def WritesAtMost (k : Nat) {α : Type} (x : Cli α) : Prop :=
  ∀ t r, x = some (t, r) → (writesOf t).length ≤ k

section WritesAtMost

variable {α β : Type} {j k : Nat}

theorem WritesAtMost.of_always {x : Cli α} (hx : Always (·.toWrite = none) x) :
    WritesAtMost 0 x := fun t r h => by
  rw [writesOf, List.filterMap_eq_nil_iff.2 (hx t r h)]
  rfl

theorem WritesAtMost.mono {x : Cli α} (hx : WritesAtMost j x) (h : j ≤ k) : WritesAtMost k x :=
  fun t r hr => (hx t r hr).trans h

theorem WritesAtMost.emit (ev : CliEvent) : WritesAtMost 1 (emit ev) := by
  rintro t r ⟨⟩
  cases ev <;> simp [writesOf, CliEvent.toWrite]

/-- The `Write` requests of `x >>= f` are those of `x` and then those of `f a`. -/
theorem WritesAtMost.bind {x : Cli α} {f : α → Cli β} (hx : WritesAtMost j x)
    (hf : ∀ a, WritesAtMost k (f a)) : WritesAtMost (j + k) (x >>= f) := by
  intro t r h
  rcases x with _ | ⟨t₁, x | a⟩
  · cases h
  · cases h
    exact (hx _ _ rfl).trans (Nat.le_add_right _ _)
  · obtain ⟨⟨t₂, r₂⟩, h₂, heq⟩ := Option.map_eq_some'.1 h
    cases heq
    rw [writesOf_append, List.length_append]
    exact Nat.add_le_add (hx _ _ rfl) (hf a _ _ h₂)

theorem WritesAtMost.bind_left {x : Cli α} {f : α → Cli β} (hx : Always (·.toWrite = none) x)
    (hf : ∀ a, WritesAtMost k (f a)) : WritesAtMost k (x >>= f) := by
  simpa using (WritesAtMost.of_always hx).bind hf

theorem WritesAtMost.bind_right {x : Cli α} {f : α → Cli β} (hx : WritesAtMost k x)
    (hf : ∀ a, Always (·.toWrite = none) (f a)) : WritesAtMost k (x >>= f) :=
  hx.bind fun a => WritesAtMost.of_always (hf a)

theorem WritesAtMost.observe {x : Cli α} (hx : WritesAtMost k x) :
    WritesAtMost k (observe x) := by
  intro t r h
  rcases x with _ | ⟨t₁, r₁⟩ <;> cases h
  exact hx _ _ rfl

end WritesAtMost

variable (w : World)

/-! ### The `Write` requests of the commands -/

/-- `with_client` sends no `Write` of its own. -/
theorem WritesAtMost.with_client {k : Nat} {f : P4RuntimeClient → List String → Cli Unit}
    {args : List String} (hf : ∀ c, WritesAtMost k (f c args)) :
    WritesAtMost k (with_client w f args) := by
  unfold Cli.with_client
  refine WritesAtMost.bind_left (Always.observe ((?_ : Always _ _).bind fun _ _ _ =>
    (Always.raisePy _).bind fun _ n _ => Always.connect w (fun _ => by rfl) (fun _ => by rfl) n))
    fun c => ?_
  · cases args
    exacts [Always.exit _, Always.pure _]
  · rcases c with x | c
    · exact (WritesAtMost.of_always (Always.exit _)).mono (Nat.zero_le k)
    refine (hf c).observe.bind_right fun r =>
      (Always.tear_down fun _ => by rfl).bind fun _ _ _ => ?_
    rcases r with _ | ⟨⟩
    exacts [Always.exit _, Always.pure _]

/-- `add-entry`, called as `main` calls it, sends one `Write` at most. -/
theorem WritesAtMost.p4ctl_add_entry {fuel : Nat} {x arg : String} {c : P4RuntimeClient}
    {args : List String} : WritesAtMost 1 (p4ctl_add_entry w fuel (x :: arg :: args) c args) := by
  rw [p4ctl_add_entry_of_argv]
  split
  · exact WritesAtMost.bind_left (Always.ofExcept _) fun _ =>
      (WritesAtMost.emit _).bind_right fun _ => Always.ofOption _
  · exact (WritesAtMost.of_always (Always.raisePy _)).mono (Nat.zero_le 1)

/-- **A run of `main` sends at most one `Write`.** -/
theorem WritesAtMost.main (fuel : Nat) (argv : List String) :
    WritesAtMost 1 (main w fuel argv) := by
  have hno : ∀ {α : Type} {x : Cli α}, Always (·.toWrite = none) x → WritesAtMost 1 x :=
    fun hx => (WritesAtMost.of_always hx).mono (Nat.zero_le 1)
  intro t r h
  rcases main_eq_some w h with hpr | ⟨x, arg, rest, command, handle, t₁, r₁, t₂, rfl, -, hl, hh,
    rfl, hpr⟩
  · rw [writesOf, filterMap_of_prints (fun _ => rfl) hpr]
    exact Nat.zero_le 1
  rw [writesOf_append, show writesOf t₂ = [] from filterMap_of_prints (fun _ => rfl) hpr,
    List.append_nil]
  refine (?_ : WritesAtMost 1 (handle rest)) t₁ r₁ hh
  rcases lookup_all_commands w hl with ⟨-, rfl⟩ | ⟨-, rfl⟩ | ⟨-, rfl⟩ | ⟨-, rfl⟩
  · exact WritesAtMost.with_client w fun _ => hno (Always.p4ctl_set_pipe w (fun _ => by rfl) _ _)
  · exact WritesAtMost.with_client w fun _ => hno (Always.p4ctl_get_pipe w (fun _ => by rfl) _ _)
  · exact WritesAtMost.with_client w fun _ => WritesAtMost.p4ctl_add_entry w
  · exact WritesAtMost.with_client w fun _ => hno (Always.p4ctl_del_entry _ _)

/-- **A run of the script sends at most one `Write`, and only the one of `add-entry`.**  The
`Write` requests of every run of `main` that ends, for every command line and every world, are
none, or exactly one: the command line is `ovs-p4ctl add-entry BRIDGE TABLE FLOW`, the request
carries the bridge's device id, which fits in `uint64`, and the election id `(1, 0)`, and its one
update is what `addEntryUpdate` builds from the table and the flow. -/
theorem main_writes (fuel : Nat) (argv : List String) {t : List CliEvent}
    {r : Except CliExit Unit} (h : main w fuel argv = some (t, r)) :
    writesOf t = [] ∨ ∃ x arg b tbl flow n u, argv = [x, arg, b, tbl, flow] ∧
      parse_args w arg = pure "add-entry" ∧
      resolve_device_id_by_bridge_name (w.findBridge b) w.bridgeRows b = .ok n ∧ 0 ≤ n ∧
      n < 2 ^ 64 ∧ addEntryUpdate ⟨n.toNat, (1, 0)⟩ w.stubGet tbl flow = .ok u ∧
      writesOf t = [⟨n.toNat, ⟨1, 0⟩, [u]⟩] := by
  have hall := Always.main w (P := fun e => ∀ req, e.toWrite = some req → ∃ x arg b tbl flow n u,
      argv = [x, arg, b, tbl, flow] ∧ parse_args w arg = pure "add-entry" ∧
      resolve_device_id_by_bridge_name (w.findBridge b) w.bridgeRows b = .ok n ∧ 0 ≤ n ∧
      n < 2 ^ 64 ∧ addEntryUpdate ⟨n.toNat, (1, 0)⟩ w.stubGet tbl flow = .ok u ∧
      req = ⟨n.toNat, ⟨1, 0⟩, [u]⟩)
    (fun _ _ h => by cases h) (fun _ _ h => by cases h) fuel argv
    (fun x arg b tbl flow n u h₁ h₂ h₃ h₄ h₅ h₆ req hreq => by
      cases hreq
      exact ⟨x, arg, b, tbl, flow, n, u, h₁, h₂, h₃, h₄, h₅, h₆, rfl⟩) t r h
  match hws : writesOf t, WritesAtMost.main w fuel argv t r h with
  | [], _ => exact .inl rfl
  | [req], _ =>
    obtain ⟨e, he, hreq⟩ := List.mem_filterMap.1 (hws ▸ List.mem_singleton_self req :
      req ∈ writesOf t)
    obtain ⟨x, arg, b, tbl, flow, n, u, h₁, h₂, h₃, h₄, h₅, h₆, rfl⟩ := hall e he req hreq
    exact .inr ⟨x, arg, b, tbl, flow, n, u, h₁, h₂, h₃, h₄, h₅, h₆, rfl⟩
  | _ :: _ :: _, hle => exact absurd hle (by simp)

/-- The world of `oneBridge "1"` whose switch has the table `ingress.t`, matched exactly on the
32-bit field `f`, and the action `a` with the 8-bit param `p`. -/
def oneTable : World :=
  { oneBridge "1" with
    stubGet := fun _ => .ok ⟨[⟨⟨1, "ingress.t", "t"⟩, [⟨1, "f", 32, .exact⟩]⟩],
      [⟨⟨2, "a", "a"⟩, [⟨1, "p", 8⟩]⟩]⟩ }

theorem main_writes_addEntry :
    ∃ t, main oneTable 0 ["ovs-p4ctl", "add-entry", "br0", "ingress.t", "f=10.0.0.1,action=a(1)"] =
      some (t, .ok ()) ∧
    writesOf t = [⟨1, ⟨1, 0⟩, [⟨.insert, ⟨1, [⟨1, .exact [10, 0, 0, 1]⟩], 0, false,
      some ⟨2, [⟨1, [1]⟩]⟩⟩⟩]⟩] ∧
    (writesOf t = [] ∨ ∃ x arg b tbl flow n u,
      ["ovs-p4ctl", "add-entry", "br0", "ingress.t", "f=10.0.0.1,action=a(1)"] =
        [x, arg, b, tbl, flow] ∧ parse_args oneTable arg = pure "add-entry" ∧
      resolve_device_id_by_bridge_name (oneTable.findBridge b) oneTable.bridgeRows b = .ok n ∧
      0 ≤ n ∧ n < 2 ^ 64 ∧ addEntryUpdate ⟨n.toNat, (1, 0)⟩ oneTable.stubGet tbl flow = .ok u ∧
      writesOf t = [⟨n.toNat, ⟨1, 0⟩, [u]⟩]) :=
  ⟨_, rfl, rfl, @main_writes oneTable 0
    ["ovs-p4ctl", "add-entry", "br0", "ingress.t", "f=10.0.0.1,action=a(1)"] _ _ rfl⟩

end Cli

end OvsP4ctl
