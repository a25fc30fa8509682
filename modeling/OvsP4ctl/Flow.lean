import OvsP4ctl.Python

/-!
# Parsing a flow

`add-entry` takes its match key and action as one argument, the flow
`k1=v1,...,kn=vn,action=a(d1,...,dm)`.  `parse_flow` splits it at `,action=`, the match part at
`,` and each match pair at `=`, the action part at `(` and then `)`, and the action data at `,`,
and converts each datum with `int`.

* `parse_flow_flowText` : **the flows the syntax describes are read back**, for every list of
  match pairs with distinct keys, every action name and every non-empty list of action data
  that the syntax can carry (`FlowShape`): the dict in its order, the name and the data.
* `parse_flow_dict` : **a repeated key is read as a Python dict reads it**, for every flow of
  the syntax (`FlowSyntax`): each key once, at the place of its first pair, with the value of
  its last, and no error.
* `parse_flow_noData` : a flow whose action has no data, `a()`, raises `ValueError`:
  `''.split(',')` is `['']`, not `[]`, and `int('')` fails.

What this does not say: how `parse_flow` reads text outside the syntax (a pair without `=`, a
flow without `,action=`); it raises `IndexError` there, which the model keeps but no theorem here
describes.
-/

namespace OvsP4ctl

/-- One pass of the loop over the match pairs of `parse_flow`. -/
def addMatchKey (matchKeys : List (String × String)) (mkField : List Char) :
    Except PyExc (List (String × String)) := do
  let m := split ['='] mkField
  let m1 ← pyIndex m 1
  if '/' ∈ m1 then throw (.notImplementedError "LPM not supported")
  let m0 ← pyIndex m 0
  pure (dictSet matchKeys ⟨m0⟩ ⟨m1⟩)

/-- `parse_flow`: the match keys (a dict, in insertion order), the action name and the action
data. -/
def parse_flow (flow : String) : Except PyExc (List (String × String) × String × List Int) := do
  let tmp := split ",action=".data flow.data
  let mk ← pyIndex tmp 0
  let act ← pyIndex tmp 1
  let matchKeys ← (split [','] mk).foldlM addMatchKey []
  let actFields := split ['('] act
  let actionName ← pyIndex actFields 0
  let params ← pyIndex (split [')'] (← pyIndex actFields 1)) 0
  let actData ← (split [','] params).mapM fun a => parseInt ⟨a⟩
  pure (matchKeys, ⟨actionName⟩, actData)

/-! ### The flow syntax -/

/-- `k=v`. -/
def pairText (kv : String × String) : List Char := kv.1.data ++ '=' :: kv.2.data

/-- `k1=v1,...,kn=vn`. -/
def matchText (M : List (String × String)) : List Char := [','].intercalate (M.map pairText)

/-- `d1,...,dm`, in decimal. -/
def argsText (d : List Nat) : List Char := [','].intercalate (d.map (Nat.toDigits 10))

/-- `a(d1,...,dm)`. -/
def actionText (a : String) (d : List Nat) : List Char := a.data ++ '(' :: (argsText d ++ [')'])

/-- The flow `k1=v1,...,kn=vn,action=a(d1,...,dm)`. -/
def flowText (M : List (String × String)) (a : String) (d : List Nat) : String :=
  ⟨matchText M ++ ",action=".data ++ actionText a d⟩

/-- What the flow syntax can carry: at least one match pair, keys that are not `action`, keys and
values without `,`, `=` and `/`, and an action name without `,` and `(`. -/
structure FlowSyntax (M : List (String × String)) (a : String) : Prop where
  nonempty : M ≠ []
  notAction : ∀ kv ∈ M, kv.1 ≠ "action"
  plain : ∀ kv ∈ M, ∀ c ∈ kv.1.data ++ kv.2.data, c ≠ ',' ∧ c ≠ '=' ∧ c ≠ '/'
  nameComma : ',' ∉ a.data
  nameParen : '(' ∉ a.data

/-- A flow of the syntax whose keys are pairwise distinct. -/
structure FlowShape (M : List (String × String)) (a : String) extends FlowSyntax M a : Prop where
  keysNodup : (M.map (·.1)).Nodup

/-! ### Reading the pieces back -/

/-- Two words ended by a character neither holds are equal when one is a prefix of the other. -/
theorem eq_of_prefix_sep {c : Char} :
    ∀ {u k w : List Char}, c ∉ u → c ∉ k → u ++ [c] <+: k ++ c :: w → u = k
  | [], [], _, _, _, _ => rfl
  | [], x :: k, _, _, hk, h => absurd ((List.cons_prefix_cons.1 h).1 ▸ List.mem_cons_self _ _) hk
  | x :: u, [], _, hu, _, h => absurd ((List.cons_prefix_cons.1 h).1 ▸ List.mem_cons_self _ _) hu
  | x :: u, y :: k, _, hu, hk, h => by
    obtain ⟨rfl, h'⟩ := List.cons_prefix_cons.1 h
    rw [eq_of_prefix_sep (List.not_mem_of_not_mem_cons hu) (List.not_mem_of_not_mem_cons hk) h']

theorem mem_toDigits {n : Nat} {c : Char} (h : c ∈ Nat.toDigits 10 n) : IsDigitIn 10 c :=
  (toDigits_spec (by norm_num) (by norm_num) n).1 c h

theorem not_mem_toDigits {n : Nat} {c : Char} (hc : ¬ IsDigitIn 10 c) : c ∉ Nat.toDigits 10 n :=
  fun h => hc (mem_toDigits h)

/-- No character of the data text but `,` is outside the digits. -/
theorem mem_argsText {d : List Nat} {c : Char} (h : c ∈ argsText d) : c = ',' ∨ IsDigitIn 10 c := by
  rcases mem_intercalate_single h with h | ⟨p, hp, h⟩
  · exact .inl h
  · obtain ⟨n, -, rfl⟩ := List.mem_map.1 hp
    exact .inr (mem_toDigits h)

theorem not_mem_argsText {d : List Nat} {c : Char} (hc : c ≠ ',') (hd : ¬ IsDigitIn 10 c) :
    c ∉ argsText d :=
  fun h => (mem_argsText h).elim hc hd

section Syntax

variable {M : List (String × String)} {a : String} (h : FlowSyntax M a)
include h

theorem FlowSyntax.not_mem {kv : String × String} (hkv : kv ∈ M) {c : Char}
    (hc : c = ',' ∨ c = '=' ∨ c = '/') : c ∉ kv.1.data ∧ c ∉ kv.2.data := by
  have hbad : ¬ (c ≠ ',' ∧ c ≠ '=' ∧ c ≠ '/') := by tauto
  exact ⟨fun hm => hbad (h.plain kv hkv c (List.mem_append_left _ hm)),
    fun hm => hbad (h.plain kv hkv c (List.mem_append_right _ hm))⟩

theorem FlowSyntax.comma_not_mem_pairText {kv : String × String} (hkv : kv ∈ M) :
    ',' ∉ pairText kv := by
  simp only [pairText, List.mem_append, List.mem_cons, not_or]
  exact ⟨(h.not_mem hkv (.inl rfl)).1, by decide, (h.not_mem hkv (.inl rfl)).2⟩

/-- `,action=` starts nowhere in the match part. -/
theorem FlowSyntax.noMatch_matchText (r : List Char) :
    NoMatchIn ",action=".data (matchText M) r := by
  refine noMatchIn_intercalate r (fun p hp => ?_) fun q hq w hpre => ?_
  · obtain ⟨kv, hkv, rfl⟩ := List.mem_map.1 hp
    exact h.comma_not_mem_pairText hkv
  · obtain ⟨kv, hkv, rfl⟩ := List.mem_map.1 (List.mem_of_mem_tail hq)
    have hk := eq_of_prefix_sep (u := "action".data) (by decide)
      (h.not_mem hkv (.inr (.inl rfl))).1 (by
        rw [pairText, List.append_assoc, List.cons_append] at hpre; exact hpre)
    exact h.notAction kv hkv (String.ext hk.symm)

end Syntax

/-- `,action=` starts nowhere in the action part. -/
theorem noMatch_actionText {a : String} (ha : ',' ∉ a.data) (d : List Nat) :
    NoMatchIn ",action=".data (actionText a d) [] := by
  have hargs : NoMatchIn ",action=".data (argsText d) [')'] := by
    refine noMatchIn_intercalate _ (fun p hp => ?_) fun q hq w hpre => ?_
    · obtain ⟨n, -, rfl⟩ := List.mem_map.1 hp
      exact not_mem_toDigits (by decide)
    · obtain ⟨n, -, rfl⟩ := List.mem_map.1 (List.mem_of_mem_tail hq)
      obtain ⟨c, cs, hc⟩ := List.exists_cons_of_ne_nil (toDigits_ne_nil 10 n)
      rw [hc, List.cons_append] at hpre
      have := mem_toDigits (hc ▸ List.mem_cons_self c cs)
      rw [← (List.cons_prefix_cons.1 hpre).1] at this
      exact absurd this (by decide)
  have hparen : NoMatchIn ",action=".data ['('] (argsText d ++ [')'] ++ []) :=
    noMatchIn_cons (by decide) _
  exact noMatchIn_append (noMatchIn_cons ha _)
    (noMatchIn_append hparen (noMatchIn_append hargs (noMatchIn_cons (by decide) _)))

theorem addMatchKey_pairText {acc : List (String × String)} {kv : String × String}
    (hk : '=' ∉ kv.1.data) (hv : '=' ∉ kv.2.data) (hs : '/' ∉ kv.2.data) :
    addMatchKey acc (pairText kv) = .ok (dictSet acc kv.1 kv.2) := by
  have hsplit : split ['='] (pairText kv) = [kv.1.data, kv.2.data] := by
    have := @split_single_intercalate '=' [kv.1.data, kv.2.data] (by simp) (by simp [hk, hv])
    rwa [intercalate_cons_cons, intercalate_singleton, List.append_assoc,
      List.singleton_append] at this
  simp [addMatchKey, hsplit, pyIndex, hs]

/-- The loop over the match pairs makes the assignments `matchKeys[k] = v` of the pairs, in
order. -/
theorem foldlM_addMatchKey : ∀ {M acc : List (String × String)},
    (∀ kv ∈ M, '=' ∉ kv.1.data ∧ '=' ∉ kv.2.data ∧ '/' ∉ kv.2.data) →
      (M.map pairText).foldlM addMatchKey acc = .ok (M.foldl (fun d kv => dictSet d kv.1 kv.2) acc)
  | [], _, _ => rfl
  | kv :: M, acc, h => by
    obtain ⟨hk, hv, hs⟩ := h kv (List.mem_cons_self _ _)
    rw [List.map_cons, List.foldlM_cons, addMatchKey_pairText hk hv hs, ok_bind,
      foldlM_addMatchKey fun kv' h' => h kv' (List.mem_cons_of_mem _ h')]
    rfl

theorem mapM_parseInt_toDigits {d : List Nat}
    (hlen : ∀ n ∈ d, (Nat.toDigits 10 n).length ≤ maxStrDigits) :
    (d.map (Nat.toDigits 10)).mapM (fun a => parseInt ⟨a⟩) = .ok (d.map Int.ofNat) := by
  rw [mapM_eq_ok, List.forall₂_map_left_iff, List.forall₂_map_right_iff, List.forall₂_same]
  intro n hn
  rw [parseInt_digits (toDigits_ne_nil 10 n) (fun c => mem_toDigits) (hlen n hn),
    (toDigits_spec (by norm_num) (by norm_num) n).2]
  rfl

theorem split_actionText {a : String} (ha : '(' ∉ a.data) (d : List Nat) :
    split ['('] (actionText a d) = [a.data, argsText d ++ [')']] := by
  rw [actionText, show '(' :: (argsText d ++ [')']) = ['('] ++ (argsText d ++ [')']) from rfl,
    ← List.append_assoc, split_append_sep (List.cons_ne_nil _ _) (noMatchIn_cons ha _),
    split_of_noMatch (noMatchIn_cons (List.not_mem_append
      (not_mem_argsText (by decide) (by decide)) (by decide)) _)]

theorem split_argsText_paren (d : List Nat) :
    split [')'] (argsText d ++ [')']) = [argsText d, []] := by
  have := @split_append_sep [')'] (argsText d) [] (List.cons_ne_nil _ _)
    (noMatchIn_cons (not_mem_argsText (by decide) (by decide)) _)
  rwa [List.append_nil] at this

theorem split_argsText {d : List Nat} (hd : d ≠ []) :
    split [','] (argsText d) = d.map (Nat.toDigits 10) :=
  split_single_intercalate (by simpa using hd) fun p hp => by
    obtain ⟨n, -, rfl⟩ := List.mem_map.1 hp
    exact not_mem_toDigits (by decide)

section Syntax

variable {M : List (String × String)} {a : String} (h : FlowSyntax M a)
include h

theorem FlowSyntax.split_flowText (d : List Nat) :
    split ",action=".data (flowText M a d).data = [matchText M, actionText a d] := by
  show split _ (matchText M ++ _ ++ actionText a d) = _
  rw [split_append_sep (List.cons_ne_nil _ _) (h.noMatch_matchText _),
    split_of_noMatch (noMatch_actionText h.nameComma d)]

theorem FlowSyntax.split_matchText : split [','] (matchText M) = M.map pairText :=
  split_single_intercalate (by simpa using h.nonempty) fun p hp => by
    obtain ⟨kv, hkv, rfl⟩ := List.mem_map.1 hp
    exact h.comma_not_mem_pairText hkv

theorem FlowSyntax.foldlM_matchText :
    (split [','] (matchText M)).foldlM addMatchKey [] =
      .ok (M.foldl (fun d kv => dictSet d kv.1 kv.2) []) := by
  rw [h.split_matchText, foldlM_addMatchKey fun kv hkv => ?_]
  exact ⟨(h.not_mem hkv (.inr (.inl rfl))).1, (h.not_mem hkv (.inr (.inl rfl))).2,
    (h.not_mem hkv (.inr (.inr rfl))).2⟩

/-- `parse_flow` on a flow of the syntax: the dict of the match pairs, the name and the data. -/
theorem FlowSyntax.parse_flow_dictSet {d : List Nat} (hd : d ≠ [])
    (hlen : ∀ n ∈ d, (Nat.toDigits 10 n).length ≤ maxStrDigits) :
    parse_flow (flowText M a d) =
      .ok (M.foldl (fun d kv => dictSet d kv.1 kv.2) [], a, d.map Int.ofNat) := by
  simp only [parse_flow, h.split_flowText, pyIndex, List.getElem?_cons_zero,
    List.getElem?_cons_succ, ok_bind, h.foldlM_matchText, split_actionText h.nameParen,
    split_argsText_paren, split_argsText hd, mapM_parseInt_toDigits hlen]
  rfl

/-- **A flow whose keys repeat is read as a Python dict**, for every flow of the syntax:
`parse_flow` raises nothing for a repeated key; the match dict holds each key once, in the order
of its first pair, with the value of its last pair. -/
theorem parse_flow_dict {d : List Nat} (hd : d ≠ [])
    (hlen : ∀ n ∈ d, (Nat.toDigits 10 n).length ≤ maxStrDigits) :
    ∃ D, parse_flow (flowText M a d) = .ok (D, a, d.map Int.ofNat) ∧
      D.map (·.1) = (M.map (·.1)).eraseDups ∧ ∀ k, D.lookup k = M.reverse.lookup k :=
  ⟨_, h.parse_flow_dictSet hd hlen, keys_foldl_dictSet M [],
    fun k => (lookup_foldl_dictSet M [] k).trans Option.or_none⟩

omit h in
theorem parse_flow_dict_repeatedKey :
    FlowSyntax [("k", "1"), ("j", "2"), ("k", "3")] "a" ∧ [1] ≠ [] ∧
      (∀ n ∈ [1], (Nat.toDigits 10 n).length ≤ maxStrDigits) ∧
      parse_flow (flowText [("k", "1"), ("j", "2"), ("k", "3")] "a" [1]) =
        .ok ([("k", "3"), ("j", "2")], "a", [1]) ∧
      ∃ D, parse_flow (flowText [("k", "1"), ("j", "2"), ("k", "3")] "a" [1]) =
          .ok (D, "a", [1].map Int.ofNat) ∧
        D.map (·.1) = ([("k", "1"), ("j", "2"), ("k", "3")].map (·.1)).eraseDups ∧
        ∀ k, D.lookup k = [("k", "1"), ("j", "2"), ("k", "3")].reverse.lookup k := by
  have hs : FlowSyntax [("k", "1"), ("j", "2"), ("k", "3")] "a" :=
    ⟨by decide, by decide, by decide, by decide, by decide⟩
  exact ⟨hs, by decide, by decide, rfl, parse_flow_dict hs (by decide) (by decide)⟩

end Syntax

section Shape

variable {M : List (String × String)} {a : String} (h : FlowShape M a)
include h

/-- **The flows of the syntax are read back**: the match pairs in their order, the action name,
and the data, when there is at least one datum and each has at most the 4300 digits `int`
accepts. -/
theorem parse_flow_flowText {d : List Nat} (hd : d ≠ [])
    (hlen : ∀ n ∈ d, (Nat.toDigits 10 n).length ≤ maxStrDigits) :
    parse_flow (flowText M a d) = .ok (M, a, d.map Int.ofNat) := by
  rw [h.toFlowSyntax.parse_flow_dictSet hd hlen, foldl_dictSet_of_new h.keysNodup (by simp),
    List.nil_append]

omit h in
theorem parse_flow_flowText_oneKey :
    FlowShape [("k", "v")] "a" ∧ [1] ≠ [] ∧
      (∀ n ∈ [1], (Nat.toDigits 10 n).length ≤ maxStrDigits) ∧
      parse_flow (flowText [("k", "v")] "a" [1]) = .ok ([("k", "v")], "a", [1]) := by
  have hs : FlowShape [("k", "v")] "a" :=
    ⟨⟨by decide, by decide, by decide, by decide, by decide⟩, by decide⟩
  exact ⟨hs, by decide, by decide, parse_flow_flowText hs (by decide) (by decide)⟩

/-- A flow whose action has no data raises `ValueError`: the empty data text splits into one
empty piece. -/
theorem parse_flow_flowText_nil :
    parse_flow (flowText M a []) =
      .error (.valueError "invalid literal for int() with base 10: ''") := by
  simp only [parse_flow, h.toFlowSyntax.split_flowText, pyIndex, List.getElem?_cons_zero,
    List.getElem?_cons_succ, ok_bind, h.toFlowSyntax.foldlM_matchText,
    split_actionText h.nameParen, split_argsText_paren]
  rfl

end Shape

theorem parse_flow_noData :
    parse_flow "k=v,action=a()" =
      .error (.valueError "invalid literal for int() with base 10: ''") := rfl

end OvsP4ctl
