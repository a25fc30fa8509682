import OvsP4ctl.TableEntry

/-!
# Write requests and the parsing of their errors

`write` and `write_update` send a `WriteRequest` through the stub; a failure of the RPC is handed
to `parse_p4runtime_write_error`.  A failure with status `UNKNOWN` carries, in its trailing
metadata, a serialized `google.rpc.Status` whose details are one `p4.Error` per update; the
`P4RuntimeWriteException` constructor walks them with a `P4RuntimeErrorIterator` and keeps the
ones that are not `OK`.

The iterator's `__next__` is a `while` loop.  Its body (`collectStep`) is run with `loop`, for at
most a given number of passes, together with the `for` loop of `P4RuntimeWriteException`, which
appends each tuple `__next__` returns.

* `loop_collect_of_scan`, `loop_collect_of_scan_none` : the loop finishes where `scanDetails`
  does, with the same result, and runs forever where `scanDetails` is `none`;
* `parse_p4runtime_write_error_of_details` : the same for the whole failed write;
* `scanDetails_eq_none_of_ok` : the loop runs forever as soon as it reaches an `OK` item: the
  branch that skips it goes round again without moving `self.idx`;
* `scanDetails_eq_of_noOk` : when no item is `OK`, the errors are the claimed ones;
* `parse_p4runtime_write_error_other` : a failure with another status is raised unchanged;
* `P4RuntimeWriteException.str_eq` : `str` of a write exception is its header followed by one
  line per error, or the `KeyError` of the first error whose canonical code is no `google.rpc.Code`;
* `write_error_report` : **what a failed Write reports**: for details with no `OK` item, the
  exception raised carries every error with its index, and its text is one line per error.
-/

namespace OvsP4ctl

/-- `grpc.StatusCode`. -/
inductive StatusCode where
  | ok | cancelled | unknown | invalidArgument | deadlineExceeded | notFound | alreadyExists
  | permissionDenied | resourceExhausted | failedPrecondition | aborted | outOfRange
  | unimplemented | internal | unavailable | dataLoss | unauthenticated
  deriving DecidableEq, Repr

/-- `p4.v1.Error`: the fields the script reads. -/
structure P4Error where
  canonicalCode : Int
  message : String
  deriving DecidableEq, Repr

/-- `code_pb2.OK`, the `google.rpc.Code` of success. -/
def codeOK : Int := 0

/-- A `google.protobuf.Any`: a packed `p4.v1.Error`, or a message of another type. -/
inductive AnyMsg where
  | p4Error (e : P4Error)
  | other (typeUrl : String)
  deriving DecidableEq, Repr

/-- `Any.Unpack` into a `p4.v1.Error`: `None` stands for the `False` it returns. -/
def AnyMsg.unpack : AnyMsg → Option P4Error
  | .p4Error e => some e
  | .other _ => none

/-- `google.rpc.Status`. -/
structure RpcStatus where
  code : Int
  message : String
  details : List AnyMsg
  deriving DecidableEq, Repr

/-- A value of the trailing metadata: the bytes of a serialized `Status`, or other bytes. -/
inductive MetaValue where
  | status (s : RpcStatus)
  | raw (b : List UInt8)
  deriving DecidableEq, Repr

/-- `grpc.RpcError`, as the script reads it. -/
structure RpcError where
  code : StatusCode
  details : String
  trailingMetadata : List (String × MetaValue)
  deriving DecidableEq, Repr

/-- The exceptions of the script's P4Runtime calls, and the built-in ones around them. -/
inductive P4Exc where
  /-- The `grpc.RpcError` itself, re-raised. -/
  | rpcError (e : RpcError)
  | p4RuntimeException (e : RpcError)
  | formatException (message : String)
  | writeException (errors : List (Nat × P4Error))
  /-- `google.protobuf.message.DecodeError` from `ParseFromString`. -/
  | decodeError (message : String)
  | py (e : PyExc)
  deriving DecidableEq, Repr

/-- `Status.ParseFromString`. -/
def MetaValue.parseStatus : MetaValue → Except P4Exc RpcStatus
  | .status s => .ok s
  | .raw _ => .error (.decodeError "Error parsing message")

/-! ### The error iterator -/

/-- The state of a `P4RuntimeErrorIterator`. -/
structure P4RuntimeErrorIterator where
  errors : List AnyMsg
  idx : Nat
  deriving DecidableEq, Repr

/-- `P4RuntimeErrorIterator.__init__`: the details of the first `grpc-status-details-bin`
entry. -/
def P4RuntimeErrorIterator.init (grpcError : RpcError) : Except P4Exc P4RuntimeErrorIterator :=
  if grpcError.code ≠ .unknown then .error (.py (.assertionError "")) else
  match grpcError.trailingMetadata.find? (·.1 = "grpc-status-details-bin") with
  | none => .error (.formatException "No binary details field")
  | some meta => do
    let error ← meta.2.parseStatus
    if error.details.length = 0 then
      throw (.formatException "Binary details field has empty Any details repeated field")
    pure ⟨error.details, 0⟩

/-- One pass of the `while` loop of `__next__`, with the tuples the `for` loop of
`P4RuntimeWriteException.__init__` has collected so far. -/
def collectStep : P4RuntimeErrorIterator × List (Nat × P4Error) →
    Step (P4RuntimeErrorIterator × List (Nat × P4Error)) (Except P4Exc (List (Nat × P4Error)))
  | (it, acc) =>
    match it.errors[it.idx]? with
    | none => .done (.ok acc)
    | some oneErrorAny =>
      match oneErrorAny.unpack with
      | none => .done (.error (.formatException "Cannot convert Any message to p4.Error"))
      | some p4Error =>
        if p4Error.canonicalCode = codeOK then .next (it, acc)
        else .next (⟨it.errors, it.idx + 1⟩, acc ++ [(it.idx, p4Error)])

/-- `P4RuntimeWriteException.__init__`, run for at most `fuel` passes of the iterator's loop: the
collected errors, or the exception it raises. -/
def P4RuntimeWriteException.init (fuel : Nat) (grpcError : RpcError) :
    Option (Except P4Exc (List (Nat × P4Error))) :=
  if grpcError.code ≠ .unknown then some (.error (.py (.assertionError ""))) else
  match P4RuntimeErrorIterator.init grpcError with
  | .error x => some (.error x)
  | .ok it => loop collectStep fuel (it, [])

/-- What `raise P4RuntimeWriteException(e)` raises: the new exception, or the one its
constructor raised. -/
def raisedBy : Except P4Exc (List (Nat × P4Error)) → P4Exc
  | .ok errors => .writeException errors
  | .error x => x

/-- `parse_p4runtime_write_error` around a call whose outcome is `call`. -/
def parse_p4runtime_write_error {α : Type} (fuel : Nat) (call : Except RpcError α) :
    Option (Except P4Exc α) :=
  match call with
  | .ok r => some (.ok r)
  | .error e =>
    if e.code ≠ .unknown then some (.error (.rpcError e)) else
    (P4RuntimeWriteException.init fuel e).map fun r => .error (raisedBy r)

/-! ### What the loop computes -/

/-- What the loop makes of the details from index `i` on: the tuples it collects, the format
exception, or `none` when it never leaves. -/
def scanDetails : List AnyMsg → Nat → Option (Except P4Exc (List (Nat × P4Error)))
  | [], _ => some (.ok [])
  | a :: rest, i => match a.unpack with
    | none => some (.error (.formatException "Cannot convert Any message to p4.Error"))
    | some e => if e.canonicalCode = codeOK then none
      else (scanDetails rest (i + 1)).map (Except.map ((i, e) :: ·))

/-- What the details should come to: each item that unpacks to a `p4.Error` that is not `OK`,
with its index, and the format exception if some item does not unpack. -/
def claimedErrors : List AnyMsg → Nat → Except P4Exc (List (Nat × P4Error))
  | [], _ => .ok []
  | a :: rest, i => match a.unpack with
    | none => .error (.formatException "Cannot convert Any message to p4.Error")
    | some e => (claimedErrors rest (i + 1)).map fun r =>
      if e.canonicalCode = codeOK then r else (i, e) :: r

section Scan

variable {D : List AnyMsg}

theorem getElem?_of_drop_cons {idx : Nat} {a : AnyMsg} {rest : List AnyMsg}
    (h : D.drop idx = a :: rest) : D[idx]? = some a := by
  rw [← List.head?_drop, h]; rfl

theorem drop_succ_of_drop_cons {idx : Nat} {a : AnyMsg} {rest : List AnyMsg}
    (h : D.drop idx = a :: rest) : D.drop (idx + 1) = rest := by
  rw [← List.tail_drop, h]; rfl

section Step

variable {idx : Nat} {acc : List (Nat × P4Error)} {a : AnyMsg} {e : P4Error}

theorem collectStep_of_getElem?_none (h : D[idx]? = none) :
    collectStep (⟨D, idx⟩, acc) = .done (.ok acc) := by
  simp only [collectStep, h]

theorem collectStep_of_unpack_none (h : D[idx]? = some a) (hu : a.unpack = none) :
    collectStep (⟨D, idx⟩, acc) =
      .done (.error (.formatException "Cannot convert Any message to p4.Error")) := by
  simp only [collectStep, h, hu]

/-- The branch of an `OK` item: round again, from the same state. -/
theorem collectStep_of_ok (h : D[idx]? = some a) (hu : a.unpack = some e)
    (hok : e.canonicalCode = codeOK) : collectStep (⟨D, idx⟩, acc) = .next (⟨D, idx⟩, acc) := by
  simp only [collectStep, h, hu, if_pos hok]

theorem collectStep_of_not_ok (h : D[idx]? = some a) (hu : a.unpack = some e)
    (hok : e.canonicalCode ≠ codeOK) :
    collectStep (⟨D, idx⟩, acc) = .next (⟨D, idx + 1⟩, acc ++ [(idx, e)]) := by
  simp only [collectStep, h, hu, if_neg hok]

end Step

/-- The loop, from index `idx` on, finishes where `scanDetails` does, with the same result
after the tuples it had already collected. -/
theorem loop_collect_of_scan : ∀ {rest : List AnyMsg} {idx : Nat} {acc : List (Nat × P4Error)}
    {r : Except P4Exc (List (Nat × P4Error))}, D.drop idx = rest → scanDetails rest idx = some r →
    loop collectStep (rest.length + 1) (⟨D, idx⟩, acc) = some (r.map (acc ++ ·))
  | [], idx, acc, r, h, hs => by
    cases hs
    rw [loop_done (collectStep_of_getElem?_none (by rw [← List.head?_drop, h]; rfl))]
    simp [Except.map]
  | a :: rest, idx, acc, r, h, hs => by
    have hget := getElem?_of_drop_cons h
    unfold scanDetails at hs
    cases hu : a.unpack with
    | none =>
      simp only [hu, Option.some.injEq] at hs
      subst hs
      exact loop_done (collectStep_of_unpack_none hget hu) _
    | some e =>
      by_cases hok : e.canonicalCode = codeOK
      · simp [hu, hok] at hs
      · simp only [hu, if_neg hok, Option.map_eq_some'] at hs
        obtain ⟨r', hr', rfl⟩ := hs
        rw [List.length_cons, loop_next (collectStep_of_not_ok hget hu hok),
          loop_collect_of_scan (drop_succ_of_drop_cons h) hr']
        cases r' <;> simp [Except.map]

/-- Where `scanDetails` is `none`, the loop never leaves, whatever the fuel. -/
theorem loop_collect_of_scan_none : ∀ {rest : List AnyMsg} {idx : Nat}
    {acc : List (Nat × P4Error)}, D.drop idx = rest → scanDetails rest idx = none →
    ∀ fuel, loop collectStep fuel (⟨D, idx⟩, acc) = none
  | [], _, _, _, hs, _ => by cases hs
  | a :: rest, idx, acc, h, hs, fuel => by
    have hget := getElem?_of_drop_cons h
    unfold scanDetails at hs
    cases hu : a.unpack with
    | none => simp [hu] at hs
    | some e =>
      by_cases hok : e.canonicalCode = codeOK
      · exact loop_eq_none_of_next_self (collectStep_of_ok hget hu hok) fuel
      · simp only [hu, if_neg hok, Option.map_eq_none'] at hs
        cases fuel with
        | zero => rfl
        | succ fuel =>
          rw [loop_next (collectStep_of_not_ok hget hu hok)]
          exact loop_collect_of_scan_none (drop_succ_of_drop_cons h) hs fuel

end Scan

/-- The loop runs forever once it reaches an item that unpacks to an `OK` error, however many
errors come before it. -/
theorem scanDetails_eq_none_of_ok {e : P4Error} (hok : e.canonicalCode = codeOK) :
    ∀ {pre : List AnyMsg} {i : Nat} (post : List AnyMsg),
    (∀ a ∈ pre, ∃ e', a.unpack = some e' ∧ e'.canonicalCode ≠ codeOK) →
    scanDetails (pre ++ AnyMsg.p4Error e :: post) i = none
  | [], _, _, _ => by simp [scanDetails, AnyMsg.unpack, hok]
  | a :: pre, i, post, h => by
    obtain ⟨e', hu, hne⟩ := h a (List.mem_cons_self _ _)
    rw [List.cons_append, scanDetails]
    simp only [hu, if_neg hne, Option.map_none',
      scanDetails_eq_none_of_ok hok post fun b hb => h b (List.mem_cons_of_mem _ hb)]

/-- Where no item is `OK`, the loop reads the details as claimed. -/
theorem scanDetails_eq_of_noOk : ∀ {D : List AnyMsg} {i : Nat},
    (∀ a ∈ D, ∀ e, a.unpack = some e → e.canonicalCode ≠ codeOK) →
    scanDetails D i = some (claimedErrors D i)
  | [], _, _ => rfl
  | a :: D, i, h => by
    unfold scanDetails claimedErrors
    cases hu : a.unpack with
    | none => rfl
    | some e =>
      have hne := h a (List.mem_cons_self _ _) e hu
      simp only [if_neg hne, scanDetails_eq_of_noOk fun b hb => h b (List.mem_cons_of_mem _ hb)]
      cases claimedErrors D (i + 1) <;> simp [Except.map, hne]

/-! ### Parsing a failed write -/

section Parse

variable {α : Type} {e : RpcError}

/-- A failure with a status other than `UNKNOWN` is raised as it is. -/
theorem parse_p4runtime_write_error_other (fuel : Nat) (h : e.code ≠ .unknown) :
    @parse_p4runtime_write_error α fuel (.error e) = some (.error (.rpcError e)) := by
  simp [parse_p4runtime_write_error, h]

/-- An `UNKNOWN` failure whose iterator cannot be built raises what its constructor raises. -/
theorem parse_p4runtime_write_error_of_init_error {x : P4Exc} (fuel : Nat)
    (hc : e.code = .unknown) (h : P4RuntimeErrorIterator.init e = .error x) :
    @parse_p4runtime_write_error α fuel (.error e) = some (.error x) := by
  simp [parse_p4runtime_write_error, P4RuntimeWriteException.init, hc, h, raisedBy]

theorem init_of_noDetails (hc : e.code = .unknown)
    (hm : e.trailingMetadata.find? (·.1 = "grpc-status-details-bin") = none) :
    P4RuntimeErrorIterator.init e = .error (.formatException "No binary details field") := by
  simp [P4RuntimeErrorIterator.init, hc, hm]

theorem init_of_details {k : String} {st : RpcStatus} (hc : e.code = .unknown)
    (hm : e.trailingMetadata.find? (·.1 = "grpc-status-details-bin") = some (k, .status st)) :
    P4RuntimeErrorIterator.init e = if st.details = [] then
      .error (.formatException "Binary details field has empty Any details repeated field")
      else .ok ⟨st.details, 0⟩ := by
  cases h : st.details <;> simp [P4RuntimeErrorIterator.init, hc, hm, MetaValue.parseStatus, h]

/-- **An `UNKNOWN` failure with details `D`.**  Given one pass per item and one more, the write
raises what `scanDetails` reads; where `scanDetails` is `none`, it never returns. -/
theorem parse_p4runtime_write_error_of_details {k : String} {st : RpcStatus}
    (hc : e.code = .unknown)
    (hm : e.trailingMetadata.find? (·.1 = "grpc-status-details-bin") = some (k, .status st))
    (hD : st.details ≠ []) :
    (∀ r, scanDetails st.details 0 = some r → ∀ d,
      @parse_p4runtime_write_error α (st.details.length + 1 + d) (.error e) =
        some (.error (raisedBy r))) ∧
    (scanDetails st.details 0 = none → ∀ fuel,
      @parse_p4runtime_write_error α fuel (.error e) = none) := by
  have hi : P4RuntimeErrorIterator.init e = .ok ⟨st.details, 0⟩ := by
    rw [init_of_details hc hm, if_neg hD]
  simp only [parse_p4runtime_write_error, P4RuntimeWriteException.init, hc, ne_eq,
    not_true_eq_false, ite_false, hi]
  refine ⟨fun r hr d => ?_, fun hn fuel => ?_⟩
  · rw [loop_add (loop_collect_of_scan (List.drop_zero _) hr) d]
    cases r <;> rfl
  · rw [loop_collect_of_scan_none (List.drop_zero _) hn fuel]
    rfl

end Parse

/-! ### The messages of the exceptions -/

/-- `grpc.StatusCode`'s `name`. -/
def StatusCode.name : StatusCode → String
  | .ok => "OK" | .cancelled => "CANCELLED" | .unknown => "UNKNOWN"
  | .invalidArgument => "INVALID_ARGUMENT" | .deadlineExceeded => "DEADLINE_EXCEEDED"
  | .notFound => "NOT_FOUND" | .alreadyExists => "ALREADY_EXISTS"
  | .permissionDenied => "PERMISSION_DENIED" | .resourceExhausted => "RESOURCE_EXHAUSTED"
  | .failedPrecondition => "FAILED_PRECONDITION" | .aborted => "ABORTED"
  | .outOfRange => "OUT_OF_RANGE" | .unimplemented => "UNIMPLEMENTED" | .internal => "INTERNAL"
  | .unavailable => "UNAVAILABLE" | .dataLoss => "DATA_LOSS"
  | .unauthenticated => "UNAUTHENTICATED"

/-- `code_pb2._CODE.values_by_number`, by the values' names: the codes of `google.rpc.Code`. -/
def codeNames : List (Int × String) :=
  [(0, "OK"), (1, "CANCELLED"), (2, "UNKNOWN"), (3, "INVALID_ARGUMENT"),
    (4, "DEADLINE_EXCEEDED"), (5, "NOT_FOUND"), (6, "ALREADY_EXISTS"), (7, "PERMISSION_DENIED"),
    (8, "RESOURCE_EXHAUSTED"), (9, "FAILED_PRECONDITION"), (10, "ABORTED"), (11, "OUT_OF_RANGE"),
    (12, "UNIMPLEMENTED"), (13, "INTERNAL"), (14, "UNAVAILABLE"), (15, "DATA_LOSS"),
    (16, "UNAUTHENTICATED")]

/-- The line `P4RuntimeWriteException.__str__` writes for the error at index `idx`.  The lookup
of the code's name in `values_by_number` raises `KeyError` for a code that `google.rpc.Code`
does not have; the error is that code. -/
def P4RuntimeWriteException.line (e : Nat × P4Error) : Except Int String := do
  let codeName ← match codeNames.lookup e.2.canonicalCode with
    | some codeName => pure codeName
    | none => throw e.2.canonicalCode
  pure ("\t* At index " ++ toString e.1 ++ ": " ++ codeName ++ ", '" ++ e.2.message ++ "'\n")

/-- `P4RuntimeWriteException.__str__`: `message += line` for each error, in order. -/
def P4RuntimeWriteException.str (errors : List (Nat × P4Error)) : Except Int String :=
  errors.foldlM (fun message e => (message ++ ·) <$> P4RuntimeWriteException.line e)
    "Error(s) during Write:\n"

/-- `P4RuntimeException.__str__`. -/
def P4RuntimeException.str (grpcError : RpcError) : String :=
  "P4Runtime RPC error (" ++ grpcError.code.name ++ "): " ++ grpcError.details

/-- `str(e)`, where `rpcErrorText` is grpc's own rendering of a `grpc.RpcError`.  Only a write
exception's can raise. -/
def P4Exc.str (rpcErrorText : RpcError → String) : P4Exc → Except Int String
  | .rpcError e => .ok (rpcErrorText e)
  | .p4RuntimeException e => .ok (P4RuntimeException.str e)
  | .formatException message => .ok message
  | .writeException errors => P4RuntimeWriteException.str errors
  | .decodeError message => .ok message
  | .py e => .ok e.str

/-- The loop of `P4RuntimeWriteException.__str__`: the lines of the errors up to the first code
without a name, and then `KeyError` for that code. -/
theorem P4RuntimeWriteException.str_eq (errors : List (Nat × P4Error)) :
    P4RuntimeWriteException.str errors = (errors.mapM P4RuntimeWriteException.line).map
      ("Error(s) during Write:\n" ++ ·.foldr (· ++ ·) "") := by
  suffices h : ∀ (message : String) (errors : List (Nat × P4Error)),
      errors.foldlM (fun message e => (message ++ ·) <$> P4RuntimeWriteException.line e)
        message =
        (errors.mapM P4RuntimeWriteException.line).map (message ++ ·.foldr (· ++ ·) "") from
    h _ errors
  intro message errors
  induction errors generalizing message with
  | nil => exact congrArg Except.ok (String.append_empty message).symm
  | cons e errors ih =>
    rw [List.foldlM_cons, List.mapM_cons]
    cases P4RuntimeWriteException.line e with
    | error => rfl
    | ok l =>
      simp only [map_ok, ok_bind, ih]
      cases errors.mapM P4RuntimeWriteException.line <;>
        simp [Except.map, String.append_assoc, List.foldr_cons]

/-- Details none of which is `OK` are all kept, each with its index. -/
theorem claimedErrors_of_noOk : ∀ {errs : List P4Error} {i : Nat},
    (∀ err ∈ errs, err.canonicalCode ≠ codeOK) →
    claimedErrors (errs.map .p4Error) i = .ok (errs.enumFrom i)
  | [], _, _ => rfl
  | err :: errs, i, h => by
    rw [List.map_cons, claimedErrors, AnyMsg.unpack,
      claimedErrors_of_noOk fun e he => h e (List.mem_cons_of_mem _ he)]
    simp [Except.map, h err (List.mem_cons_self _ _)]

/-- **What a rejected Write reports.**  A Write that fails with status `UNKNOWN` and whose details
are the `p4.Error`s `errs`, none of them `OK`, raises, given one pass of the iterator's loop per
detail and one more, the write exception that keeps every error with its index.  Its `str` is
the header followed by one line per error, with its index, the name of its code and its
message, up to the first code that `google.rpc.Code` does not have: for that one, `str` raises
`KeyError`. -/
theorem write_error_report {α : Type} {e : RpcError} {k : String} {st : RpcStatus}
    {errs : List P4Error} (hc : e.code = .unknown)
    (hm : e.trailingMetadata.find? (·.1 = "grpc-status-details-bin") = some (k, .status st))
    (hD : st.details = errs.map .p4Error) (hne : errs ≠ [])
    (hok : ∀ err ∈ errs, err.canonicalCode ≠ codeOK) (d : Nat) (rpcErrorText : RpcError → String) :
    @parse_p4runtime_write_error α (errs.length + 1 + d) (.error e) =
      some (.error (.writeException errs.enum)) ∧
    (P4Exc.writeException errs.enum).str rpcErrorText =
      (errs.enum.mapM P4RuntimeWriteException.line).map
        ("Error(s) during Write:\n" ++ ·.foldr (· ++ ·) "") := by
  have hD' : st.details ≠ [] := by simpa [hD] using hne
  have hscan : scanDetails st.details 0 = some (.ok errs.enum) := by
    rw [scanDetails_eq_of_noOk, hD, claimedErrors_of_noOk hok]
    · rfl
    · simp only [hD, List.mem_map]
      rintro _ ⟨err, herr, rfl⟩ _ ⟨⟩
      exact hok err herr
  refine ⟨?_, P4RuntimeWriteException.str_eq _⟩
  have h := (parse_p4runtime_write_error_of_details (α := α) hc hm hD').1 _ hscan d
  rwa [hD, List.length_map] at h

/-- Two rejected updates, the second with a code that `google.rpc.Code` does not have. -/
theorem write_error_report_unknownCode :
    (⟨.unknown, "", [("grpc-status-details-bin", .status ⟨2, "",
      [.p4Error ⟨3, "bad"⟩, .p4Error ⟨17, "?"⟩]⟩)]⟩ : RpcError).code = .unknown ∧
    (⟨.unknown, "", [("grpc-status-details-bin", .status ⟨2, "",
      [.p4Error ⟨3, "bad"⟩, .p4Error ⟨17, "?"⟩]⟩)]⟩ : RpcError).trailingMetadata.find?
        (·.1 = "grpc-status-details-bin") = some ("grpc-status-details-bin", .status ⟨2, "",
          [.p4Error ⟨3, "bad"⟩, .p4Error ⟨17, "?"⟩]⟩) ∧
    (⟨2, "", [.p4Error ⟨3, "bad"⟩, .p4Error ⟨17, "?"⟩]⟩ : RpcStatus).details =
      [⟨3, "bad"⟩, ⟨17, "?"⟩].map .p4Error ∧
    [(⟨3, "bad"⟩ : P4Error), ⟨17, "?"⟩] ≠ [] ∧
    (∀ err ∈ [(⟨3, "bad"⟩ : P4Error), ⟨17, "?"⟩], err.canonicalCode ≠ codeOK) ∧
    @parse_p4runtime_write_error Unit 3 (.error ⟨.unknown, "", [("grpc-status-details-bin",
        .status ⟨2, "", [.p4Error ⟨3, "bad"⟩, .p4Error ⟨17, "?"⟩]⟩)]⟩) =
      some (.error (.writeException [(0, ⟨3, "bad"⟩), (1, ⟨17, "?"⟩)])) ∧
    (P4Exc.writeException [(0, ⟨3, "bad"⟩), (1, ⟨17, "?"⟩)]).str (fun _ => "") = .error 17 :=
  ⟨rfl, rfl, rfl, by decide, by decide,
    @write_error_report Unit ⟨.unknown, "", [("grpc-status-details-bin", .status ⟨2, "",
      [.p4Error ⟨3, "bad"⟩, .p4Error ⟨17, "?"⟩]⟩)]⟩ "grpc-status-details-bin"
      ⟨2, "", [.p4Error ⟨3, "bad"⟩, .p4Error ⟨17, "?"⟩]⟩ [⟨3, "bad"⟩, ⟨17, "?"⟩]
      rfl rfl rfl (by decide) (by decide) 0 _⟩

/-! ### Write requests -/

/-- `p4.v1.Uint128`. -/
structure ElectionId where
  high : Nat
  low : Nat
  deriving DecidableEq, Repr

/-- `p4.v1.Update.Type`. -/
inductive UpdateType where
  | unspecified | insert | modify | delete
  deriving DecidableEq, Repr

/-- `p4.v1.Update` of a table entry. -/
structure Update where
  type : UpdateType
  tableEntry : TableEntry
  deriving DecidableEq, Repr

/-- `p4.v1.WriteRequest`. -/
structure WriteRequest where
  deviceId : Nat
  electionId : ElectionId
  updates : List Update
  deriving DecidableEq, Repr

/-- The fields of a `P4RuntimeClient` its requests are stamped with. -/
structure P4RuntimeClient where
  deviceId : Nat
  electionId : Nat × Nat
  deriving DecidableEq, Repr

/-- `P4RuntimeClient.write`; `stubWrite` is the server's answer to the request. -/
def P4RuntimeClient.write (fuel : Nat) (client : P4RuntimeClient) (req : WriteRequest)
    (stubWrite : WriteRequest → Except RpcError Unit) : Option (Except P4Exc Unit) :=
  parse_p4runtime_write_error fuel (stubWrite { req with
    deviceId := client.deviceId, electionId := ⟨client.electionId.1, client.electionId.2⟩ })

/-- `P4RuntimeClient.write_update`. -/
def P4RuntimeClient.write_update (fuel : Nat) (client : P4RuntimeClient) (update : Update)
    (stubWrite : WriteRequest → Except RpcError Unit) : Option (Except P4Exc Unit) :=
  parse_p4runtime_write_error fuel (stubWrite ⟨client.deviceId,
    ⟨client.electionId.1, client.electionId.2⟩, [update]⟩)

/-- The write the spec describes, answered with the details `[OK, INVALID_ARGUMENT("bad")]`: it
should raise one error, at index 1, and it never returns. -/
theorem write_update_okDetail_hangs :
    claimedErrors [.p4Error ⟨codeOK, ""⟩, .p4Error ⟨3, "bad"⟩] 0 = .ok [(1, ⟨3, "bad"⟩)] ∧
    ∀ (client : P4RuntimeClient) (update : Update) (fuel : Nat),
      client.write_update fuel update (fun _ => .error ⟨.unknown, "",
        [("grpc-status-details-bin", .status ⟨2, "", [.p4Error ⟨codeOK, ""⟩,
          .p4Error ⟨3, "bad"⟩]⟩)]⟩) = none := by
  refine ⟨rfl, fun client update fuel => ?_⟩
  show Option.map _ (loop collectStep fuel _) = none
  rw [loop_eq_none_of_next_self (collectStep_of_ok (a := .p4Error ⟨codeOK, ""⟩) rfl rfl rfl)]
  rfl

end OvsP4ctl
