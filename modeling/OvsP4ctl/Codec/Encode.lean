import OvsP4ctl.Codec.Address

/-!
# `encode`

`encode(x, bitwidth)` guesses how to encode a user value: a one-element list or tuple is
unwrapped, a MAC address text goes through `encodeMac`, a dotted quad through `encodeIPv4`, an
integer through `encodeNum`, and any other string is passed through as if it were already
encoded.  The result's length is then asserted to be `bitwidthToBytes bitwidth`.

* `numCodec_laws` : for every positive bitwidth below `2 ^ 53`, `encodeNum` returns exactly on
  `[0, 2 ^ b)`, with the `⌈b / 8⌉` big-endian bytes that `decodeNum` reads back and that `encode`
  returns too, and `encodeNum` rebuilds every byte string of that length from its value;
* `bitwidthToBytes_rounded` : above `2 ^ 53` the float division rounds the bitwidth, and from
  `2 ^ 1024` on it overflows, so `encodeNum` and `encode` raise for every value;
* `encode_addressText` : MAC texts give the bytes they spell, and dotted quads the bytes
  `inet(3)` makes of them, octal groups and `OSError` included;
* `encode_leadingZero` : a group with a leading zero is read in octal by `inet_aton`, not in
  decimal.
* `encode_str_eq_bytes` : any other string is returned unchanged, so a string encodes to bytes
  only when it is a MAC address text or a dotted quad; a one-character string never does.
-/

namespace OvsP4ctl

/-- The unwrapping at the head of `encode`: `x[0]` of a one-element list or tuple. -/
def unwrapSingle : PyValue → PyValue
  | .list [y] => y
  | .tuple [y] => y
  | x => x

/-- The conversion `encode` picks for a value. -/
def encodeValue (x : PyValue) (bitwidth : Nat) : Except PyExc PyValue :=
  match x with
  | .str s =>
    if matchesMac s then PyValue.bytes <$> encodeMac s
    else if matchesIPv4 s then PyValue.bytes <$> encodeIPv4 s
    else pure (.str s)
  | .int n => PyValue.bytes <$> encodeNum n bitwidth
  | x => throw (.exception ("Encoding objects of <class " ++ pyRepr x.typeName ++
      "> is not supported"))

/-- `encode`. -/
def encode (x : PyValue) (bitwidth : Nat) : Except PyExc PyValue := do
  let byteLen ← bitwidthToBytes bitwidth
  let encodedBytes ← encodeValue (unwrapSingle x) bitwidth
  if (← encodedBytes.len) = byteLen then pure encodedBytes else throw (.assertionError "")

/-- `encode` returns bytes exactly when the conversion returns them and they have the
bitwidth's byte length. -/
theorem encode_eq_bytes {x : PyValue} {b : Nat} {y : List UInt8} :
    encode x b = .ok (.bytes y) ↔
      encodeValue (unwrapSingle x) b = .ok (.bytes y) ∧ bitwidthToBytes b = .ok y.length := by
  simp only [encode, bind_eq_ok]
  constructor
  · rintro ⟨n, hb, _, he, m, hm, h⟩
    split at h
    · cases h; cases hm; subst n; exact ⟨he, hb⟩
    · cases h
  · rintro ⟨he, hl⟩
    exact ⟨_, hl, _, he, _, rfl, if_pos rfl⟩

theorem encode_eq_of_encodeValue {x : PyValue} {b : Nat} {y : List UInt8}
    (hx : encodeValue (unwrapSingle x) b = .ok (.bytes y)) (h : bitwidthToBytes b = .ok y.length) :
    encode x b = .ok (.bytes y) :=
  encode_eq_bytes.2 ⟨hx, h⟩

/-- A bitwidth whose conversion to a `float` overflows makes `encode` raise before it looks at
the value. -/
theorem encode_of_error {x : PyValue} {b : Nat} {e : PyExc} (h : bitwidthToBytes b = .error e) :
    encode x b = .error e := by
  simp only [encode, h]
  rfl

/-! ### Numbers -/

theorem encode_int {v b : Nat} (hb : 1 ≤ b) (hb53 : b < 2 ^ 53) (hv : v < 2 ^ b) :
    encode (.int v) b = .ok (.bytes (toBytesBE ((b + 7) / 8) v)) :=
  encode_eq_of_encodeValue (by simp [unwrapSingle, encodeValue, encodeNum_eq hb hb53 hv])
    (by rw [length_toBytesBE, bitwidthToBytes_of_lt hb53])

/-- The laws of `encodeNum` and `decodeNum` at bitwidth `b`, with `n = ⌈b / 8⌉`:
`bitwidthToBytes b` is `n`; `encodeNum v b` returns exactly when `0 ≤ v < 2 ^ b`, and then it
returns the `n` big-endian bytes of `v`, which `decodeNum` reads back as `v` and which `encode`
returns as well; conversely `encodeNum` rebuilds every `n` bytes of value below `2 ^ b` from that
value. -/
def NumCodecLaws (b : Nat) : Prop :=
  let n := (b + 7) / 8
  (bitwidthToBytes b = .ok n ∧ b ≤ 8 * n ∧ 8 * n < b + 8) ∧
  (∀ v : Int, (∃ y, encodeNum v b = .ok y) ↔ 0 ≤ v ∧ v < 2 ^ b) ∧
  (∀ v : Int, 0 ≤ v → v < 2 ^ b →
    encodeNum v b = .ok (toBytesBE n v.toNat) ∧ (toBytesBE n v.toNat).length = n ∧
      decodeNum (toBytesBE n v.toNat) = .ok v ∧
      encode (.int v) b = .ok (.bytes (toBytesBE n v.toNat))) ∧
  (∀ x : List UInt8, x.length = n → ∀ d : Int, decodeNum x = .ok d → d < 2 ^ b →
    encodeNum d b = .ok x)

/-- **The number codec is a bijection between `[0, 2 ^ b)` and the byte strings of length
`⌈b / 8⌉` and value below `2 ^ b`**, for every positive bitwidth `b` below `2 ^ 53`, where
`bitwidth / 8.0` is exact. -/
theorem numCodec_laws (b : Nat) (hb : 1 ≤ b) (hb53 : b < 2 ^ 53) : NumCodecLaws b := by
  have hn : b ≤ 8 * ((b + 7) / 8) ∧ 8 * ((b + 7) / 8) < b + 8 := by omega
  have hpow : (2 : Nat) ^ b ≤ 256 ^ ((b + 7) / 8) := by
    rw [show (256 : Nat) = 2 ^ 8 from rfl, ← pow_mul]
    exact Nat.pow_le_pow_right (by decide) hn.1
  have hne : ∀ {x : List UInt8}, x.length = (b + 7) / 8 → x ≠ [] := by
    rintro x hx rfl
    rw [List.length_nil] at hx
    omega
  refine ⟨⟨bitwidthToBytes_of_lt hb53, hn⟩, fun v => ⟨?_, ?_⟩, fun v hv0 hv => ?_,
    fun x hx d hd hdb => ?_⟩
  · rintro ⟨y, hy⟩
    refine ⟨not_lt.1 fun h => ?_, not_le.1 fun h => ?_⟩
    · obtain ⟨e, he⟩ := encodeNum_error_of_neg h b
      rw [he] at hy; cases hy
    · rw [encodeNum_error_of_ge (bitwidthToBytes_of_lt hb53) h] at hy; cases hy
  · rintro ⟨hv0, hv⟩
    obtain ⟨v, rfl⟩ := Int.eq_ofNat_of_zero_le hv0
    exact ⟨_, encodeNum_eq hb hb53 (by exact_mod_cast hv)⟩
  · obtain ⟨v, rfl⟩ := Int.eq_ofNat_of_zero_le hv0
    have hv' : v < 2 ^ b := by exact_mod_cast hv
    rw [Int.toNat_ofNat]
    refine ⟨encodeNum_eq hb hb53 hv', length_toBytesBE _ _, ?_, encode_int hb hb53 hv'⟩
    rw [decodeNum_eq (hne (length_toBytesBE _ _)), bytesValue_toBytesBE,
      Nat.mod_eq_of_lt (lt_of_lt_of_le hv' hpow)]
  · rw [decodeNum_eq (hne hx)] at hd
    cases hd
    rw [encodeNum_eq hb hb53 (by exact_mod_cast hdb), ← hx, toBytesBE_bytesValue]

theorem numCodec_laws_twelve : 1 ≤ 12 ∧ 12 < 2 ^ 53 ∧ NumCodecLaws 12 :=
  ⟨by decide, by decide, numCodec_laws 12 (by decide) (by decide)⟩

/-- **Above `2 ^ 53` the byte length is not `⌈b / 8⌉`.**  `bitwidth / 8.0` rounds the bitwidth
to a `float` first: at `2 ^ 53 + 1` it gives `2 ^ 50` bytes, one short of `⌈b / 8⌉`, and from
`2 ^ 1024` on the conversion overflows, so that `encodeNum` and `encode` raise `OverflowError`
for every value. -/
theorem bitwidthToBytes_rounded :
    bitwidthToBytes (2 ^ 53 + 1) = .ok (2 ^ 50) ∧ (2 ^ 53 + 1 + 7) / 8 = 2 ^ 50 + 1 ∧
    ∀ b, 2 ^ 1024 ≤ b →
      (∀ v, encodeNum v b = .error (.overflowError "int too large to convert to float")) ∧
      ∀ x, encode x b = .error (.overflowError "int too large to convert to float") :=
  ⟨rfl, by norm_num, fun _ hb => ⟨fun _ => encodeNum_of_error (bitwidthToBytes_of_ge hb),
    fun _ => encode_of_error (bitwidthToBytes_of_ge hb)⟩⟩

/-! ### Address texts -/

/-- An address's bitwidth is far below `2 ^ 53`. -/
theorem small_of_ceil {b n : Nat} (h : (b + 7) / 8 = n) (hn : n ≤ 8) : b < 2 ^ 53 :=
  lt_of_le_of_lt (show b ≤ 64 by omega) (by norm_num)

theorem macGroups_succ_of_not_mem {s : List Char} (h : ':' ∉ s) (k : Nat) :
    macGroups (k + 1) s = false := by
  rcases s with _ | ⟨a, _ | ⟨b, _ | ⟨c, rest⟩⟩⟩ <;> try rfl
  have hc : (c == ':') = false := by
    simp only [beq_eq_false_iff_ne, ne_eq]
    rintro rfl
    exact h (by simp)
  simp [macGroups, hc]

/-- A dotted quad holds only digits and dots. -/
theorem mem_ipText {gs : List (List Char)} (h : ∀ g ∈ gs, IsIpGroup g) {c : Char}
    (hc : c ∈ ipText gs) : c = '.' ∨ c.isDigit = true := by
  rcases mem_intercalate_single hc with hc | ⟨g, hg, hc⟩
  · exact .inl hc
  · exact .inr ((h g hg).2.2 c hc)

/-- `encodeIPv4` of a dotted quad of digit groups: the bytes `inet(3)` makes of it, or `OSError`
when a group is no number or above 255. -/
theorem encodeIPv4_groups {gs : List (List Char)} (hl : gs.length = 4)
    (h : ∀ g ∈ gs, IsIpGroup g) :
    encodeIPv4 ⟨ipText gs⟩ = match dottedQuadBytes gs with
      | some y => .ok y
      | none => .error (.osError "illegal IP address string passed to inet_aton") := by
  have h0 : '\x00' ∉ ipText gs := fun hc => by
    rcases mem_ipText h hc with h | h <;> cases h
  cases hq : dottedQuadBytes gs <;> simp only [encodeIPv4, h0, if_false, inetAton_ipText hl h, hq]

/-- `encodeIPv4` of a dotted quad of groups in canonical decimal form gives the four bytes the
groups spell. -/
theorem encodeIPv4_ipText {gs : List (List Char)} (hl : gs.length = 4)
    (h : ∀ g ∈ gs, IsByteText g) :
    encodeIPv4 ⟨ipText gs⟩ = .ok (gs.map fun g => UInt8.ofNat (digitsValue 10 g)) := by
  rw [encodeIPv4_groups hl fun g hg => (h g hg).1, dottedQuadBytes_byteText h]

/-- **`encode` of address texts.**  A MAC address text of six pairs of hex digits gives the six
bytes the pairs spell, whenever the bitwidth has six bytes.  A dotted quad of groups of one to
three digits matches `ip_pattern`, and, whenever the bitwidth has four bytes, gives the bytes
`inet(3)` makes of it: each group read by `groupValue`, in decimal, or in octal after a leading
zero; a group that is then no number, or one above 255, makes it raise `OSError`. -/
theorem encode_addressText :
    (∀ hs : List (Char × Char), hs.length = 6 → (∀ p ∈ hs, IsDigitIn 16 p.1 ∧ IsDigitIn 16 p.2) →
      ∀ b, (b + 7) / 8 = 6 → encode (.str ⟨macText hs⟩) b = .ok (.bytes (pairBytes hs))) ∧
    (∀ gs : List (List Char), gs.length = 4 → (∀ g ∈ gs, IsIpGroup g) →
      ∀ b, (b + 7) / 8 = 4 → matchesIPv4 ⟨ipText gs⟩ = true ∧
        encode (.str ⟨ipText gs⟩) b = match dottedQuadBytes gs with
          | some y => .ok (.bytes y)
          | none => .error (.osError "illegal IP address string passed to inet_aton")) := by
  refine ⟨fun hs hl h b hb => ?_, fun gs hl hg b hb => ?_⟩
  · have hm : matchesMac ⟨macText hs⟩ = true := macGroups_macText 5 hs hl h
    refine encode_eq_of_encodeValue ?_
      (by simp [bitwidthToBytes_of_lt (small_of_ceil hb (by decide)), pairBytes, hl, hb])
    simp [unwrapSingle, encodeValue, hm, encodeMac_macText h]
  · have hi : matchesIPv4 ⟨ipText gs⟩ = true := ipGroups_ipText 3 gs hl hg
    have hm : matchesMac ⟨ipText gs⟩ = false :=
      macGroups_succ_of_not_mem (fun hc => by rcases mem_ipText hg hc with h | h <;> cases h) 4
    have hn : bitwidthToBytes b = .ok 4 := by
      rw [bitwidthToBytes_of_lt (small_of_ceil hb (by decide)), hb]
    have hv : encodeValue (unwrapSingle (.str ⟨ipText gs⟩)) b =
        PyValue.bytes <$> encodeIPv4 ⟨ipText gs⟩ := by
      simp [unwrapSingle, encodeValue, hm, hi]
    refine ⟨hi, ?_⟩
    rw [encodeIPv4_groups hl hg] at hv
    rcases hq : dottedQuadBytes gs with _ | y <;> rw [hq] at hv
    · simp only [encode, hn, ok_bind, hv]
      rfl
    · exact encode_eq_of_encodeValue hv (by rw [dottedQuadBytes_length hq, hl, hn])

/-- A group with a leading zero is read by `inet_aton` in octal: `010` is eight, and `09` is no
number at all. -/
theorem encode_leadingZero :
    encode (.str "010.0.0.1") 32 = .ok (.bytes [8, 0, 0, 1]) ∧
      encode (.str "010.0.0.1") 32 ≠ .ok (.bytes [10, 0, 0, 1]) ∧
      encode (.str "09.0.0.1") 32 =
        .error (.osError "illegal IP address string passed to inet_aton") := by
  have h : encode (.str "010.0.0.1") 32 = .ok (.bytes [8, 0, 0, 1]) := rfl
  refine ⟨h, by rw [h]; simp, rfl⟩

/-! ### Other strings -/

/-- `encode` of a string gives bytes only for an address text: a MAC address text by
`encodeMac`, else a dotted quad by `encodeIPv4`, in either case of the bitwidth's byte length. -/
theorem encode_str_eq_bytes {s : String} {b : Nat} {y : List UInt8} :
    encode (.str s) b = .ok (.bytes y) ↔
      (matchesMac s = true ∧ encodeMac s = .ok y ∨
        matchesMac s = false ∧ matchesIPv4 s = true ∧ encodeIPv4 s = .ok y) ∧
      bitwidthToBytes b = .ok y.length := by
  rw [encode_eq_bytes]
  show (encodeValue (.str s) b = _ ∧ _) ↔ _
  unfold encodeValue
  cases hm : matchesMac s <;> cases hi : matchesIPv4 s <;> simp [hm, hi, map_eq_ok]

/-- Any other string is returned as it is ("assume that the string is already encoded"), when
it has the bitwidth's byte length. -/
theorem encode_str_of_not_address {s : String} (hm : matchesMac s = false)
    (hi : matchesIPv4 s = false) {b n : Nat} (hn : bitwidthToBytes b = .ok n) :
    encode (.str s) b = if s.length = n then .ok (.str s) else .error (.assertionError "") := by
  simp only [encode, hn, unwrapSingle, encodeValue, hm, hi, Bool.false_eq_true, if_false,
    pure_eq_ok, ok_bind, PyValue.len]
  rfl

/-- A one-character string is neither a MAC address text nor a dotted quad. -/
theorem matches_single (c : Char) : matchesMac ⟨[c]⟩ = false ∧ matchesIPv4 ⟨[c]⟩ = false := by
  refine ⟨rfl, ?_⟩
  rw [matchesIPv4, ipGroups]
  by_cases hc : c.isDigit
  · rw [show [c].dropWhile Char.isDigit = [] by simp [List.dropWhile, hc], Bool.and_false]
  · rw [decide_eq_false (by simp [IsIpRun, List.takeWhile, hc]), Bool.false_and]

/-- So a one-character string never encodes to bytes. -/
theorem encode_single_ne_bytes (c : Char) (w : Nat) (b : List UInt8) :
    encode (.str ⟨[c]⟩) w ≠ .ok (.bytes b) := by
  simp [encode_str_eq_bytes, matches_single]

end OvsP4ctl
