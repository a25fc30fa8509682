import OvsP4ctl.Python

/-!
# Numbers as fixed-width byte strings

`encodeNum` writes a number with `'%x'`, pads the digits with `'0'` to twice the byte length of
the bitwidth and decodes the result with the hex codec; `decodeNum` hex-encodes the bytes and
reads them back with `int(·, 16)`.  The byte length is `math.ceil(bitwidth / 8.0)`, a float
division: the bitwidth is first rounded to a double (`roundToDouble`, to nearest, ties to even),
and one that rounds to `2 ^ 1024` or more raises `OverflowError`.

* `bitwidthToBytes_of_lt`, `bitwidthToBytes_of_ge` : below `2 ^ 53` the byte length is
  `⌈bitwidth / 8⌉`; from `2 ^ 1024` on the division raises;
* `encodeNum_eq` : below `2 ^ bitwidth` (for a positive bitwidth below `2 ^ 53`) `encodeNum`
  returns the `⌈bitwidth / 8⌉` big-endian bytes of the number;
* `encodeNum_error_of_neg`, `encodeNum_error_of_ge` : a negative number and one of `2 ^ bitwidth`
  or more raise, the first in the hex codec, the second by the script's own check;
* `decodeNum_eq` : `decodeNum` reads non-empty bytes big-endian.

The length bound behind the first is that a number below `2 ^ (8 * n)` has at most `2 * n`
hexadecimal digits (`Nat.toDigitsCore_length`).
-/

namespace OvsP4ctl

/-! ### The hex codec -/

/-- `binascii.a2b_hex` past its length check: one byte per pair of hex digits. -/
def unhexPairs : List Char → Except PyExc (List UInt8)
  | c :: d :: rest =>
    match hexDigitValue? c, hexDigitValue? d with
    | some hi, some lo => (unhexPairs rest).map (UInt8.ofNat (16 * hi + lo) :: ·)
    | _, _ => .error (.binasciiError "Non-hexadecimal digit found")
  | _ => .ok []

/-- `codecs.decode(s, 'hex_codec')` of a `str`: ASCII only, of even length, hex digits. -/
def unhexlify (s : List Char) : Except PyExc (List UInt8) :=
  if ∃ c ∈ s, 128 ≤ c.toNat then
    .error (.valueError "string argument should contain only ASCII characters")
  else if s.length % 2 = 1 then .error (.binasciiError "Odd-length string")
  else unhexPairs s

/-- `codecs.encode(b, 'hex_codec')`: two lower-case hex digits per byte. -/
def hexlify (b : List UInt8) : List Char :=
  b.flatMap fun x => [Nat.digitChar (x.toNat / 16), Nat.digitChar (x.toNat % 16)]

/-- `int(s, 16)` on the ASCII digits `hexlify` produces.  (CPython also accepts a sign, a `0x`
prefix, surrounding whitespace and `_`, none of which `hexlify` writes.) -/
def intBase16 (s : List Char) : Except PyExc Int :=
  if s ≠ [] ∧ ∀ c ∈ s, IsDigitIn 16 c then .ok (digitsValue 16 s)
  else .error (.valueError ("invalid literal for int() with base 16: b" ++ pyRepr ⟨s⟩))

/-! ### The script's codec -/

/-- The least `s` from `s₀` on with `n < 2 ^ (53 + s)`, trying `fuel` values and giving
`s₀ + fuel` after them: how many low bits of `n` a 53-bit significand cannot hold. -/
def droppedBits (n : Nat) : Nat → Nat → Nat
  | 0, s => s
  | fuel + 1, s => if n < 2 ^ (53 + s) then s else droppedBits n fuel (s + 1)

/-- `float(n)` of an `int` `n ≥ 0`, as CPython's `PyLong_AsDouble` computes it: `n` rounded to
53 significant bits, to nearest with ties to even.  The exponent is searched up to that of the
largest finite `float`; a larger `n` rounds to `2 ^ 1024` or more at that exponent as well. -/
def roundToDouble (n : Nat) : Nat :=
  let s := droppedBits n 971 0
  let q := n / 2 ^ s
  let r := n % 2 ^ s
  (if 2 ^ s < 2 * r ∨ 2 * r = 2 ^ s ∧ q % 2 = 1 then q + 1 else q) * 2 ^ s

/-- `bitwidthToBytes`, `int(math.ceil(bitwidth / 8.0))`.  The division converts the bitwidth to
a `float` first, which raises `OverflowError` when the rounded value has more than 1024 binary
digits (`exp > DBL_MAX_EXP`, that is, it is `2 ^ 1024` or more); dividing the `float` by `8` and
taking the ceiling are exact. -/
def bitwidthToBytes (bitwidth : Nat) : Except PyExc Nat :=
  let x := roundToDouble bitwidth
  if x >>> 1024 ≠ 0 then .error (.overflowError "int too large to convert to float")
  else .ok ((x + 7) / 8)

/-- `encodeNum`: the byte length is computed first, before the range check. -/
def encodeNum (number : Int) (bitwidth : Nat) : Except PyExc (List UInt8) := do
  let byteLen ← bitwidthToBytes bitwidth
  let numStr := formatHex number
  if number ≥ 2 ^ bitwidth then
    .error (.exception ("Number, " ++ toString number ++ ", does not fit in " ++
      toString bitwidth ++ " bits"))
  else unhexlify (List.replicate (byteLen * 2 - numStr.length) '0' ++ numStr)

/-- `decodeNum`. -/
def decodeNum (encodedNumber : List UInt8) : Except PyExc Int :=
  intBase16 (hexlify encodedNumber)

/-! ### `bitwidth / 8.0` -/

theorem shiftRight_eq_zero_iff {n k : Nat} : n >>> k = 0 ↔ n < 2 ^ k := by
  rw [Nat.shiftRight_eq_div_pow, Nat.div_eq_zero_iff (by positivity)]

theorem droppedBits_le (n : Nat) : ∀ fuel s, droppedBits n fuel s ≤ s + fuel
  | 0, _ => Nat.le_refl _
  | fuel + 1, s => by
    rw [droppedBits]
    split
    · omega
    · have := droppedBits_le n fuel (s + 1); omega

/-- A `float` holds every `int` below `2 ^ 53` exactly. -/
theorem roundToDouble_of_lt {n : Nat} (h : n < 2 ^ 53) : roundToDouble n = n := by
  rw [roundToDouble, droppedBits, if_pos h]
  simp [Nat.mod_one]

/-- Rounding never goes below `n` with its dropped bits cleared. -/
theorem le_roundToDouble (n : Nat) :
    n / 2 ^ droppedBits n 971 0 * 2 ^ droppedBits n 971 0 ≤ roundToDouble n := by
  unfold roundToDouble
  dsimp only
  split <;> exact Nat.mul_le_mul_right _ (by omega)

theorem two_pow_le_roundToDouble {n : Nat} (h : 2 ^ 1024 ≤ n) : 2 ^ 1024 ≤ roundToDouble n := by
  have hs : droppedBits n 971 0 ≤ 1024 := (droppedBits_le n 971 0).trans (by decide)
  calc 2 ^ 1024 = 2 ^ 1024 / 2 ^ droppedBits n 971 0 * 2 ^ droppedBits n 971 0 :=
        (Nat.div_mul_cancel (pow_dvd_pow 2 hs)).symm
    _ ≤ n / 2 ^ droppedBits n 971 0 * 2 ^ droppedBits n 971 0 :=
        Nat.mul_le_mul_right _ (Nat.div_le_div_right h)
    _ ≤ roundToDouble n := le_roundToDouble n

/-- Below `2 ^ 53` (so for every bitwidth a P4Info `int32` field holds), `bitwidthToBytes` is
`⌈bitwidth / 8⌉`. -/
theorem bitwidthToBytes_of_lt {b : Nat} (h : b < 2 ^ 53) :
    bitwidthToBytes b = .ok ((b + 7) / 8) := by
  have h1024 : b >>> 1024 = 0 :=
    shiftRight_eq_zero_iff.2 (h.trans (by norm_num))
  rw [bitwidthToBytes, roundToDouble_of_lt h]
  exact if_neg (not_not.2 h1024)

/-- From `2 ^ 1024` on, the conversion of the bitwidth to a `float` overflows. -/
theorem bitwidthToBytes_of_ge {b : Nat} (h : 2 ^ 1024 ≤ b) :
    bitwidthToBytes b = .error (.overflowError "int too large to convert to float") :=
  if_pos fun h0 => absurd (shiftRight_eq_zero_iff.1 h0) (not_lt.2 (two_pow_le_roundToDouble h))

/-! ### Big-endian bytes -/

/-- The `n` bytes of `v`, most significant first, zero-padded (bits above `8 * n` dropped). -/
def toBytesBE : Nat → Nat → List UInt8
  | 0, _ => []
  | n + 1, v => toBytesBE n (v / 256) ++ [UInt8.ofNat (v % 256)]

/-- The value of bytes read most significant first. -/
def bytesValue (b : List UInt8) : Nat := b.foldl (fun a x => 256 * a + x.toNat) 0

@[simp] theorem length_toBytesBE (n v : Nat) : (toBytesBE n v).length = n := by
  induction n generalizing v with
  | zero => rfl
  | succ n ih => simp [toBytesBE, ih]

@[simp] theorem bytesValue_nil : bytesValue [] = 0 := rfl

theorem bytesValue_concat (b : List UInt8) (x : UInt8) :
    bytesValue (b ++ [x]) = 256 * bytesValue b + x.toNat := by
  simp [bytesValue, List.foldl_append]

theorem toBytesBE_bytesValue (b : List UInt8) : toBytesBE b.length (bytesValue b) = b := by
  induction b using List.reverseRecOn with
  | nil => rfl
  | append_singleton b x ih =>
    have hx : x.toNat < 256 := x.toNat_lt_size
    rw [List.length_append, List.length_singleton, toBytesBE, bytesValue_concat,
      show (256 * bytesValue b + x.toNat) / 256 = bytesValue b by omega,
      show (256 * bytesValue b + x.toNat) % 256 = x.toNat by omega, ih]
    exact congrArg (b ++ [·]) (UInt8.toNat.inj (UInt8.toNat_ofNat_of_lt hx))

/-- Bytes of a given length are determined by their value. -/
theorem eq_of_bytesValue_eq {b b' : List UInt8} (hl : b.length = b'.length)
    (hv : bytesValue b = bytesValue b') : b = b' := by
  rw [← toBytesBE_bytesValue b, ← toBytesBE_bytesValue b', hl, hv]

theorem toNat_ofNat_byte (n : Nat) : (UInt8.ofNat n).toNat = n % 256 := rfl

theorem bytesValue_toBytesBE (n v : Nat) : bytesValue (toBytesBE n v) = v % 256 ^ n := by
  induction n generalizing v with
  | zero => simp [toBytesBE, Nat.mod_one]
  | succ n ih =>
    rw [toBytesBE, bytesValue_concat, ih, toNat_ofNat_byte, Nat.mod_mod, pow_succ', Nat.mod_mul]
    omega

/-! ### The hex codec on hex digits -/

theorem IsDigitIn.toNat_lt {b : Nat} {c : Char} (h : IsDigitIn b c) : c.toNat < 128 :=
  (hexDigitValue?_lt h.choose_spec.1).2

theorem isDigitIn_of_some {c : Char} {d : Nat} (h : hexDigitValue? c = some d) :
    IsDigitIn 16 c :=
  ⟨d, h, (hexDigitValue?_lt h).1⟩

/-- On hex digits in pairs, `unhexPairs` returns half as many bytes, of the same value. -/
theorem unhexPairs_ok : ∀ (s : List Char), (∀ c ∈ s, IsDigitIn 16 c) → s.length % 2 = 0 →
    ∃ b, unhexPairs s = .ok b ∧ 2 * b.length = s.length ∧
      ∀ a, b.foldl (fun a x => 256 * a + x.toNat) a =
        s.foldl (fun a c => 16 * a + (hexDigitValue? c).getD 0) a
  | [], _, _ => ⟨[], rfl, rfl, fun _ => rfl⟩
  | [_], _, h => by simp at h
  | c :: d :: rest, hs, hl => by
    obtain ⟨hi, hhi, hhi16⟩ := hs c (by simp)
    obtain ⟨lo, hlo, hlo16⟩ := hs d (by simp)
    obtain ⟨b, hb, hlen, hval⟩ :=
      unhexPairs_ok rest (fun c hc => hs c (by simp [hc]))
        (by simp only [List.length_cons] at hl; omega)
    refine ⟨UInt8.ofNat (16 * hi + lo) :: b, ?_, ?_, fun a => ?_⟩
    · simp [unhexPairs, hhi, hlo, hb, Except.map]
    · simp only [List.length_cons]; omega
    · simp only [List.foldl_cons, hhi, hlo, Option.getD_some,
        UInt8.toNat_ofNat_of_lt (show 16 * hi + lo < UInt8.size by unfold UInt8.size; omega)]
      rw [hval]
      congr 1
      ring

/-- `unhexPairs` raises at a character that is not a hex digit. -/
theorem unhexPairs_error : ∀ (s : List Char), (∃ c ∈ s, ¬ IsDigitIn 16 c) → s.length % 2 = 0 →
    ∃ e, unhexPairs s = .error e
  | [], ⟨_, h, _⟩, _ => by simp at h
  | [_], _, h => by simp at h
  | c :: d :: rest, ⟨x, hx, hnx⟩, hl => by
    cases hc : hexDigitValue? c with
    | none => exact ⟨.binasciiError "Non-hexadecimal digit found", by simp [unhexPairs, hc]⟩
    | some hi =>
      cases hd : hexDigitValue? d with
      | none => exact ⟨.binasciiError "Non-hexadecimal digit found", by simp [unhexPairs, hc, hd]⟩
      | some lo =>
        have hrest : ∃ x ∈ rest, ¬ IsDigitIn 16 x := by
          rcases List.mem_cons.1 hx with rfl | hx
          · exact absurd (isDigitIn_of_some hc) hnx
          rcases List.mem_cons.1 hx with rfl | hx
          · exact absurd (isDigitIn_of_some hd) hnx
          exact ⟨x, hx, hnx⟩
        obtain ⟨e, he⟩ := unhexPairs_error rest hrest (by simp only [List.length_cons] at hl; omega)
        exact ⟨e, by simp [unhexPairs, hc, hd, he, Except.map]⟩

theorem unhexlify_ok {s : List Char} (hs : ∀ c ∈ s, IsDigitIn 16 c) (hl : s.length % 2 = 0) :
    ∃ b, unhexlify s = .ok b ∧ 2 * b.length = s.length ∧ bytesValue b = digitsValue 16 s := by
  obtain ⟨b, hb, hlen, hval⟩ := unhexPairs_ok s hs hl
  have hasc : ¬ ∃ c ∈ s, 128 ≤ c.toNat := fun ⟨c, hc, h⟩ => by
    have := (hs c hc).toNat_lt; omega
  exact ⟨b, by rw [unhexlify, if_neg hasc, if_neg (by omega), hb], hlen, hval 0⟩

theorem unhexlify_error {s : List Char} (h : ∃ c ∈ s, ¬ IsDigitIn 16 c) :
    ∃ e, unhexlify s = .error e := by
  unfold unhexlify
  split_ifs
  · exact ⟨_, rfl⟩
  · exact ⟨_, rfl⟩
  · exact unhexPairs_error s h (by omega)

/-- `hexlify` writes hex digits whose value is that of the bytes. -/
theorem hexlify_spec : ∀ (b : List UInt8), (∀ c ∈ hexlify b, IsDigitIn 16 c) ∧
    ∀ a, (hexlify b).foldl (fun a c => 16 * a + (hexDigitValue? c).getD 0) a =
      b.foldl (fun a x => 256 * a + x.toNat) a
  | [] => ⟨by simp [hexlify], fun _ => rfl⟩
  | x :: b => by
    have hx : x.toNat < 256 := x.toNat_lt_size
    have h1 := hexDigitValue?_digitChar (show x.toNat / 16 < 16 by omega)
    have h2 := hexDigitValue?_digitChar (show x.toNat % 16 < 16 by omega)
    obtain ⟨ih1, ih2⟩ := hexlify_spec b
    have hcons : hexlify (x :: b) =
        [Nat.digitChar (x.toNat / 16), Nat.digitChar (x.toNat % 16)] ++ hexlify b := rfl
    refine ⟨?_, fun a => ?_⟩
    · rw [hcons, List.forall_mem_append]
      exact ⟨by simp [isDigitIn_of_some h1, isDigitIn_of_some h2], ih1⟩
    · rw [hcons, List.foldl_append, ih2]
      simp only [List.foldl_cons, List.foldl_nil, h1, h2, Option.getD_some]
      congr 1
      omega

/-- `decodeNum` reads non-empty bytes big-endian. -/
theorem decodeNum_eq {b : List UInt8} (hb : b ≠ []) : decodeNum b = .ok (bytesValue b) := by
  obtain ⟨h1, h2⟩ := hexlify_spec b
  have hne : hexlify b ≠ [] := by
    obtain ⟨x, b', rfl⟩ := List.exists_cons_of_ne_nil hb
    exact List.cons_ne_nil _ _
  rw [decodeNum, intBase16, if_pos ⟨hne, h1⟩, digitsValue, h2, bytesValue]

theorem two_pow_le_sixteen_pow {b n : Nat} (h : b ≤ 8 * n) : 2 ^ b ≤ 16 ^ (n * 2) := by
  rw [show (16 : Nat) = 2 ^ 4 from rfl, ← pow_mul]
  exact Nat.pow_le_pow_right (by decide) (by omega)

/-- A bitwidth whose conversion to a `float` overflows makes `encodeNum` raise, whatever the
number. -/
theorem encodeNum_of_error {v : Int} {b : Nat} {e : PyExc} (h : bitwidthToBytes b = .error e) :
    encodeNum v b = .error e := by
  simp only [encodeNum, h]
  rfl

/-- **`encodeNum` below `2 ^ bitwidth`**: the big-endian bytes, `⌈bitwidth / 8⌉` of them, for a
bitwidth below `2 ^ 53`. -/
theorem encodeNum_eq {v b : Nat} (hb : 1 ≤ b) (hb53 : b < 2 ^ 53) (hv : v < 2 ^ b) :
    encodeNum v b = .ok (toBytesBE ((b + 7) / 8) v) := by
  set n := (b + 7) / 8 with hn
  have hbn : b ≤ 8 * n := by omega
  obtain ⟨hdig, hval⟩ := toDigits_spec (by decide : 2 ≤ 16) (by decide) v
  have hlen : (Nat.toDigits 16 v).length ≤ n * 2 :=
    Nat.toDigitsCore_length 16 (by decide) _ v _ (lt_of_lt_of_le hv (two_pow_le_sixteen_pow hbn))
      (by omega)
  set s := List.replicate (n * 2 - (Nat.toDigits 16 v).length) '0' ++ Nat.toDigits 16 v with hs
  have hsd : ∀ c ∈ s, IsDigitIn 16 c := fun c hc => by
    rcases List.mem_append.1 hc with hc | hc
    · rw [List.eq_of_mem_replicate hc]; decide
    · exact hdig c hc
  have hsl : s.length = n * 2 := by simp only [hs, List.length_append, List.length_replicate]; omega
  obtain ⟨bs, hbs, hbl, hbv⟩ := unhexlify_ok hsd (by omega)
  have hbs' : bs = toBytesBE n v := by
    rw [← toBytesBE_bytesValue bs, show bs.length = n by omega, hbv, hs, digitsValue_zeros, hval]
  have hge : ¬ ((v : Int) ≥ 2 ^ b) := by exact_mod_cast Nat.not_le.2 hv
  simp only [encodeNum, bitwidthToBytes_of_lt hb53, ← hn, ok_bind, formatHex, Int.natCast_nonneg,
    if_true, Int.toNat_natCast, if_neg hge]
  rw [← hs, hbs, hbs']

/-- A negative number makes `encodeNum` raise: in the hex codec, which `'%x'` hands its `-`, if
the bitwidth converts to a `float` at all. -/
theorem encodeNum_error_of_neg {v : Int} (hv : v < 0) (b : Nat) :
    ∃ e, encodeNum v b = .error e := by
  rcases hn : bitwidthToBytes b with e | n
  · exact ⟨e, encodeNum_of_error hn⟩
  have hlt : v < 2 ^ b := hv.trans_le (by positivity)
  simp only [encodeNum, hn, ok_bind, if_neg (not_le.2 hlt)]
  exact unhexlify_error ⟨'-', by simp [formatHex, not_le.2 hv], by decide⟩

/-- A number of `2 ^ bitwidth` or more is refused by the script's own check, once the byte
length is computed. -/
theorem encodeNum_error_of_ge {v : Int} {b n : Nat} (hn : bitwidthToBytes b = .ok n)
    (hv : 2 ^ b ≤ v) :
    encodeNum v b = .error (.exception ("Number, " ++ toString v ++ ", does not fit in " ++
      toString b ++ " bits")) := by
  simp only [encodeNum, hn, ok_bind, if_pos hv]

end OvsP4ctl
