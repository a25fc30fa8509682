import OvsP4ctl.Codec.Encode

/-!
# Decoding address texts

`decodeMac` and `decodeIPv4` are the inverses the script writes next to `encodeMac` and
`encodeIPv4`; no command calls them.  `decodeIPv4` is `socket.inet_ntoa`, glibc's `inet_ntoa`,
which writes each byte in decimal.  `decodeMac` is `':'.join(s.encode('hex') for s in ...)`,
written for Python 2, where iterating a byte string yields one-character strings.

* `decodeIPv4_encodeIPv4` : **`inet_ntoa` undoes `inet_aton` on canonical dotted quads**: four
  numbers up to 255, each written in decimal without a leading zero, come back as the same text;
* `decodeMac_bytes` : **`decodeMac` raises on every non-empty `bytes` value.**  The script runs
  under Python 3, where iterating `bytes` yields `int`s, and `int` has no `encode` method (a
  `str` item would not do either: `'hex'` is no text encoding of Python 3);
* `decode_addressText` : so `decodeMac (encodeMac m)` raises `AttributeError` for every MAC
  address text `m`, while `decodeIPv4 (encodeIPv4 s) = s` for every canonical dotted quad `s`.
-/

namespace OvsP4ctl

/-- The method call `s.encode('hex')`: of the values the model has, only `str` has an `encode`
method, and `'hex'` is not one of Python 3's text encodings. -/
def PyValue.encodeHex : PyValue → Except PyExc String
  | .str _ => .error (.lookupError
      "'hex' is not a text encoding; use codecs.encode() to handle arbitrary codecs")
  | x => .error (.attributeError (pyRepr x.typeName ++ " object has no attribute 'encode'"))

/-- `decodeMac`: `':'.join(s.encode('hex') for s in encoded_mac_addr)`.  The join takes the
items in order and raises what the first failing one raises. -/
def decodeMac (encodedMacAddr : PyValue) : Except PyExc String := do
  let parts ← (← encodedMacAddr.iter).mapM PyValue.encodeHex
  pure (":".intercalate parts)

/-- glibc's `inet_ntoa`: the bytes in decimal, joined by dots (`"%d.%d.%d.%d"`). -/
def inetNtoa (b : List UInt8) : List Char := ipText (b.map fun x => Nat.toDigits 10 x.toNat)

/-- `decodeIPv4`: `socket.inet_ntoa`, which takes a bytes-like object of four bytes. -/
def decodeIPv4 (encodedIpAddr : PyValue) : Except PyExc String :=
  match encodedIpAddr with
  | .bytes b =>
    if b.length = 4 then .ok ⟨inetNtoa b⟩
    else .error (.osError "packed IP wrong length for inet_ntoa")
  | x => .error (.typeError ("a bytes-like object is required, not " ++ pyRepr x.typeName))

/-! ### MAC addresses -/

/-- `decodeMac` of a `bytes` value returns only when the value is empty: its first item is an
`int`, whose `encode` the generator looks up. -/
theorem decodeMac_bytes (b : List UInt8) :
    decodeMac (.bytes b) = if b = [] then .ok ""
      else .error (.attributeError "'int' object has no attribute 'encode'") := by
  cases b <;> rfl

/-! ### IPv4 addresses -/

/-- `Nat.toDigits 10` writes a number up to 255 as a group in canonical decimal form. -/
theorem isByteText_toDigits {n : Nat} (hn : n ≤ 255) : IsByteText (Nat.toDigits 10 n) := by
  obtain ⟨hdig, hval⟩ := toDigits_spec (b := 10) (by norm_num) (by norm_num) n
  refine ⟨⟨List.length_pos.2 (toDigits_ne_nil 10 n), Nat.repr_length n 3 (by norm_num) (by omega),
    fun c hc => isDigitIn_ten_iff.1 (hdig c hc)⟩, hval.le.trans hn, ?_⟩
  rcases Nat.eq_zero_or_pos n with rfl | hpos
  · exact .inl rfl
  · obtain ⟨d, ds, hd0, hd, heq⟩ := toDigits_head (b := 10) (by norm_num) hpos
    refine .inr fun h0 => ?_
    have h := hexDigitValue?_digitChar (show d < 16 by omega)
    rw [heq, List.head?_cons, Option.some.injEq] at h0
    rw [h0, show hexDigitValue? '0' = some 0 from rfl, Option.some.injEq] at h
    omega

/-- `inet_ntoa` writes each byte as its value in canonical decimal. -/
theorem inetNtoa_ofNat {ns : List Nat} (h : ∀ n ∈ ns, n ≤ 255) :
    inetNtoa (ns.map UInt8.ofNat) = ipText (ns.map (Nat.toDigits 10)) := by
  rw [inetNtoa, List.map_map]
  exact congrArg ipText (List.map_congr_left fun n hn => by
    simp [toNat_ofNat_byte, Nat.mod_eq_of_lt (Nat.lt_succ_of_le (h n hn))])

/-- `inet_aton` reads the canonical dotted quad of four numbers up to 255 as their bytes. -/
theorem encodeIPv4_toDigits {ns : List Nat} (hl : ns.length = 4) (h : ∀ n ∈ ns, n ≤ 255) :
    encodeIPv4 ⟨ipText (ns.map (Nat.toDigits 10))⟩ = .ok (ns.map UInt8.ofNat) := by
  rw [encodeIPv4_ipText (by simpa using hl)
      (by simpa using fun n hn => isByteText_toDigits (h n hn)), List.map_map]
  exact congrArg Except.ok (List.map_congr_left fun n _ =>
    congrArg UInt8.ofNat (toDigits_spec (b := 10) (by norm_num) (by norm_num) n).2)

/-- **`inet_ntoa` undoes `inet_aton` on canonical dotted quads.** -/
theorem decodeIPv4_encodeIPv4 {ns : List Nat} (hl : ns.length = 4) (h : ∀ n ∈ ns, n ≤ 255) :
    (encodeIPv4 ⟨ipText (ns.map (Nat.toDigits 10))⟩ >>= fun b => decodeIPv4 (.bytes b)) =
      .ok ⟨ipText (ns.map (Nat.toDigits 10))⟩ := by
  rw [encodeIPv4_toDigits hl h, ok_bind, decodeIPv4, if_pos (by simpa using hl), inetNtoa_ofNat h]

example : (encodeIPv4 "10.0.0.1" >>= fun b => decodeIPv4 (.bytes b)) = .ok "10.0.0.1" := rfl

/-- The dotted quad `n₁.n₂.n₃.n₄` written with `str` of each number is the text of the groups
`Nat.toDigits 10 nᵢ`. -/
theorem dottedQuad_eq_ipText (n₁ n₂ n₃ n₄ : Nat) :
    toString n₁ ++ "." ++ toString n₂ ++ "." ++ toString n₃ ++ "." ++ toString n₄ =
      ⟨ipText ([n₁, n₂, n₃, n₄].map (Nat.toDigits 10))⟩ := by
  apply String.ext
  show Nat.toDigits 10 n₁ ++ ['.'] ++ Nat.toDigits 10 n₂ ++ ['.'] ++ Nat.toDigits 10 n₃ ++ ['.'] ++
    Nat.toDigits 10 n₄ = _
  simp [ipText, intercalate_cons_cons, intercalate_singleton]

/-! ### The round trips of the address texts -/

/-- Decoding after encoding: a MAC address text of six pairs of hex digits makes `decodeMac`
raise `AttributeError`, and a dotted quad of numbers up to 255 in canonical decimal comes back
unchanged. -/
theorem decode_addressText :
    (∀ hs : List (Char × Char), hs.length = 6 → (∀ p ∈ hs, IsDigitIn 16 p.1 ∧ IsDigitIn 16 p.2) →
      (encodeMac ⟨macText hs⟩ >>= fun b => decodeMac (.bytes b)) =
        .error (.attributeError "'int' object has no attribute 'encode'")) ∧
    ∀ n₁ n₂ n₃ n₄ : Nat, n₁ ≤ 255 → n₂ ≤ 255 → n₃ ≤ 255 → n₄ ≤ 255 →
      (encodeIPv4 (toString n₁ ++ "." ++ toString n₂ ++ "." ++ toString n₃ ++ "." ++ toString n₄)
          >>= fun b => decodeIPv4 (.bytes b)) =
        .ok (toString n₁ ++ "." ++ toString n₂ ++ "." ++ toString n₃ ++ "." ++ toString n₄) := by
  refine ⟨fun hs hl h => ?_, fun n₁ n₂ n₃ n₄ h₁ h₂ h₃ h₄ => ?_⟩
  · rw [encodeMac_macText h, ok_bind, decodeMac_bytes,
      if_neg (List.ne_nil_of_length_pos (by simp [pairBytes, hl]))]
  · rw [dottedQuad_eq_ipText]
    exact decodeIPv4_encodeIPv4 rfl (by simp [h₁, h₂, h₃, h₄])

end OvsP4ctl
