import OvsP4ctl.Codec.Number

/-!
# MAC and IPv4 address texts

`encode` recognises two address texts by regular expression and converts them with a library
call: a MAC address `aa:bb:cc:dd:ee:ff` with the hex codec after dropping the colons, a dotted
quad with `socket.inet_aton`, which is glibc's `inet_aton`.  The model follows glibc: a part is
read by `strtoul(·, 0)`, so `0x` starts a hexadecimal part and a leading `0` an octal one.

* `macGroups_macText`, `encodeMac_macText` : six pairs of hex digits joined by colons are a MAC
  address text, and `encodeMac` returns the six bytes the pairs spell;
* `ipGroups_ipText` : four groups of one to three digits joined by dots match `ip_pattern`,
  leading zeros or not;
* `inetAton_ipText` : on every such dotted quad `inet_aton` gives `dottedQuadBytes`, what `inet(3)`
  says it reads: each group in decimal, or in octal after a leading zero (`groupValue`), and no
  address when a group is then no number (`09`) or above 255;
* `dottedQuadBytes_byteText` : so without leading zeros the groups give the bytes they spell in
  decimal.
-/

namespace OvsP4ctl

/-- The digits at the head of `s` are one to three, as `\d{1,3}` needs. -/
def IsIpRun (s : List Char) : Prop :=
  1 ≤ (s.takeWhile Char.isDigit).length ∧ (s.takeWhile Char.isDigit).length ≤ 3

instance (s : List Char) : Decidable (IsIpRun s) := inferInstanceAs (Decidable (_ ∧ _))

/-- Where the pattern's `$` matches: at the end, or before a newline that ends the string. -/
def atEnd : List Char → Bool
  | [] => true
  | ['\n'] => true
  | _ => false

/-- `([\da-fA-F]{2}:){k}([\da-fA-F]{2})$`, the tail of `mac_pattern`.  (For a `str` pattern
Python's `\d` also matches the decimal digits of other scripts; the model reads it as `0`-`9`.) -/
def macGroups : Nat → List Char → Bool
  | 0, a :: b :: rest => decide (IsDigitIn 16 a) && decide (IsDigitIn 16 b) && atEnd rest
  | k + 1, a :: b :: c :: rest =>
    decide (IsDigitIn 16 a) && decide (IsDigitIn 16 b) && c == ':' && macGroups k rest
  | _, _ => false

/-- `matchesMac`. -/
def matchesMac (macAddrString : String) : Bool := macGroups 5 macAddrString.data

/-- `encodeMac`: drop the colons (`replace(':', '')`) and decode the hex digits. -/
def encodeMac (macAddrString : String) : Except PyExc (List UInt8) :=
  unhexlify (macAddrString.data.filter (· != ':'))

/-- `(\d{1,3}\.){k}(\d{1,3})$`, the tail of `ip_pattern`: each run of digits is one to three
long and is followed by a dot, the last one by the end. -/
def ipGroups : Nat → List Char → Bool
  | 0, s => decide (IsIpRun s) && atEnd (s.dropWhile Char.isDigit)
  | k + 1, s =>
    decide (IsIpRun s) &&
      match s.dropWhile Char.isDigit with
      | '.' :: r => ipGroups k r
      | _ => false

/-- `matchesIPv4`. -/
def matchesIPv4 (ipAddrString : String) : Bool := ipGroups 3 ipAddrString.data

/-! ### glibc's `inet_aton` -/

/-- The digits of base `b` at the head of a string, as `strtoul` reads them: the value on top of
`acc`, and what follows them. -/
def digitRun (b : Nat) (acc : Nat) : List Char → Nat × List Char
  | c :: s =>
    if IsDigitIn b c then digitRun b (b * acc + (hexDigitValue? c).getD 0) s else (acc, c :: s)
  | [] => (acc, [])

/-- `strtoul(cp, &endp, 0)` on a string that starts with a digit: `0x` and a hex digit start a
hexadecimal number, another leading `0` an octal one, anything else a decimal one. -/
def strtoul : List Char → Nat × List Char
  | c :: s =>
    if c = '0' then
      match s with
      | x :: d :: s' =>
        if (x = 'x' ∨ x = 'X') ∧ IsDigitIn 16 d then digitRun 16 0 (d :: s') else digitRun 8 0 s
      | _ => digitRun 8 0 s
    else digitRun 10 0 (c :: s)
  | [] => (0, [])

/-- The last part of `inet_aton`: only the end or a space may follow it, and it fills the bytes
not yet filled, big-endian. -/
def lastPart (bytes : List UInt8) (val : Nat) (rest : List Char) : Option (List UInt8) :=
  if rest.head?.all isCSpace ∧ val < 256 ^ (4 - bytes.length) then
    some (bytes ++ toBytesBE (4 - bytes.length) val)
  else none

/-- The loop of glibc's `inet_aton`: `dots` more dots may follow, `bytes` holds the parts read
before the current one, each at most `0xff`. -/
def inetAtonParts : Nat → List UInt8 → List Char → Option (List UInt8)
  | _, _, [] => none
  | dots, bytes, c :: s =>
    if ¬ c.isDigit then none else
    let p := strtoul (c :: s)
    if 0xffffffff < p.1 then none
    else if p.2.head? = some '.' then
      match dots with
      | 0 => none
      | dots + 1 => if 0xff < p.1 then none else inetAtonParts dots (bytes ++ [UInt8.ofNat p.1]) p.2.tail
    else lastPart bytes p.1 p.2

/-- `inet_aton`, on the characters of the string. -/
def inetAton (cp : List Char) : Option (List UInt8) := inetAtonParts 3 [] cp

/-- `encodeIPv4`: `socket.inet_aton`, which raises `OSError` when `inet_aton` fails. -/
def encodeIPv4 (ipAddrString : String) : Except PyExc (List UInt8) :=
  if '\x00' ∈ ipAddrString.data then .error (.valueError "embedded null character")
  else match inetAton ipAddrString.data with
    | some b => .ok b
    | none => .error (.osError "illegal IP address string passed to inet_aton")

/-! ### MAC address texts -/

/-- The text `h1h2:h3h4:...` of pairs of characters. -/
def macText (hs : List (Char × Char)) : List Char := [':'].intercalate (hs.map fun p => [p.1, p.2])

/-- The bytes pairs of hex digits spell. -/
def pairBytes (hs : List (Char × Char)) : List UInt8 :=
  hs.map fun p => UInt8.ofNat (16 * (hexDigitValue? p.1).getD 0 + (hexDigitValue? p.2).getD 0)

section Pairs

variable {hs : List (Char × Char)}

theorem macGroups_macText : ∀ (k : Nat) (hs : List (Char × Char)), hs.length = k + 1 →
    (∀ p ∈ hs, IsDigitIn 16 p.1 ∧ IsDigitIn 16 p.2) → macGroups k (macText hs) = true
  | 0, [p], _, h => by simp [macText, intercalate_singleton, macGroups, h p, atEnd]
  | k + 1, p :: q :: hs, hl, h => by
    have ih := macGroups_macText k (q :: hs) (by simpa using hl)
      fun p hp => h p (List.mem_cons_of_mem _ hp)
    simp only [macText, List.map_cons, intercalate_cons_cons] at ih ⊢
    simp [macGroups, h p, ih]

theorem filter_macText (h : ∀ p ∈ hs, IsDigitIn 16 p.1 ∧ IsDigitIn 16 p.2) :
    (macText hs).filter (· != ':') = hs.flatMap fun p => [p.1, p.2] := by
  have hne : ∀ {c}, IsDigitIn 16 c → (c != ':') = true := fun hc => by
    simp only [bne_iff_ne, ne_eq]
    rintro rfl
    exact absurd hc (by decide)
  induction hs with
  | nil => rfl
  | cons p hs ih =>
    cases hs with
    | nil => simp [macText, intercalate_singleton, hne (h p (by simp)).1, hne (h p (by simp)).2]
    | cons q hs =>
      have ih := ih fun p hp => h p (List.mem_cons_of_mem _ hp)
      simp only [macText, List.map_cons, intercalate_cons_cons] at ih ⊢
      simp [List.filter_append, hne (h p (by simp)).1, hne (h p (by simp)).2, ih]

theorem unhexPairs_flatMap (h : ∀ p ∈ hs, IsDigitIn 16 p.1 ∧ IsDigitIn 16 p.2) :
    unhexPairs (hs.flatMap fun p => [p.1, p.2]) = .ok (pairBytes hs) := by
  induction hs with
  | nil => rfl
  | cons p hs ih =>
    obtain ⟨⟨hi, hhi, -⟩, ⟨lo, hlo, -⟩⟩ := h p (by simp)
    rw [List.flatMap_cons, List.cons_append, List.cons_append, List.nil_append, unhexPairs, hhi,
      hlo]
    simp only [ih fun p hp => h p (List.mem_cons_of_mem _ hp)]
    simp [Except.map, pairBytes, hhi, hlo]

theorem length_flatMap_pair (hs : List (Char × Char)) :
    (hs.flatMap fun p => [p.1, p.2]).length = 2 * hs.length := by
  induction hs with
  | nil => rfl
  | cons p hs ih => rw [List.flatMap_cons, List.length_append, ih]; simp; omega

/-- `encodeMac` of a MAC address text returns the bytes its pairs spell. -/
theorem encodeMac_macText (h : ∀ p ∈ hs, IsDigitIn 16 p.1 ∧ IsDigitIn 16 p.2) :
    encodeMac ⟨macText hs⟩ = .ok (pairBytes hs) := by
  have hd : ∀ c ∈ hs.flatMap (fun p => [p.1, p.2]), IsDigitIn 16 c := fun c hc => by
    obtain ⟨p, hp, hc⟩ := List.mem_flatMap.1 hc
    rcases List.mem_pair.1 hc with rfl | rfl
    exacts [(h p hp).1, (h p hp).2]
  have hasc : ¬ ∃ c ∈ hs.flatMap (fun p => [p.1, p.2]), 128 ≤ c.toNat := fun ⟨c, hc, h⟩ => by
    have := (hd c hc).toNat_lt; omega
  have hl := length_flatMap_pair hs
  rw [encodeMac, filter_macText h, unhexlify, if_neg hasc, if_neg (by omega), unhexPairs_flatMap h]

end Pairs

/-! ### Dotted quads -/

/-- The text `g1.g2.g3.g4` of digit groups. -/
def ipText (gs : List (List Char)) : List Char := ['.'].intercalate gs

/-- One to three ASCII decimal digits, as `\d{1,3}` matches them. -/
def IsIpGroup (g : List Char) : Prop := 1 ≤ g.length ∧ g.length ≤ 3 ∧ ∀ c ∈ g, c.isDigit = true

/-- A group in the canonical decimal form of a byte: no leading zero, at most 255. -/
def IsByteText (g : List Char) : Prop :=
  IsIpGroup g ∧ digitsValue 10 g ≤ 255 ∧ (g = ['0'] ∨ g.head? ≠ some '0')

theorem takeWhile_dropWhile_group {g : List Char} (h : ∀ c ∈ g, c.isDigit = true)
    (r : List Char) :
    (g ++ '.' :: r).takeWhile Char.isDigit = g ∧ (g ++ '.' :: r).dropWhile Char.isDigit = '.' :: r
    := by
  rw [List.takeWhile_append_of_pos h, List.dropWhile_append_of_pos h]
  exact ⟨by simp, by simp⟩

theorem ipGroups_ipText : ∀ (k : Nat) (gs : List (List Char)), gs.length = k + 1 →
    (∀ g ∈ gs, IsIpGroup g) → ipGroups k (ipText gs) = true
  | 0, [g], _, h => by
    obtain ⟨h1, h2, h3⟩ := h g (List.mem_singleton_self g)
    have ht : g.takeWhile Char.isDigit = g := by
      simpa using @List.takeWhile_append_of_pos _ _ g [] h3
    have hd : g.dropWhile Char.isDigit = [] := by
      simpa using @List.dropWhile_append_of_pos _ _ g [] h3
    simp [ipText, intercalate_singleton, ipGroups, IsIpRun, ht, hd, h1, h2, atEnd]
  | k + 1, g :: g' :: gs, hl, h => by
    obtain ⟨h1, h2, h3⟩ := h g (by simp)
    have ih := ipGroups_ipText k (g' :: gs) (by simpa using hl)
      fun g hg => h g (List.mem_cons_of_mem _ hg)
    obtain ⟨ht, hd⟩ := takeWhile_dropWhile_group h3 (ipText (g' :: gs))
    have he : ipText (g :: g' :: gs) = g ++ '.' :: ipText (g' :: gs) := by
      simp [ipText, intercalate_cons_cons]
    simp [he, ipGroups, IsIpRun, ht, hd, h1, h2, ih]

theorem digitRun_append {b : Nat} {g : List Char} (hg : ∀ c ∈ g, IsDigitIn b c) (acc : Nat)
    {r : List Char} (hr : r.head?.all fun c => ¬ IsDigitIn b c) :
    digitRun b acc (g ++ r) = (g.foldl (fun a c => b * a + (hexDigitValue? c).getD 0) acc, r) := by
  induction g generalizing acc with
  | nil =>
    cases r with
    | nil => rfl
    | cons c r =>
      rw [List.nil_append, digitRun, if_neg (by simpa using hr)]
      rfl
  | cons c g ih =>
    simp only [List.cons_append, digitRun, if_pos (hg c (by simp)), List.foldl_cons]
    exact ih (fun c hc => hg c (List.mem_cons_of_mem _ hc)) _

/-! ### How `inet_aton` reads a dotted quad -/

/-- How `inet_aton` reads a group of decimal digits, by `strtoul(·, 0)`: a `0` followed by more
digits starts an octal number, and such a group holding an `8` or a `9` is no number; any other
group is decimal. -/
def groupValue : List Char → Option Nat
  | '0' :: c :: g => if ∀ d ∈ c :: g, IsDigitIn 8 d then some (digitsValue 8 (c :: g)) else none
  | g => some (digitsValue 10 g)

/-- The bytes `inet(3)` makes of a dotted quad of digit groups: each group read by `groupValue`,
and each at most 255. -/
def dottedQuadBytes (gs : List (List Char)) : Option (List UInt8) :=
  (gs.mapM groupValue).bind fun ns => if ∀ n ∈ ns, n ≤ 255 then some (ns.map UInt8.ofNat) else none

/-- A group without a leading zero is read in decimal. -/
theorem groupValue_of_decimal {g : List Char} (h : g = ['0'] ∨ g.head? ≠ some '0') :
    groupValue g = some (digitsValue 10 g) := by
  rcases h with rfl | h
  · rfl
  rcases g with _ | ⟨c, g⟩
  · rfl
  have hc : c ≠ '0' := fun hc => h (by rw [hc]; rfl)
  cases g <;> simp [groupValue, hc]

/-- `strtoul(cp, &endp, 0)` past a `0` that no `x` follows: an octal number. -/
theorem strtoul_zero {c : Char} (hx : ¬ (c = 'x' ∨ c = 'X')) (s : List Char) :
    strtoul ('0' :: c :: s) = digitRun 8 0 (c :: s) := by
  cases s <;> simp [strtoul, hx]

/-- `strtoul(cp, &endp, 0)` on a string that does not start with `0`: a decimal number. -/
theorem strtoul_decimal {c : Char} (hc : c ≠ '0') (s : List Char) :
    strtoul (c :: s) = digitRun 10 0 (c :: s) := by
  rcases s with _ | ⟨x, _ | ⟨d, s⟩⟩ <;> simp [strtoul, hc]

/-- `digitRun` stops at a digit of the group that is not of its base. -/
theorem digitRun_stop {b : Nat} : ∀ {s : List Char}, (∀ c ∈ s, c.isDigit = true) →
    (∃ c ∈ s, ¬ IsDigitIn b c) → ∀ acc r, ∃ v c rest, digitRun b acc (s ++ r) = (v, c :: rest) ∧
      c.isDigit = true
  | [], _, ⟨_, h, _⟩, _, _ => absurd h (List.not_mem_nil _)
  | x :: s, hs, ⟨c, hc, hnc⟩, acc, r => by
    by_cases hx : IsDigitIn b x
    · have hcs : c ∈ s := (List.mem_cons.1 hc).resolve_left fun h => hnc (h ▸ hx)
      rw [List.cons_append, digitRun, if_pos hx]
      exact digitRun_stop (fun c hc => hs c (List.mem_cons_of_mem _ hc)) ⟨c, hcs, hnc⟩ _ r
    · exact ⟨acc, x, s ++ r, by rw [List.cons_append, digitRun, if_neg hx], hs x (by simp)⟩

/-- `strtoul` on a group followed by a dot or the end: the group's number and the rest, or, for
a group that is no number, a stop at one of its digits. -/
theorem strtoul_group {g r : List Char} (hg : IsIpGroup g) (hr : r = [] ∨ ∃ r', r = '.' :: r') :
    (∀ n, groupValue g = some n → strtoul (g ++ r) = (n, r)) ∧
    (groupValue g = none → ∃ v c rest, strtoul (g ++ r) = (v, c :: rest) ∧ c.isDigit = true) := by
  have hr8 : ∀ b, r.head?.all fun c => ¬ IsDigitIn b c := by
    rcases hr with rfl | ⟨r', rfl⟩
    · exact fun _ => rfl
    · intro b; simp [IsDigitIn, hexDigitValue?]
  obtain ⟨h1, -, hd⟩ := hg
  obtain ⟨x, g, rfl⟩ := List.exists_cons_of_ne_nil (List.ne_nil_of_length_pos h1)
  by_cases hx : x = '0'
  · subst hx
    rcases g with _ | ⟨c, g⟩
    · refine ⟨fun n hn => ?_, fun h => nomatch h⟩
      cases hn
      rcases hr with rfl | ⟨r', rfl⟩
      · rfl
      · rw [List.singleton_append, strtoul_zero (by decide), digitRun, if_neg (by decide)]; rfl
    have hcd : c.isDigit = true := hd c (by simp)
    have hc : ¬ (c = 'x' ∨ c = 'X') := by rintro (rfl | rfl) <;> cases hcd
    rw [List.cons_append, List.cons_append, strtoul_zero hc, ← List.cons_append]
    by_cases h8 : ∀ d ∈ c :: g, IsDigitIn 8 d
    · refine ⟨fun n hn => ?_, fun h => by rw [groupValue, if_pos h8] at h; cases h⟩
      rw [groupValue, if_pos h8, Option.some.injEq] at hn
      rw [digitRun_append h8 0 (hr8 8), ← hn, digitsValue]
    · refine ⟨fun n hn => (by rw [groupValue, if_neg h8] at hn; cases hn), fun _ => ?_⟩
      push_neg at h8
      exact digitRun_stop (fun d hd' => hd d (List.mem_cons_of_mem _ hd')) h8 0 r
  · have h10 : ∀ c ∈ x :: g, IsDigitIn 10 c := fun c hc => isDigitIn_ten_iff.2 (hd c hc)
    rw [groupValue_of_decimal (.inr (by simpa using hx))]
    refine ⟨fun n hn => ?_, fun h => nomatch h⟩
    cases hn
    rw [List.cons_append, strtoul_decimal hx, ← List.cons_append, digitRun_append h10 0 (hr8 10),
      digitsValue]

theorem groupValue_lt {g : List Char} {n : Nat} (hg : IsIpGroup g) (h : groupValue g = some n) :
    n < 1000 := by
  obtain ⟨-, h3, hd⟩ := hg
  unfold groupValue at h
  split at h
  · rename_i c g
    split_ifs at h with h8
    cases h
    have hl : (c :: g).length ≤ 2 := by simp only [List.length_cons] at h3 ⊢; omega
    exact (digitsValue_lt h8).trans_le ((Nat.pow_le_pow_right (by decide) hl).trans (by decide))
  · cases h
    exact (digitsValue_lt fun c hc => isDigitIn_ten_iff.2 (hd c hc)).trans_le
      ((Nat.pow_le_pow_right (by decide) h3).trans (by decide))

/-- One part of `inet_aton`, on a group followed by a dot or the end: the group's number passes
the check against `0xffffffff`, and the loop goes on at the dot or ends; a group that is no
number makes `inet_aton` fail. -/
theorem inetAtonParts_group {g r : List Char} (hg : IsIpGroup g)
    (hr : r = [] ∨ ∃ r', r = '.' :: r') (dots : Nat) (bytes : List UInt8) :
    inetAtonParts dots bytes (g ++ r) = (groupValue g).bind fun n =>
      if r.head? = some '.' then
        match dots with
        | 0 => none
        | dots + 1 => if 0xff < n then none else inetAtonParts dots (bytes ++ [UInt8.ofNat n]) r.tail
      else lastPart bytes n r := by
  obtain ⟨c, g', hcg⟩ := List.exists_cons_of_ne_nil (List.ne_nil_of_length_pos hg.1)
  have hc : c.isDigit = true := hg.2.2 c (by simp [hcg])
  rw [hcg, List.cons_append, inetAtonParts, if_neg (by simp [hc]), ← List.cons_append, ← hcg]
  obtain ⟨hsome, hnone⟩ := strtoul_group hg hr
  cases hv : groupValue g with
  | some n =>
    have := groupValue_lt hg hv
    simp only [hsome n hv, if_neg (show ¬ 0xffffffff < n by omega), Option.some_bind]
  | none =>
    obtain ⟨v, d, rest, hs, hd⟩ := hnone hv
    have hdot : d ≠ '.' := by rintro rfl; exact absurd hd (by decide)
    simp [hs, hdot, lastPart, isCSpace_of_isDigit hd]

/-- **`inet_aton` on a dotted quad of digit groups** reads each group by `groupValue` and
refuses a group that is no number or above 255, whichever dot follows it. -/
theorem inetAtonParts_groups : ∀ (dots : Nat) {gs : List (List Char)} (bytes : List UInt8),
    gs.length = dots + 1 → bytes.length + dots = 3 → (∀ g ∈ gs, IsIpGroup g) →
    inetAtonParts dots bytes (ipText gs) = (gs.mapM groupValue).bind fun ns =>
      if ∀ n ∈ ns, n ≤ 255 then some (bytes ++ ns.map UInt8.ofNat) else none
  | 0, [g], bytes, _, hb, h => by
    rw [show ipText [g] = g ++ [] by simp [ipText, intercalate_singleton],
      inetAtonParts_group (h g (List.mem_singleton_self g)) (.inl rfl), List.mapM_cons,
      List.mapM_nil]
    cases groupValue g with
    | none => rfl
    | some n =>
      by_cases hn : n ≤ 255
      · simp [lastPart, show bytes.length = 3 by omega, hn, toBytesBE,
          Nat.mod_eq_of_lt (show n < 256 by omega), show n < 256 by omega]
      · simp [lastPart, show bytes.length = 3 by omega, hn, show ¬ n < 256 by omega]
  | dots + 1, g :: g' :: gs, bytes, hl, hb, h => by
    rw [show ipText (g :: g' :: gs) = g ++ '.' :: ipText (g' :: gs) by
        simp [ipText, intercalate_cons_cons],
      inetAtonParts_group (h g (by simp)) (.inr ⟨_, rfl⟩), List.mapM_cons]
    cases groupValue g with
    | none => rfl
    | some n =>
      simp only [List.head?_cons, List.tail_cons, if_true, Option.some_bind]
      rw [inetAtonParts_groups dots _ (by simpa using hl) (by simp; omega)
        fun g hg => h g (List.mem_cons_of_mem _ hg)]
      by_cases hn : n ≤ 255
      · cases (g' :: gs).mapM groupValue <;> simp [hn]
      · cases (g' :: gs).mapM groupValue <;> simp [hn, show 0xff < n by omega]

theorem inetAton_ipText {gs : List (List Char)} (hl : gs.length = 4)
    (h : ∀ g ∈ gs, IsIpGroup g) : inetAton (ipText gs) = dottedQuadBytes gs := by
  simpa using inetAtonParts_groups 3 [] hl rfl h

/-- A dotted quad of groups in canonical decimal form gives the bytes the groups spell. -/
theorem dottedQuadBytes_byteText {gs : List (List Char)} (h : ∀ g ∈ gs, IsByteText g) :
    dottedQuadBytes gs = some (gs.map fun g => UInt8.ofNat (digitsValue 10 g)) := by
  have hm : gs.mapM groupValue = some (gs.map (digitsValue 10)) := by
    induction gs with
    | nil => rfl
    | cons g gs ih =>
      rw [List.mapM_cons, groupValue_of_decimal (h g (by simp)).2.2,
        ih fun g hg => h g (List.mem_cons_of_mem _ hg)]
      rfl
  rw [dottedQuadBytes, hm, Option.some_bind, if_pos (by simpa using fun g hg => (h g hg).2.1),
    List.map_map]
  rfl

theorem length_of_mapM_groupValue : ∀ {gs : List (List Char)} {ns : List Nat},
    gs.mapM groupValue = some ns → ns.length = gs.length
  | [], _, h => by cases h; rfl
  | g :: gs, ns, h => by
    rw [List.mapM_cons] at h
    cases hg : groupValue g <;> cases hgs : gs.mapM groupValue <;> rw [hg, hgs] at h <;> cases h
    rw [List.length_cons, length_of_mapM_groupValue hgs, List.length_cons]

theorem dottedQuadBytes_length {gs : List (List Char)} {y : List UInt8}
    (h : dottedQuadBytes gs = some y) : y.length = gs.length := by
  obtain ⟨ns, hns, hy⟩ := Option.bind_eq_some.1 h
  split_ifs at hy
  cases hy
  rw [List.length_map, length_of_mapM_groupValue hns]

end OvsP4ctl
