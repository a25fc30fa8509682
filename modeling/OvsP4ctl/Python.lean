import Mathlib.Data.Nat.Digits

/-!
# The Python values and builtins the script relies on

`ovs-p4ctl` is a Python 3 script.  This module fixes the Python semantics the rest of the model
is written against:

* `PyExc`, the exceptions raised on the paths the model follows, with their messages;
* `PyValue`, the dynamically typed values handed to `encode` and `get_match_field_pb`, with
  Python's indexing `PyValue.getItem`;
* `digitsValue` and `parseInt`, the digit values of `int(s, base)` (CPython's
  `_PyLong_DigitValue`), and `formatHex`, the `'%x' % n` of `encodeNum`;
* `split`, Python's `str.split(sep)`, with the laws used for `parse_flow`: a piece free of the
  separator is cut off whole (`split_append_sep`), and splitting undoes joining
  (`split_single_intercalate`).

Strings are `String` where the script stores them and `List Char` where it scans them.
-/

namespace OvsP4ctl

/-- The exceptions the script raises, or lets through from the library calls it makes. -/
inductive PyExc where
  /-- `Exception(msg)`, raised by the script itself. -/
  | exception (msg : String)
  | assertionError (msg : String)
  | attributeError (msg : String)
  | indexError (msg : String)
  | valueError (msg : String)
  | typeError (msg : String)
  | unboundLocalError (msg : String)
  | notImplementedError (msg : String)
  /-- `binascii.Error`, raised by the hex codec. -/
  | binasciiError (msg : String)
  /-- `OSError`, raised by `socket.inet_aton` and `socket.inet_ntoa`. -/
  | osError (msg : String)
  /-- `LookupError`, raised by `str.encode` for an encoding it does not know. -/
  | lookupError (msg : String)
  /-- `OverflowError`, raised when an `int` is too large to convert to a `float`. -/
  | overflowError (msg : String)
  deriving DecidableEq, Repr

/-- `str(e)`: each of these exceptions is raised with its message as its one argument. -/
def PyExc.str : PyExc → String
  | .exception msg | .assertionError msg | .attributeError msg | .indexError msg
  | .valueError msg | .typeError msg | .unboundLocalError msg | .notImplementedError msg
  | .binasciiError msg | .osError msg | .lookupError msg | .overflowError msg => msg

/-! The script's code runs in `Except PyExc`; these lemmas let `simp` run it. -/

section ExceptSimp

variable {ε α β : Type}

@[simp] theorem ok_bind (a : α) (f : α → Except ε β) : (Except.ok a >>= f) = f a := rfl

@[simp] theorem error_bind (e : ε) (f : α → Except ε β) : (Except.error e >>= f) = .error e := rfl

@[simp] theorem map_ok (f : α → β) (a : α) : (f <$> Except.ok a : Except ε β) = .ok (f a) := rfl

@[simp] theorem map_error (f : α → β) (e : ε) : (f <$> Except.error e : Except ε β) = .error e :=
  rfl

@[simp] theorem pure_eq_ok (a : α) : (pure a : Except ε α) = .ok a := rfl

@[simp] theorem throw_eq_error (e : ε) : (throw e : Except ε α) = .error e := rfl

@[simp] theorem mapError_ok {ε' : Type} (f : ε → ε') (a : α) :
    (Except.ok a : Except ε α).mapError f = .ok a := rfl

@[simp] theorem mapError_error {ε' : Type} (f : ε → ε') (e : ε) :
    (Except.error e : Except ε α).mapError f = .error (f e) := rfl

theorem mapError_eq_ok {ε' : Type} {x : Except ε α} {f : ε → ε'} {a : α} :
    x.mapError f = .ok a ↔ x = .ok a := by
  cases x <;> simp

/-- A step of a `do` block succeeds exactly when the step before it did. -/
theorem bind_eq_ok {x : Except ε α} {f : α → Except ε β} {b : β} :
    x >>= f = .ok b ↔ ∃ a, x = .ok a ∧ f a = .ok b := by
  cases x <;> simp

theorem map_eq_ok {x : Except ε α} {f : α → β} {b : β} :
    f <$> x = .ok b ↔ ∃ a, x = .ok a ∧ f a = b := by
  cases x <;> simp

/-- A list comprehension succeeds exactly when each of its elements does. -/
theorem mapM_eq_ok {f : α → Except ε β} {xs : List α} {ys : List β} :
    xs.mapM f = .ok ys ↔ List.Forall₂ (fun x y => f x = .ok y) xs ys := by
  induction xs generalizing ys with
  | nil => cases ys <;> simp [-List.mapM, List.mapM_nil]
  | cons x xs ih => cases ys <;> simp [-List.mapM, List.mapM_cons, bind_eq_ok, ← ih]

end ExceptSimp

/-- The quotes `repr` may put around a `str`: the apostrophe (code point 39) and the double quote
(34). -/
def singleQuote : Char := Char.ofNat 39

def doubleQuote : Char := Char.ofNat 34

/-- How `repr` writes a character of a `str` it quotes with `q`. -/
def reprChar (q c : Char) : List Char :=
  if c = q ∨ c = '\\' then ['\\', c]
  else if c = '\t' then ['\\', 't']
  else if c = '\n' then ['\\', 'n']
  else if c = '\r' then ['\\', 'r']
  else if c.toNat < 32 ∨ c.toNat = 127 then
    ['\\', 'x', Nat.digitChar (c.toNat / 16), Nat.digitChar (c.toNat % 16)]
  else [c]

/-- `repr` of a Python `str`: in apostrophes, or in double quotes when the text holds an
apostrophe and no double quote, with the quote, the backslash and the ASCII control characters
escaped.  (CPython also escapes the characters above ASCII that Unicode does not count as
printable; the model writes those as they are.) -/
def pyRepr (s : String) : String :=
  let q := if singleQuote ∈ s.data ∧ doubleQuote ∉ s.data then doubleQuote else singleQuote
  ⟨q :: s.data.flatMap (reprChar q) ++ [q]⟩

/-- The Python values the script passes around untyped: match values and action data. -/
inductive PyValue where
  | int (n : Int)
  | str (s : String)
  | bytes (b : List UInt8)
  | list (xs : List PyValue)
  | tuple (xs : List PyValue)
  /-- A value of any other type, by its type's name. -/
  | other (typeName : String)
  deriving Repr

namespace PyValue

/-- `type(x).__name__`. -/
def typeName : PyValue → String
  | int _ => "int"
  | str _ => "str"
  | bytes _ => "bytes"
  | list _ => "list"
  | tuple _ => "tuple"
  | other n => n

/-- `repr(x)`, as protobuf's type errors print the rejected value. -/
def repr : PyValue → String
  | int n => toString n
  | str s => pyRepr s
  | x => "<" ++ x.typeName ++ " object>"

/-- `len(x)`. -/
def len : PyValue → Except PyExc Nat
  | str s => .ok s.length
  | bytes b => .ok b.length
  | list xs => .ok xs.length
  | tuple xs => .ok xs.length
  | x => .error (.typeError ("object of type " ++ pyRepr x.typeName ++ " has no len()"))

/-- `x[i]` for a non-negative index. -/
def getItem : PyValue → Nat → Except PyExc PyValue
  | list xs, i => match xs[i]? with
    | some x => .ok x
    | none => .error (.indexError "list index out of range")
  | tuple xs, i => match xs[i]? with
    | some x => .ok x
    | none => .error (.indexError "tuple index out of range")
  | str s, i => match s.data[i]? with
    | some c => .ok (str ⟨[c]⟩)
    | none => .error (.indexError "string index out of range")
  | bytes b, i => match b[i]? with
    | some x => .ok (int x.toNat)
    | none => .error (.indexError "index out of range")
  | x, _ => .error (.typeError (pyRepr x.typeName ++ " object is not subscriptable"))

/-- The items a `for` loop over `x` visits. -/
def iter : PyValue → Except PyExc (List PyValue)
  | str s => .ok (s.data.map fun c => str ⟨[c]⟩)
  | bytes b => .ok (b.map fun x => int x.toNat)
  | list xs => .ok xs
  | tuple xs => .ok xs
  | x => .error (.typeError (pyRepr x.typeName ++ " object is not iterable"))

/-- `x == s` for a `str` `s`. -/
def eqStr (x : PyValue) (s : String) : Bool :=
  match x with
  | str t => t == s
  | _ => false

end PyValue

/-! ### Digits -/

/-- The value of `c` as a digit, if it is one of `0`-`9` (code points 48 to 57), or `a`-`f`
(97 to 102) or `A`-`F` (65 to 70) for ten to fifteen. -/
def hexDigitValue? (c : Char) : Option Nat :=
  if 48 ≤ c.toNat ∧ c.toNat ≤ 57 then some (c.toNat - 48)
  else if 97 ≤ c.toNat ∧ c.toNat ≤ 102 then some (c.toNat - 87)
  else if 65 ≤ c.toNat ∧ c.toNat ≤ 70 then some (c.toNat - 55)
  else none

theorem hexDigitValue?_lt {c : Char} {d : Nat} (h : hexDigitValue? c = some d) :
    d < 16 ∧ c.toNat < 128 := by
  unfold hexDigitValue? at h
  split_ifs at h <;> cases h <;> omega

/-- `c` is a digit of base `b` (for `b ≤ 16`). -/
def IsDigitIn (b : Nat) (c : Char) : Prop := ∃ d, hexDigitValue? c = some d ∧ d < b

instance (b : Nat) (c : Char) : Decidable (IsDigitIn b c) :=
  match h : hexDigitValue? c with
  | some d => if hd : d < b then isTrue ⟨d, h, hd⟩
    else isFalse fun ⟨_, h', h''⟩ => hd (Option.some.inj (h.symm.trans h') ▸ h'')
  | none => isFalse fun ⟨_, h', _⟩ => by rw [h] at h'; cases h'

theorem isDigit_iff {c : Char} : c.isDigit = true ↔ 48 ≤ c.toNat ∧ c.toNat ≤ 57 := by
  simp only [Char.isDigit, Bool.and_eq_true, decide_eq_true_eq, Char.le_def, Char.toNat]
  rfl

theorem isDigitIn_ten_iff {c : Char} : IsDigitIn 10 c ↔ c.isDigit = true := by
  rw [isDigit_iff]
  constructor
  · rintro ⟨d, hd, hd10⟩
    unfold hexDigitValue? at hd
    split_ifs at hd <;> cases hd <;> omega
  · intro h
    exact ⟨c.toNat - 48, by simp [hexDigitValue?, h], by omega⟩

/-- The value of a string of digits in base `b`, most significant first. -/
def digitsValue (b : Nat) (s : List Char) : Nat :=
  s.foldl (fun a c => b * a + (hexDigitValue? c).getD 0) 0

/-- Python's `'%x' % n`: lower-case hexadecimal digits, a `-` before those of `-n` when `n` is
negative. -/
def formatHex (n : Int) : List Char :=
  if 0 ≤ n then Nat.toDigits 16 n.toNat else '-' :: Nat.toDigits 16 n.natAbs

theorem digitsValue_append (b : Nat) (s t : List Char) :
    digitsValue b (s ++ t) = t.foldl (fun a c => b * a + (hexDigitValue? c).getD 0)
      (digitsValue b s) := by
  simp [digitsValue, List.foldl_append]

@[simp] theorem digitsValue_nil (b : Nat) : digitsValue b [] = 0 := rfl

theorem digitsValue_concat (b : Nat) (s : List Char) (c : Char) :
    digitsValue b (s ++ [c]) = b * digitsValue b s + (hexDigitValue? c).getD 0 := by
  simp [digitsValue_append]

/-- Digits of base `b` have a value below `b ^ length`. -/
theorem digitsValue_lt {b : Nat} {s : List Char} (h : ∀ c ∈ s, IsDigitIn b c) :
    digitsValue b s < b ^ s.length := by
  induction s using List.reverseRecOn with
  | nil => exact Nat.one_pos
  | append_singleton s c ih =>
    obtain ⟨d, hd, hdb⟩ := h c (by simp)
    have hs := ih fun c hc => h c (List.mem_append_left _ hc)
    rw [digitsValue_concat, hd, Option.getD_some, List.length_append, List.length_singleton]
    calc b * digitsValue b s + d < b * (digitsValue b s + 1) := by rw [Nat.mul_succ]; omega
      _ ≤ b * b ^ s.length := Nat.mul_le_mul_left _ hs
      _ = b ^ (s.length + 1) := (pow_succ' b _).symm

theorem digitsValue_zeros (b k : Nat) (s : List Char) :
    digitsValue b (List.replicate k '0' ++ s) = digitsValue b s := by
  have h : ∀ k, digitsValue b (List.replicate k '0') = 0 := by
    intro k
    induction k with
    | zero => rfl
    | succ k ih =>
      rw [List.replicate_succ', digitsValue_concat, ih]
      rfl
  rw [digitsValue, List.foldl_append, ← digitsValue, h]
  rfl

theorem hexDigitValue?_digitChar {d : Nat} (h : d < 16) :
    hexDigitValue? (Nat.digitChar d) = some d := by
  have : ∀ d : Fin 16, hexDigitValue? (Nat.digitChar d) = some d := by decide
  exact this ⟨d, h⟩

theorem toDigitsCore_append (b f n : Nat) (ds : List Char) :
    Nat.toDigitsCore b f n ds = Nat.toDigitsCore b f n [] ++ ds := by
  induction f generalizing n ds with
  | zero => rfl
  | succ f ih =>
    simp only [Nat.toDigitsCore]
    split
    · rfl
    · rw [ih _ (_ :: ds), ih _ [_], List.append_assoc, List.singleton_append]

/-- The digits `Nat.toDigits b n` spells are digits of base `b`, and they spell `n`. -/
theorem toDigits_spec {b : Nat} (hb : 2 ≤ b) (hb' : b ≤ 16) (n : Nat) :
    (∀ c ∈ Nat.toDigits b n, IsDigitIn b c) ∧ digitsValue b (Nat.toDigits b n) = n := by
  suffices ∀ f n, n < f → (∀ c ∈ Nat.toDigitsCore b f n [], IsDigitIn b c) ∧
      digitsValue b (Nat.toDigitsCore b f n []) = n from this _ n (Nat.lt_succ_self n)
  intro f
  induction f with
  | zero => intro n h; omega
  | succ f ih =>
    intro n hn
    have hmod := Nat.mod_lt n (show 0 < b by omega)
    have hd : hexDigitValue? (Nat.digitChar (n % b)) = some (n % b) :=
      hexDigitValue?_digitChar (by omega)
    have hdig : IsDigitIn b (Nat.digitChar (n % b)) := ⟨_, hd, hmod⟩
    simp only [Nat.toDigitsCore]
    split
    · next h0 =>
      exact ⟨by simpa using hdig, by simpa [digitsValue, hd, h0] using Nat.div_add_mod n b⟩
    · next h0 =>
      have hlt : n / b < f := by
        have := Nat.div_lt_self (n := n) (Nat.pos_of_ne_zero fun h => h0 (by simp [h]))
          (show 1 < b by omega)
        omega
      obtain ⟨ih1, ih2⟩ := ih (n / b) hlt
      rw [toDigitsCore_append, digitsValue_concat, ih2, hd, Option.getD_some]
      exact ⟨List.forall_mem_append.2 ⟨ih1, List.forall_mem_singleton.2 hdig⟩, Nat.div_add_mod n b⟩

theorem toDigits_ne_nil (b n : Nat) : Nat.toDigits b n ≠ [] := by
  unfold Nat.toDigits Nat.toDigitsCore
  dsimp only
  split
  · exact List.cons_ne_nil _ _
  · rw [toDigitsCore_append]; simp

/-- The first digit `Nat.toDigits` writes for a positive number is not zero. -/
theorem toDigits_head {b n : Nat} (hb : 2 ≤ b) (hn : 0 < n) :
    ∃ d ds, 0 < d ∧ d < b ∧ Nat.toDigits b n = Nat.digitChar d :: ds := by
  suffices ∀ f n ds, 0 < n → n < f →
      ∃ d ds', 0 < d ∧ d < b ∧ Nat.toDigitsCore b f n ds = Nat.digitChar d :: ds' from
    this _ n [] hn (Nat.lt_succ_self n)
  intro f
  induction f with
  | zero => intro n _ _ h; omega
  | succ f ih =>
    intro n ds hn hf
    simp only [Nat.toDigitsCore]
    split
    next h0 =>
      have hlt : n < b := (Nat.div_eq_zero_iff (by omega)).1 h0
      exact ⟨n, ds, hn, hlt, by rw [Nat.mod_eq_of_lt hlt]⟩
    next h0 =>
      exact ih _ _ (Nat.pos_of_ne_zero h0)
        (lt_of_lt_of_le (Nat.div_lt_self hn (by omega)) (by omega))

/-! ### `int(s)`

CPython 3.11's `int(s)` of a `str` (`PyLong_FromUnicodeObject` with base 10) rewrites the text to
ASCII (`_PyUnicode_TransformDecimalAndSpaceToASCII`) and parses the result as a C string
(`PyLong_FromString`): white space, an optional sign, decimal digits with single underscores
between them, and white space.  The Unicode tables are those of Python 3.11, Unicode 14.0. -/

/-- `isspace` in the C locale, `Py_ISSPACE`. -/
def isCSpace (c : Char) : Bool :=
  c == ' ' || c == '\t' || c == '\n' || c == '\x0b' || c == '\x0c' || c == '\r'

/-- The code points above ASCII that Unicode counts as white space (`Py_UNICODE_ISSPACE`). -/
def unicodeSpaces : List Nat :=
  [0x85, 0xa0, 0x1680, 0x2000, 0x2001, 0x2002, 0x2003, 0x2004, 0x2005, 0x2006, 0x2007, 0x2008,
    0x2009, 0x200a, 0x2028, 0x2029, 0x202f, 0x205f, 0x3000]

/-- The code point of the digit zero of each run of decimal digits above ASCII (category `Nd`);
each run holds the ten digits in order. -/
def decimalZeros : List Nat :=
  [0x660, 0x6f0, 0x7c0, 0x966, 0x9e6, 0xa66, 0xae6, 0xb66, 0xbe6, 0xc66, 0xce6, 0xd66, 0xde6,
    0xe50, 0xed0, 0xf20, 0x1040, 0x1090, 0x17e0, 0x1810, 0x1946, 0x19d0, 0x1a80, 0x1a90, 0x1b50,
    0x1bb0, 0x1c40, 0x1c50, 0xa620, 0xa8d0, 0xa900, 0xa9d0, 0xa9f0, 0xaa50, 0xabf0, 0xff10,
    0x104a0, 0x10d30, 0x11066, 0x110f0, 0x11136, 0x111d0, 0x112f0, 0x11450, 0x114d0, 0x11650,
    0x116c0, 0x11730, 0x118e0, 0x11950, 0x11c50, 0x11d50, 0x11da0, 0x16a60, 0x16ac0, 0x16b50,
    0x1d7ce, 0x1d7d8, 0x1d7e2, 0x1d7ec, 0x1d7f6, 0x1e140, 0x1e2f0, 0x1e950, 0x1fbf0]

/-- `Py_UNICODE_TODECIMAL` above ASCII: the digit a character stands for, if any. -/
def toDecimal? (c : Char) : Option Nat :=
  (decimalZeros.find? fun z => z ≤ c.toNat ∧ c.toNat < z + 10).map (c.toNat - ·)

/-- `_PyUnicode_TransformDecimalAndSpaceToASCII`: ASCII below DEL is kept, other white space
becomes a space and other decimal digits the ASCII digit of their value; the first other
character ends the text as `?`. -/
def transformDecimalAndSpaceToASCII : List Char → List Char
  | [] => []
  | c :: s =>
    if c.toNat < 127 then c :: transformDecimalAndSpaceToASCII s
    else if c.toNat ∈ unicodeSpaces then ' ' :: transformDecimalAndSpaceToASCII s
    else match toDecimal? c with
      | some d => Nat.digitChar d :: transformDecimalAndSpaceToASCII s
      | none => ['?']

/-- The digits `PyLong_FromString` scans after a first digit: an underscore only between two
digits.  The digits and what follows them, or `none` at a doubled or trailing underscore. -/
def scanDigits : List Char → Option (List Char × List Char)
  | '_' :: d :: s => if d.isDigit then (scanDigits s).map fun p => (d :: p.1, p.2) else none
  | ['_'] => none
  | d :: s => if d.isDigit then (scanDigits s).map fun p => (d :: p.1, p.2) else some ([], d :: s)
  | [] => some ([], [])

/-- `_PY_LONG_DEFAULT_MAX_STR_DIGITS`: `int` refuses texts of more digits. -/
def maxStrDigits : Nat := 4300

/-- `PyLong_FromString(str, &end, 10)`: `none` when it stops at a character that does not fit,
where it sets `end` and its caller reports the literal.  The digit limit is checked once the
digits are scanned, before the rest of the text, and its `ValueError` leaves `end` unset. -/
def longFromString (str : List Char) : Option (Except PyExc Int) :=
  let (neg, str) : Bool × List Char := match str.dropWhile isCSpace with
    | '+' :: r => (false, r)
    | '-' :: r => (true, r)
    | r => (false, r)
  match str with
  | d :: s =>
    if d.isDigit then
      (scanDigits s).bind fun (ds, rest) =>
        if maxStrDigits < ds.length + 1 then
          some (.error (.valueError ("Exceeds the limit (" ++ toString maxStrDigits ++
            " digits) for integer string conversion: value has " ++ toString (ds.length + 1) ++
            " digits; use sys.set_int_max_str_digits() to increase the limit")))
        else if rest.dropWhile isCSpace = [] then
          some (.ok (if neg then -(digitsValue 10 (d :: ds) : Int) else digitsValue 10 (d :: ds)))
        else none
    else none
  | [] => none

/-- Python's `int(s)` of a `str` `s`, `PyLong_FromUnicodeObject(s, 10)`: a text that does not
parse raises `ValueError` with `repr(s)`, cut at 200 characters (`%.200R`). -/
def parseInt (s : String) : Except PyExc Int :=
  match longFromString (transformDecimalAndSpaceToASCII s.data) with
  | some r => r
  | none => .error (.valueError ("invalid literal for int() with base 10: " ++
      ⟨(pyRepr s).data.take 200⟩))

/-- `int(x)`. -/
def PyValue.toInt : PyValue → Except PyExc Int
  | .int n => .ok n
  | .str s => parseInt s
  | x => .error (.typeError ("int() argument must be a string, a bytes-like object or a real " ++
      "number, not " ++ pyRepr x.typeName))

theorem isCSpace_of_isDigit {c : Char} (h : c.isDigit = true) : isCSpace c = false := by
  simp only [isCSpace, Bool.or_eq_false_iff, beq_eq_false_iff_ne, ne_eq]
  refine ⟨⟨⟨⟨⟨?_, ?_⟩, ?_⟩, ?_⟩, ?_⟩, ?_⟩ <;> rintro rfl <;> exact absurd h (by decide)

/-- The rewriting to ASCII keeps an ASCII text. -/
theorem transformDecimalAndSpaceToASCII_of_ascii :
    ∀ {s : List Char}, (∀ c ∈ s, c.toNat < 127) → transformDecimalAndSpaceToASCII s = s
  | [], _ => rfl
  | c :: s, h => by
    rw [transformDecimalAndSpaceToASCII, if_pos (h c (List.mem_cons_self _ _)),
      transformDecimalAndSpaceToASCII_of_ascii fun c hc => h c (List.mem_cons_of_mem _ hc)]

theorem scanDigits_cons_digit {d : Char} (hd : d.isDigit = true) (s : List Char) :
    scanDigits (d :: s) = (scanDigits s).map fun p => (d :: p.1, p.2) := by
  have hu : d ≠ '_' := by rintro rfl; cases hd
  rcases s with _ | ⟨x, s⟩ <;> simp [scanDigits, hu, hd]

/-- A run of digits is scanned whole. -/
theorem scanDigits_digits : ∀ {ds : List Char}, (∀ c ∈ ds, c.isDigit = true) →
    scanDigits ds = some (ds, [])
  | [], _ => rfl
  | d :: ds, h => by
    rw [scanDigits_cons_digit (h d (List.mem_cons_self _ _)),
      scanDigits_digits fun c hc => h c (List.mem_cons_of_mem _ hc)]
    rfl

/-- **`int` reads back a run of decimal digits**, of at most 4300 of them. -/
theorem parseInt_digits {ds : List Char} (hne : ds ≠ []) (hd : ∀ c ∈ ds, IsDigitIn 10 c)
    (hlen : ds.length ≤ maxStrDigits) : parseInt ⟨ds⟩ = .ok (digitsValue 10 ds : Nat) := by
  obtain ⟨c, cs, rfl⟩ := List.exists_cons_of_ne_nil hne
  have hdig : ∀ x ∈ c :: cs, x.isDigit = true := fun x hx => isDigitIn_ten_iff.1 (hd x hx)
  have hc := hdig c (List.mem_cons_self _ _)
  have hasc : transformDecimalAndSpaceToASCII (c :: cs) = c :: cs :=
    transformDecimalAndSpaceToASCII_of_ascii fun x hx => by
      have := isDigit_iff.1 (hdig x hx); omega
  have hsign : (match c :: cs with
      | '+' :: r => (false, r)
      | '-' :: r => (true, r)
      | r => (false, r) : Bool × List Char) = (false, c :: cs) := by
    have h1 : c ≠ '+' := by rintro rfl; cases hc
    have h2 : c ≠ '-' := by rintro rfl; cases hc
    split <;> simp_all
  have hlen' : ¬ maxStrDigits < cs.length + 1 := by simpa using hlen
  simp only [parseInt, longFromString, hasc, List.dropWhile_cons, isCSpace_of_isDigit hc,
    Bool.false_eq_true, if_false, hsign, if_pos hc,
    scanDigits_digits fun x hx => hdig x (List.mem_cons_of_mem _ hx), Option.some_bind, hlen',
    List.dropWhile_nil, if_true]

/-! ### `str.split` -/

/-- The scan of `split sep`: `skip` characters of a separator just cut at are still to be passed
over, and `cur` holds the current piece, reversed. -/
def splitGo (sep : List Char) : List Char → Nat → List Char → List (List Char)
  | [], _, cur => [cur.reverse]
  | _ :: s, skip + 1, cur => splitGo sep s skip cur
  | c :: s, 0, cur =>
    if sep ≠ [] ∧ sep <+: c :: s then cur.reverse :: splitGo sep s (sep.length - 1) []
    else splitGo sep s 0 (c :: cur)

/-- Python's `s.split(sep)` for a non-empty `sep`: the pieces of `s` between the occurrences of
`sep`, found from the left without overlapping. -/
def split (sep s : List Char) : List (List Char) := splitGo sep s 0 []

/-- No occurrence of `sep` starts inside `xs` when `xs` is followed by `r`. -/
def NoMatchIn (sep xs r : List Char) : Prop := ∀ i < xs.length, ¬ sep <+: (xs ++ r).drop i

theorem splitGo_skip (sep xs r cur : List Char) :
    splitGo sep (xs ++ r) xs.length cur = splitGo sep r 0 cur := by
  induction xs with
  | nil => rfl
  | cons x xs ih => exact ih

theorem splitGo_noMatch {sep xs r : List Char} (h : NoMatchIn sep xs r) (cur : List Char) :
    splitGo sep (xs ++ r) 0 cur = splitGo sep r 0 (xs.reverse ++ cur) := by
  induction xs generalizing cur with
  | nil => rfl
  | cons x xs ih =>
    have h0 : ¬ sep <+: x :: (xs ++ r) := h 0 (Nat.succ_pos _)
    have hxs : NoMatchIn sep xs r := fun i hi => h (i + 1) (Nat.succ_lt_succ hi)
    rw [List.cons_append, splitGo, if_neg fun h' => h0 h'.2, ih hxs, List.reverse_cons,
      List.append_assoc, List.singleton_append]

theorem splitGo_sep {sep : List Char} (hsep : sep ≠ []) (r cur : List Char) :
    splitGo sep (sep ++ r) 0 cur = cur.reverse :: splitGo sep r 0 [] := by
  obtain ⟨c, cs, rfl⟩ := List.exists_cons_of_ne_nil hsep
  rw [List.cons_append, splitGo, if_pos ⟨hsep, List.prefix_append _ _⟩, List.length_cons,
    Nat.add_sub_cancel, splitGo_skip]

/-- A piece in which no separator starts is cut off whole. -/
theorem split_append_sep {sep xs r : List Char} (hsep : sep ≠ []) (h : NoMatchIn sep xs (sep ++ r)) :
    split sep (xs ++ sep ++ r) = xs :: split sep r := by
  rw [split, List.append_assoc, splitGo_noMatch h, List.append_nil, splitGo_sep hsep,
    List.reverse_reverse, split]

theorem split_of_noMatch {sep s : List Char} (h : NoMatchIn sep s []) : split sep s = [s] := by
  have := splitGo_noMatch h []
  rw [List.append_nil] at this
  rw [split, this]
  simp [splitGo]

/-- A separator cannot start inside a piece that lacks its first character. -/
theorem noMatchIn_cons {c : Char} {s xs : List Char} (h : c ∉ xs) (r : List Char) :
    NoMatchIn (c :: s) xs r := by
  intro i hi hp
  rw [List.drop_append_of_le_length (Nat.le_of_lt hi)] at hp
  obtain ⟨t, ht⟩ := hp
  rw [List.drop_eq_getElem_cons hi, List.cons_append, List.cons_append, List.cons.injEq] at ht
  exact h (ht.1 ▸ List.getElem_mem hi)

theorem noMatchIn_append {sep xs ys r : List Char} (hx : NoMatchIn sep xs (ys ++ r))
    (hy : NoMatchIn sep ys r) : NoMatchIn sep (xs ++ ys) r := by
  intro i hi
  rw [List.append_assoc]
  by_cases h : i < xs.length
  · exact hx i h
  · rw [List.drop_append_eq_append_drop, List.drop_eq_nil_of_le (by omega), List.nil_append]
    exact hy _ (by rw [List.length_append] at hi; omega)

theorem noMatchIn_singleton {sep r : List Char} {x : Char} (h : ¬ sep <+: x :: r) :
    NoMatchIn sep [x] r := by
  intro i hi
  rw [List.length_singleton, Nat.lt_one_iff] at hi
  subst hi
  exact h

theorem intercalate_singleton {α : Type} (sep p : List α) : sep.intercalate [p] = p := by
  simp [List.intercalate]

theorem intercalate_cons_cons {α : Type} (sep p q : List α) (ps : List (List α)) :
    sep.intercalate (p :: q :: ps) = p ++ sep ++ sep.intercalate (q :: ps) := by
  simp [List.intercalate]

theorem mem_intercalate_single {c x : Char} :
    ∀ {ps : List (List Char)}, x ∈ [c].intercalate ps → x = c ∨ ∃ p ∈ ps, x ∈ p
  | [], h => by simp [List.intercalate] at h
  | [p], h => .inr ⟨p, List.mem_singleton_self p, by rwa [intercalate_singleton] at h⟩
  | p :: q :: ps, h => by
    rw [intercalate_cons_cons, List.mem_append, List.mem_append, List.mem_singleton] at h
    rcases h with (h | h) | h
    · exact .inr ⟨p, List.mem_cons_self _ _, h⟩
    · exact .inl h
    · rcases mem_intercalate_single h with h | ⟨r, hr, h⟩
      · exact .inl h
      · exact .inr ⟨r, List.mem_cons_of_mem _ hr, h⟩

/-- Splitting on one character undoes joining pieces that do not hold it. -/
theorem split_single_intercalate {c : Char} :
    ∀ {ps : List (List Char)}, ps ≠ [] → (∀ p ∈ ps, c ∉ p) → split [c] ([c].intercalate ps) = ps
  | [p], _, h => by
    rw [intercalate_singleton]
    exact split_of_noMatch (noMatchIn_cons (h p (List.mem_singleton_self p)) [])
  | p :: q :: ps, _, h => by
    rw [intercalate_cons_cons, split_append_sep (List.cons_ne_nil _ _)
      (noMatchIn_cons (h p (List.mem_cons_self _ _)) _),
      split_single_intercalate (List.cons_ne_nil _ _) fun p hp => h p (List.mem_cons_of_mem _ hp)]

/-- A separator `c :: s` cannot start inside pieces joined by `c` that lack `c`, when `s`
cannot start any piece after the first. -/
theorem noMatchIn_intercalate {c : Char} {s : List Char} :
    ∀ {ps : List (List Char)} (r : List Char), (∀ p ∈ ps, c ∉ p) →
      (∀ q ∈ ps.tail, ∀ w, ¬ s <+: q ++ w) → NoMatchIn (c :: s) ([c].intercalate ps) r
  | [], _, _, _ => fun _ hi => by simp [List.intercalate] at hi
  | [p], r, h, _ => by
    rw [intercalate_singleton]
    exact noMatchIn_cons (h p (List.mem_singleton_self p)) r
  | p :: q :: ps, r, h, ht => by
    have hq : ¬ s <+: [c].intercalate (q :: ps) ++ r := by
      cases ps with
      | nil => simpa [intercalate_singleton] using ht q (List.mem_singleton_self q) r
      | cons q' ps =>
        rw [intercalate_cons_cons, List.append_assoc, List.append_assoc]
        exact ht q (List.mem_cons_self _ _) _
    rw [intercalate_cons_cons]
    refine noMatchIn_append (noMatchIn_append (noMatchIn_cons (h p (List.mem_cons_self _ _)) _)
      (noMatchIn_singleton fun hp => hq ?_)) (noMatchIn_intercalate r
        (fun p hp => h p (List.mem_cons_of_mem _ hp)) fun q' hq' w =>
          ht q' (List.mem_cons_of_mem _ hq') w)
    exact (List.cons_prefix_cons.1 hp).2

/-- `xs[i]` on a Python list. -/
def pyIndex {α : Type} (xs : List α) (i : Nat) : Except PyExc α :=
  match xs[i]? with
  | some x => .ok x
  | none => .error (.indexError "list index out of range")

theorem pyIndex_of_lt {α : Type} {xs : List α} {i : Nat} (h : i < xs.length) :
    pyIndex xs i = .ok xs[i] := by
  simp [pyIndex, h]

theorem pyIndex_of_le {α : Type} {xs : List α} {i : Nat} (h : xs.length ≤ i) :
    pyIndex xs i = .error (.indexError "list index out of range") := by
  simp [pyIndex, List.getElem?_eq_none h]

/-- Indexing a `str` gives a one-character `str`. -/
theorem getItem_str {s : String} {i : Nat} {x : PyValue} (h : (PyValue.str s).getItem i = .ok x) :
    ∃ c, x = .str ⟨[c]⟩ := by
  cases hc : s.data[i]? with
  | none => simp [PyValue.getItem, hc] at h
  | some c => simp only [PyValue.getItem, hc, Except.ok.injEq] at h; exact ⟨c, h.symm⟩

/-- `d[k] = v` on an insertion-ordered dict: a new key goes last, an old one keeps its place. -/
def dictSet {K V : Type} [DecidableEq K] (d : List (K × V)) (k : K) (v : V) : List (K × V) :=
  if d.any (·.1 = k) then d.map fun e => if e.1 = k then (k, v) else e else d ++ [(k, v)]

section Dict

variable {K V : Type} [DecidableEq K]

theorem dictSet_of_new {d : List (K × V)} {k : K} (v : V)
    (h : ∀ e ∈ d, e.1 ≠ k) : dictSet d k v = d ++ [(k, v)] := by
  rw [dictSet, if_neg]
  simpa only [List.any_eq_true, decide_eq_true_eq, not_exists, not_and] using h

theorem lookup_cons_ite (a x : K) (b : V) (l : List (K × V)) :
    ((a, b) :: l).lookup x = if x = a then some b else l.lookup x := by
  by_cases h : x = a
  · simp [List.lookup_cons, h]
  · rw [List.lookup_cons, beq_false_of_ne h, if_neg h]

theorem any_key_iff (d : List (K × V)) (k : K) :
    d.any (·.1 = k) = true ↔ k ∈ d.map (·.1) := by
  simp [List.mem_map]

theorem lookup_isSome_iff_mem (d : List (K × V)) (k : K) :
    (d.lookup k).isSome ↔ k ∈ d.map (·.1) := by
  induction d with
  | nil => simp
  | cons e d ih =>
    by_cases h : k = e.1
    · simp [lookup_cons_ite, h]
    · simp [lookup_cons_ite, h, ih]

/-- The keys after `d[k] = v`: those of `d`, and `k` last when it is new. -/
theorem keys_dictSet (d : List (K × V)) (k : K) (v : V) :
    (dictSet d k v).map (·.1) = if k ∈ d.map (·.1) then d.map (·.1) else d.map (·.1) ++ [k] := by
  have hkeys : (d.map fun e => if e.1 = k then (k, v) else e).map (·.1) = d.map (·.1) := by
    rw [List.map_map]
    exact List.map_congr_left fun e _ => by simp only [Function.comp]; split <;> simp_all
  simp only [dictSet, any_key_iff]
  split
  · exact hkeys
  · rw [List.map_append]
    rfl

theorem lookup_map_set (d : List (K × V)) (k x : K) (v : V) :
    (d.map fun e => if e.1 = k then (k, v) else e).lookup x =
      if x = k then (d.lookup k).map fun _ => v else d.lookup x := by
  induction d with
  | nil => split <;> rfl
  | cons e d ih =>
    obtain ⟨a, b⟩ := e
    by_cases hx : x = k
    · subst hx
      by_cases ha : a = x
      · simp [lookup_cons_ite, ha]
      · simp [lookup_cons_ite, ih, ha, Ne.symm ha]
    · by_cases ha : a = k <;> simp [lookup_cons_ite, ih, ha, hx]

/-- A lookup after `d[k] = v`: `v` at `k`, what `d` holds elsewhere. -/
theorem lookup_dictSet (d : List (K × V)) (k x : K) (v : V) :
    (dictSet d k v).lookup x = if x = k then some v else d.lookup x := by
  simp only [dictSet, any_key_iff]
  split
  · rename_i hk
    obtain ⟨w, hw⟩ := Option.isSome_iff_exists.1 ((lookup_isSome_iff_mem d k).2 hk)
    rw [lookup_map_set]
    split
    · rw [hw]; rfl
    · rfl
  · rename_i hk
    have hnone : d.lookup k = none :=
      Option.not_isSome_iff_eq_none.1 fun h => hk ((lookup_isSome_iff_mem d k).1 h)
    rw [List.lookup_append, lookup_cons_ite]
    by_cases hx : x = k
    · rw [if_pos hx, if_pos hx, hx, hnone]; rfl
    · rw [if_neg hx, if_neg hx]
      cases d.lookup x <;> rfl

/-- The keys of the dict that the assignments of `kvs` make, after those of `acc`: the keys in
the order of their first assignment, as `eraseDups` keeps them. -/
theorem keys_foldl_dictSet : ∀ (kvs acc : List (K × V)),
    (kvs.foldl (fun d kv => dictSet d kv.1 kv.2) acc).map (·.1) =
      List.eraseDups.loop (kvs.map (·.1)) (acc.map (·.1)).reverse
  | [], acc => by simp [List.eraseDups.loop]
  | kv :: kvs, acc => by
    rw [List.foldl_cons, keys_foldl_dictSet, keys_dictSet, List.map_cons, List.eraseDups.loop]
    by_cases hk : kv.1 ∈ acc.map (·.1)
    · rw [if_pos hk, List.elem_eq_true_of_mem (List.mem_reverse.2 hk)]
    · rw [if_neg hk, show (acc.map (·.1)).reverse.elem kv.1 = false by simpa using hk,
        List.reverse_append]
      rfl

/-- A lookup in the dict that the assignments of `kvs` make, after those of `acc`: the value of
the last assignment of the key, or what `acc` holds when there is none. -/
theorem lookup_foldl_dictSet : ∀ (kvs acc : List (K × V)) (x : K),
    (kvs.foldl (fun d kv => dictSet d kv.1 kv.2) acc).lookup x =
      (kvs.reverse.lookup x).or (acc.lookup x)
  | [], acc, x => by simp
  | kv :: kvs, acc, x => by
    rw [List.foldl_cons, lookup_foldl_dictSet, lookup_dictSet, List.reverse_cons,
      List.lookup_append, Option.or_assoc, lookup_cons_ite]
    by_cases hx : x = kv.1
    · rw [if_pos hx, if_pos hx]; rfl
    · rw [if_neg hx, if_neg hx]; rfl
/-- Assignments of new, distinct keys append their pairs. -/
theorem foldl_dictSet_of_new : ∀ {kvs acc : List (K × V)}, (kvs.map (·.1)).Nodup →
    (∀ kv ∈ kvs, ∀ e ∈ acc, e.1 ≠ kv.1) →
      kvs.foldl (fun d kv => dictSet d kv.1 kv.2) acc = acc ++ kvs
  | [], acc, _, _ => by simp
  | kv :: kvs, acc, hnd, hacc => by
    rw [List.map_cons, List.nodup_cons, List.mem_map] at hnd
    rw [List.foldl_cons, dictSet_of_new _ (hacc kv (List.mem_cons_self _ _)),
      foldl_dictSet_of_new hnd.2 fun kv' h' e he => ?_]
    · simp
    · rcases List.mem_append.1 he with he | he
      · exact hacc kv' (List.mem_cons_of_mem _ h') e he
      · rw [List.mem_singleton.1 he]
        exact fun hkk => hnd.1 ⟨kv', h', hkk.symm⟩

end Dict

/-! ### `while` loops -/

/-- What one pass of a loop's body does: go round again from a new state, or leave the loop with
a result (by `return`, by `raise`, or when the loop's test fails). -/
inductive Step (σ ρ : Type) where
  | next (s : σ)
  | done (r : ρ)

/-- The loop with body `body`, run for at most `fuel` passes: `none` when it has not left by
then.  A loop that never leaves is `none` at every fuel. -/
def loop {σ ρ : Type} (body : σ → Step σ ρ) : Nat → σ → Option ρ
  | 0, _ => none
  | fuel + 1, s => match body s with
    | .next s' => loop body fuel s'
    | .done r => some r

section Loop

variable {σ ρ : Type} {body : σ → Step σ ρ}

theorem loop_next {s s' : σ} (h : body s = .next s') (fuel : Nat) :
    loop body (fuel + 1) s = loop body fuel s' := by
  simp only [loop, h]

theorem loop_done {s : σ} {r : ρ} (h : body s = .done r) (fuel : Nat) :
    loop body (fuel + 1) s = some r := by
  simp only [loop, h]

/-- More passes never change a result the loop has reached. -/
theorem loop_add {s : σ} {r : ρ} : ∀ {fuel : Nat}, loop body fuel s = some r → ∀ d,
    loop body (fuel + d) s = some r
  | 0, h, _ => by cases h
  | fuel + 1, h, d => by
    rw [Nat.add_right_comm]
    unfold loop at h ⊢
    split at h
    · exact loop_add h d
    · exact h

/-- A body that goes round again from the very state it started in never leaves the loop. -/
theorem loop_eq_none_of_next_self {s : σ} (h : body s = .next s) : ∀ fuel, loop body fuel s = none
  | 0 => rfl
  | fuel + 1 => by rw [loop_next h, loop_eq_none_of_next_self h fuel]

end Loop

end OvsP4ctl
