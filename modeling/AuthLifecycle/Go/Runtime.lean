import Mathlib.Data.List.Infix
import Mathlib.Algebra.Group.Int
/-!
# Go.Runtime — the pieces of the Go runtime the service leans on

Instants are nanoseconds since the Unix epoch, as `time.Time` carries them;
`Duration` is `time.Duration`, a signed 64-bit count of nanoseconds, and carries
its range as fields so that every configured lifetime is an int64.

A Go `error` is modelled by what the code inspects of it: its text
(`err.Error()`), the chain `%w` builds (`errors.Is`), and the identity of the
package sentinels, which the code compares with `==`. `GoError.wrap` is a fresh
`*fmt.wrapError`; it is never `==` to a sentinel, whatever it wraps
(`wrap_ne_sentinel`), while `errors.Is` sees through it (`is_wrap`).

JSON numbers decode into `float64`; `float64OfInt` is that rounding on integers
(53 significant bits, ties to even), exact below `2 ^ 53` (`float64OfInt_of_lt`).
-/

namespace AuthLifecycle.Go

set_option autoImplicit false

/-! ## Time -/

/-- `time.Duration`: a signed 64-bit count of nanoseconds. -/
structure Duration where
  ns : Int
  ge_min : -2 ^ 63 ≤ ns
  lt_max : ns < 2 ^ 63

namespace Duration

/-- `n * time.Second` for a small constant `n`. -/
def seconds (n : Nat) (h : n < 9223372036) : Duration :=
  ⟨n * 10 ^ 9, by omega, by omega⟩

/-- `time.Minute`. -/
def minute : Duration := seconds 60 (by decide)

/-- `d + e`, wrapping around as int64 addition does. -/
def add (d e : Duration) : Int := (d.ns + e.ns + 2 ^ 63) % 2 ^ 64 - 2 ^ 63

theorem add_of_lt {d e : Duration} (h : d.ns + e.ns < 2 ^ 63) (h' : -2 ^ 63 ≤ d.ns + e.ns) :
    d.add e = d.ns + e.ns := by
  unfold add; omega

end Duration

/-- `t.Unix()` for the instant `t` nanoseconds after the epoch: whole seconds, rounded down. -/
def unix (t : Int) : Int := t / 10 ^ 9

/-- `d.Round(time.Second)` for a duration of `d` nanoseconds: to the nearest whole
second, halves away from zero (the int64 saturation at the extremes is left out). -/
def roundSecond (d : Int) : Int :=
  let r : Int := d.natAbs % 10 ^ 9
  if d < 0 then (if 2 * r < 10 ^ 9 then d + r else d - 10 ^ 9 + r)
  else (if 2 * r < 10 ^ 9 then d - r else d + 10 ^ 9 - r)

/-- The zero `time.Time`, January 1 of year 1, in nanoseconds relative to the epoch. -/
def zeroTime : Int := -62135596800 * 10 ^ 9

/-- `t.IsZero()`. -/
def isZero (t : Int) : Bool := t == zeroTime

@[simp] theorem isZero_zeroTime : isZero zeroTime = true := rfl

/-! ## float64 -/

/-- `m` rounded to the 53-bit significand of a `float64`, ties to even. -/
def roundSignificand (m : Nat) : Nat :=
  if m < 2 ^ 53 then m
  else
    let k := Nat.log2 m - 52
    let q := m / 2 ^ k
    let r := m % 2 ^ k
    let half := 2 ^ (k - 1)
    (if half < r ∨ (r = half ∧ q % 2 = 1) then q + 1 else q) * 2 ^ k

/-- `float64(n)` for an integer `n`, read back as the integer it denotes. -/
def float64OfInt (n : Int) : Int :=
  if 0 ≤ n then roundSignificand n.toNat else -(roundSignificand n.natAbs : Int)

theorem roundSignificand_of_lt {m : Nat} (h : m < 2 ^ 53) : roundSignificand m = m := if_pos h

theorem float64OfInt_of_lt {n : Int} (h : n.natAbs < 2 ^ 53) : float64OfInt n = n := by
  unfold float64OfInt
  split
  · rw [roundSignificand_of_lt (by omega)]; omega
  · rw [roundSignificand_of_lt h]; omega

/-! ## Errors -/

/-- Results compare by constructor and payload. -/
instance instDecidableEqExcept {ε α : Type} [DecidableEq ε] [DecidableEq α] : DecidableEq (Except ε α)
  | .error a, .error b => if h : a = b then isTrue (h ▸ rfl) else isFalse fun e => h (Except.error.inj e)
  | .ok a, .ok b => if h : a = b then isTrue (h ▸ rfl) else isFalse fun e => h (Except.ok.inj e)
  | .error _, .ok _ => isFalse nofun
  | .ok _, .error _ => isFalse nofun

/-- The sentinel errors of package `repository` (`repository/errors.go`). -/
inductive Sentinel where
  | notFound
  | duplicateEmail
  | duplicateToken
  | duplicateOAuthProvider
  deriving DecidableEq, Repr

/-- The text each sentinel was created with. -/
def Sentinel.text : Sentinel → String
  | .notFound => "record not found"
  | .duplicateEmail => "user with this email already exists"
  | .duplicateToken => "token with this hash already exists"
  | .duplicateOAuthProvider => "oauth provider connection already exists"

/-- A Go `error` value. `new` is `errors.New` or `fmt.Errorf` without `%w`;
`wrap context inner` is `fmt.Errorf(context + "%w", inner)`; `driver` is an error
returned by the database or Redis client. -/
inductive GoError where
  | sentinel (s : Sentinel)
  | new (text : String)
  | wrap (context : String) (inner : GoError)
  | driver (text : String)
  deriving DecidableEq, Repr

namespace GoError

/-- `err.Error()`. -/
def text : GoError → String
  | .sentinel s => s.text
  | .new t => t
  | .wrap context inner => context ++ inner.text
  | .driver t => t

/-- `errors.Is(err, target)` for a sentinel `target`: the `%w` chain reaches it. -/
def is (target : Sentinel) : GoError → Bool
  | .sentinel s => s == target
  | .new _ => false
  | .wrap _ inner => inner.is target
  | .driver _ => false

theorem wrap_ne_sentinel (context : String) (inner : GoError) (s : Sentinel) :
    GoError.wrap context inner ≠ .sentinel s := by
  simp

@[simp] theorem is_wrap (target : Sentinel) (context : String) (inner : GoError) :
    (GoError.wrap context inner).is target = inner.is target := rfl

end GoError

/-! ## Strings -/

/-- `strings.Contains(s, substr)`. -/
def contains (s substr : String) : Bool := decide (substr.toList <:+: s.toList)

/-- A text that holds `substr` still holds it after a prefix. -/
theorem contains_append_right (s : String) {t substr : String} (h : contains t substr = true) :
    contains (s ++ t) substr = true :=
  decide_eq_true ((of_decide_eq_true h).trans (List.suffix_append _ _).isInfix)

/-- A text that holds `substr` still holds it after a suffix. -/
theorem contains_append_left {s substr : String} (t : String) (h : contains s substr = true) :
    contains (s ++ t) substr = true :=
  decide_eq_true ((of_decide_eq_true h).trans (List.prefix_append _ _).isInfix)

/-- A text lacking a letter of `substr` does not contain it. -/
theorem contains_eq_false_of_not_mem {s substr : String} {c : Char} (hc : c ∈ substr.toList)
    (hs : c ∉ s.toList) : contains s substr = false :=
  decide_eq_false fun h => hs (h.subset hc)

/-- An infix of `a ++ e ++ b` with a letter `x` that `e` lacks has its part up to
that `x` inside `a`, or its part from that `x` inside `b`. -/
theorem infix_append_of_not_mem {α : Type} {x : α} {n₁ n₂ a e b : List α} (he : x ∉ e)
    (h : n₁ ++ [x] ++ n₂ <:+: a ++ e ++ b) : n₁ ++ [x] <:+: a ∨ [x] ++ n₂ <:+: b := by
  obtain ⟨s, t, h⟩ := h
  have h' : (s ++ n₁) ++ x :: (n₂ ++ t) = a ++ (e ++ b) := by simpa using h
  rcases List.append_eq_append_iff.1 h' with ⟨a', rfl, ha'⟩ | ⟨c', -, hc'⟩
  · cases a' with
    | nil =>
      cases e with
      | nil => exact .inr ⟨[], t, by simp_all⟩
      | cons c e => exact absurd (List.cons.inj ha').1 (fun hx => he (hx ▸ List.mem_cons_self c e))
    | cons c a' => exact .inl ⟨s, a', by simp [(List.cons.inj ha').1]⟩
  · rcases List.append_eq_append_iff.1 hc' with ⟨a', -, rfl⟩ | ⟨c'', rfl, hc''⟩
    · exact .inr ⟨a', t, by simp⟩
    · cases c'' with
      | nil => exact .inr ⟨[], t, by simp_all⟩
      | cons d c'' => exact absurd (List.cons.inj hc'').1 (fun hx => he (by simp [hx]))

/-- A text `a ++ e ++ b` whose middle `e` has no blank holds `n₁ ++ " " ++ n₂`
only if `a` holds it up to the blank or `b` holds it from the blank on. -/
theorem contains_of_blank_free {a e b n₁ n₂ : String} (he : ' ' ∉ e.toList)
    (h : contains (a ++ e ++ b) (n₁ ++ " " ++ n₂) = true) :
    contains a (n₁ ++ " ") = true ∨ contains b (" " ++ n₂) = true :=
  (infix_append_of_not_mem he (of_decide_eq_true h)).imp decide_eq_true decide_eq_true

/-! ## Numerals -/

/-- The digits `Nat.digitChar` writes, up to base 16. -/
def digitAlphabet : List Char := "0123456789abcdef".toList

/-- The digits of `n` in base `b`, least significant first; `fuel` bounds their number. -/
def digitsIn (b : Nat) : Nat → Nat → List Char
  | 0, _ => []
  | fuel + 1, n => Nat.digitChar (n % b) :: if n < b then [] else digitsIn b fuel (n / b)

/-- Reads back what `digitsIn b` wrote. -/
def ofDigitsIn (b : Nat) : List Char → Nat
  | [] => 0
  | c :: cs => digitAlphabet.indexOf c + b * ofDigitsIn b cs

theorem indexOf_digitChar : ∀ d, d < 16 → digitAlphabet.indexOf (Nat.digitChar d) = d := by
  decide

theorem ofDigitsIn_digitsIn {b : Nat} (hb : 1 < b) (hb' : b ≤ 16) :
    ∀ fuel n, n < fuel → ofDigitsIn b (digitsIn b fuel n) = n
  | 0, _, h => absurd h (Nat.not_lt_zero _)
  | fuel + 1, n, h => by
    have low : digitAlphabet.indexOf (Nat.digitChar (n % b)) = n % b :=
      indexOf_digitChar _ (Nat.lt_of_lt_of_le (Nat.mod_lt n (by omega)) hb')
    by_cases small : n < b
    · rw [Nat.mod_eq_of_lt small] at low
      simp only [digitsIn, ofDigitsIn, small, if_true, low, Nat.mod_eq_of_lt small]; omega
    · have hq : n / b < fuel := Nat.lt_of_lt_of_le (Nat.div_lt_self (by omega) hb) (by omega)
      simp only [digitsIn, ofDigitsIn, small, if_false, low, ofDigitsIn_digitsIn hb hb' fuel (n / b) hq]
      exact Nat.mod_add_div n b

theorem digitsIn_injective {b : Nat} (hb : 1 < b) (hb' : b ≤ 16) {m n : Nat}
    (h : digitsIn b (m + 1) m = digitsIn b (n + 1) n) : m = n := by
  rw [← ofDigitsIn_digitsIn hb hb' (m + 1) m (by omega), ← ofDigitsIn_digitsIn hb hb' (n + 1) n (by omega), h]

/-- `uuid.New().String()` for the `k`-th UUID drawn. Random UUIDs are modelled as
never repeating, so the `k`-th is named by `k`, written in hexadecimal. -/
def uuidString (k : Nat) : String := ⟨digitsIn 16 (k + 1) k⟩

theorem uuidString_injective : Function.Injective uuidString := fun _ _ h =>
  digitsIn_injective (by decide) (by decide) (congrArg String.data h)

/-- A natural number in decimal, most significant digit first, as `%d` prints it. -/
def decimal (n : Nat) : String := ⟨(digitsIn 10 (n + 1) n).reverse⟩

theorem decimal_injective : Function.Injective decimal := fun _ _ h =>
  digitsIn_injective (by decide) (by decide) (List.reverse_injective (congrArg String.data h))

/-- A decimal numeral is made of the digits `0` to `9`. -/
theorem mem_decimal {n : Nat} {c : Char} (h : c ∈ (decimal n).toList) : c ∈ "0123456789".toList := by
  suffices ∀ fuel n, ∀ c ∈ digitsIn 10 fuel n, c ∈ "0123456789".toList by
    exact this (n + 1) n c (by simpa [decimal] using h)
  intro fuel
  induction fuel with
  | zero => simp [digitsIn]
  | succ fuel ih =>
    intro n c hc
    simp only [digitsIn, List.mem_cons] at hc
    rcases hc with rfl | hc
    · exact (by decide : ∀ d, d < 10 → Nat.digitChar d ∈ "0123456789".toList) _ (Nat.mod_lt n (by decide))
    · split at hc
      · simp at hc
      · exact ih _ c hc

theorem minus_not_mem_decimal (n : Nat) : '-' ∉ (decimal n).toList :=
  fun h => absurd (mem_decimal h) (by decide)

/-- `d.String()` for a duration of `n` whole seconds: `[-][<h>h][<m>m]<s>s`. -/
def secondsString (n : Int) : String :=
  let u := n.natAbs
  let body :=
    if u < 60 then decimal u ++ "s"
    else if u < 3600 then decimal (u / 60) ++ "m" ++ decimal (u % 60) ++ "s"
    else decimal (u / 3600) ++ "h" ++ decimal (u / 60 % 60) ++ "m" ++ decimal (u % 60) ++ "s"
  if n < 0 then "-" ++ body else body

/-- A duration's text is made of digits, the unit letters `h`, `m`, `s` and a sign. -/
theorem secondsString_subset (n : Int) : (secondsString n).toList ⊆ "0123456789-hms".toList := by
  have hd : ∀ m, (decimal m).data ⊆ "0123456789-hms".toList := fun m c hc =>
    (by decide : ∀ x ∈ "0123456789".toList, x ∈ "0123456789-hms".toList) c (mem_decimal hc)
  show (secondsString n).data ⊆ _
  simp only [secondsString]
  split <;> split <;> (try split) <;> simp only [String.data_append, List.append_subset] <;>
    (repeat' constructor) <;> first | exact hd _ | decide

/-- `fmt.Sprintf("%d", n)` for an `int64` `n`. -/
def formatInt (n : Int) : String := if n < 0 then "-" ++ decimal n.natAbs else decimal n.toNat

@[simp] theorem formatInt_ofNat (n : Nat) : formatInt n = decimal n := by
  unfold formatInt
  rw [if_neg (by omega), Int.toNat_ofNat]

/-! ## strconv -/

/-- The two errors `strconv` reports for a numeral: `ErrSyntax` and `ErrRange`. -/
inductive NumErr where
  | invalid
  | range
  deriving DecidableEq, Repr

/-- `ErrSyntax.Error()` and `ErrRange.Error()`. -/
def NumErr.text : NumErr → String
  | .invalid => "invalid syntax"
  | .range => "value out of range"

/-- `strconv.Quote` on printable text: the text in double quotes, with `"` and
the backslash escaped. -/
def quote (s : String) : String :=
  let escape (c : Char) : String := if c = '"' ∨ c = '\\' then "\\" ++ c.toString else c.toString
  "\"" ++ String.join (s.toList.map escape) ++ "\""

/-- The loop of `strconv.ParseUint(s, 10, 64)` over the bytes `cs`, from the value
`n` read so far: a byte that is not a digit is a syntax error, and a value past
`2 ^ 64 - 1` a range error, at the byte where it happens. -/
def parseUintLoop : List Char → Nat → Except NumErr Nat
  | [], n => .ok n
  | c :: cs, n =>
    if !('0' ≤ c && c ≤ '9') then .error .invalid
    else if (2 ^ 64 - 1) / 10 + 1 ≤ n then .error .range
    else if 2 ^ 64 - 1 < n * 10 + (c.toNat - '0'.toNat) then .error .range
    else parseUintLoop cs (n * 10 + (c.toNat - '0'.toNat))

/-- `strconv.Atoi(s)` on a 64-bit platform, as `ParseInt(s, 10, 0)`: an optional
sign, then one or more decimal digits, whose value is an int64. Its fast path for
texts under 19 bytes reads them the same way. -/
def atoi (s : String) : Except GoError Int :=
  let (neg, digits) : Bool × List Char :=
    match s.toList with
    | '-' :: ds => (true, ds)
    | '+' :: ds => (false, ds)
    | ds => (false, ds)
  let result : Except NumErr Int :=
    match (if digits = [] then .error .invalid else parseUintLoop digits 0 : Except NumErr Nat) with
    | .error e => .error e
    | .ok u =>
      if !neg ∧ 2 ^ 63 ≤ u then .error .range
      else if neg ∧ 2 ^ 63 < u then .error .range
      else .ok (if neg then -(u : Int) else u)
  match result with
  | .ok n => .ok n
  | .error e => .error (.wrap ("strconv.Atoi: parsing " ++ quote s ++ ": ") (.new e.text))

/-- `a * b` on int64 operands, wrapping around as Go's multiplication does. -/
def mul64 (a b : Int) : Int := (a * b + 2 ^ 63) % 2 ^ 64 - 2 ^ 63

theorem mul64_ge (a b : Int) : -2 ^ 63 ≤ mul64 a b := by unfold mul64; omega

theorem mul64_lt (a b : Int) : mul64 a b < 2 ^ 63 := by unfold mul64; omega

/-- The product is exact exactly when it is an int64. -/
theorem mul64_eq_iff (a b : Int) : mul64 a b = a * b ↔ -2 ^ 63 ≤ a * b ∧ a * b < 2 ^ 63 := by
  unfold mul64; omega

/-- Two wrapping products are the wrapped product. -/
theorem mul64_mul64 (a b c : Int) : mul64 (mul64 a b) c = mul64 (a * b) c := by
  unfold mul64
  have h := Int.emod_add_ediv (a * b + 2 ^ 63) (2 ^ 64)
  have e : ((a * b + 2 ^ 63) % 2 ^ 64 - 2 ^ 63) * c + 2 ^ 63 =
      a * b * c + 2 ^ 63 + 2 ^ 64 * (-((a * b + 2 ^ 63) / 2 ^ 64 * c)) := by
    rw [show (a * b + 2 ^ 63) % 2 ^ 64 - 2 ^ 63 = a * b - 2 ^ 64 * ((a * b + 2 ^ 63) / 2 ^ 64) by omega,
      Int.sub_mul, Int.mul_assoc (2 ^ 64)]
    omega
  rw [e, Int.add_mul_emod_self_left]

/-- `a - b` on int64 operands, wrapping around as Go's subtraction does. -/
def sub64 (a b : Int) : Int := (a - b + 2 ^ 63) % 2 ^ 64 - 2 ^ 63

/-- The difference is exact exactly when it is an int64. -/
theorem sub64_eq_iff (a b : Int) : sub64 a b = a - b ↔ -2 ^ 63 ≤ a - b ∧ a - b < 2 ^ 63 := by
  unfold sub64; omega

end AuthLifecycle.Go
