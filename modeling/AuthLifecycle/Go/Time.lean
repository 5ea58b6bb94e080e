import AuthLifecycle.Go.Runtime
import Mathlib.Algebra.Order.Field.Rat
import Mathlib.Tactic.Positivity
import Mathlib.Tactic.Ring
/-!
# Go.Time — the text of a `time.Duration`: `Duration.String` and `time.ParseDuration`

`config.Duration` writes itself with `Duration.String` (`MarshalText`) and
reads itself back through `time.ParseDuration` (`UnmarshalText`, via
`EnvDecode`). Both are modelled here as the Go runtime computes them, over the
characters of the text: every byte either function tests is ASCII, and no
byte of a multi-byte UTF-8 sequence is, so testing characters tests the same
bytes.

`ParseDuration` reads a fraction in `float64`: `uint64(float64(f) *
(float64(unit) / scale))`. `round64` is IEEE binary64 rounding of a
non-negative rational, to nearest with ties to even, subnormal below
`2 ^ -1022` and infinite from `2 ^ 1024` on; an integer below `2 ^ 53` rounds to
itself (`round64_natCast`).

* `durationString_seconds`: on whole seconds `Duration.String` is the
  `secondsString` the rate limiter's message uses.
* `parseLoop_fuel`: the loop's fuel, the text's length, is never short.
* `parseDuration_durationString`: `ParseDuration` reads back every duration
  `Duration.String` writes, the extremes included.
-/

namespace AuthLifecycle.Go

set_option autoImplicit false

/-! ## float64 -/

/-- `n / d` rounded to an integer, ties to even. -/
def rne (n d : Nat) : Nat :=
  if d < 2 * (n % d) ∨ (2 * (n % d) = d ∧ n / d % 2 = 1) then n / d + 1 else n / d

/-- `2 ^ e ≤ n / d`. -/
def powLe (n d : Nat) (e : Int) : Bool :=
  if 0 ≤ e then d * 2 ^ e.toNat ≤ n else d ≤ n * 2 ^ (-e).toNat

/-- `⌊log₂ (n / d)⌋` for positive `n` and `d`: `log₂ n - log₂ d` or one less. -/
def log2Ratio (n d : Nat) : Int :=
  if powLe n d ((n.log2 : Int) - d.log2) then (n.log2 : Int) - d.log2 else (n.log2 : Int) - d.log2 - 1

/-- A non-negative `float64`: finite, `+Inf` or `NaN`. -/
inductive F64 where
  | fin (q : ℚ)
  | inf
  | nan

/-- The non-negative rational `q` rounded to `float64`, to nearest with ties to
even: a 53-bit significand at exponents from `-1022` on, the subnormal spacing
`2 ^ -1074` below, and `+Inf` once the rounded value reaches `2 ^ 1024`. -/
def round64 (q : ℚ) : F64 :=
  let n := q.num.toNat
  let d := q.den
  if n = 0 then .fin 0
  else
    let u := max (log2Ratio n d) (-1022) - 52
    if 0 ≤ u then
      let m := rne n (d * 2 ^ u.toNat)
      if 2 ^ 1024 ≤ m * 2 ^ u.toNat then .inf else .fin ((m * 2 ^ u.toNat : Nat) : ℚ)
    else .fin ((rne (n * 2 ^ (-u).toNat) d : Nat) / ((2 ^ (-u).toNat : Nat) : ℚ))

namespace F64

/-- `float64(n)` for a `uint64` `n`. -/
def ofNat (n : Nat) : F64 := round64 n

/-- `x * y`. -/
def mul : F64 → F64 → F64
  | .fin a, .fin b => round64 (a * b)
  | .fin a, .inf | .inf, .fin a => if a = 0 then .nan else .inf
  | .inf, .inf => .inf
  | _, _ => .nan

/-- `x / y`. -/
def div : F64 → F64 → F64
  | .fin a, .fin b => if b = 0 then (if a = 0 then .nan else .inf) else round64 (a / b)
  | .fin _, .inf => .fin 0
  | .inf, .fin _ => .inf
  | _, _ => .nan

/-- `uint64(x)`: the integer part of a finite `x`; Go leaves the conversion of
`+Inf` and `NaN` to the platform, and amd64 answers `2 ^ 63`. -/
def toUInt64 : F64 → Nat
  | .fin a => a.num.toNat / a.den % 2 ^ 64
  | _ => 2 ^ 63

end F64

/-! ## `Duration.String` -/

/-- The loop of `fmtFrac` over `prec` digits of `v`, least significant first:
trailing zeros are skipped until the first other digit, and the digits from
there on are written in front of `buf`. -/
def fmtFracLoop : Nat → Nat → Bool → List Char → List Char × Nat × Bool
  | 0, v, print, buf => (buf, v, print)
  | prec + 1, v, print, buf =>
    let print := print || v % 10 != 0
    fmtFracLoop prec (v / 10) print (if print then Nat.digitChar (v % 10) :: buf else buf)

/-- `fmtFrac(buf, v, prec)`: the fraction `v / 10 ^ prec` writes after the
integer part (a point and its digits without trailing zeros, or nothing), and
`v / 10 ^ prec`. -/
def fmtFrac (v prec : Nat) : List Char × Nat :=
  match fmtFracLoop prec v false [] with
  | (buf, v, print) => (if print then '.' :: buf else buf, v)

/-- `<n>[.<frac>]<unit>`: the magnitude `u` with `prec` digits of fraction. -/
def fracBody (u prec : Nat) (unit : List Char) : List Char :=
  (decimal (fmtFrac u prec).2).toList ++ (fmtFrac u prec).1 ++ unit

/-- What `Duration.format` writes for a duration of magnitude `u` nanoseconds,
before the sign: `[<h>h][<m>m]<s>[.<frac>]s`, or under a second `<n>[.<frac>]`
with the unit `ns`, `µs` or `ms`, and `0s` for zero; `fmtInt` is `decimal`. -/
def durationBody (u : Nat) : List Char :=
  if u < 10 ^ 9 then
    if u = 0 then ['0', 's']
    else if u < 10 ^ 3 then fracBody u 0 ['n', 's']
    else if u < 10 ^ 6 then fracBody u 3 ['µ', 's']
    else fracBody u 6 ['m', 's']
  else
    let secs := (fmtFrac u 9).2
    let tail := (decimal (secs % 60)).toList ++ (fmtFrac u 9).1 ++ ['s']
    if secs / 60 = 0 then tail
    else
      let tail := (decimal (secs / 60 % 60)).toList ++ 'm' :: tail
      if secs / 60 / 60 = 0 then tail else (decimal (secs / 60 / 60)).toList ++ 'h' :: tail

/-- `Duration.String`: the body of the magnitude, after a `-` when negative. -/
def durationString (d : Duration) : String :=
  ⟨if d.ns < 0 then '-' :: durationBody d.ns.natAbs else durationBody d.ns.natAbs⟩

/-! ## `time.ParseDuration` -/

/-- `time.quote`: the text in double quotes, `"` and the backslash escaped, and
every byte of a control or non-ASCII character written `\x` and two hex digits. -/
def timeQuote (s : String) : String :=
  let hex (b : UInt8) : String := ⟨['\\', 'x', Nat.digitChar (b.toNat / 16), Nat.digitChar (b.toNat % 16)]⟩
  let escape (c : Char) : String :=
    if 0x80 ≤ c.toNat ∨ c.toNat < 0x20 then String.join ((String.utf8EncodeChar c).map hex)
    else if c = '"' ∨ c = '\\' then "\\" ++ c.toString else c.toString
  "\"" ++ String.join (s.toList.map escape) ++ "\""

/-- `time: invalid duration "<orig>"`. -/
def invalidDuration (orig : String) : GoError := .new ("time: invalid duration " ++ timeQuote orig)

/-- `leadingInt`: the leading `[0-9]*` from the value `x` read so far, and the
rest; `none` once the value passes `2 ^ 63`. -/
def leadingInt : List Char → Nat → Option (Nat × List Char)
  | [], x => some (x, [])
  | c :: s, x =>
    if c.isDigit then
      if 2 ^ 63 / 10 < x then none
      else if 2 ^ 63 < x * 10 + (c.toNat - '0'.toNat) then none
      else leadingInt s (x * 10 + (c.toNat - '0'.toNat))
    else some (x, c :: s)

/-- `leadingFraction`: the leading `[0-9]*` as digits `x` read at `scale`; once a
digit would pass `2 ^ 63` the rest are skipped without raising the precision. -/
def leadingFraction : List Char → Nat → F64 → Bool → Nat × F64 × List Char
  | [], x, scale, _ => (x, scale, [])
  | c :: s, x, scale, overflow =>
    if c.isDigit then
      if overflow then leadingFraction s x scale true
      else if (2 ^ 63 - 1) / 10 < x then leadingFraction s x scale true
      else if 2 ^ 63 < x * 10 + (c.toNat - '0'.toNat) then leadingFraction s x scale true
      else leadingFraction s (x * 10 + (c.toNat - '0'.toNat)) (scale.mul (.fin 10)) false
    else (x, scale, c :: s)

/-- `unitMap`: nanoseconds per unit; `µs` is written with the micro sign
U+00B5 or the Greek mu U+03BC. -/
def unitOf : List Char → Option Nat
  | ['n', 's'] => some 1
  | ['u', 's'] => some (10 ^ 3)
  | ['µ', 's'] => some (10 ^ 3)
  | ['μ', 's'] => some (10 ^ 3)
  | ['m', 's'] => some (10 ^ 6)
  | ['s'] => some (10 ^ 9)
  | ['m'] => some (60 * 10 ^ 9)
  | ['h'] => some (3600 * 10 ^ 9)
  | _ => none

/-- `(\.[0-9]*)?` after the integer part: the fraction's digits, the scale they
were read at, the rest, and whether a digit followed the point. -/
def fractionPart : List Char → Nat × F64 × List Char × Bool
  | '.' :: s =>
    match leadingFraction s 0 (.fin 1) false with
    | (f, scale, rest) => (f, scale, rest, rest.length ≠ s.length)
  | s => (0, .fin 1, s, false)

/-- `uint64(float64(f) * (float64(unit) / scale))`. -/
def fractionNs (f unit : Nat) (scale : F64) : Nat :=
  ((F64.ofNat f).mul ((F64.ofNat unit).div scale)).toUInt64

/-- Not a character of a number: the unit runs until one. -/
def isUnitChar (c : Char) : Bool := !(c = '.' || c.isDigit)

/-- The unit after a number read as `v` with the fraction digits `f` at
`scale`: the component's nanoseconds and the rest of the text. -/
def unitPart (orig : String) (v f : Nat) (scale : F64) (s : List Char) : Except GoError (Nat × List Char) :=
  match s.takeWhile isUnitChar with
  | [] => .error (.new ("time: missing unit in duration " ++ timeQuote orig))
  | u@(_ :: _) =>
    match unitOf u with
    | none => .error (.new ("time: unknown unit " ++ timeQuote ⟨u⟩ ++ " in duration " ++ timeQuote orig))
    | some unit =>
      if 2 ^ 63 / unit < v then .error (invalidDuration orig)
      else if 0 < f then
        if 2 ^ 63 < (v * unit + fractionNs f unit scale) % 2 ^ 64 then .error (invalidDuration orig)
        else .ok ((v * unit + fractionNs f unit scale) % 2 ^ 64, s.drop u.length)
      else .ok (v * unit, s.drop u.length)

/-- One pass of `ParseDuration`'s loop, `[0-9]*(\.[0-9]*)?[a-z]+`, at the start
of `s`: the component's nanoseconds and the rest of the text. A component
needs a digit before or after the point. -/
def component (orig : String) (s : List Char) : Except GoError (Nat × List Char) :=
  if s.head?.all isUnitChar then .error (invalidDuration orig)
  else
    match leadingInt s 0 with
    | none => .error (invalidDuration orig)
    | some (v, s₁) =>
      match fractionPart s₁ with
      | (f, scale, s₂, post) =>
        if s₁.length = s.length ∧ post = false then .error (invalidDuration orig)
        else unitPart orig v f scale s₂

/-- `ParseDuration`'s loop over the rest `s`, with the total `d` so far; `fuel`
bounds the passes, and the text's length is enough (`parseLoop_fuel`). -/
def parseLoop (orig : String) : Nat → List Char → Nat → Except GoError Nat
  | _, [], d => .ok d
  | 0, _ :: _, d => .ok d
  | fuel + 1, c :: s, d =>
    match component orig (c :: s) with
    | .error e => .error e
    | .ok (v, rest) =>
      if 2 ^ 63 < (d + v) % 2 ^ 64 then .error (invalidDuration orig)
      else parseLoop orig fuel rest ((d + v) % 2 ^ 64)

/-- `Duration(d)` for a `uint64` `d`: its bits read as an int64. -/
def Duration.ofUInt64 (d : Nat) : Duration := ⟨mul64 d 1, mul64_ge _ _, mul64_lt _ _⟩

/-- `-d` in int64 arithmetic. -/
def Duration.neg (d : Duration) : Duration := ⟨mul64 (-1) d.ns, mul64_ge _ _, mul64_lt _ _⟩

/-- `[-+]?` at the start of the text: whether it was `-`, and the rest. -/
def parseSign : List Char → Bool × List Char
  | '-' :: s => (true, s)
  | '+' :: s => (false, s)
  | s => (false, s)

/-- `time.ParseDuration`: `[-+]?([0-9]*(\.[0-9]*)?[a-z]+)+`, or `0`. -/
def parseDuration (orig : String) : Except GoError Duration :=
  match parseSign orig.toList with
  | (neg, s) =>
    if s = ['0'] then .ok ⟨0, by decide, by decide⟩
    else if s = [] then .error (invalidDuration orig)
    else
      match parseLoop orig s.length s 0 with
      | .error e => .error e
      | .ok d =>
        if neg then .ok (Duration.ofUInt64 d).neg
        else if 2 ^ 63 - 1 < d then .error (invalidDuration orig)
        else .ok (Duration.ofUInt64 d)

/-! ## Exact `float64` arithmetic -/

theorem rne_one (n : Nat) : rne n 1 = n := by simp [rne, Nat.mod_one]

theorem log2Ratio_one {n : Nat} (hn : n ≠ 0) : log2Ratio n 1 = n.log2 := by
  have h1 : (1 : Nat).log2 = 0 := by simpa using @Nat.log2_two_pow 0
  have : powLe n 1 (n.log2 : Int) = true := by
    simp only [powLe, if_pos (Int.natCast_nonneg _), Int.toNat_ofNat]
    simpa using Nat.log2_self_le hn
  simp only [log2Ratio, h1, Nat.cast_zero, Int.sub_zero, this, if_true]

/-- An integer below `2 ^ 53` is a `float64`. -/
theorem round64_natCast {n : Nat} (h : n < 2 ^ 53) : round64 n = .fin n := by
  unfold round64
  simp only [Rat.num_natCast, Rat.den_natCast, Int.toNat_ofNat]
  split
  · next h0 => rw [h0]; rfl
  · next h0 =>
    have hl : n.log2 < 53 := (Nat.log2_lt h0).2 h
    rw [log2Ratio_one h0, show max (n.log2 : Int) (-1022) = n.log2 by omega]
    split
    · rw [show ((n.log2 : Int) - 52).toNat = 0 by omega]
      simp only [pow_zero, Nat.one_mul, Nat.mul_one, rne_one]
      rw [if_neg (by omega)]
    · rw [rne_one, show (-((n.log2 : Int) - 52)).toNat = 52 - n.log2 by omega, Nat.cast_mul,
        mul_div_assoc, div_self (by positivity), mul_one]

theorem toUInt64_natCast {n : Nat} (h : n < 2 ^ 64) : (F64.fin n).toUInt64 = n := by
  simp only [F64.toUInt64, Rat.num_natCast, Rat.den_natCast, Int.toNat_ofNat, Nat.div_one]
  exact Nat.mod_eq_of_lt h

/-- `uint64(float64(f) * (float64(unit) / scale))` is exact when the scale is a
power of ten dividing the unit and every value on the way is below `2 ^ 53`. -/
theorem fractionNs_exact {f j i k : Nat} (hu : 10 ^ (j + i) * k < 2 ^ 53) (hf : f < 2 ^ 53)
    (hfu : f * (10 ^ i * k) < 2 ^ 53) :
    fractionNs f (10 ^ (j + i) * k) (.fin ((10 ^ j : Nat) : ℚ)) = f * (10 ^ i * k) := by
  have hq : ((10 ^ (j + i) * k : Nat) : ℚ) / ((10 ^ j : Nat) : ℚ) = ((10 ^ i * k : Nat) : ℚ) := by
    rw [div_eq_iff (by positivity)]; push_cast; ring
  unfold fractionNs F64.ofNat
  rw [round64_natCast hf, round64_natCast hu, F64.div, if_neg (by positivity), hq,
    round64_natCast (lt_of_le_of_lt (Nat.mul_le_mul_right _ (Nat.pow_le_pow_right (by decide) (by omega))) hu),
    F64.mul, ← Nat.cast_mul, round64_natCast hfu, toUInt64_natCast (by omega)]

/-! ## Decimal digits -/

/-- The value of the decimal digits `l`, read after the value `x`. -/
def ofDecimal (x : Nat) (l : List Char) : Nat := l.foldl (fun x c => x * 10 + (c.toNat - '0'.toNat)) x

@[simp] theorem ofDecimal_nil (x : Nat) : ofDecimal x [] = x := rfl

@[simp] theorem ofDecimal_cons (x : Nat) (c : Char) (l : List Char) :
    ofDecimal x (c :: l) = ofDecimal (x * 10 + (c.toNat - '0'.toNat)) l := rfl

theorem ofDecimal_append (x : Nat) (l l' : List Char) : ofDecimal x (l ++ l') = ofDecimal (ofDecimal x l) l' :=
  List.foldl_append _ _ _ _

theorem ofDecimal_add (x : Nat) : ∀ l : List Char, ofDecimal x l = x * 10 ^ l.length + ofDecimal 0 l
  | [] => by simp
  | c :: l => by
    rw [ofDecimal_cons, ofDecimal_add _ l, ofDecimal_cons, ofDecimal_add (0 * 10 + _) l, List.length_cons,
      Nat.pow_succ]
    ring

theorem le_ofDecimal (x : Nat) (l : List Char) : x ≤ ofDecimal x l := by
  rw [ofDecimal_add]
  exact le_add_right (Nat.le_mul_of_pos_right _ (Nat.pos_pow_of_pos _ (by decide)))

theorem ofDecimal_snoc (l : List Char) (c : Char) :
    ofDecimal 0 (l ++ [c]) = ofDecimal 0 l * 10 + (c.toNat - '0'.toNat) := by
  rw [ofDecimal_append]; rfl

theorem digitChar_val : ∀ d, d < 10 → (Nat.digitChar d).toNat - '0'.toNat = d := by decide

theorem isDigit_digitChar : ∀ d, d < 10 → (Nat.digitChar d).isDigit = true := by decide

theorem ofDecimal_digitsIn : ∀ fuel n, n < fuel → ofDecimal 0 (digitsIn 10 fuel n).reverse = n
  | 0, _, h => absurd h (Nat.not_lt_zero _)
  | fuel + 1, n, h => by
    have hd := digitChar_val (n % 10) (Nat.mod_lt _ (by decide))
    by_cases small : n < 10
    · rw [digitsIn, if_pos small]
      simp only [List.reverse_cons, List.reverse_nil, List.nil_append, ofDecimal_cons, ofDecimal_nil,
        Nat.zero_mul, Nat.zero_add, hd]
      exact Nat.mod_eq_of_lt small
    · rw [digitsIn, if_neg small, List.reverse_cons, ofDecimal_snoc, hd,
        ofDecimal_digitsIn fuel (n / 10) (by omega)]
      omega

/-- `fmtInt` reads back: `decimal n` is the digits of `n`. -/
theorem ofDecimal_decimal (n : Nat) : ofDecimal 0 (decimal n).toList = n :=
  ofDecimal_digitsIn (n + 1) n (Nat.lt_succ_self n)

theorem isDigit_of_mem_decimal {n : Nat} {c : Char} (h : c ∈ (decimal n).toList) : c.isDigit = true :=
  (by decide : ∀ x ∈ "0123456789".toList, x.isDigit = true) c (mem_decimal h)

theorem decimal_ne_nil (n : Nat) : (decimal n).toList ≠ [] := by
  simp [decimal, String.toList, digitsIn]

/-! ## `fmtFrac` -/

/-- What `fmtFracLoop` writes: the digits `added` in front of `buf`, all of them
once a digit other than zero has been seen, and no zero before. -/
theorem fmtFracLoop_spec : ∀ (p v : Nat) (print : Bool) (buf : List Char), ∃ added,
    fmtFracLoop p v print buf = (added ++ buf, v / 10 ^ p, print || decide (v % 10 ^ p ≠ 0)) ∧
    (∀ c ∈ added, c.isDigit) ∧ added.length ≤ p ∧ (print = true → added.length = p) ∧
    ofDecimal 0 added * 10 ^ (p - added.length) = v % 10 ^ p ∧
    ((print || decide (v % 10 ^ p ≠ 0)) = false → added = [])
  | 0, v, print, buf => ⟨[], by simp [fmtFracLoop, Nat.mod_one]⟩
  | p + 1, v, print, buf => by
    have hmod : v % 10 ^ (p + 1) = v % 10 + 10 * (v / 10 % 10 ^ p) := by
      rw [Nat.pow_succ, Nat.mul_comm, Nat.mod_mul]
    have hd : v % 10 < 10 := Nat.mod_lt _ (by decide)
    obtain ⟨a, he, hdig, hlen, hfull, hval, hnil⟩ :=
      fmtFracLoop_spec p (v / 10) (print || v % 10 != 0)
        (if (print || v % 10 != 0) then Nat.digitChar (v % 10) :: buf else buf)
    have hdiv : v / 10 / 10 ^ p = v / 10 ^ (p + 1) := by rw [Nat.div_div_eq_div_mul, Nat.pow_succ, Nat.mul_comm]
    have hprint : (print || v % 10 != 0 || decide (v / 10 % 10 ^ p ≠ 0)) =
        (print || decide (v % 10 ^ (p + 1) ≠ 0)) := by
      have key : decide (v % 10 ^ (p + 1) ≠ 0) = (v % 10 != 0 || decide (v / 10 % 10 ^ p ≠ 0)) := by
        rw [hmod]; generalize v / 10 % 10 ^ p = X; generalize v % 10 = y
        by_cases hy : y = 0 <;> by_cases hX : X = 0 <;> simp [hy, hX]
      rw [key, Bool.or_assoc]
    by_cases hp : (print || v % 10 != 0) = true
    · have hA : ofDecimal 0 a = v / 10 % 10 ^ p := by
        rw [hfull hp, Nat.sub_self, pow_zero, Nat.mul_one] at hval; exact hval
      refine ⟨a ++ [Nat.digitChar (v % 10)], ?_, ?_, ?_, fun _ => ?_, ?_, fun h => ?_⟩
      · rw [fmtFracLoop, he, if_pos hp, hdiv, hprint]; simp
      · simp only [List.mem_append, List.mem_singleton]
        rintro c (hc | rfl)
        exacts [hdig c hc, isDigit_digitChar _ hd]
      · simp [hfull hp]
      · simp [hfull hp]
      · rw [ofDecimal_snoc, digitChar_val _ hd, List.length_append, List.length_singleton, hfull hp,
          Nat.sub_self, pow_zero, Nat.mul_one, hmod, hA]
        ring
      · rw [← hprint, hp] at h; cases h
    · simp only [Bool.not_eq_true, Bool.or_eq_false_iff, bne_eq_false_iff_eq] at hp
      obtain ⟨rfl, hz⟩ := hp
      refine ⟨a, ?_, hdig, by omega, nofun, ?_, fun h => hnil ?_⟩
      · rw [fmtFracLoop, he, hdiv, ← hprint]; simp [hz]
      · rw [show p + 1 - a.length = p - a.length + 1 by omega, Nat.pow_succ, ← Nat.mul_assoc, hval, hmod, hz]
        ring
      · rw [← hprint] at h; simpa [hz] using h

theorem fmtFrac_of_mod {v p : Nat} (h : v % 10 ^ p = 0) : fmtFrac v p = ([], v / 10 ^ p) := by
  obtain ⟨a, he, -, -, -, -, hnil⟩ := fmtFracLoop_spec p v false []
  rw [fmtFrac, he, hnil (by simp [h])]
  simp [h]

@[simp] theorem fmtFrac_zero (v : Nat) : fmtFrac v 0 = ([], v) := rfl

theorem fmtFrac_snd (v p : Nat) : (fmtFrac v p).2 = v / 10 ^ p := by
  obtain ⟨a, he, -⟩ := fmtFracLoop_spec p v false []
  rw [fmtFrac, he]

/-- `fmtFrac v p` writes nothing when the last `p` digits of `v` are zero, and
otherwise a point and at most `p` digits, which are those last `p` digits
without their trailing zeros. -/
theorem fmtFrac_fst (v p : Nat) :
    (fmtFrac v p).1 = [] ∧ v % 10 ^ p = 0 ∨
      ∃ l, (fmtFrac v p).1 = '.' :: l ∧ (∀ c ∈ l, c.isDigit) ∧ l.length ≤ p ∧
        ofDecimal 0 l * 10 ^ (p - l.length) = v % 10 ^ p := by
  obtain ⟨a, he, hdig, hlen, -, hval, hnil⟩ := fmtFracLoop_spec p v false []
  rw [fmtFrac, he]
  by_cases h0 : v % 10 ^ p = 0
  · exact .inl ⟨by simp [h0, hnil (by simp [h0])], h0⟩
  · exact .inr ⟨a, by simp [h0], hdig, hlen, hval⟩

/-! ## Reading numbers -/

theorem leadingInt_append : ∀ (l rest : List Char) (x : Nat), (∀ c ∈ l, c.isDigit) →
    (∀ c ∈ rest.head?, c.isDigit = false) → ofDecimal x l ≤ 2 ^ 63 →
    leadingInt (l ++ rest) x = some (ofDecimal x l, rest)
  | [], [], x, _, _, _ => rfl
  | [], c :: rest, x, _, hr, _ => by simp [leadingInt, hr c rfl]
  | c :: l, rest, x, hl, hr, hv => by
    have hc := hl c (List.mem_cons_self _ _)
    have hle := le_ofDecimal (x * 10 + (c.toNat - '0'.toNat)) l
    rw [ofDecimal_cons] at hv
    rw [List.cons_append, leadingInt, if_pos hc, if_neg (by omega), if_neg (by omega),
      leadingInt_append l rest _ (fun d hd => hl d (List.mem_cons_of_mem _ hd)) hr hv, ofDecimal_cons]

theorem leadingInt_overflow : ∀ (l rest : List Char) (x : Nat), (∀ c ∈ l, c.isDigit) → x ≤ 2 ^ 63 →
    2 ^ 63 < ofDecimal x l → leadingInt (l ++ rest) x = none
  | [], _, x, _, hx, hv => absurd hv (by simpa using hx)
  | c :: l, rest, x, hl, _, hv => by
    have hc := hl c (List.mem_cons_self _ _)
    rw [ofDecimal_cons] at hv
    rw [List.cons_append, leadingInt, if_pos hc]
    split
    · rfl
    · split
      · rfl
      · exact leadingInt_overflow l rest _ (fun d hd => hl d (List.mem_cons_of_mem _ hd)) (by omega) hv

theorem mul_ten_pow {j : Nat} (hj : j + 1 ≤ 15) :
    (F64.fin ((10 ^ j : Nat) : ℚ)).mul (.fin 10) = .fin ((10 ^ (j + 1) : Nat) : ℚ) := by
  rw [F64.mul, show ((10 ^ j : Nat) : ℚ) * 10 = ((10 ^ (j + 1) : Nat) : ℚ) by push_cast; ring,
    round64_natCast (lt_of_le_of_lt (Nat.pow_le_pow_right (by decide) hj) (by decide))]

theorem leadingFraction_append : ∀ (l rest : List Char) (x j : Nat), (∀ c ∈ l, c.isDigit) →
    (∀ c ∈ rest.head?, c.isDigit = false) → ofDecimal x l ≤ 2 ^ 63 → j + l.length ≤ 15 →
    leadingFraction (l ++ rest) x (.fin ((10 ^ j : Nat) : ℚ)) false =
      (ofDecimal x l, .fin ((10 ^ (j + l.length) : Nat) : ℚ), rest)
  | [], [], x, j, _, _, _, _ => rfl
  | [], c :: rest, x, j, _, hr, _, _ => by simp [leadingFraction, hr c rfl]
  | c :: l, rest, x, j, hl, hr, hv, hj => by
    have hc := hl c (List.mem_cons_self _ _)
    have hle := le_ofDecimal (x * 10 + (c.toNat - '0'.toNat)) l
    rw [ofDecimal_cons] at hv
    rw [List.length_cons] at hj
    rw [List.cons_append, leadingFraction, if_pos hc, if_neg Bool.false_ne_true, if_neg (by omega),
      if_neg (by omega), mul_ten_pow (by omega),
      leadingFraction_append l rest _ (j + 1) (fun d hd => hl d (List.mem_cons_of_mem _ hd)) hr hv (by omega),
      ofDecimal_cons, List.length_cons, Nat.add_right_comm, Nat.add_assoc]

/-! ## One component -/

theorem unitOf_pos {u : List Char} {unit : Nat} (h : unitOf u = some unit) : 0 < unit := by
  unfold unitOf at h
  split at h <;> cases h <;> decide

theorem takeWhile_unit {uc rest : List Char} (huc : ∀ c ∈ uc, isUnitChar c = true)
    (hrest : ∀ c ∈ rest.head?, c.isDigit = true) : (uc ++ rest).takeWhile isUnitChar = uc := by
  rw [List.takeWhile_append_of_pos huc]
  cases rest with
  | nil => simp
  | cons c rest => simp [List.takeWhile_cons, isUnitChar, hrest c rfl]

/-- After the integer part of what `Duration.String` writes, `fractionPart` reads
the fraction `fmtFrac` wrote: digits `f` at the scale `10 ^ j`, worth the last
`p` digits. -/
theorem fractionPart_fmtFrac (r p : Nat) {s : List Char} (hs : ∀ c ∈ s.head?, isUnitChar c = true)
    (hp : p ≤ 15) : ∃ f j post, fractionPart ((fmtFrac r p).1 ++ s) = (f, .fin ((10 ^ j : Nat) : ℚ), s, post) ∧
      j ≤ p ∧ f * 10 ^ (p - j) = r % 10 ^ p := by
  have hhead : ∀ c ∈ s.head?, c.isDigit = false := fun c hc => by
    have := hs c hc; simp only [isUnitChar, Bool.not_eq_true', Bool.or_eq_false_iff] at this; exact this.2
  rcases fmtFrac_fst r p with ⟨he, h0⟩ | ⟨l, he, hdig, hlen, hval⟩
  · refine ⟨0, 0, false, ?_, Nat.zero_le _, by rw [h0, Nat.zero_mul]⟩
    rw [he, List.nil_append]
    cases s with
    | nil => simp [fractionPart]
    | cons c s =>
      have hc : c ≠ '.' := fun h => by simp [h, isUnitChar] at hs
      simp [fractionPart, hc]
  · have hlt : ofDecimal 0 l < 10 ^ 15 := by
      have := Nat.mod_lt r (Nat.pos_pow_of_pos p (by decide : 0 < 10))
      have := Nat.pow_le_pow_right (by decide : 0 < 10) hp
      have := Nat.le_mul_of_pos_right (ofDecimal 0 l) (Nat.pos_pow_of_pos (p - l.length) (by decide : 0 < 10))
      omega
    refine ⟨ofDecimal 0 l, l.length, decide (s.length ≠ (l ++ s).length), ?_, hlen, hval⟩
    rw [he, List.cons_append, fractionPart, show (1 : ℚ) = ((10 ^ 0 : Nat) : ℚ) by simp,
      leadingFraction_append l s 0 0 hdig hhead (by omega) (by omega)]
    simp

theorem component_append (orig : String) (n r p k : Nat) {uc rest : List Char}
    (hunit : unitOf uc = some (10 ^ p * k)) (huc : ∀ c ∈ uc, isUnitChar c = true)
    (hrest : ∀ c ∈ rest.head?, c.isDigit = true) (hk : 10 ^ p * k < 2 ^ 53) (hp : p ≤ 15)
    (hval : n * (10 ^ p * k) + r % 10 ^ p * k ≤ 2 ^ 63) :
    component orig ((decimal n).toList ++ (fmtFrac r p).1 ++ uc ++ rest) =
      .ok (n * (10 ^ p * k) + r % 10 ^ p * k, rest) := by
  have hpos := unitOf_pos hunit
  obtain ⟨c₀, t, hL⟩ := List.exists_cons_of_ne_nil (decimal_ne_nil n)
  have hc₀ : c₀.isDigit = true := isDigit_of_mem_decimal (by rw [hL]; exact List.mem_cons_self _ _)
  obtain ⟨u₀, us, rfl⟩ : ∃ u₀ us, uc = u₀ :: us := List.exists_cons_of_ne_nil fun h => by subst h; cases hunit
  have hu₀ : isUnitChar u₀ = true := huc u₀ (List.mem_cons_self _ _)
  obtain ⟨f, j, post, hfr, hj, hf⟩ := fractionPart_fmtFrac r p (s := u₀ :: us ++ rest) (by simpa using hu₀) hp
  have hn : ofDecimal 0 (decimal n).toList ≤ 2 ^ 63 := by
    have := Nat.le_mul_of_pos_right n hpos
    rw [ofDecimal_decimal]; omega
  have hfrac_head : ∀ c ∈ ((fmtFrac r p).1 ++ u₀ :: us ++ rest).head?, c.isDigit = false := by
    rcases fmtFrac_fst r p with ⟨he, -⟩ | ⟨l, he, -⟩ <;> rw [he] <;> intro c hc
    · simp only [List.nil_append, List.cons_append, List.head?_cons, Option.mem_def, Option.some.injEq] at hc
      subst hc; simp only [isUnitChar, Bool.not_eq_true', Bool.or_eq_false_iff] at hu₀; exact hu₀.2
    · simp only [List.cons_append, List.head?_cons, Option.mem_def, Option.some.injEq] at hc
      subst hc; rfl
  have hli := leadingInt_append _ _ 0 (fun c hc => isDigit_of_mem_decimal hc) hfrac_head hn
  rw [ofDecimal_decimal] at hli
  simp only [List.append_assoc] at hli hfr ⊢
  unfold component
  rw [hL, List.cons_append] at hli ⊢
  have hpre : ((fmtFrac r p).1 ++ (u₀ :: us ++ rest)).length ≠
      (c₀ :: (t ++ ((fmtFrac r p).1 ++ (u₀ :: us ++ rest)))).length := by
    simp only [List.length_cons, List.length_append]; omega
  rw [if_neg (by simp [isUnitChar, hc₀]), hli]
  simp only [hfr, hpre, false_and, if_false, unitPart, takeWhile_unit huc hrest, hunit, List.drop_left]
  rw [if_neg (show ¬2 ^ 63 / (10 ^ p * k) < n by rw [Nat.not_lt, Nat.le_div_iff_mul_le hpos]; omega)]
  by_cases hf0 : 0 < f
  · have hpj : p = j + (p - j) := by omega
    have hfr' : f * (10 ^ (p - j) * k) = r % 10 ^ p * k := by rw [← Nat.mul_assoc, hf]
    have hfs : fractionNs f (10 ^ p * k) (.fin ((10 ^ j : Nat) : ℚ)) = r % 10 ^ p * k := by
      have hrk : r % 10 ^ p * k < 2 ^ 53 :=
        lt_of_le_of_lt (Nat.mul_le_mul_right k (Nat.mod_lt r (Nat.pos_pow_of_pos p (by decide))).le) hk
      have hf53 : f < 2 ^ 53 := by
        have := Nat.le_mul_of_pos_right f (Nat.pos_pow_of_pos (p - j) (by decide : 0 < 10))
        have := Nat.mod_lt r (Nat.pos_pow_of_pos p (by decide : 0 < 10))
        have := Nat.pow_le_pow_right (by decide : 0 < 10) hp
        omega
      have hk' : 10 ^ (j + (p - j)) * k < 2 ^ 53 := by rwa [← hpj]
      have := fractionNs_exact hk' hf53 (by rw [hfr']; exact hrk)
      rwa [← hpj, hfr'] at this
    rw [if_pos hf0, hfs, Nat.mod_eq_of_lt (by omega), if_neg (by omega)]
  · have hr0 : r % 10 ^ p = 0 := by rw [← hf, show f = 0 by omega, Nat.zero_mul]
    rw [if_neg hf0, hr0, Nat.zero_mul, Nat.add_zero]

/-! ## The loop -/

theorem leadingInt_length : ∀ {s s₁ : List Char} {x v : Nat}, leadingInt s x = some (v, s₁) → s₁.length ≤ s.length
  | [], _, _, _, h => by cases h; rfl
  | c :: s, s₁, x, v, h => by
    unfold leadingInt at h
    split at h
    · split at h
      · cases h
      · split at h
        · cases h
        · exact Nat.le_succ_of_le (leadingInt_length h)
    · cases h; rfl

theorem leadingFraction_length : ∀ (s : List Char) (x : Nat) (scale : F64) (overflow : Bool),
    (leadingFraction s x scale overflow).2.2.length ≤ s.length
  | [], _, _, _ => le_rfl
  | c :: s, x, scale, overflow => by
    unfold leadingFraction
    split
    · split
      · exact Nat.le_succ_of_le (leadingFraction_length s _ _ _)
      · split
        · exact Nat.le_succ_of_le (leadingFraction_length s _ _ _)
        · split
          · exact Nat.le_succ_of_le (leadingFraction_length s _ _ _)
          · exact Nat.le_succ_of_le (leadingFraction_length s _ _ _)
    · exact le_rfl

theorem fractionPart_length (s : List Char) : (fractionPart s).2.2.1.length ≤ s.length := by
  unfold fractionPart
  split
  · exact Nat.le_succ_of_le (leadingFraction_length _ _ _ _)
  · exact le_rfl

theorem unitPart_length {orig : String} {v f : Nat} {scale : F64} {s rest : List Char} {w : Nat}
    (h : unitPart orig v f scale s = .ok (w, rest)) : rest.length < s.length := by
  unfold unitPart at h
  split at h
  · cases h
  · next u₀ us hu =>
    have hle : (u₀ :: us).length ≤ s.length := hu ▸ (List.takeWhile_prefix _).length_le
    simp only [List.length_cons] at hle
    split at h
    · cases h
    · split at h
      · cases h
      · split at h
        · split at h
          · cases h
          · cases h; simp only [List.length_drop, List.length_cons]; omega
        · cases h; simp only [List.length_drop, List.length_cons]; omega

/-- Every component the loop reads takes at least one character. -/
theorem component_length {orig : String} {s rest : List Char} {v : Nat}
    (h : component orig s = .ok (v, rest)) : rest.length < s.length := by
  unfold component at h
  split at h
  · cases h
  · split at h
    · cases h
    · next v₁ s₁ hli =>
      split at h
      next f scale s₂ post hfr =>
      split at h
      · cases h
      · have h₂ : s₂.length ≤ s₁.length := by have := fractionPart_length s₁; rwa [hfr] at this
        have := unitPart_length h
        have := leadingInt_length hli
        omega

@[simp] theorem parseLoop_nil (orig : String) (fuel d : Nat) : parseLoop orig fuel [] d = .ok d := by
  cases fuel <;> rfl

/-- More fuel than the text's length changes nothing: `ParseDuration`'s fuel,
the length, is as good as an unbounded loop. -/
theorem parseLoop_fuel (orig : String) : ∀ (n : Nat) (s : List Char) (d : Nat), s.length ≤ n →
    parseLoop orig (n + 1) s d = parseLoop orig n s d
  | _, [], _, _ => by simp
  | 0, _ :: _, _, h => absurd h (by simp)
  | n + 1, c :: s, d, h => by
    rw [parseLoop, parseLoop]
    split
    · rfl
    · next v rest hc =>
      split
      · rfl
      · exact parseLoop_fuel orig n rest _ (by
          have := component_length hc; simp only [List.length_cons] at h this; omega)

theorem parseLoop_fuel_add (orig : String) (s : List Char) (d : Nat) :
    ∀ k n, s.length ≤ n → parseLoop orig (n + k) s d = parseLoop orig n s d
  | 0, _, _ => rfl
  | k + 1, n, h => by rw [← Nat.add_assoc, parseLoop_fuel orig _ s d (by omega), parseLoop_fuel_add _ _ _ k n h]

/-- A component read whole moves the loop on to the rest, with the total raised by its value. -/
theorem parseLoop_of_component {orig : String} {s rest : List Char} {v d : Nat}
    (h : component orig s = .ok (v, rest)) (hd : d + v ≤ 2 ^ 63) :
    parseLoop orig s.length s d = parseLoop orig rest.length rest (d + v) := by
  have hlt := component_length h
  obtain ⟨c, s', rfl⟩ := List.exists_cons_of_ne_nil (List.ne_nil_of_length_pos (show 0 < s.length by omega))
  simp only [List.length_cons] at hlt ⊢
  rw [parseLoop, h]
  simp only [Nat.mod_eq_of_lt (show d + v < 2 ^ 64 by omega), if_neg (show ¬2 ^ 63 < d + v by omega)]
  rw [show s'.length = rest.length + (s'.length - rest.length) by omega, parseLoop_fuel_add _ _ _ _ _ le_rfl]

theorem parseLoop_append (orig : String) (n r p k d : Nat) (uc rest : List Char)
    (hunit : unitOf uc = some (10 ^ p * k)) (huc : ∀ c ∈ uc, isUnitChar c = true)
    (hrest : ∀ c ∈ rest.head?, c.isDigit = true) (hk : 10 ^ p * k < 2 ^ 53) (hp : p ≤ 15)
    (hd : d + (n * (10 ^ p * k) + r % 10 ^ p * k) ≤ 2 ^ 63) :
    parseLoop orig ((decimal n).toList ++ (fmtFrac r p).1 ++ uc ++ rest).length
        ((decimal n).toList ++ (fmtFrac r p).1 ++ uc ++ rest) d =
      parseLoop orig rest.length rest (d + (n * (10 ^ p * k) + r % 10 ^ p * k)) :=
  parseLoop_of_component (component_append orig n r p k hunit huc hrest hk hp (by omega)) hd

/-- A component without a fraction: `<n>h` or `<n>m`. -/
theorem parseLoop_int (orig : String) (n k d : Nat) (uc rest : List Char)
    (hunit : unitOf uc = some k) (huc : ∀ c ∈ uc, isUnitChar c = true)
    (hrest : ∀ c ∈ rest.head?, c.isDigit = true) (hk : k < 2 ^ 53) (hd : d + n * k ≤ 2 ^ 63) :
    parseLoop orig ((decimal n).toList ++ (uc ++ rest)).length ((decimal n).toList ++ (uc ++ rest)) d =
      parseLoop orig rest.length rest (d + n * k) := by
  have := parseLoop_append orig n 0 0 k d uc rest (by rw [hunit, pow_zero, Nat.one_mul]) huc hrest (by simpa using hk)
    (Nat.zero_le _) (by simpa using hd)
  simpa using this

theorem head_decimal_append (n : Nat) (l : List Char) : ∀ c ∈ ((decimal n).toList ++ l).head?, c.isDigit = true := by
  obtain ⟨c₀, t, hL⟩ := List.exists_cons_of_ne_nil (decimal_ne_nil n)
  intro c hc
  rw [hL, List.cons_append, List.head?_cons, Option.mem_def, Option.some.injEq] at hc
  subst hc
  exact isDigit_of_mem_decimal (by rw [hL]; exact List.mem_cons_self _ _)

theorem parseLoop_fracBody (orig : String) {u prec : Nat} {unit : List Char}
    (hunit : unitOf unit = some (10 ^ prec * 1)) (huc : ∀ c ∈ unit, isUnitChar c = true)
    (hp : prec ≤ 15) (hu : u ≤ 2 ^ 63) :
    parseLoop orig (fracBody u prec unit).length (fracBody u prec unit) 0 = .ok u := by
  have nil_head : ∀ c ∈ ([] : List Char).head?, c.isDigit = true := nofun
  have := parseLoop_append orig ((fmtFrac u prec).2) u prec 1 0 unit [] hunit huc nil_head
    (lt_of_le_of_lt (Nat.mul_le_mul_right 1 (Nat.pow_le_pow_right (by decide) hp)) (by decide))
    hp (by rw [fmtFrac_snd, Nat.mul_one, Nat.mul_one, Nat.zero_add, Nat.div_add_mod']; exact hu)
  rw [List.append_nil] at this
  rw [fracBody, this, parseLoop_nil, fmtFrac_snd, Nat.mul_one, Nat.mul_one, Nat.zero_add, Nat.div_add_mod']

/-- `ParseDuration`'s loop reads back the magnitude `Duration.format` wrote. -/
theorem parseLoop_durationBody (orig : String) {u : Nat} (hu : u ≤ 2 ^ 63) :
    parseLoop orig (durationBody u).length (durationBody u) 0 = .ok u := by
  have nil_head : ∀ c ∈ ([] : List Char).head?, c.isDigit = true := nofun
  unfold durationBody
  split
  · split
    · next h0 =>
      subst h0
      have := parseLoop_int orig 0 (10 ^ 9) 0 ['s'] [] rfl (by decide) nil_head
        (by decide) (by decide)
      simpa using this
    · split
      · exact parseLoop_fracBody orig rfl (by decide) (by decide) hu
      · split
        · exact parseLoop_fracBody orig rfl (by decide) (by decide) hu
        · exact parseLoop_fracBody orig rfl (by decide) (by decide) hu
  · dsimp only
    rw [fmtFrac_snd]
    have tail := fun d => parseLoop_append orig (u / 10 ^ 9 % 60) u 9 1 d ['s'] [] rfl
      (by decide) nil_head (by decide) (by decide)
    simp only [List.append_nil, List.length_nil, parseLoop_nil, Nat.mul_one] at tail
    split
    · rw [tail 0 (by omega)]; congr 1; omega
    · split
      · have := parseLoop_int orig (u / 10 ^ 9 / 60 % 60) (60 * 10 ^ 9) 0 ['m']
          ((decimal (u / 10 ^ 9 % 60)).toList ++ (fmtFrac u 9).1 ++ ['s']) rfl (by decide)
          (by rw [List.append_assoc]; exact head_decimal_append _ _) (by decide) (by omega)
        simp only [List.singleton_append] at this
        rw [this, tail _ (by omega)]; congr 1; omega
      · have hh := parseLoop_int orig (u / 10 ^ 9 / 60 / 60) (3600 * 10 ^ 9) 0 ['h']
          ((decimal (u / 10 ^ 9 / 60 % 60)).toList ++ 'm' ::
            ((decimal (u / 10 ^ 9 % 60)).toList ++ (fmtFrac u 9).1 ++ ['s'])) rfl (by decide)
          (head_decimal_append _ _) (by decide) (by omega)
        have hm := parseLoop_int orig (u / 10 ^ 9 / 60 % 60) (60 * 10 ^ 9) (0 + u / 10 ^ 9 / 60 / 60 * (3600 * 10 ^ 9))
          ['m'] ((decimal (u / 10 ^ 9 % 60)).toList ++ (fmtFrac u 9).1 ++ ['s']) rfl (by decide)
          (by rw [List.append_assoc]; exact head_decimal_append _ _) (by decide) (by omega)
        simp only [List.singleton_append] at hh hm
        rw [hh, hm, tail _ (by omega)]; congr 1; omega

/-! ## The round trip -/

theorem Duration.ext_of_ns {a b : Duration} (h : a.ns = b.ns) : a = b := by
  cases a; cases b; cases h; rfl

theorem parseSign_of_isDigit {c : Char} (hc : c.isDigit = true) (t : List Char) :
    parseSign (c :: t) = (false, c :: t) := by
  have h₁ : c ≠ '-' := fun h => by subst h; cases hc
  have h₂ : c ≠ '+' := fun h => by subst h; cases hc
  unfold parseSign
  split
  · next heq => exact absurd (List.cons.inj heq).1 h₁
  · next heq => exact absurd (List.cons.inj heq).1 h₂
  · rfl

theorem durationBody_head (u : Nat) : ∃ c t, durationBody u = c :: t ∧ c.isDigit = true := by
  have hd : ∀ n (l : List Char), ∃ c t, (decimal n).toList ++ l = c :: t ∧ c.isDigit = true := fun n l => by
    obtain ⟨c₀, t, hL⟩ := List.exists_cons_of_ne_nil (decimal_ne_nil n)
    exact ⟨c₀, t ++ l, by rw [hL, List.cons_append],
      isDigit_of_mem_decimal (by rw [hL]; exact List.mem_cons_self _ _)⟩
  unfold durationBody fracBody
  dsimp only
  split
  · split
    · exact ⟨'0', ['s'], rfl, rfl⟩
    · split
      · simpa only [List.append_assoc] using hd _ _
      · split <;> simpa only [List.append_assoc] using hd _ _
  · split
    · simpa only [List.append_assoc] using hd _ _
    · split
      · exact hd _ _
      · exact hd _ _

/-- Every text `Duration.format` writes ends in the `s` of its unit. -/
theorem durationBody_last (u : Nat) : ∃ l, durationBody u = l ++ ['s'] := by
  unfold durationBody fracBody
  dsimp only
  split
  · split
    · exact ⟨['0'], rfl⟩
    · split
      · exact ⟨_, (List.append_assoc _ ['n'] ['s']).symm⟩
      · split
        · exact ⟨_, (List.append_assoc _ ['µ'] ['s']).symm⟩
        · exact ⟨_, (List.append_assoc _ ['m'] ['s']).symm⟩
  · split
    · exact ⟨_, rfl⟩
    · split
      · exact ⟨_ ++ 'm' :: (_ ++ _), by simp only [List.append_assoc, List.cons_append]; rfl⟩
      · exact ⟨_ ++ 'h' :: (_ ++ 'm' :: (_ ++ _)), by simp only [List.append_assoc, List.cons_append]; rfl⟩

theorem durationString_reverse (d : Duration) : ∃ t, (durationString d).toList.reverse = 's' :: t := by
  obtain ⟨l, hl⟩ := durationBody_last d.ns.natAbs
  unfold durationString
  split <;> simp [String.toList, hl]

/-- `ParseDuration` reads back `Duration.String`, for every int64 duration:
the zero, sub-second units, fractions of a second and the extremes `±2 ^ 63`
included. -/
theorem parseDuration_durationString (d : Duration) : parseDuration (durationString d) = .ok d := by
  have hu : d.ns.natAbs ≤ 2 ^ 63 := by have := d.ge_min; have := d.lt_max; omega
  obtain ⟨c, t, hbody, hc⟩ := durationBody_head d.ns.natAbs
  have hs : 's' ∈ durationBody d.ns.natAbs := by obtain ⟨l, hl⟩ := durationBody_last d.ns.natAbs; simp [hl]
  have hne : durationBody d.ns.natAbs ≠ ['0'] := fun h => by rw [h] at hs; simp at hs
  have hnil : durationBody d.ns.natAbs ≠ [] := fun h => by rw [h] at hs; simp at hs
  have hloop := parseLoop_durationBody (durationString d) hu
  unfold parseDuration durationString
  by_cases hneg : d.ns < 0
  · simp only [hneg, if_true, String.toList, parseSign]
    rw [if_neg hne, if_neg hnil]
    unfold durationString at hloop
    simp only [hneg, if_true] at hloop
    rw [hloop]
    refine congrArg Except.ok (Duration.ext_of_ns ?_)
    simp only [Duration.neg, Duration.ofUInt64, mul64]
    omega
  · simp only [hneg, if_false, String.toList]
    rw [hbody, parseSign_of_isDigit hc, ← hbody]
    dsimp only
    rw [if_neg hne, if_neg hnil]
    unfold durationString at hloop
    simp only [hneg, if_false] at hloop
    have hpos : (d.ns.natAbs : Int) = d.ns := Int.natAbs_of_nonneg (by omega)
    have := d.lt_max
    simp only [hloop, Bool.false_eq_true, if_false]
    rw [if_neg (show ¬2 ^ 63 - 1 < d.ns.natAbs by omega)]
    refine congrArg Except.ok (Duration.ext_of_ns ?_)
    simp only [Duration.ofUInt64, mul64]
    omega

/-- On whole seconds `Duration.String` writes what `secondsString` does: the
text of `%v` in the rate limiter's message. -/
theorem durationString_seconds (n : Int) (h₁ : -2 ^ 63 ≤ n * 10 ^ 9) (h₂ : n * 10 ^ 9 < 2 ^ 63) :
    durationString ⟨n * 10 ^ 9, h₁, h₂⟩ = secondsString n := by
  have habs : (n * 10 ^ 9).natAbs = n.natAbs * 10 ^ 9 := by rw [Int.natAbs_mul]; rfl
  have hfrac : fmtFrac (n.natAbs * 10 ^ 9) 9 = ([], n.natAbs) := by
    rw [fmtFrac_of_mod (Nat.mul_mod_left _ _), Nat.mul_div_cancel _ (by decide)]
  have hsign : (n * 10 ^ 9 < 0) = (n < 0) := by apply propext; omega
  apply String.ext
  simp only [durationString, secondsString, durationBody, habs, hsign, hfrac]
  generalize n.natAbs = A
  by_cases hA : A = 0
  · subst hA; split <;> rfl
  · have hdiv : A / 60 / 60 = A / 3600 := Nat.div_div_eq_div_mul _ _ _
    rw [if_neg (show ¬A * 10 ^ 9 < 10 ^ 9 by omega)]
    by_cases h60 : A < 60
    · rw [if_pos h60, if_pos (show A / 60 = 0 by omega), Nat.mod_eq_of_lt h60]
      split <;> simp [String.data_append]
    · rw [if_neg h60, if_neg (show ¬A / 60 = 0 by omega)]
      by_cases h3600 : A < 3600
      · rw [if_pos h3600, if_pos (show A / 60 / 60 = 0 by omega), show A / 60 % 60 = A / 60 by omega]
        split <;> simp [String.data_append]
      · rw [if_neg h3600, if_neg (show ¬A / 60 / 60 = 0 by omega), hdiv]
        split <;> simp [String.data_append]

theorem durationString_sixty_seconds :
    (-2 ^ 63 ≤ (60 : Int) * 10 ^ 9) ∧ (60 : Int) * 10 ^ 9 < 2 ^ 63 ∧
      durationString ⟨60 * 10 ^ 9, by decide, by decide⟩ = secondsString 60 :=
  ⟨by decide, by decide, durationString_seconds 60 (by decide) (by decide)⟩

/-! ## One number and one unit -/

theorem unitOf_spec {u : List Char} {k : Nat} (h : unitOf u = some k) :
    k < 2 ^ 53 ∧ (∀ c ∈ u, isUnitChar c = true) ∧ ∃ l c, u = l ++ [c] ∧ c ≠ 'd' := by
  unfold unitOf at h
  split at h <;> cases h <;> refine ⟨by decide, by decide, ?_⟩ <;>
    first | exact ⟨[], _, rfl, by decide⟩ | exact ⟨[_], _, rfl, by decide⟩

theorem parseLoop_error {orig : String} {c : Char} {s : List Char} {e : GoError} (fuel d : Nat)
    (h : component orig (c :: s) = .error e) : parseLoop orig (fuel + 1) (c :: s) d = .error e := by
  rw [parseLoop, h]

/-- `<n><unit>` past `2 ^ 63` nanoseconds is refused, wherever the overflow shows:
in the digits, or in the product with the unit. -/
theorem component_overflow (orig : String) (n : Nat) {uc rest : List Char} {k : Nat}
    (hu : unitOf uc = some k) (hrest : ∀ c ∈ rest.head?, c.isDigit = true) (hn : 2 ^ 63 < n * k) :
    component orig ((decimal n).toList ++ (uc ++ rest)) = .error (invalidDuration orig) := by
  obtain ⟨-, huc, l, c, rfl, -⟩ := unitOf_spec hu
  obtain ⟨c₀, t, hL⟩ := List.exists_cons_of_ne_nil (decimal_ne_nil n)
  have hc₀ : c₀.isDigit = true := isDigit_of_mem_decimal (by rw [hL]; exact List.mem_cons_self _ _)
  obtain ⟨u₀, us, hlc⟩ : ∃ u₀ us, l ++ [c] = u₀ :: us := List.exists_cons_of_ne_nil (by simp)
  have hu₀ : isUnitChar u₀ = true := huc u₀ (by rw [hlc]; exact List.mem_cons_self _ _)
  have hhead : ∀ x ∈ (l ++ [c] ++ rest).head?, x.isDigit = false := by
    rw [hlc]; intro x hx
    simp only [List.cons_append, List.head?_cons, Option.mem_def, Option.some.injEq] at hx
    subst hx; simp only [isUnitChar, Bool.not_eq_true', Bool.or_eq_false_iff] at hu₀; exact hu₀.2
  have hpos := unitOf_pos hu
  unfold component
  rw [if_neg (by rw [hL]; simp [isUnitChar, hc₀])]
  by_cases hbig : 2 ^ 63 < n
  · rw [leadingInt_overflow _ _ 0 (fun x hx => isDigit_of_mem_decimal hx) (Nat.zero_le _)
      (by rwa [ofDecimal_decimal])]
  · rw [leadingInt_append _ _ 0 (fun x hx => isDigit_of_mem_decimal hx) hhead (by rw [ofDecimal_decimal]; omega),
      ofDecimal_decimal]
    have hfr : fractionPart (l ++ [c] ++ rest) = (0, .fin 1, l ++ [c] ++ rest, false) := by
      have : u₀ ≠ '.' := fun h => by simp [h, isUnitChar] at hu₀
      rw [hlc, List.cons_append]; simp [fractionPart, this]
    have hpre : (l ++ [c] ++ rest).length ≠ ((decimal n).toList ++ (l ++ [c] ++ rest)).length := by
      rw [hL]; simp only [List.cons_append, List.length_cons, List.length_append]; omega
    simp only [hfr, hpre, false_and, if_false, unitPart, takeWhile_unit huc hrest]
    rw [hlc]
    dsimp only
    rw [← hlc, hu]
    dsimp only
    rw [if_pos ((Nat.div_lt_iff_lt_mul hpos).2 hn)]

/-- `ParseDuration` of `<n><unit>` is `n` units exactly when that is an int64,
and refused otherwise: it never wraps around. -/
theorem parseDuration_unit (n : Nat) {uc : List Char} {k : Nat} (hu : unitOf uc = some k) :
    parseDuration (decimal n ++ ⟨uc⟩) =
      if n * k < 2 ^ 63 then .ok (Duration.ofUInt64 (n * k)) else .error (invalidDuration (decimal n ++ ⟨uc⟩)) := by
  obtain ⟨hk, huc, l, c, rfl, -⟩ := unitOf_spec hu
  have nil_head : ∀ x ∈ ([] : List Char).head?, x.isDigit = true := nofun
  obtain ⟨c₀, t, hL⟩ := List.exists_cons_of_ne_nil (decimal_ne_nil n)
  have hc₀ : c₀.isDigit = true := isDigit_of_mem_decimal (by rw [hL]; exact List.mem_cons_self _ _)
  have htext : (decimal n ++ ⟨l ++ [c]⟩).toList = (decimal n).toList ++ (l ++ [c] ++ []) := by
    simp [String.toList, String.data_append]
  have hne : (decimal n).toList ++ (l ++ [c] ++ []) ≠ ['0'] := by
    rw [hL]; simp only [List.cons_append, List.append_nil, ne_eq, List.cons.injEq, not_and]
    intro _; simp
  have hnil : (decimal n).toList ++ (l ++ [c] ++ []) ≠ [] := by rw [hL]; simp
  unfold parseDuration
  rw [htext, hL, List.cons_append, parseSign_of_isDigit hc₀, ← List.cons_append, ← hL]
  dsimp only
  rw [if_neg hne, if_neg hnil]
  by_cases hnk : n * k ≤ 2 ^ 63
  · rw [parseLoop_int _ n k 0 _ [] hu huc nil_head hk (by omega), List.length_nil, parseLoop_nil]
    simp only [Nat.zero_add, Bool.false_eq_true, if_false]
    by_cases hlt : n * k < 2 ^ 63
    · rw [if_neg (by omega), if_pos hlt]
    · rw [if_pos (by omega), if_neg hlt]
  · rw [hL, List.cons_append, List.length_cons, parseLoop_error _ _ (by
      rw [← List.cons_append, ← hL]; exact component_overflow _ n hu nil_head (by omega)), if_neg (by omega)]

end AuthLifecycle.Go
