import AuthLifecycle.Go.Time
import AuthLifecycle.Store.World
/-!
# Store.Postgres — what PostgreSQL makes of a parameter lib/pq sends

lib/pq sends every parameter as text. The server first checks the text's
encoding, which refuses a NUL byte (`textParam`), then reads it with the input
function of the type the statement gives the parameter: `uuid_in` for a `UUID`
column (`uuidParam`), `timestamp_in` for a `TIMESTAMP` one (`timestampParam`).
Only when the row is formed is a text cut to its `VARCHAR(n)` column
(`varcharColumn`): a longer text is refused unless what passes `n` characters
is spaces, which are dropped.

A `time.Time` (`GoTime`) goes as `pq.FormatTimestamp` writes it: the wall clock
in the time's own location, nanoseconds with trailing zeros dropped, the zone
offset, and a year up to 0 flipped to the year before Christ it names
(`formatTimestamp`). A `TIMESTAMP` column has no zone: `timestamp_in` checks
the offset and drops it, and keeps the wall clock to the microsecond, the
fraction read as `rint(strtod(".ddd") * 1000000)` in `float64` (`pgMicros`).
lib/pq reads such a column back as that wall clock at offset 0.

* `pgMicros_whole`: for a whole second of a year after Christ, the column keeps
  exactly the wall clock.
-/

namespace AuthLifecycle.Store

open AuthLifecycle.Go

set_option autoImplicit false

/-! ## Text -/

/-- SQLSTATE 22021: the encoding check refuses a NUL byte in a text parameter. -/
def nulError : StoreError := .pq "22021" "invalid byte sequence for encoding \"UTF8\": 0x00"

/-- A text parameter as the server takes it: refused when it holds a NUL byte. -/
def textParam (s : String) : Except StoreError String :=
  if '\x00' ∈ s.toList then .error nulError else .ok s

/-- `varchar(s, n, false)`, the cast that puts a text in a `VARCHAR(n)` column:
a text longer than `n` characters is cut to them when the rest is spaces, and
refused otherwise. -/
def varcharColumn (n : Nat) (s : String) : Except StoreError String :=
  if s.length ≤ n then .ok s
  else if (s.toList.drop n).all (· == ' ') then .ok ⟨s.toList.take n⟩
  else .error (.pq "22001" ("value too long for type character varying(" ++ decimal n ++ ")"))

/-- `VARCHAR(n)` for a column that may be `NULL`. -/
def varcharNullable (n : Nat) : Option String → Except StoreError (Option String)
  | none => .ok none
  | some s => (varcharColumn n s).map some

/-- A text parameter that may be `NULL`: a nil `*string` is sent as `NULL`. -/
def textNullable : Option String → Except StoreError (Option String)
  | none => .ok none
  | some s => (textParam s).map some

theorem varcharColumn_of_le {n : Nat} {s : String} (h : s.length ≤ n) : varcharColumn n s = .ok s := if_pos h

/-! ## `uuid` -/

/-- C's `isxdigit`. -/
def isHexDigit (c : Char) : Bool := "0123456789abcdefABCDEF".toList.contains c

/-- The text after at most one `-`. -/
def dropHyphen : List Char → List Char
  | '-' :: s => s
  | s => s

/-- The loop of `string_to_uuid` over the bytes from the `(16 - n)`-th on: two
hex digits each, then one `-` allowed after a byte at an odd position but the
last. The digits read, and the text after them. -/
def uuidBytes : Nat → List Char → Option (List Char × List Char)
  | 0, s => some ([], s)
  | n + 1, a :: b :: s =>
    if isHexDigit a && isHexDigit b then
      let i := 15 - n
      let s := if i % 2 = 1 ∧ i < 15 then dropHyphen s else s
      (uuidBytes n s).map fun r => (a :: b :: r.1, r.2)
    else none
  | _ + 1, _ => none

/-- `uuid_out` of the 32 hex digits: lowercase, in groups of 8, 4, 4, 4 and 12. -/
def uuidOut (ds : List Char) : String :=
  let ds := ds.map Char.toLower
  ⟨ds.take 8 ++ '-' :: (ds.drop 8).take 4 ++ '-' :: (ds.drop 12).take 4 ++ '-' :: (ds.drop 16).take 4 ++
    '-' :: ds.drop 20⟩

/-- `uuid_in` read back by `uuid_out`: an optional opening brace, which the
text must then close, around the sixteen bytes; `none` where `uuid_in` raises. -/
def uuidIn (s : String) : Option String :=
  let (braces, cs) : Bool × List Char :=
    match s.toList with
    | '\x7b' :: cs => (true, cs)
    | cs => (false, cs)
  match uuidBytes 16 cs with
  | some (ds, rest) => if rest = (if braces then ['\x7d'] else []) then some (uuidOut ds) else none
  | none => none

/-- A `uuid` parameter: the text `uuid_out` gives for it, or the server's error. -/
def uuidParam (s : String) : Except StoreError String :=
  match textParam s with
  | .error e => .error e
  | .ok s =>
    match uuidIn s with
    | some u => .ok u
    | none => .error (.pq "22P02" ("invalid input syntax for type uuid: \"" ++ s ++ "\""))

/-! ## `time.Time` and `TIMESTAMP` -/

/-- A `time.Time`: the instant in nanoseconds since the Unix epoch, and the
offset east of UTC, in seconds, that its location has at that instant. -/
structure GoTime where
  ns : Int
  offset : Int
  deriving DecidableEq, Repr

/-- `t.IsZero()`: the instant of January 1, year 1, 00:00:00 UTC, in any location. -/
def GoTime.isZero (t : GoTime) : Bool := Go.isZero t.ns

/-- The whole seconds of the wall clock of `t`, counted from 1970-01-01 00:00:00. -/
def GoTime.wallSeconds (t : GoTime) : Int := (t.ns + t.offset * 10 ^ 9) / 10 ^ 9

/-- The nanoseconds of the wall clock past its second. -/
def GoTime.nanos (t : GoTime) : Nat := ((t.ns + t.offset * 10 ^ 9) % 10 ^ 9).toNat

/-- The proleptic Gregorian date of the day `z` days after 1970-01-01:
astronomical year, month and day. -/
def civilOfDays (z : Int) : Int × Nat × Nat :=
  let z := z + 719468
  let doe := (z % 146097).toNat
  let yoe := (doe - doe / 1460 + doe / 36524 - doe / 146096) / 365
  let doy := doe - (365 * yoe + yoe / 4 - yoe / 100)
  let mp := (5 * doy + 2) / 153
  let m := if mp < 10 then mp + 3 else mp - 9
  (z / 146097 * 400 + yoe + (if m ≤ 2 then 1 else 0), m, doy - (153 * mp + 2) / 5 + 1)

theorem civilOfDays_zero : civilOfDays 0 = (1970, 1, 1) := by decide

/-- A leap year of the proleptic Gregorian calendar. -/
def isLeap (y : Int) : Bool := y % 4 == 0 && (y % 100 != 0 || y % 400 == 0)

/-- lib/pq writes a year `y` up to 0 as the year `1 - y` before Christ, by
`t.AddDate(-2y + 1, 0, 0)`, which moves February 29 to March 1 when `1 - y`
has no February 29. -/
def pqMoves (y : Int) (m d : Nat) : Bool := decide (y ≤ 0 ∧ m = 2 ∧ d = 29) && !isLeap (1 - y)

/-- The year, month and day lib/pq writes for the date `(y, m, d)`, and whether
it adds " BC". -/
def pqDate (y : Int) (m d : Nat) : Nat × Nat × Nat × Bool :=
  if y ≤ 0 then
    if pqMoves y m d then ((1 - y).toNat, 3, 1, true) else ((1 - y).toNat, m, d, true)
  else (y.toNat, m, d, false)

/-- Go's `appendInt(b, x, width)`: decimal, zero-padded to `width` digits. -/
def pad (width x : Nat) : String := ⟨List.replicate (width - (decimal x).length) '0'⟩ ++ decimal x

/-- `.999999999` of a layout: a dot and the nine digits of `ns` without their
trailing zeros; nothing for a whole second. -/
def fracNine (ns : Nat) : String :=
  if ns = 0 then "" else "." ++ ⟨((pad 9 ns).toList.reverse.dropWhile (· == '0')).reverse⟩

/-- The hours of the offset lib/pq writes: `offset / 60` minutes, truncated, over 60. -/
def zoneHours (offset : Int) : Nat := (offset.tdiv 60).natAbs / 60

/-- `Z07:00` of a layout, with the seconds lib/pq appends: `Z` at offset 0,
else the sign of `offset / 60` and its hours and minutes; then `:ss` when the
offset has seconds. -/
def zoneText (offset : Int) : String :=
  let zone := offset.tdiv 60
  let sec := (offset.tmod 60).natAbs
  (if offset = 0 then "Z"
    else (if zone < 0 then "-" else "+") ++ pad 2 (zone.natAbs / 60) ++ ":" ++ pad 2 (zone.natAbs % 60)) ++
  (if sec = 0 then "" else ":" ++ pad 2 sec)

/-- `pq.FormatTimestamp(t)`: `t.Format("2006-01-02 15:04:05.999999999Z07:00")`
after the flip of a year up to 0, then the offset's seconds and " BC". -/
def formatTimestamp (t : GoTime) : String :=
  let secs := t.wallSeconds
  let sod := (secs % 86400).toNat
  let (y, m, d) := civilOfDays (secs / 86400)
  let (year, month, day, bc) := pqDate y m d
  pad 4 year ++ "-" ++ pad 2 month ++ "-" ++ pad 2 day ++ " " ++ pad 2 (sod / 3600) ++ ":" ++
    pad 2 (sod % 3600 / 60) ++ ":" ++ pad 2 (sod % 60) ++ fracNine t.nanos ++ zoneText t.offset ++
    (if bc then " BC" else "")

/-- `ParseFractionalSecond`: `rint(strtod(".ddd") * 1000000)`, where `strtod`
reads the fraction `ns / 10 ^ 9` to the nearest `float64`, the product is a
`float64` and `rint` rounds it to an integer, ties to even. -/
def fracMicros (ns : Nat) : Nat :=
  match F64.mul (round64 ((ns : ℚ) / 10 ^ 9)) (round64 (10 ^ 6)) with
  | .fin q => rne q.num.toNat q.den
  | _ => 0

/-- The `TIMESTAMP` `timestamp_in` makes of `formatTimestamp t`, in microseconds
since 1970-01-01 00:00:00 of the wall clock: the date lib/pq wrote, its time of
day, and the fraction when the text has one. -/
def pgMicros (t : GoTime) : Int :=
  let secs := t.wallSeconds
  let (y, m, d) := civilOfDays (secs / 86400)
  (secs / 86400 + if pqMoves y m d then 1 else 0) * 86400000000 + secs % 86400 * 1000000 +
    if t.nanos = 0 then 0 else fracMicros t.nanos

/-- `MIN_TIMESTAMP` and `END_TIMESTAMP` (4714-11-24 BC and 294277-01-01), from
1970-01-01 instead of 2000-01-01. -/
def minMicros : Int := -211813488000000000 + 946684800000000
def endMicros : Int := 9223371331200000000 + 946684800000000

/-- The text of a date/time error: the input in double quotes. -/
def quoted (s : String) : String := "\"" ++ s ++ "\""

/-- A `TIMESTAMP` parameter: `timestamp_in` of `formatTimestamp t`. A year past
`INT_MAX` overflows `strtoint` on the date field, the offset's hours may be 15
at most, and the value must lie in the type's range. -/
def timestampParam (t : GoTime) : Except StoreError Int :=
  let (y, _, _) := civilOfDays (t.wallSeconds / 86400)
  if 2 ^ 31 ≤ (if y ≤ 0 then 1 - y else y) then
    .error (.pq "22008" ("date/time field value out of range: " ++ quoted (formatTimestamp t)))
  else if 15 < zoneHours t.offset then
    .error (.pq "22009" ("time zone displacement out of range: " ++ quoted (formatTimestamp t)))
  else if minMicros ≤ pgMicros t ∧ pgMicros t < endMicros then .ok (pgMicros t)
  else .error (.pq "22008" ("timestamp out of range: " ++ quoted (formatTimestamp t)))

/-- What lib/pq reads back from a `TIMESTAMP` of `us` microseconds: that wall
clock, in a location at offset 0. -/
def timestampScan (us : Int) : GoTime := ⟨us * 1000, 0⟩

/-- A whole second of a year after Christ is kept exactly: the column, read
back, is the wall clock of `t` at offset 0. -/
theorem pgMicros_whole {t : GoTime} (hn : t.nanos = 0) (hy : 0 < (civilOfDays (t.wallSeconds / 86400)).1) :
    timestampScan (pgMicros t) = ⟨t.ns + t.offset * 10 ^ 9, 0⟩ := by
  have hw : (t.ns + t.offset * 10 ^ 9) % 10 ^ 9 = 0 := by
    simp only [GoTime.nanos] at hn; omega
  have hm : pqMoves (civilOfDays (t.wallSeconds / 86400)).1 (civilOfDays (t.wallSeconds / 86400)).2.1
      (civilOfDays (t.wallSeconds / 86400)).2.2 = false := by
    simp only [pqMoves, Bool.and_eq_false_iff, decide_eq_false_iff_not]
    exact .inl fun h => absurd h.1 (not_le.2 hy)
  simp only [timestampScan, pgMicros, hn, hm, Bool.false_eq_true, ↓reduceIte, GoTime.mk.injEq, and_true,
    Nat.cast_zero, add_zero]
  simp only [GoTime.wallSeconds, Int.reducePow] at hw ⊢
  omega

end AuthLifecycle.Store
