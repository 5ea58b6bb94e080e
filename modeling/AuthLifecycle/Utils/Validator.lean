import AuthLifecycle.Go.Runtime
import Mathlib.Data.String.Basic
/-!
# Utils.Validator — request validation and password hashing (`utils/validator.go`, `utils/password.go`)

`validateEmail` recognises the language of the package's email regular
expression, `^[a-zA-Z0-9._%+\-]+@[a-zA-Z0-9.\-]+\.[a-zA-Z]{2,}$`: no class holds
`@`, so the local part runs up to the first `@`; the domain class holds `.` but
the top-level class does not, so the top-level label is what follows the last
dot (`matchesDomain`). No class holds a blank (`validateEmail_no_space`).

`sanitizeEmail` is `strings.ToLower(strings.TrimSpace(email))`. `TrimSpace`
trims exactly `unicode.IsSpace`; `ToLower` is modelled on ASCII letters, the
only letters `validateEmail` admits.

bcrypt digests are symbolic: `hashPassword` keeps the password and cost, and
`checkPasswordHash` compares the 72 bytes bcrypt's key schedule reads of each
password (`bcryptKey`), so `verify(p, hash(p, cost))` holds
(`checkPasswordHash_hashPassword`), and a password of 72 bytes is matched by
every longer one it begins (`checkPasswordHash_append`).

`validatePassword` checks `len(password)`, a count of UTF-8 bytes, while its
loop walks the runes (`validatePassword_iff`): the two agree on ASCII
passwords only.
-/

namespace AuthLifecycle.Utils

open AuthLifecycle.Go

set_option autoImplicit false

/-! ## Email -/

/-- `[a-zA-Z]`. -/
def isAsciiLetter (c : Char) : Bool := ('a' ≤ c && c ≤ 'z') || ('A' ≤ c && c ≤ 'Z')

/-- `[0-9]`. -/
def isAsciiDigit (c : Char) : Bool := '0' ≤ c && c ≤ '9'

/-- `[a-zA-Z0-9._%+\-]`. -/
def isLocalChar (c : Char) : Bool :=
  isAsciiLetter c || isAsciiDigit c || c == '.' || c == '_' || c == '%' || c == '+' || c == '-'

/-- `[a-zA-Z0-9.\-]`. -/
def isDomainChar (c : Char) : Bool := isAsciiLetter c || isAsciiDigit c || c == '.' || c == '-'

/-- `[a-zA-Z0-9.\-]+\.[a-zA-Z]{2,}`. -/
def matchesDomain (domain : List Char) : Bool :=
  let tld := (domain.reverse.takeWhile (· ≠ '.')).reverse
  domain.all isDomainChar && 2 ≤ tld.length && tld.all isAsciiLetter &&
    tld.length + 2 ≤ domain.length

/-- `ValidateEmail`: the email regular expression matches the whole string. -/
def validateEmail (email : String) : Bool :=
  match email.toList.span (· ≠ '@') with
  | (localPart, '@' :: domain) =>
      !localPart.isEmpty && localPart.all isLocalChar && matchesDomain domain
  | _ => false

/-- A well-formed email holds no blank: neither class of the expression has one. -/
theorem validateEmail_no_space {email : String} (h : validateEmail email = true) : ' ' ∉ email.toList := by
  unfold validateEmail at h
  split at h
  next l d heq =>
    rw [List.span_eq_take_drop, Prod.mk.injEq] at heq
    rw [← List.takeWhile_append_dropWhile (fun c => decide (c ≠ '@')) email.toList, heq.1, heq.2]
    simp only [Bool.and_eq_true, matchesDomain, List.all_eq_true] at h
    simp only [List.mem_append, List.mem_cons, not_or]
    refine ⟨fun hl => ?_, by decide, fun hd => ?_⟩
    · exact absurd (h.1.2 _ hl) (by decide)
    · exact absurd (h.2.1.1.1 _ hd) (by decide)
  next => cases h

/-- `unicode.IsSpace`. -/
def isSpace (c : Char) : Bool :=
  c == '\t' || c == '\n' || c == '\x0b' || c == '\x0c' || c == '\r' || c == ' ' ||
    c.toNat == 0x85 || c.toNat == 0xA0 || c.toNat == 0x1680 ||
    (0x2000 ≤ c.toNat && c.toNat ≤ 0x200A) || c.toNat == 0x2028 || c.toNat == 0x2029 ||
    c.toNat == 0x202F || c.toNat == 0x205F || c.toNat == 0x3000

/-- `strings.TrimSpace`. -/
def trimSpace (s : String) : String :=
  ⟨((s.toList.dropWhile isSpace).reverse.dropWhile isSpace).reverse⟩

/-- `SanitizeEmail`. -/
def sanitizeEmail (email : String) : String := (trimSpace email).map Char.toLower

/-! ## Password -/

/-- `ValidatePassword`: at least 8 bytes, and some ASCII upper-case letter,
lower-case letter and digit among its runes. -/
def validatePassword (password : String) : Bool :=
  if password.utf8ByteSize < 8 then false
  else
    password.toList.any (fun c => 'A' ≤ c && c ≤ 'Z') &&
      password.toList.any (fun c => 'a' ≤ c && c ≤ 'z') && password.toList.any isAsciiDigit

theorem utf8Size_of_ascii {c : Char} (h : c.toNat < 128) : c.utf8Size = 1 := by
  unfold Char.utf8Size
  rw [if_pos]
  exact Nat.le_of_lt_succ h

/-- A text has at least as many UTF-8 bytes as characters. -/
theorem length_le_utf8Len : ∀ cs : List Char, cs.length ≤ String.utf8Len cs
  | [] => le_rfl
  | c :: cs => by
    rw [List.length_cons, String.utf8Len_cons]
    have := length_le_utf8Len cs; have := c.utf8Size_pos; omega

/-- An ASCII text has one UTF-8 byte per character. -/
theorem utf8Len_of_ascii : ∀ {cs : List Char}, (∀ c ∈ cs, c.toNat < 128) → String.utf8Len cs = cs.length
  | [], _ => rfl
  | c :: cs, h => by
    rw [String.utf8Len_cons, List.length_cons, utf8Size_of_ascii (h c (List.mem_cons_self _ _)),
      utf8Len_of_ascii fun d hd => h d (List.mem_cons_of_mem _ hd)]

/-- `ValidatePassword` counts bytes, not characters: it accepts exactly the
passwords of at least 8 UTF-8 bytes with an ASCII upper-case letter, lower-case
letter and digit among their characters. A password has at least as many bytes
as characters, and as many when it is ASCII. -/
theorem validatePassword_iff (p : String) :
    (validatePassword p = true ↔ 8 ≤ p.utf8ByteSize ∧ (∃ c ∈ p.toList, 'A' ≤ c ∧ c ≤ 'Z') ∧
      (∃ c ∈ p.toList, 'a' ≤ c ∧ c ≤ 'z') ∧ ∃ c ∈ p.toList, '0' ≤ c ∧ c ≤ '9') ∧
    p.length ≤ p.utf8ByteSize ∧ ((∀ c ∈ p.toList, c.toNat < 128) → p.utf8ByteSize = p.length) := by
  obtain ⟨cs⟩ := p
  refine ⟨?_, length_le_utf8Len cs, utf8Len_of_ascii⟩
  simp [validatePassword, isAsciiDigit, and_assoc]

theorem validatePassword_iff_ascii :
    (∀ c ∈ "Passw0rd".toList, c.toNat < 128) ∧ "Passw0rd".utf8ByteSize = "Passw0rd".length :=
  ⟨by decide, (validatePassword_iff "Passw0rd").2.2 (by decide)⟩

/-- A password of six characters, three of them two-byte `é`, passes: its nine
bytes meet the length rule. -/
theorem validatePassword_accepts_six_chars : validatePassword "Aa1ééé" = true ∧ "Aa1ééé".length = 6 := by
  decide

/-- A bcrypt digest, kept symbolic: the password and cost it was made from, or
any other stored text. -/
inductive PasswordDigest where
  | bcrypt (password : String) (cost : Nat)
  | other (text : String)
  deriving DecidableEq, Repr

/-- `HashPassword`: `bcrypt.GenerateFromPassword` refuses passwords over 72 bytes
and costs above 31, and raises costs below 4 to the default 10. -/
def hashPassword (password : String) (cost : Int) : Except GoError PasswordDigest :=
  if 72 < password.utf8ByteSize then
    .error (.wrap "failed to hash password: " (.new "bcrypt: password length exceeds 72 bytes"))
  else if 31 < cost then
    .error (.wrap "failed to hash password: "
      (.new ("crypto/bcrypt: cost " ++ toString cost ++ " is outside allowed range (4,31)")))
  else .ok (.bcrypt password (if cost < 4 then 10 else cost.toNat))

/-- The 72 key bytes bcrypt's Blowfish key schedule reads from a password:
`expensiveBlowfishSetup` appends a NUL byte to it, and `ExpandKey` reads 18
words of 4 bytes from that cyclically, so no byte past the 72nd is read. -/
def bcryptKey (password : String) : List UInt8 :=
  let key := password.toUTF8.data.toList ++ [0]
  (List.range 72).map fun i => key.getD (i % key.length) 0

/-- `CheckPasswordHash`: `CompareHashAndPassword` recomputes the digest under the
hash's cost and salt, so a password matches when its key bytes are the hashed
password's. -/
def checkPasswordHash (password : String) : PasswordDigest → Bool
  | .bcrypt p _ => bcryptKey password == bcryptKey p
  | .other _ => false

theorem checkPasswordHash_hashPassword {password : String} {cost : Int} {digest : PasswordDigest}
    (h : hashPassword password cost = .ok digest) : checkPasswordHash password digest := by
  unfold hashPassword at h
  split at h
  · cases h
  · split at h
    · cases h
    · cases h; simp [checkPasswordHash]

/-- Only the first 72 bytes count: a password of 72 bytes or more matches every
password it begins. -/
theorem bcryptKey_append {p : String} (hp : 72 ≤ p.utf8ByteSize) (s : String) :
    bcryptKey (p ++ s) = bcryptKey p := by
  have hlen : p.toUTF8.data.toList.length = p.utf8ByteSize := String.size_toUTF8 p
  have happ : (p ++ s).toUTF8.data.toList = p.toUTF8.data.toList ++ s.toUTF8.data.toList := by
    simp [String.toUTF8]
  unfold bcryptKey
  refine List.map_congr_left fun i hi => ?_
  have hi : i < 72 := List.mem_range.1 hi
  simp only [happ, List.length_append, List.length_singleton, List.append_assoc]
  rw [Nat.mod_eq_of_lt (by omega), Nat.mod_eq_of_lt (by omega), List.getD_eq_getElem?_getD,
    List.getD_eq_getElem?_getD, List.getElem?_append_left (by omega), List.getElem?_append_left (by omega)]

theorem checkPasswordHash_append {p : String} (hp : 72 ≤ p.utf8ByteSize) (s : String) (cost : Nat) :
    checkPasswordHash (p ++ s) (.bcrypt p cost) = true := by
  simp [checkPasswordHash, bcryptKey_append hp]

end AuthLifecycle.Utils
