/-
The texts of the login and sign-up forms. The validators look at what was typed; what is submitted is
trimmed. A match of a username or an email begins and ends with word characters and outlives the trim, but
the length of a password is counted with its blanks, so a password can pass and be submitted too short
(`submitted_accepted_iff`). The email pattern is searched anywhere in the text, and its unescaped dot takes
any character, so what passes need not look like an address (`email_shaped_iff`).
-/
import Notely.Lib.Pattern
import Notely.Screens.Writers

namespace Notely

open Pattern

/-! ## Characters -/

/-- The class `\w`. -/
def isWord (c : UInt16) : Bool :=
  (48 ≤ c.toNat && c.toNat ≤ 57) || (65 ≤ c.toNat && c.toNat ≤ 90) || c.toNat == 95 ||
    (97 ≤ c.toNat && c.toNat ≤ 122)

/-- The characters a `.` does not match. -/
def isLineTerminator (c : UInt16) : Bool :=
  c.toNat == 0x0A || c.toNat == 0x0D || c.toNat == 0x2028 || c.toNat == 0x2029

/-- The characters `trim` takes off: `White_Space` and the byte order mark. -/
def isWhitespace (c : UInt16) : Bool :=
  (0x09 ≤ c.toNat && c.toNat ≤ 0x0D) || c.toNat == 0x20 || c.toNat == 0x85 || c.toNat == 0xA0 ||
    c.toNat == 0x1680 || (0x2000 ≤ c.toNat && c.toNat ≤ 0x200A) || c.toNat == 0x2028 || c.toNat == 0x2029 ||
    c.toNat == 0x202F || c.toNat == 0x205F || c.toNat == 0x3000 || c.toNat == 0xFEFF

/-- The character `@`. -/
def atSign : UInt16 := 64

/-- The character `.`. -/
def fullStop : UInt16 := 46

/-- `String.trim`. -/
def Str.trim (s : Str) : Str := Pattern.trim isWhitespace s

/-! ## Validators -/

/-- `\w+`. -/
def usernamePattern : List (Item UInt16) := [plus isWord]

/-- `\w+@\w+.\w+`. -/
def emailPattern : List (Item UInt16) :=
  [plus isWord, one (· == atSign), plus isWord, one (fun c => !isLineTerminator c), plus isWord]

/-- The validators of both forms: a text must be there, and it must pass a test. -/
def fieldValidator (missing invalid : String) (test : Str → Bool) : Option Str → Option String
  | none => some missing
  | some value => if value.isEmpty then some missing else if !test value then some invalid else none

namespace SignUp

/-- The validator of the username. -/
def usernameValidator : Option Str → Option String :=
  fieldValidator "Enter your Username" "Enter a valid Username" (hasMatch usernamePattern)

/-- The validator of the email. -/
def emailValidator : Option Str → Option String :=
  fieldValidator "Enter your Email address" "Enter a valid Email" (hasMatch emailPattern)

/-- The validator of the password. -/
def passwordValidator : Option Str → Option String :=
  fieldValidator "Enter password" "Password must not contain less than 8 digits" fun value => !decide (value.length < 8)

/-- The texts of the form's controllers. -/
structure Form where
  username : Str
  email : Str
  password : Str
  deriving DecidableEq, Repr

/-- The button submits when no field has a message. -/
def Form.accepted (form : Form) : Bool :=
  validate [usernameValidator form.username, emailValidator form.email, passwordValidator form.password]

/-- What `signUp` passes on: the email and the password to `createUserWithEmailAndPassword`, the username to
`updateDisplayName`. -/
def Form.submitted (form : Form) : Form := {
  username := form.username.trim, email := form.email.trim, password := form.password.trim }

end SignUp

namespace Login

/-- The validator of the email. -/
def emailValidator : Option Str → Option String :=
  fieldValidator "Enter your Email address" "Enter a valid Email" (hasMatch emailPattern)

/-- The validator of the password. -/
def passwordValidator : Option Str → Option String :=
  fieldValidator "Enter password" "Password must not contain less than 8 digits" fun value => !decide (value.length < 8)

/-- The texts of the form's controllers. -/
structure Form where
  email : Str
  password : Str
  deriving DecidableEq, Repr

/-- The button submits when no field has a message. -/
def Form.accepted (form : Form) : Bool :=
  validate [emailValidator form.email, passwordValidator form.password]

/-- What `Signin` passes to `signInWithEmailAndPassword`. -/
def Form.submitted (form : Form) : Form := { email := form.email.trim, password := form.password.trim }

end Login

/-! ## What a validator accepts -/

theorem isWord_not_blank {c : UInt16} (h : isWord c = true) : isWhitespace c = false := by
  simp only [isWord, Bool.or_eq_true, Bool.and_eq_true, decide_eq_true_eq, beq_iff_eq] at h
  simp only [isWhitespace, Bool.or_eq_false_iff, Bool.and_eq_false_iff, decide_eq_false_iff_not, beq_eq_false_iff_ne]
  omega

theorem isWord_ne_fullStop {c : UInt16} (h : isWord c = true) : c ≠ fullStop := by
  rintro rfl
  revert h
  decide

theorem fieldValidator_eq_none {missing invalid : String} {test : Str → Bool} {value : Str} :
    fieldValidator missing invalid test (some value) = none ↔ value ≠ [] ∧ test value = true := by
  simp only [fieldValidator]
  cases value with
  | nil => simp
  | cons c s => cases test (c :: s) <;> simp

theorem usernameValidator_eq_none {value : Str} :
    SignUp.usernameValidator (some value) = none ↔ ∃ c ∈ value, isWord c = true := by
  unfold SignUp.usernameValidator
  rw [fieldValidator_eq_none, hasMatch_iff]
  constructor
  · rintro ⟨-, w, hw, h⟩
    obtain ⟨u, v, rfl, hne, hu, -⟩ := word_plus.1 h
    obtain ⟨c, hc⟩ := List.exists_mem_of_ne_nil u hne
    exact ⟨c, hw.subset (List.mem_append_left v hc), hu c hc⟩
  · rintro ⟨c, hc, hword⟩
    obtain ⟨a, b, rfl⟩ := List.append_of_mem hc
    refine ⟨by simp, [c], ⟨a, b, by simp⟩, word_plus.2 ⟨[c], [], rfl, by simp, by simpa using hword, .nil⟩⟩

/-- A text passes as an email exactly when it has somewhere a word character, an at sign, a run of word
characters, any character of the line and a word character. -/
theorem emailValidator_eq_none {value : Str} : SignUp.emailValidator (some value) = none ↔
    ∃ a x u y z b, value = a ++ x :: atSign :: (u ++ y :: z :: b) ∧ isWord x = true ∧ u ≠ [] ∧
      (∀ c ∈ u, isWord c = true) ∧ isLineTerminator y = false ∧ isWord z = true := by
  unfold SignUp.emailValidator
  rw [fieldValidator_eq_none, hasMatch_iff]
  constructor
  · rintro ⟨-, w, ⟨a, b, rfl⟩, h⟩
    obtain ⟨t, v, rfl, ht, htw, h⟩ := word_plus.1 h
    obtain ⟨c, v, rfl, hc, h⟩ := word_one.1 h
    obtain ⟨u, v, rfl, hu, huw, h⟩ := word_plus.1 h
    obtain ⟨y, v, rfl, hy, h⟩ := word_one.1 h
    obtain ⟨r, v, rfl, hr, hrw, h⟩ := word_plus.1 h
    cases beq_iff_eq.1 hc
    rcases List.eq_nil_or_concat t with rfl | ⟨t, x, rfl⟩
    · exact absurd rfl ht
    · cases r with
      | nil => exact absurd rfl hr
      | cons z r =>
        refine ⟨a ++ t, x, u, y, z, r ++ v ++ b, by simp, htw x (by simp), hu, huw, ?_, hrw z (.head _)⟩
        simpa using hy
  · rintro ⟨a, x, u, y, z, b, rfl, hx, hu, huw, hy, hz⟩
    refine ⟨by simp, x :: atSign :: (u ++ [y, z]), ⟨a, b, by simp⟩, ?_⟩
    refine word_plus.2 ⟨[x], _, rfl, by simp, by simpa using hx, ?_⟩
    refine word_one.2 ⟨atSign, _, rfl, beq_self_eq_true _, ?_⟩
    refine word_plus.2 ⟨u, [y, z], rfl, hu, huw, ?_⟩
    refine word_one.2 ⟨y, [z], rfl, by simp [hy], ?_⟩
    exact word_plus.2 ⟨[z], [], rfl, by simp, by simpa using hz, .nil⟩

theorem passwordValidator_eq_none {value : Str} : SignUp.passwordValidator (some value) = none ↔ 8 ≤ value.length := by
  unfold SignUp.passwordValidator
  rw [fieldValidator_eq_none, Bool.not_eq_true', decide_eq_false_iff_not, not_lt]
  constructor
  · exact fun h => h.2
  · intro h
    refine ⟨?_, h⟩
    rintro rfl
    simp at h

/-! ## What is submitted -/

theorem usernameValidator_trim {value : Str} (h : SignUp.usernameValidator (some value) = none) :
    SignUp.usernameValidator (some value.trim) = none := by
  obtain ⟨c, hc, hword⟩ := usernameValidator_eq_none.1 h
  exact usernameValidator_eq_none.2 ⟨c, mem_trim hc (isWord_not_blank hword), hword⟩

/-- The match begins and ends with word characters, which no trim takes off. -/
theorem emailValidator_trim {value : Str} (h : SignUp.emailValidator (some value) = none) :
    SignUp.emailValidator (some value.trim) = none := by
  obtain ⟨a, x, u, y, z, b, rfl, hx, hu, huw, hy, hz⟩ := emailValidator_eq_none.1 h
  have hpart : x :: ((atSign :: u ++ [y]) ++ [z]) <:+: a ++ x :: atSign :: (u ++ y :: z :: b) := ⟨a, b, by simp⟩
  obtain ⟨a', b', htrim⟩ := infix_trim hpart (isWord_not_blank hx) (isWord_not_blank hz)
  refine emailValidator_eq_none.2 ⟨a', x, u, y, z, b', ?_, hx, hu, huw, hy, hz⟩
  rw [Str.trim, ← htrim]
  simp

/-- Two characters that are not blank, with at least six between them. -/
def SpansEight (s : Str) : Prop :=
  ∃ a c m d b, s = a ++ c :: (m ++ d :: b) ∧ isWhitespace c = false ∧ isWhitespace d = false ∧ 6 ≤ m.length

theorem passwordValidator_trim {value : Str} :
    SignUp.passwordValidator (some value.trim) = none ↔ SpansEight value := by
  rw [passwordValidator_eq_none]
  exact le_length_trim_iff

theorem signUp_accepted {form : SignUp.Form} : form.accepted = true ↔
    SignUp.usernameValidator (some form.username) = none ∧ SignUp.emailValidator (some form.email) = none ∧
      SignUp.passwordValidator (some form.password) = none := by
  simp [SignUp.Form.accepted, validate]

theorem login_accepted {form : Login.Form} : form.accepted = true ↔
    SignUp.emailValidator (some form.email) = none ∧ SignUp.passwordValidator (some form.password) = none := by
  simp [Login.Form.accepted, validate, Login.emailValidator, SignUp.emailValidator, Login.passwordValidator,
    SignUp.passwordValidator]

/-- What is submitted from an accepted form is a username and an email the validators accept; its password
is accepted, and with it the whole, exactly when two characters of the typed one that are not blank have at
least six between them. -/
theorem submitted_accepted_iff (signUp : SignUp.Form) (login : Login.Form) :
    (signUp.accepted = true →
      SignUp.usernameValidator signUp.submitted.username = none ∧
      SignUp.emailValidator signUp.submitted.email = none ∧
      (signUp.submitted.accepted = true ↔ SpansEight signUp.password)) ∧
    (login.accepted = true →
      Login.emailValidator login.submitted.email = none ∧
      (login.submitted.accepted = true ↔ SpansEight login.password)) := by
  constructor
  · intro hform
    obtain ⟨husername, hemail, -⟩ := signUp_accepted.1 hform
    have hu := usernameValidator_trim husername
    have he := emailValidator_trim hemail
    refine ⟨hu, he, ?_⟩
    rw [signUp_accepted, ← passwordValidator_trim]
    exact ⟨fun h => h.2.2, fun h => ⟨hu, he, h⟩⟩
  · intro hform
    obtain ⟨hemail, -⟩ := login_accepted.1 hform
    have he := emailValidator_trim hemail
    refine ⟨he, ?_⟩
    rw [login_accepted, ← passwordValidator_trim]
    exact ⟨fun h => h.2, fun h => ⟨he, h⟩⟩

/-- An email typed with blanks around it, and a password of eight characters. -/
def newAccount : SignUp.Form := { username := lit "ann", email := lit " ann@mail.com ", password := lit "12345678" }

/-- The same on the login form. -/
def account : Login.Form := { email := lit " ann@mail.com ", password := lit "12345678" }

theorem spansEight_digits : SpansEight (lit "12345678") :=
  ⟨[], 49, lit "234567", 56, [], by decide, by decide, by decide, by decide⟩

theorem submitted_accepted_iff_account :
    newAccount.accepted = true ∧ newAccount.submitted.accepted = true ∧
    account.accepted = true ∧ account.submitted.email = lit "ann@mail.com" ∧ account.submitted.accepted = true := by
  have hnew : newAccount.accepted = true := by decide
  have hold : account.accepted = true := by decide
  obtain ⟨hsignUp, hlogin⟩ := submitted_accepted_iff newAccount account
  exact ⟨hnew, (hsignUp hnew).2.2.2 spansEight_digits, hold, by decide, (hlogin hold).2.2 spansEight_digits⟩

/-- Seven characters and a blank pass both forms; the seven characters that are submitted do not. -/
theorem short_password_submitted :
    SignUp.Form.accepted { username := lit "ann", email := lit "ann@mail.com", password := lit "1234567 " } = true ∧
    SignUp.passwordValidator (lit "1234567 ").trim = some "Password must not contain less than 8 digits" ∧
    Login.Form.accepted { email := lit "ann@mail.com", password := lit "1234567 " } = true ∧
    Login.passwordValidator (lit "1234567 ").trim = some "Password must not contain less than 8 digits" := by
  decide

/-! ## What passes as an email -/

/-- No blank, one at sign with something before it, and a full stop after it with something on each side. -/
structure EmailShaped (s : Str) : Prop where
  unblank : ∀ c ∈ s, isWhitespace c = false
  oneAt : s.count atSign = 1
  parts : ∃ a b c, s = a ++ atSign :: (b ++ fullStop :: c) ∧ a ≠ [] ∧ b ≠ [] ∧ c ≠ []

/-- One at sign, no blank between two characters that are none, and a full stop somewhere after the at sign
with a character that is not blank after it. -/
structure OneDotted (s : Str) : Prop where
  oneAt : s.count atSign = 1
  unbroken : ∀ a c b, s = a ++ c :: b → isWhitespace c = true →
    (∀ x ∈ a, isWhitespace x = true) ∨ (∀ x ∈ b, isWhitespace x = true)
  dotted : ∃ a b c, s = a ++ atSign :: (b ++ fullStop :: c) ∧ ∃ x ∈ c, isWhitespace x = false

theorem atSign_not_blank : isWhitespace atSign = false := by decide

theorem count_atSign_trim (s : Str) : s.trim.count atSign = s.count atSign := by
  obtain ⟨a, b, hs, ha, hb⟩ := trim_spec isWhitespace s
  have hnone : ∀ l : Str, (∀ c ∈ l, isWhitespace c = true) → l.count atSign = 0 := by
    intro l hl
    refine List.count_eq_zero.2 fun hmem => ?_
    have hat := hl atSign hmem
    rw [atSign_not_blank] at hat
    cases hat
  have hcount := congrArg (List.count atSign) hs
  rw [List.count_append, List.count_append, hnone a ha, hnone b hb] at hcount
  unfold Str.trim
  omega

/-- The one at sign of an accepted text has a character before it, and the full stop does not follow it at
once: the match has word characters there. -/
theorem accepted_around {s a b c : Str} (h : SignUp.emailValidator (some s) = none) (hone : s.count atSign = 1)
    (hs : s = a ++ atSign :: (b ++ fullStop :: c)) : (∃ a' x, a = a' ++ [x] ∧ isWord x = true) ∧ b ≠ [] := by
  obtain ⟨p, x, u, y, z, q, hm, hx, hu, huw, -, -⟩ := emailValidator_eq_none.1 h
  have hnot : atSign ∉ a ∧ atSign ∉ b ++ fullStop :: c := by
    rw [hs, List.count_append, List.count_cons_self] at hone
    constructor <;> refine List.count_eq_zero.1 ?_ <;> omega
  have hsplit : a ++ atSign :: (b ++ fullStop :: c) = (p ++ [x]) ++ atSign :: (u ++ y :: z :: q) := by
    rw [← hs, hm]; simp
  obtain ⟨ha, -, hrest⟩ := (List.append_cons_inj_of_notMem hnot.1 hnot.2).1 hsplit
  refine ⟨⟨p, x, ha, hx⟩, ?_⟩
  rintro rfl
  cases u with
  | nil => exact hu rfl
  | cons w u =>
    cases hrest
    exact isWord_ne_fullStop (huw _ (.head _)) rfl

/-- A text the email validator of either form accepts is, trimmed, shaped like an email exactly when it has
one at sign, no blank inside and a full stop after the at sign that something follows. -/
theorem email_shaped_iff (s : Str)
    (h : Login.emailValidator (some s) = none ∨ SignUp.emailValidator (some s) = none) :
    EmailShaped s.trim ↔ OneDotted s := by
  have hacc : SignUp.emailValidator (some s) = none := h.elim id id
  constructor
  · rintro ⟨hun, hone, a, b, c, htrim, -, -, hc⟩
    obtain ⟨l, r, hs, -, -⟩ := trim_spec isWhitespace s
    refine ⟨by rw [← count_atSign_trim]; exact hone, trim_unblank_iff.1 hun, l ++ a, b, c ++ r, ?_, ?_⟩
    · have hs' : s = l ++ s.trim ++ r := hs
      rw [hs', htrim]; simp
    · obtain ⟨x, hx⟩ := List.exists_mem_of_ne_nil c hc
      exact ⟨x, List.mem_append_left r hx, hun x (by rw [htrim]; simp [hx])⟩
  · rintro ⟨hone, hun, a, b, c, hs, x, hx, hxb⟩
    refine ⟨trim_unblank_iff.2 hun, by rw [count_atSign_trim]; exact hone, ?_⟩
    obtain ⟨⟨a', w, rfl, hw⟩, hb⟩ := accepted_around hacc hone hs
    obtain ⟨c₁, c₂, rfl⟩ := List.append_of_mem hx
    -- from the word character before the at sign to the one after the full stop
    have hpart : w :: ((atSign :: b ++ fullStop :: c₁) ++ [x]) <:+: s := ⟨a', c₂, by rw [hs]; simp⟩
    obtain ⟨l, r, htrim⟩ := infix_trim hpart (isWord_not_blank hw) hxb
    refine ⟨l ++ [w], b, c₁ ++ x :: r, ?_, by simp, hb, by simp⟩
    rw [Str.trim, ← htrim]
    simp

theorem email_shaped_iff_ann :
    Login.emailValidator (some (lit " ann@mail.com ")) = none ∧ OneDotted (lit " ann@mail.com ") := by
  have hacc : Login.emailValidator (some (lit " ann@mail.com ")) = none := by decide
  have htrim : (lit " ann@mail.com ").trim = lit "ann@mail.com" := rfl
  refine ⟨hacc, (email_shaped_iff _ (.inl hacc)).1 ?_⟩
  have hall : (lit "ann@mail.com").all (fun c => !isWhitespace c) = true := by decide
  rw [htrim]
  refine ⟨fun c hc => by simpa using List.all_eq_true.1 hall c hc, by decide, ?_⟩
  exact ⟨lit "ann", lit "mail", lit "com", rfl, by decide, by decide, by decide⟩

/-- No full stop, and a text around the match: both pass. -/
theorem not_an_email :
    Login.emailValidator (some (lit "a@bcd")) = none ∧ SignUp.emailValidator (some (lit "a@bcd")) = none ∧
    fullStop ∉ (lit "a@bcd").trim ∧
    SignUp.emailValidator (some (lit "my mail is a@b.c @home")) = none ∧
    (lit "my mail is a@b.c @home").trim.count atSign = 2 ∧
    (lit "my mail is a@b.c @home").trim.any isWhitespace = true := by
  decide

end Notely
