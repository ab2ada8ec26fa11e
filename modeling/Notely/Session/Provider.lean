/-
Who is signed in. Firebase has a current user, and the Google provider keeps `_user`, the account last
chosen; the Login page takes the second for a sign of the first. `googleLogIn` records the account
before the two calls that may still fail and swallows what they throw, and `logout` leaves it: the
provider agrees with the session exactly in the runs where every failed call chose the account already
recorded and no sign-out had one to clear.
-/
import Notely.Lib.Trace
import Notely.Models.Note

namespace Notely

/-! ## The session and its handlers -/

/-- The account Firebase has signed in. -/
structure User where
  email : Str
  displayName : Option Str
  deriving DecidableEq, Repr

/-- The account that was chosen from Google's list. -/
structure GoogleSignInAccount where
  email : Str
  deriving DecidableEq, Repr

/-- What an awaited call of a plugin throws. -/
inductive DartException
  | firebaseAuthException
  | other
  deriving DecidableEq, Repr

/-- `FirebaseAuth.instance.currentUser`, and `_user` of the one `GoogleSignInProvider`. -/
structure Session where
  currentUser : Option User := none
  googleUser : Option GoogleSignInAccount := none
  deriving DecidableEq, Repr

namespace GoogleSignInProvider

/-- `googleLogIn` with the results of its three awaited calls; the later ones count only when it gets
that far. A failed or cancelled chooser gives null. -/
def googleLogIn (signIn : Except DartException (Option GoogleSignInAccount))
    (authentication : Except DartException Unit) (signInWithCredential : Except DartException User)
    (s : Session) : Session :=
  match signIn with
  | .error _ => s
  | .ok none => s
  | .ok (some googleUser) =>
    let s := { s with googleUser := some googleUser }
    match authentication with
    | .error _ => s
    | .ok _ =>
      match signInWithCredential with
      | .error _ => s
      | .ok user => { s with currentUser := some user }

/-- The call ends with a Firebase sign-in. -/
def signsIn : Except DartException (Option GoogleSignInAccount) → Except DartException Unit →
    Except DartException User → Bool
  | .ok (some _), .ok _, .ok _ => true
  | _, _, _ => false

/-- `googleSignIn.disconnect()`: nothing of the provider's own changes. -/
def logout (s : Session) : Session := s

end GoogleSignInProvider

/-! ## The call from one await to the next -/

/-- What `googleLogIn` is waiting for. -/
inductive GoogleAwait
  | signIn
  | authentication
  | signInWithCredential
  deriving DecidableEq, Repr

/-- The result of an awaited call. -/
inductive GoogleReply
  | signIn (result : Except DartException (Option GoogleSignInAccount))
  | authentication (result : Except DartException Unit)
  | signInWithCredential (result : Except DartException User)

namespace GoogleReply

/-- The call a reply is the result of. -/
def await : GoogleReply → GoogleAwait
  | signIn _ => .signIn
  | authentication _ => .authentication
  | signInWithCredential _ => .signInWithCredential

/-- `googleLogIn` up to its next await, or to its end. -/
def resume (s : Session) : GoogleReply → Session × Option GoogleAwait
  | signIn (.ok (some googleUser)) => ({ s with googleUser := some googleUser }, some .authentication)
  | signIn _ => (s, none)
  | authentication (.ok _) => (s, some .signInWithCredential)
  | authentication (.error _) => (s, none)
  | signInWithCredential (.ok user) => ({ s with currentUser := some user }, none)
  | signInWithCredential (.error _) => (s, none)

/-- The call left to itself, until it ends or no reply is left. -/
def resumeAll (s : Session) : List GoogleReply → Session
  | [] => s
  | reply :: replies =>
    match reply.resume s with
    | (s, some _) => resumeAll s replies
    | (s, none) => s

/-- Resumed on its three replies, it is the whole call. -/
theorem resumeAll_eq_googleLogIn (a : Except DartException (Option GoogleSignInAccount))
    (b : Except DartException Unit) (c : Except DartException User) (s : Session) :
    resumeAll s [signIn a, authentication b, signInWithCredential c] =
      GoogleSignInProvider.googleLogIn a b c s := by
  rcases a with _ | _ | account
  · rfl
  · rfl
  · cases b <;> cases c <;> rfl

end GoogleReply

/-- What the drawer's sign-out does to the session: `logout`, then `FirebaseAuth.instance.signOut`. -/
def signOut (s : Session) : Session := { GoogleSignInProvider.logout s with currentUser := none }

/-! ## Runs of calls and sign-outs -/

/-- A whole Google sign-in with the replies it gets, or a sign-out. -/
inductive SessionEvent
  | googleLogIn (signIn : Except DartException (Option GoogleSignInAccount))
      (authentication : Except DartException Unit) (signInWithCredential : Except DartException User)
  | signOut

namespace SessionEvent

/-- The session after it. -/
def exec (s : Session) : SessionEvent → Session
  | googleLogIn signIn authentication signInWithCredential =>
    GoogleSignInProvider.googleLogIn signIn authentication signInWithCredential s
  | signOut => Notely.signOut s

/-- A call without a sign-in leaves `_user` as it was, and a sign-out clears it. -/
def KeepsProvider (s : Session) : SessionEvent → Prop
  | googleLogIn signIn authentication signInWithCredential =>
    GoogleSignInProvider.signsIn signIn authentication signInWithCredential = false →
      (exec s (googleLogIn signIn authentication signInWithCredential)).googleUser = s.googleUser
  | signOut => (exec s signOut).googleUser = none

/-- A call that fails after an account was chosen chose the one already recorded, and at a sign-out
none is recorded. -/
def Harmless (s : Session) : SessionEvent → Prop
  | googleLogIn signIn authentication signInWithCredential => ∀ account, signIn = .ok (some account) →
      GoogleSignInProvider.signsIn signIn authentication signInWithCredential = false →
      s.googleUser = some account
  | signOut => s.googleUser = none

end SessionEvent

/-- The provider says somebody is signed in only if somebody is. -/
def Session.Agrees (s : Session) : Prop := s.googleUser ≠ none → s.currentUser ≠ none

/-- The app starts with the session Firebase has stored and a new provider. -/
def sessionSystem (user : Option User) : Trace.System Session SessionEvent where
  init := { currentUser := user }
  step := SessionEvent.exec
  ok := fun _ _ => True

theorem sessionSystem_valid (user : Option User) : ∀ es, (sessionSystem user).Valid es
  | [] => trivial
  | _ :: es => ⟨trivial, sessionSystem_valid user es⟩

/-! ## Agreement -/

open GoogleSignInProvider in
/-- The recorded account after a call: the chosen one, whatever came after. -/
theorem googleUser_googleLogIn (signIn : Except DartException (Option GoogleSignInAccount))
    (authentication : Except DartException Unit) (signInWithCredential : Except DartException User) (s : Session) :
    (googleLogIn signIn authentication signInWithCredential s).googleUser =
      match signIn with
      | .ok (some account) => some account
      | _ => s.googleUser := by
  rcases signIn with _ | _ | account
  · rfl
  · rfl
  · cases authentication <;> cases signInWithCredential <;> rfl

open GoogleSignInProvider in
theorem currentUser_googleLogIn (signIn : Except DartException (Option GoogleSignInAccount))
    (authentication : Except DartException Unit) (signInWithCredential : Except DartException User) (s : Session) :
    (googleLogIn signIn authentication signInWithCredential s).currentUser ≠ none ↔
      signsIn signIn authentication signInWithCredential = true ∨ s.currentUser ≠ none := by
  rcases signIn with _ | _ | account
  · simp [googleLogIn, signsIn]
  · simp [googleLogIn, signsIn]
  · cases authentication <;> cases signInWithCredential <;> simp [googleLogIn, signsIn]

theorem keepsProvider_iff (s : Session) (e : SessionEvent) : e.KeepsProvider s ↔ e.Harmless s := by
  cases e with
  | googleLogIn signIn authentication signInWithCredential =>
    simp only [SessionEvent.KeepsProvider, SessionEvent.Harmless, SessionEvent.exec, googleUser_googleLogIn]
    rcases signIn with _ | _ | account
    · simp
    · simp
    · constructor
      · rintro h _ ⟨⟩ hs
        exact (h hs).symm
      · intro h hs
        exact (h account rfl hs).symm
  | signOut => exact Iff.rfl

theorem agrees_exec {s : Session} {e : SessionEvent} (h : s.Agrees) (he : e.Harmless s) : (e.exec s).Agrees := by
  cases e with
  | googleLogIn signIn authentication signInWithCredential =>
    intro hg
    refine (currentUser_googleLogIn ..).2 ?_
    by_cases hs : GoogleSignInProvider.signsIn signIn authentication signInWithCredential = true
    · exact .inl hs
    · refine .inr (h ?_)
      rw [← (keepsProvider_iff s _).2 he (by simpa using hs)]
      exact hg
  | signOut =>
    intro hg
    exact absurd he hg

theorem agrees_of_harmless (user : Option User) : ∀ es : List SessionEvent,
    Trace.Always (fun fs e => e.Harmless ((sessionSystem user).state fs)) es → ((sessionSystem user).state es).Agrees
  | [], _ => fun hg => absurd rfl hg
  | _ :: es, h => agrees_exec (agrees_of_harmless user es h.2) h.1

/-- In every run: the provider agrees with the session at every point, no failed call touches `_user`
and every sign-out clears it, exactly when every step is harmless where it is taken. -/
theorem provider_agrees (user : Option User) (es : List SessionEvent) :
    ((∀ fs, fs <:+ es → ((sessionSystem user).state fs).Agrees) ∧
      Trace.Always (fun fs e => e.KeepsProvider ((sessionSystem user).state fs)) es) ↔
    Trace.Always (fun fs e => e.Harmless ((sessionSystem user).state fs)) es := by
  have hiff : Trace.Always (fun fs e => e.KeepsProvider ((sessionSystem user).state fs)) es ↔
      Trace.Always (fun fs e => e.Harmless ((sessionSystem user).state fs)) es :=
    Trace.always_congr (sessionSystem_valid user es) fun e fs _ _ => keepsProvider_iff _ e
  constructor
  · rintro ⟨-, hk⟩
    exact hiff.1 hk
  · intro h
    exact ⟨fun fs hfs => agrees_of_harmless user fs (h.of_suffix hfs), hiff.2 h⟩

/-- A call that fails after the account was chosen, and a sign-out after a call that did not: either way
the provider has a user and nobody is signed in. -/
theorem provider_disagrees :
    ¬ ((sessionSystem none).state [.googleLogIn (.ok (some ⟨lit "ann@mail.com"⟩)) (.error .other)
        (.error .other)]).Agrees ∧
    ¬ ((sessionSystem none).state [.signOut, .googleLogIn (.ok (some ⟨lit "ann@mail.com"⟩)) (.ok ())
        (.ok ⟨lit "ann@mail.com", some (lit "Ann")⟩)]).Agrees := by
  constructor
  · intro h
    exact h (by decide) rfl
  · intro h
    exact h (by decide) rfl

end Notely
