/-
Email sign-in and sign-up. Both handlers push a loading dialog and wait. On a `FirebaseAuthException`,
`Signin` pops once and `signUp` not at all before they show the error: the first takes the page along when
the dialog is already gone, the second leaves the dialog when it is not. And `signUp` goes on to
`SavedNotes` without waiting for the display name, which `SavedNotes` reads with `!` as it is built.
-/
import Notely.Session.App

namespace Notely

open Navigator (Op)

/-! ## A failed attempt -/

section Attempt

variable {w : App} {top : Route} {rest : List Route} {email : Str}

theorem submit_drawer (hw : w.stack = top :: rest) (he : (Event.tap (.submit email)).enabled w = true) :
    top.drawer = none := by
  simp only [Event.enabled, App.tap, hw] at he
  cases hd : top.drawer with
  | some drawer => rw [hd] at he; cases he
  | none => rfl

theorem submit_stack (hw : w.stack = top :: rest) (hs : top.screen = .login ∨ top.screen = .signUp)
    (he : (Event.tap (.submit email)).enabled w = true) :
    (w.step (.tap (.submit email))).stack = w.dialog .loadingDialog :: top :: rest := by
  have htap : ∃ eff, w.tap (.submit email) = some eff ∧ eff.nav = [.push (w.dialog .loadingDialog)] := by
    simp only [App.tap, hw, submit_drawer hw he]
    rcases hs with hs | hs <;> simp [pageTap, hs, Login.signin, SignUp.signUp]
  obtain ⟨eff, heff, hnav⟩ := htap
  simp [App.step, Event.effect, heff, hnav, Event.delivery, App.rebuild, Op.apply, hw]

theorem dismiss_stack {r : Route} {st : List Route} (hw : w.stack = r :: st) (hd : r.drawer = none) :
    (w.step .dismiss).stack = st := by
  have hclose : r.closeDrawer = none := by simp [Route.closeDrawer, hd]
  simp [App.step, Event.effect, Event.delivery, App.rebuild, Op.apply, hw, Navigator.popTop_of_none hclose]

/-- The dialog can be dismissed once. -/
theorem dismissals (hw : w.stack = top :: rest) (hs : top.screen = .login ∨ top.screen = .signUp) :
    ∀ {n : Nat}, (appSystem w).Valid (List.replicate n .dismiss ++ [.tap (.submit email)]) →
      (n = 0 ∧ (w.after (List.replicate n .dismiss ++ [.tap (.submit email)])).stack =
        w.dialog .loadingDialog :: top :: rest) ∨
      (n = 1 ∧ (w.after (List.replicate n .dismiss ++ [.tap (.submit email)])).stack = top :: rest)
  | 0, h => .inl ⟨rfl, submit_stack hw hs h.1⟩
  | n + 1, h => by
    rcases dismissals hw hs h.2 with ⟨rfl, hst⟩ | ⟨rfl, hst⟩
    · exact .inr ⟨rfl, dismiss_stack hst rfl⟩
    · -- the page is on top now, and it is no dialog
      have he : (Event.dismiss).enabled (w.after [.dismiss, .tap (.submit email)]) = true := h.1
      have hst : (w.after [.dismiss, .tap (.submit email)]).stack = top :: rest := hst
      simp only [Event.enabled, hst] at he
      rcases hs with hs | hs <;> rw [hs] at he <;> cases he

theorem mounted_of_mem {r : Route} (hr : r ∈ w.stack) : w.mounted r.page = true :=
  List.any_eq_true.2 ⟨r, hr, beq_self_eq_true _⟩

theorem signin_fails {context : Nat} (hm : w.mounted context = true) :
    (w.step (.signinReply context (.error .firebaseAuthException))).stack =
      w.dialog .alertDialog :: Navigator.popTop Route.closeDrawer w.stack := by
  simp [App.step, Event.effect, Login.signinReply, hm, Event.delivery, App.rebuild, Op.apply]

theorem signUp_fails {context : Nat} (email : Str) (hm : w.mounted context = true) :
    (w.step (.signUpReply context email false (.error .firebaseAuthException))).stack =
      w.dialog .alertDialog :: w.stack := by
  simp [App.step, Event.effect, SignUp.signUpReply, hm, Event.delivery, App.rebuild, Op.apply]

end Attempt

/-- An attempt: submit, `n` dismissals of the loading dialog, the failure, and the error is closed. -/
def attempt (email : Str) (failure : Event) (n : Nat) : List Event :=
  .dismiss :: failure :: (List.replicate n .dismiss ++ [.tap (.submit email)])

/-- The sign-in fails. -/
def Login.failure (context : Nat) : Event := .signinReply context (.error .firebaseAuthException)

/-- The sign-up fails. -/
def SignUp.failure (context : Nat) (email : Str) : Event :=
  .signUpReply context email false (.error .firebaseAuthException)

section Attempt

variable {w : App} {top : Route} {rest : List Route} {email : Str} {n : Nat}

/-- On the Login page the failure pops the loading dialog, or the page when that is gone. -/
theorem login_attempt_stack (hw : w.stack = top :: rest) (hs : top.screen = .login)
    (h : (appSystem w).Valid (attempt email (Login.failure top.page) n)) :
    (n = 0 ∧ (w.after (attempt email (Login.failure top.page) n)).stack = top :: rest) ∨
    (n = 1 ∧ (w.after (attempt email (Login.failure top.page) n)).stack = rest) := by
  have hsub := h.2.2.of_suffix (List.suffix_append ..)
  have hclose : top.closeDrawer = none := by simp [Route.closeDrawer, submit_drawer hw hsub.1]
  rcases dismissals hw (.inl hs) h.2.2 with ⟨hn, hst⟩ | ⟨hn, hst⟩
  · have hf := signin_fails (mounted_of_mem (r := top) (by rw [hst]; exact .tail _ (.head _)))
    rw [hst, Navigator.popTop_of_none rfl] at hf
    exact .inl ⟨hn, dismiss_stack hf rfl⟩
  · have hf := signin_fails (mounted_of_mem (r := top) (by rw [hst]; exact .head _))
    rw [hst, Navigator.popTop_of_none hclose] at hf
    exact .inr ⟨hn, dismiss_stack hf rfl⟩

/-- On the SignUp page the failure pops nothing. -/
theorem signUp_attempt_stack (hw : w.stack = top :: rest) (hs : top.screen = .signUp)
    (h : (appSystem w).Valid (attempt email (SignUp.failure top.page email) n)) :
    (n = 0 ∧ (w.after (attempt email (SignUp.failure top.page email) n)).stack =
      w.dialog .loadingDialog :: top :: rest) ∨
    (n = 1 ∧ (w.after (attempt email (SignUp.failure top.page email) n)).stack = top :: rest) := by
  rcases dismissals hw (.inr hs) h.2.2 with ⟨hn, hst⟩ | ⟨hn, hst⟩
  · have hf := signUp_fails email (mounted_of_mem (r := top) (by rw [hst]; exact .tail _ (.head _)))
    rw [hst] at hf
    exact .inl ⟨hn, dismiss_stack hf rfl⟩
  · have hf := signUp_fails email (mounted_of_mem (r := top) (by rw [hst]; exact .head _))
    rw [hst] at hf
    exact .inr ⟨hn, dismiss_stack hf rfl⟩

end Attempt

/-- After a failed attempt, with the error closed, the stack is the one before exactly when: on the Login
page, the loading dialog was not dismissed before the failure; on the SignUp page, it was. -/
theorem failed_attempt_restores (w : App) (top : Route) (rest : List Route) (hw : w.stack = top :: rest)
    (email : Str) (n : Nat) :
    (top.screen = .login → (appSystem w).Valid (attempt email (Login.failure top.page) n) →
      ((w.after (attempt email (Login.failure top.page) n)).stack = w.stack ↔ n = 0)) ∧
    (top.screen = .signUp → (appSystem w).Valid (attempt email (SignUp.failure top.page email) n) →
      ((w.after (attempt email (SignUp.failure top.page email) n)).stack = w.stack ↔ n ≠ 0)) := by
  constructor
  · intro hs h
    rcases login_attempt_stack hw hs h with ⟨hn, hst⟩ | ⟨hn, hst⟩ <;> rw [hst, hw, hn]
    · exact iff_of_true rfl rfl
    · exact iff_of_false (List.cons_ne_self top rest).symm (by decide)
  · intro hs h
    rcases signUp_attempt_stack hw hs h with ⟨hn, hst⟩ | ⟨hn, hst⟩ <;> rw [hst, hw, hn]
    · exact iff_of_false (List.cons_ne_self _ _) (by decide)
    · exact iff_of_true rfl (by decide)

namespace FirstUse

/-- The app is opened, and the Login page, or the SignUp page, is opened from the intro. -/
def onLogin : App := (App.start none).after [.tap .signInLink, .deliver 0]

/-- The app with its SignUp page open. -/
def onSignUp : App := (App.start none).after [.tap .createAccount, .deliver 0]

/-- Ann's email. -/
def mail : Str := lit "ann@mail.com"

/-- Ann's name. -/
def name : Str := lit "Ann"

end FirstUse

open FirstUse in
theorem failed_attempt_restores_firstUse :
    (appSystem onLogin).Valid (attempt mail (Login.failure 3) 0) ∧
    (onLogin.after (attempt mail (Login.failure 3) 0)).stack = onLogin.stack ∧
    (appSystem onSignUp).Valid (attempt mail (SignUp.failure 3 mail) 1) ∧
    (onSignUp.after (attempt mail (SignUp.failure 3 mail) 1)).stack = onSignUp.stack := by
  have hl : (appSystem onLogin).Valid (attempt mail (Login.failure 3) 0) := ⟨rfl, rfl, rfl, trivial⟩
  have hs : (appSystem onSignUp).Valid (attempt mail (SignUp.failure 3 mail) 1) :=
    ⟨rfl, rfl, rfl, rfl, trivial⟩
  refine ⟨hl, ((failed_attempt_restores onLogin _ _ rfl mail 0).1 rfl hl).2 rfl, hs, ?_⟩
  exact ((failed_attempt_restores onSignUp _ _ rfl mail 1).2 rfl hs).2 (by decide)

open FirstUse in
/-- Not dismissed on the SignUp page, the loading dialog stays; dismissed on the Login page, the page is
gone. -/
theorem failed_attempt_changes_stack :
    ((appSystem onSignUp).Valid (attempt mail (SignUp.failure 3 mail) 0) ∧
      (onSignUp.after (attempt mail (SignUp.failure 3 mail) 0)).stack.map (·.screen) =
        [.loadingDialog, .signUp, .introScreen] ∧ onSignUp.stack.map (·.screen) = [.signUp, .introScreen]) ∧
    ((appSystem onLogin).Valid (attempt mail (Login.failure 3) 1) ∧
      (onLogin.after (attempt mail (Login.failure 3) 1)).stack.map (·.screen) = [.introScreen] ∧
      onLogin.stack.map (·.screen) = [.login, .introScreen]) :=
  ⟨⟨⟨rfl, rfl, rfl, trivial⟩, rfl, rfl⟩, ⟨rfl, rfl, rfl, rfl, trivial⟩, rfl, rfl⟩

/-! ## The display name -/

namespace SavedNotes

/-- `currentUser!.displayName!.split(" ")[0]`, the first thing a build of `SavedNotes` does. -/
def firstName (currentUser : Option User) : Except DartError Str := do
  let some user := currentUser | throw .nullCheck
  let some displayName := user.displayName | throw .nullCheck
  return displayName.takeWhile (· != 32)

end SavedNotes

/-- Somebody is signed in who has a display name. -/
def HasName (w : App) : Prop := ∃ user name, w.currentUser = some user ∧ user.displayName = some name

theorem firstName_ok_iff {w : App} : (∃ name, SavedNotes.firstName w.currentUser = .ok name) ↔ HasName w := by
  unfold SavedNotes.firstName HasName
  cases w.currentUser with
  | none =>
    constructor
    · rintro ⟨name, h⟩; cases h
    · rintro ⟨user, name, h, -⟩; cases h
  | some user =>
    obtain ⟨email, displayName⟩ := user
    cases displayName with
    | none =>
      constructor
      · rintro ⟨name, h⟩; cases h
      · rintro ⟨_, name, ⟨⟩, h⟩; cases h
    | some name => exact iff_of_true ⟨_, rfl⟩ ⟨_, name, rfl, rfl⟩

/-- What happens while a sign-up runs: its replies, the stream, builds, and dismissals of the dialog. -/
def Event.ofSignUp : Event → Bool
  | accountCreated _ _ | signUpReply _ _ _ _ | updateDisplayNameReply _ _ _ => true
  | deliver _ | deliverError _ | build _ | dismiss => true
  | _ => false

/-- How far a sign-up is: the account is awaited or there, the name is awaited, set or refused, or there is no
account. -/
inductive Progress
  | creating
  | created
  | naming (username : Str)
  | named (username : Str)
  | unnamed
  | failed
  deriving DecidableEq

/-- The update of the account's name has succeeded, with whatever name. -/
def NameUpdated (email : Str) (log : List Event) : Prop :=
  ∃ username, .updateDisplayNameReply email username (.ok ()) ∈ log

section SignUp

variable (context : Nat) (email : Str)

/-- What waits at each point of the sign-up. -/
def Progress.tasks : Progress → List Task
  | creating => [.signUp context email false]
  | created => [.signUp context email true]
  | naming username => [.updateDisplayName email username]
  | named _ | unnamed | failed => []

/-- Who is signed in at each point. -/
def Progress.user : Progress → Option User
  | creating | failed => none
  | created | naming _ | unnamed => some { email, displayName := none }
  | named username => some { email, displayName := some username }

/-- The name has been set. -/
def Progress.isNamed : Progress → Bool
  | named _ => true
  | _ => false

/-- The name is there once its update has succeeded. -/
structure InProgress (p : Progress) (log : List Event) (w : App) : Prop where
  tasks : w.tasks = p.tasks context email
  user : w.currentUser = p.user email
  named : NameUpdated email log ↔ p.isNamed = true

variable {context email} {p : Progress} {log : List Event} {w : App}

theorem nameUpdated_cons {e : Event} (h : ∀ username, e ≠ .updateDisplayNameReply email username (.ok ())) :
    NameUpdated email (e :: log) ↔ NameUpdated email log := by
  refine exists_congr fun username => ?_
  rw [List.mem_cons, or_iff_right (h username).symm]

theorem InProgress.hasName (h : InProgress context email p log w) : HasName w ↔ NameUpdated email log := by
  rw [h.named]
  unfold HasName
  rw [h.user]
  cases p <;> simp [Progress.user, Progress.isNamed]

/-- A step that resumes nothing and signs nobody in or out. -/
theorem InProgress.quiet (h : InProgress context email p log w) {e : Event} (ht : e.task = none)
    (heff : (e.effect w).start = [] ∧ (e.effect w).session = w.toSession) :
    InProgress context email p (e :: log) (w.step e) := by
  refine ⟨?_, ?_, ?_⟩
  · simp [App.step, ht, heff.1, h.tasks]
  · rw [← h.user]
    show (e.effect w).session.currentUser = _
    rw [heff.2]
  · rw [nameUpdated_cons (by rintro username rfl; cases ht)]
    exact h.named

theorem inProgress_step (h : InProgress context email p log w) {e : Event} (he : e.enabled w = true)
    (hk : e.ofSignUp = true) : ∃ p', InProgress context email p' (e :: log) (w.step e) := by
  -- an event that is no successful update leaves the name unset where it was
  have hunset : ∀ {e : Event} {p' : Progress}, (∀ username, e ≠ .updateDisplayNameReply email username (.ok ())) →
      p.isNamed = false → p'.isNamed = false → (NameUpdated email (e :: log) ↔ p'.isNamed = true) := by
    intro e p' hne hp hp'
    rw [nameUpdated_cons hne, h.named, hp, hp']
  cases e with
  | accountCreated context' email' =>
    have htask : Task.signUp context' email' false ∈ w.tasks := by simpa [Event.enabled, Event.task] using he
    rw [h.tasks] at htask
    cases p <;> simp [Progress.tasks] at htask
    obtain ⟨rfl, rfl⟩ := htask
    refine ⟨.created, ?_, rfl, hunset (by simp) rfl rfl⟩
    simp [App.step, Event.effect, Event.task, h.tasks, Progress.tasks]
  | signUpReply context' email' created result =>
    simp only [Event.enabled, Bool.and_eq_true, List.contains_iff_mem] at he
    obtain ⟨htask, hok⟩ := he
    rw [h.tasks] at htask
    -- either way the call was waiting; it fails only while there is no account
    have hp : (p = .creating ∧ created = false ∨ p = .created ∧ created = true) ∧
        context' = context ∧ email' = email := by
      cases p <;> simp [Progress.tasks] at htask <;> simp [htask]
    obtain ⟨hp, rfl, rfl⟩ := hp
    have hnot : p.isNamed = false := by rcases hp with ⟨rfl, -⟩ | ⟨rfl, -⟩ <;> rfl
    have htasks : w.tasks = [.signUp context' email' created] := by
      rw [h.tasks]
      rcases hp with ⟨rfl, rfl⟩ | ⟨rfl, rfl⟩ <;> rfl
    rcases result with x | username
    · have hc : created = false := by simpa [Except.isOk, Except.toBool] using hok
      have hu : w.currentUser = none := by
        rcases hp with ⟨rfl, -⟩ | ⟨-, ht⟩
        · exact h.user
        · rw [hc] at ht; cases ht
      refine ⟨.failed, ?_, ?_, hunset (by simp) hnot rfl⟩
      · cases x <;> simp [App.step, Event.effect, SignUp.signUpReply, Event.task, htasks, Progress.tasks]
      · cases x <;> exact hu
    · refine ⟨.naming username, ?_, rfl, hunset (by simp) hnot rfl⟩
      simp [App.step, Event.effect, SignUp.signUpReply, Event.task, htasks, Progress.tasks]
  | updateDisplayNameReply email' username' result =>
    have htask : Task.updateDisplayName email' username' ∈ w.tasks := by simpa [Event.enabled, Event.task] using he
    rw [h.tasks] at htask
    cases p <;> simp [Progress.tasks] at htask
    obtain ⟨rfl, rfl⟩ := htask
    rcases result with _ | _
    · refine ⟨.unnamed, ?_, h.user, hunset (by simp) rfl rfl⟩
      simp [App.step, Event.effect, SignUp.updateDisplayNameReply, Event.task, h.tasks, Progress.tasks]
    · refine ⟨.named username', ?_, ?_, iff_of_true ⟨username', List.mem_cons_self ..⟩ rfl⟩
      · simp [App.step, Event.effect, SignUp.updateDisplayNameReply, Event.task, h.tasks, Progress.tasks]
      · simp [App.step, Event.effect, SignUp.updateDisplayNameReply, h.user, Progress.user]
  | deliver page => exact ⟨p, h.quiet rfl ⟨rfl, rfl⟩⟩
  | deliverError page => exact ⟨p, h.quiet rfl ⟨rfl, rfl⟩⟩
  | build page => exact ⟨p, h.quiet rfl ⟨rfl, rfl⟩⟩
  | dismiss => exact ⟨p, h.quiet rfl ⟨rfl, rfl⟩⟩
  | _ => cases hk

theorem inProgress_run (h : InProgress context email p [] w) : ∀ {log : List Event},
    (appSystem w).Valid log → (∀ e ∈ log, e.ofSignUp = true) → ∃ p', InProgress context email p' log (w.after log)
  | [], _, _ => ⟨p, h⟩
  | e :: log, hv, hk => by
    obtain ⟨p', hp'⟩ := inProgress_run h hv.2 fun e' he' => hk e' (List.mem_cons_of_mem _ he')
    exact inProgress_step hp' hv.1 (hk e (List.mem_cons_self ..))

theorem submit_inProgress {top : Route} {rest : List Route} (hw : w.stack = top :: rest) (hs : top.screen = .signUp)
    (hu : w.currentUser = none) (ht : w.tasks = []) (he : (Event.tap (.submit email)).enabled w = true) :
    InProgress top.page email .creating [] (w.step (.tap (.submit email))) := by
  have htap : w.tap (.submit email) = some (SignUp.signUp w top.page email) := by
    simp only [App.tap, hw, submit_drawer hw he]
    simp [pageTap, hs]
  refine ⟨?_, ?_, ?_⟩
  · simp [App.step, Event.effect, htap, SignUp.signUp, Event.task, ht, Progress.tasks]
  · simp [App.step, Event.effect, htap, SignUp.signUp, hu, Progress.user]
  · simp [NameUpdated, Progress.isNamed]

end SignUp

/-- The app as `signUp` starts to wait. -/
def App.submitted (w : App) (email : Str) : App := w.step (.tap (.submit email))

/-- For every order in which a sign-up runs, and whatever the username field holds by then: at every point the
display name is there exactly when its update has succeeded before, and then `SavedNotes` can be built. So every
build of `SavedNotes` finds the name exactly when every one comes after that update. -/
theorem display_name_present (w : App) (top : Route) (rest : List Route) (hw : w.stack = top :: rest)
    (hs : top.screen = .signUp) (hu : w.currentUser = none) (ht : w.tasks = []) (email : Str)
    (he : (Event.tap (.submit email)).enabled w = true) (log : List Event)
    (h : (appSystem (w.submitted email)).Valid log) (hk : ∀ e ∈ log, e.ofSignUp = true) :
    (∀ es, es <:+ log →
      (HasName ((w.submitted email).after es) ↔ NameUpdated email es) ∧
      (HasName ((w.submitted email).after es) ↔
        ∃ name, SavedNotes.firstName ((w.submitted email).after es).currentUser = .ok name)) ∧
    (Trace.Always (fun es e => (∃ page, e = .build page) → HasName ((w.submitted email).after es)) log ↔
      Trace.Always (fun es e => (∃ page, e = .build page) → NameUpdated email es) log) := by
  have hname : ∀ es, es <:+ log → (HasName ((w.submitted email).after es) ↔ NameUpdated email es) := by
    intro es hes
    obtain ⟨p, hp⟩ := inProgress_run (submit_inProgress hw hs hu ht he) (h.of_suffix hes)
      fun e hmem => hk e (hes.subset hmem)
    exact hp.hasName
  refine ⟨fun es hes => ⟨hname es hes, firstName_ok_iff.symm⟩, Trace.always_congr h fun e es hes _ => ?_⟩
  exact imp_congr_right fun _ => hname es ((List.suffix_cons e es).trans hes)

namespace FirstUse

/-- The account is created, the name is set, and `SavedNotes` is built. -/
def named : List Event := [.build 7, .updateDisplayNameReply mail name (.ok ()), .signUpReply 3 mail false (.ok name)]

theorem named_valid : (appSystem (onSignUp.submitted mail)).Valid named := ⟨rfl, rfl, rfl, trivial⟩

/-- `SavedNotes` is pushed as the account is created, and built while the name is on its way. -/
def unnamed : List Event := [.build 7, .signUpReply 3 mail false (.ok name)]

theorem unnamed_valid : (appSystem (onSignUp.submitted mail)).Valid unnamed := ⟨rfl, rfl, trivial⟩

end FirstUse

open FirstUse in
theorem display_name_present_named :
    (appSystem (onSignUp.submitted mail)).Valid named ∧
    HasName ((onSignUp.submitted mail).after named.tail) := by
  have hk : ∀ e ∈ named, e.ofSignUp = true := by decide
  have h := display_name_present onSignUp _ _ rfl rfl rfl rfl mail rfl named named_valid hk
  exact ⟨named_valid, (h.1 named.tail (List.suffix_cons _ _)).1.2 ⟨name, List.mem_cons_self ..⟩⟩

open FirstUse in
theorem built_without_name :
    (appSystem (onSignUp.submitted mail)).Valid unnamed ∧
    ¬ HasName ((onSignUp.submitted mail).after unnamed.tail) ∧
    SavedNotes.firstName ((onSignUp.submitted mail).after unnamed.tail).currentUser = .error .nullCheck := by
  refine ⟨unnamed_valid, ?_, rfl⟩
  rintro ⟨user, name, hu, hn⟩
  cases hu; cases hn

end Notely
