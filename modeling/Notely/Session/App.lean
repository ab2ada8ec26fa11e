/-
The app as the user drives it: who is signed in, the navigator's stack, and the handlers that are
waiting for something. A tap runs the handler of what is on top, up to its first await; each awaited
result resumes one handler, in any order. `context.mounted` asks whether the page, or the drawer, the
handler was started from is still there. Two routes build what they show from the auth stream: the home
of `MaterialApp` and `AfterLogin`.

Assumed of Flutter: taps reach only the top route, and only its drawer when that is open; a page lives as
long as its route, or as its `StreamBuilder` shows it; a drawer lives while it is open. Assumed of the
plugins: a successful sign-in sets the current user in the step that resumes the waiting handler, and the
auth stream may tell of a new account before.
-/
import Notely.Lib.Navigator
import Notely.Session.Provider

namespace Notely

open Navigator (Op applyAll)

/-! ## Screens and routes -/

/-- What a route can show. -/
inductive Screen
  | progress
  | streamError
  | introScreen
  | login
  | signUp
  | savedNotes
  | favorites
  | aboutNotely
  | noteTakingPage
  | noteEditingPage
  | favNoteEditingPage
  | loadingDialog
  | alertDialog
  deriving DecidableEq, Repr

/-- The screens with notes. -/
def Screen.isNotes : Screen → Bool
  | savedNotes | favorites | noteTakingPage | noteEditingPage | favNoteEditingPage => true
  | _ => false

/-- The dialogs. -/
def Screen.isDialog : Screen → Bool
  | loadingDialog | alertDialog => true
  | _ => false

/-- What a `StreamBuilder` on `authStateChanges()` has. -/
inductive Snapshot
  | waiting
  | error
  | data (user : Option User)
  deriving DecidableEq, Repr

/-- The two routes that follow the auth stream. -/
inductive Gate
  | home
  | afterLogin
  deriving DecidableEq, Repr

/-- What the builder of each shows. -/
def Gate.builder : Gate → Snapshot → Screen
  | home, .waiting => .progress
  | home, .error => .streamError
  | home, .data (some _) => .savedNotes
  | home, .data none => .introScreen
  | afterLogin, .data (some _) => .savedNotes
  | afterLogin, _ => .login

/-- A route: what it shows, the identity of that page, and the one of its drawer while it is open. -/
structure Route where
  gate : Option Gate := none
  screen : Screen
  page : Nat
  drawer : Option Nat := none
  deriving DecidableEq, Repr

/-- An open drawer is a local history entry: a pop closes it first. -/
def Route.closeDrawer (r : Route) : Option Route :=
  if r.drawer.isSome then some { r with drawer := none } else none

/-- A gated route after its builder ran: another screen is a new page. -/
def Route.rebuild (r : Route) (page : Nat) (snapshot : Snapshot) : Route :=
  match r.gate with
  | none => r
  | some gate =>
    if r.screen = gate.builder snapshot then r
    else { r with screen := gate.builder snapshot, page := page, drawer := none }

/-! ## The app -/

/-- The pages with a Google button. -/
inductive GoogleButton
  | login
  | signUp
  deriving DecidableEq, Repr

/-- A handler waiting for something, with the page or drawer its `context` belongs to. -/
inductive Task
  | signin (context : Nat)
  | signUp (context : Nat) (email : Str) (created : Bool)
  | updateDisplayName (email username : Str)
  | googleLogIn (button : GoogleButton) (context : Nat) (await : GoogleAwait)
  | delay (context : Nat)
  | signOut (context : Nat)
  deriving DecidableEq, Repr

/-- The session, the routes (the top one first), the handlers that wait, and the next number for a page or a drawer. -/
structure App extends Session where
  stack : List Route
  tasks : List Task := []
  fresh : Nat

/-- What a handler does before it waits or ends. -/
structure Effect where
  session : Session
  nav : List (Op Route) := []
  start : List Task := []

namespace App

/-- The app is opened: the home route, waiting for the stream. -/
def start (user : Option User) : App := {
  currentUser := user
  stack := [{ gate := some .home, screen := Gate.home.builder .waiting, page := 0 }]
  fresh := 1 }

/-- The page of a `context` is still there. -/
def mounted (w : App) (context : Nat) : Bool := w.stack.any (·.page == context)

/-- The drawer of a `context` is still there. -/
def drawerMounted (w : App) (context : Nat) : Bool := w.stack.any (·.drawer == some context)

/-- The page or dialog a handler pushes; a handler pushes at most one of each. -/
def page (w : App) (screen : Screen) : Route := { screen, page := w.fresh }

/-- The dialog has a number of its own. -/
def dialog (w : App) (screen : Screen) : Route := { screen, page := w.fresh + 1 }

/-- `Navigator.pushAndRemoveUntil(.., (route) => false)`. -/
def removeAll (route : Route) : Op Route := .pushAndRemoveUntil route fun _ => false

end App

/-! ## Handlers -/

open App (removeAll)

namespace Login

/-- `Signin`, up to its await. -/
def signin (w : App) (context : Nat) : Effect := {
  session := w.toSession
  nav := [.push (w.dialog .loadingDialog)]
  start := [.signin context] }

/-- An unmounted `context` throws at its first use. -/
def signinReply (w : App) (context : Nat) : Except DartException User → Effect
  | .ok user => {
      session := { w.toSession with currentUser := some user }
      nav := if w.mounted context then [removeAll (w.page .savedNotes)] else [] }
  | .error .firebaseAuthException => {
      session := w.toSession
      nav := if w.mounted context then [.pop, .push (w.dialog .alertDialog)] else [] }
  | .error .other => { session := w.toSession }

end Login

namespace SignUp

/-- `signUp`, up to its await. -/
def signUp (w : App) (context : Nat) (email : Str) : Effect := {
  session := w.toSession
  nav := [.push (w.dialog .loadingDialog)]
  start := [.signUp context email false] }

/-- A new account has no display name; `updateDisplayName` is started, with the username the field holds as the
call returns, and not awaited. -/
def signUpReply (w : App) (context : Nat) (email : Str) : Except DartException Str → Effect
  | .ok username => {
      session := { w.toSession with currentUser := some { email, displayName := none } }
      nav := if w.mounted context then [removeAll (w.page .savedNotes)] else []
      start := [.updateDisplayName email username] }
  | .error .firebaseAuthException => {
      session := w.toSession
      nav := if w.mounted context then [.push (w.dialog .alertDialog)] else [] }
  | .error .other => { session := w.toSession }

/-- The account has the name once the call succeeds. -/
def updateDisplayNameReply (w : App) (email username : Str) : Except DartException Unit → Effect
  | .ok _ => { session := { w.toSession with
      currentUser := w.currentUser.map fun user =>
        if user.email = email then { user with displayName := some username } else user } }
  | .error _ => { session := w.toSession }

end SignUp

namespace GoogleButton

/-- The test after `googleLogIn` has returned: the Login page first reads `provider.user`, which throws
on null. -/
def test (button : GoogleButton) (w : App) (context : Nat) (s : Session) : Bool :=
  match button with
  | login => s.googleUser.isSome && w.mounted context
  | signUp => w.mounted context

/-- What follows `googleLogIn`: the notes, when the test is passed. -/
def onPressed (button : GoogleButton) (w : App) (context : Nat) (s : Session) : List (Op Route) :=
  if button.test w context s then [removeAll (w.page .savedNotes)] else []

/-- The dialog of the chooser's `catchError`. -/
def errorDialog (w : App) (context : Nat) : GoogleReply → List (Op Route)
  | .signIn (.error _) => if w.mounted context then [.push (w.dialog .alertDialog)] else []
  | _ => []

/-- A reply to the awaited call: `googleLogIn` goes on, or has ended and the handler does. -/
def reply (button : GoogleButton) (w : App) (context : Nat) (r : GoogleReply) : Effect :=
  match r.resume w.toSession with
  | (s, some await) => { session := s, start := [.googleLogIn button context await] }
  | (s, none) => { session := s, nav := errorDialog w context r ++ button.onPressed w context s }

end GoogleButton

namespace MyDrawer

/-- Sign-out after the delay: `logout`, then it waits for `signOut`. -/
def delayOver (w : App) (context : Nat) : Effect :=
  { session := GoogleSignInProvider.logout w.toSession, start := [.signOut context] }

/-- The rest of the sign-out: the intro replaces all routes, when the drawer is still there. -/
def signOutReply (w : App) (context : Nat) : Except DartException Unit → Effect
  | .ok _ => {
      session := { w.toSession with currentUser := none }
      nav := if w.drawerMounted context then [removeAll (w.page .introScreen)] else [] }
  | .error _ => { session := w.toSession }

end MyDrawer

/-! ## Taps -/

/-- The buttons, links and menu items. -/
inductive Tap
  | createAccount
  | signInLink
  | signUpLink
  | submit (email : Str)
  | google
  | menu
  | allNotes
  | favorites
  | signOut
  | info
  | newNote
  | openNote
  | openDialog
  deriving DecidableEq, Repr

/-- The items of an open drawer. -/
def drawerTap (w : App) (drawer : Nat) : Tap → Option Effect
  | .allNotes => some { session := w.toSession, nav := [.pushReplacement (w.page .savedNotes)] }
  | .favorites => some { session := w.toSession, nav := [.push (w.page .favorites)] }
  | .signOut => some { session := w.toSession, start := [.delay drawer] }
  | _ => none

/-- The handlers of a page; the drawer's state reads `currentUser!` as it is created. -/
def pageTap (w : App) (top : Route) : Tap → Option Effect := fun tap =>
  let go (op : Op Route) : Option Effect := some { session := w.toSession, nav := [op] }
  let openDrawer : Option Effect :=
    if w.currentUser.isSome then go (.addLocalHistoryEntry fun r => { r with drawer := some w.fresh }) else none
  match top.screen, tap with
  | .introScreen, .createAccount => go (.push (w.page .signUp))
  | .introScreen, .signInLink => go (.push (w.page .login))
  | .login, .signUpLink => go (removeAll (w.page .signUp))
  | .login, .submit _ => some (Login.signin w top.page)
  | .login, .google => some { session := w.toSession, start := [.googleLogIn .login top.page .signIn] }
  | .signUp, .signInLink =>
    go (.pushReplacement { w.page (Gate.afterLogin.builder .waiting) with gate := some .afterLogin })
  | .signUp, .submit email => some (SignUp.signUp w top.page email)
  | .signUp, .google => some { session := w.toSession, start := [.googleLogIn .signUp top.page .signIn] }
  | .savedNotes, .menu => openDrawer
  | .savedNotes, .info => go (.push (w.page .aboutNotely))
  | .savedNotes, .newNote => go (.push (w.page .noteTakingPage))
  | .savedNotes, .openNote => go (.push (w.page .noteEditingPage))
  | .savedNotes, .openDialog => go (.push (w.dialog .alertDialog))
  | .favorites, .menu => openDrawer
  | .favorites, .openNote => go (.push (w.page .favNoteEditingPage))
  | .favorites, .openDialog => go (.push (w.dialog .alertDialog))
  | .aboutNotely, .menu => openDrawer
  | _, _ => none

/-- A tap on the top route, if it offers that. -/
def App.tap (w : App) (tap : Tap) : Option Effect :=
  match w.stack with
  | [] => none
  | top :: _ =>
    match top.drawer with
    | some drawer => drawerTap w drawer tap
    | none => pageTap w top tap

/-! ## Events -/

/-- What can happen to the app. -/
inductive Event
  | tap (tap : Tap)
  /-- leaving a page, or closing its drawer -/
  | back
  /-- closing a dialog: its button, the barrier, or back -/
  | dismiss
  /-- the stream gives a gated route the current user, or an error -/
  | deliver (page : Nat)
  | deliverError (page : Nat)
  /-- a page of `SavedNotes` is built -/
  | build (page : Nat)
  | signinReply (context : Nat) (result : Except DartException User)
  /-- the new account is signed in before the call returns -/
  | accountCreated (context : Nat) (email : Str)
  /-- the call returns; a new account is named with what the username field holds by then, the result's text -/
  | signUpReply (context : Nat) (email : Str) (created : Bool) (result : Except DartException Str)
  | updateDisplayNameReply (email username : Str) (result : Except DartException Unit)
  | googleReply (button : GoogleButton) (context : Nat) (reply : GoogleReply)
  | delayOver (context : Nat)
  | signOutReply (context : Nat) (result : Except DartException Unit)

namespace Event

/-- The waiting handler an event resumes. -/
def task : Event → Option Task
  | signinReply context _ => some (.signin context)
  | accountCreated context email => some (.signUp context email false)
  | signUpReply context email created _ => some (.signUp context email created)
  | updateDisplayNameReply email username _ => some (.updateDisplayName email username)
  | googleReply button context reply => some (.googleLogIn button context reply.await)
  | delayOver context => some (.delay context)
  | signOutReply context _ => some (.signOut context)
  | _ => none

/-- What the handler of an event does. -/
def effect (w : App) : Event → Effect
  | tap t => (w.tap t).getD { session := w.toSession }
  | back | dismiss => { session := w.toSession, nav := [.pop] }
  | deliver _ | deliverError _ | build _ => { session := w.toSession }
  | signinReply context result => Login.signinReply w context result
  | accountCreated context email => {
      session := { w.toSession with currentUser := some { email, displayName := none } }
      start := [.signUp context email true] }
  | signUpReply context email _ result => SignUp.signUpReply w context email result
  | updateDisplayNameReply email username result => SignUp.updateDisplayNameReply w email username result
  | googleReply button context reply => button.reply w context reply
  | delayOver context => MyDrawer.delayOver w context
  | signOutReply context result => MyDrawer.signOutReply w context result

/-- The route a delivery rebuilds, and with what. -/
def delivery (w : App) : Event → Option (Nat × Snapshot)
  | deliver page => some (page, .data w.currentUser)
  | deliverError page => some (page, .error)
  | _ => none

/-- The events that can come: taps that are offered, what the platform does, and replies that are waited for. -/
def enabled (w : App) : Event → Bool
  | tap t => (w.tap t).isSome
  | back =>
    match w.stack with
    | [] => false
    | top :: rest => !top.screen.isDialog && (top.drawer.isSome || !rest.isEmpty)
  | dismiss =>
    match w.stack with
    | [] => false
    | top :: _ => top.screen.isDialog
  | deliver page | deliverError page => w.stack.any fun r => r.page == page && r.gate.isSome
  | build page => w.stack.any fun r => r.page == page && r.screen == .savedNotes
  | signUpReply context email created result =>
    -- an account that is there was created by a call that succeeds
    w.tasks.contains (.signUp context email created) && !(created && !result.isOk)
  | e => e.task.any w.tasks.contains

end Event

namespace App

/-- The routes after a delivery of the stream. -/
def rebuild (w : App) : Option (Nat × Snapshot) → List Route
  | none => w.stack
  | some (page, snapshot) => w.stack.map fun r => if r.page = page then r.rebuild w.fresh snapshot else r

/-- The app after an event. -/
def step (w : App) (e : Event) : App := {
  toSession := (e.effect w).session
  stack := applyAll Route.closeDrawer (w.rebuild (e.delivery w)) (e.effect w).nav
  tasks := (e.effect w).start ++ e.task.elim w.tasks w.tasks.erase
  fresh := w.fresh + 2 }

end App

/-- The app as a system, from any state. -/
def appSystem (w : App) : Trace.System App Event where
  init := w
  step := App.step
  ok := fun log e => e.enabled (Trace.after w App.step log) = true

/-- The app after a log. -/
def App.after (w : App) (log : List Event) : App := Trace.after w App.step log

theorem App.after_cons (w : App) (e : Event) (log : List Event) : w.after (e :: log) = (w.after log).step e := rfl

/-! ## What a step does to the stack -/

/-- The screens a tap may push. -/
def Tap.screens : Tap → List Screen
  | createAccount => [.signUp]
  | signInLink => [.login]
  | signUpLink => [.signUp]
  | submit _ => [.loadingDialog]
  | allNotes => [.savedNotes]
  | favorites => [.favorites]
  | info => [.aboutNotely]
  | newNote => [.noteTakingPage]
  | openNote => [.noteEditingPage, .favNoteEditingPage]
  | openDialog => [.alertDialog]
  | google | menu | signOut => []

/-- The screens the handler of an event may push. -/
def Event.screens (w : App) : Event → List Screen
  | tap t => t.screens
  | signinReply _ (.ok _) => [.savedNotes]
  | signinReply _ (.error _) => [.alertDialog]
  | signUpReply _ _ _ (.ok _) => [.savedNotes]
  | signUpReply _ _ _ (.error _) => [.alertDialog]
  | googleReply button context reply =>
    match reply.resume w.toSession with
    | (_, some _) => []
    | (s, none) => if button.test w context s then [.alertDialog, .savedNotes] else [.alertDialog]
  | signOutReply _ _ => [.introScreen]
  | _ => []

/-- One of the screens, on a page that was not there. -/
def App.Pushes (w : App) (screens : List Screen) (r : Route) : Prop :=
  r.screen ∈ screens ∧ w.fresh ≤ r.page ∧ r.page < w.fresh + 2

theorem App.pushes_page (w : App) {screens : List Screen} {screen : Screen} (h : screen ∈ screens) :
    w.Pushes screens (w.page screen) :=
  ⟨h, Nat.le_refl _, Nat.lt_add_of_pos_right (by decide)⟩

theorem App.pushes_dialog (w : App) {screens : List Screen} {screen : Screen} (h : screen ∈ screens) :
    w.Pushes screens (w.dialog screen) :=
  ⟨h, Nat.le_succ _, Nat.lt_succ_self _⟩

section Rules

variable {w : App} {P : Route → Prop}

theorem brings_one (op : Op Route) (h : op.Brings P) : ∀ op' ∈ [op], op'.Brings P := by
  intro op' ho
  rw [List.mem_singleton.1 ho]; exact h

/-- A tap leaves the session alone; it pushes its screens, or opens the drawer of the top. -/
theorem tap_brings {t : Tap} {eff : Effect} (h : w.tap t = some eff)
    (hnew : ∀ r, w.Pushes t.screens r → P r) (hdrawer : ∀ r, P r → P { r with drawer := some w.fresh }) :
    eff.session = w.toSession ∧ ∀ op ∈ eff.nav, op.Brings P := by
  unfold App.tap at h
  split at h
  · cases h
  · rename_i top rest _
    cases hd : top.drawer with
    | some drawer =>
      rw [hd] at h
      simp only [drawerTap] at h
      split at h <;> cases h
      · exact ⟨rfl, brings_one _ (hnew _ (w.pushes_page (.head _)))⟩
      · exact ⟨rfl, brings_one _ (hnew _ (w.pushes_page (.head _)))⟩
      · exact ⟨rfl, fun _ ho => by cases ho⟩
    | none =>
      rw [hd] at h
      simp only [pageTap] at h
      split at h
      -- one page or dialog, nothing, or the drawer when somebody is signed in
      all_goals first
        | (cases h; exact ⟨rfl, brings_one _ (hnew _ (by
            simp [App.Pushes, App.page, App.dialog, Tap.screens, Gate.builder]))⟩)
        | (cases h; exact ⟨rfl, fun _ ho => by cases ho⟩)
        | (split at h <;> cases h; exact ⟨rfl, brings_one _ hdrawer⟩)
        | cases h

theorem brings_if {c : Bool} {ops : List (Op Route)} (h : c = true → ∀ op ∈ ops, op.Brings P) :
    ∀ op ∈ (if c then ops else []), op.Brings P := by
  cases c with
  | true => exact h rfl
  | false => intro op ho; cases ho

/-- A handler pushes the screens of its event, on new pages. -/
theorem effect_brings {e : Event} (he : e.enabled w = true) (hnew : ∀ r, w.Pushes (e.screens w) r → P r)
    (hdrawer : ∀ r, P r → P { r with drawer := some w.fresh }) : ∀ op ∈ (e.effect w).nav, op.Brings P := by
  have hnone : ∀ op ∈ ([] : List (Op Route)), op.Brings P := fun _ ho => by cases ho
  cases e with
  | tap t =>
    obtain ⟨eff, heff⟩ := Option.isSome_iff_exists.1 he
    simp only [Event.effect, heff, Option.getD_some]
    exact (tap_brings heff hnew hdrawer).2
  | signinReply context result =>
    rcases result with ⟨_ | _⟩ | user
    · refine brings_if fun _ op ho => ?_
      rcases List.mem_cons.1 ho with rfl | ho
      · trivial
      · exact brings_one (.push _) (hnew _ (w.pushes_dialog (.head _))) op ho
    · exact hnone
    · exact brings_if fun _ => brings_one _ (hnew _ (w.pushes_page (.head _)))
  | signUpReply context email created result =>
    rcases result with ⟨_ | _⟩ | _
    · exact brings_if fun _ => brings_one _ (hnew _ (w.pushes_dialog (.head _)))
    · exact hnone
    · exact brings_if fun _ => brings_one _ (hnew _ (w.pushes_page (.head _)))
  | updateDisplayNameReply email username result => cases result <;> exact hnone
  | googleReply button context reply =>
    simp only [Event.screens] at hnew
    simp only [Event.effect, GoogleButton.reply]
    split
    · exact hnone
    · rename_i s hs
      rw [hs] at hnew
      intro op ho
      rcases List.mem_append.1 ho with ho | ho
      · have hdialog : P (w.dialog .alertDialog) := by
          refine hnew _ (w.pushes_dialog ?_)
          dsimp only
          split <;> exact .head _
        unfold GoogleButton.errorDialog at ho
        split at ho
        · exact brings_if (fun _ => brings_one (.push _) hdialog) op ho
        · cases ho
      · refine brings_if (fun ht => brings_one (removeAll _) (hnew _ (w.pushes_page ?_))) op ho
        dsimp only
        rw [if_pos ht]; exact .tail _ (.head _)
  | signOutReply context result =>
    rcases result with _ | _
    · exact hnone
    · exact brings_if fun _ => brings_one _ (hnew _ (w.pushes_page (.head _)))
  | back => exact brings_one _ trivial
  | dismiss => exact brings_one _ trivial
  | deliver page => exact hnone
  | deliverError page => exact hnone
  | build page => exact hnone
  | accountCreated context email => exact hnone
  | delayOver context => exact hnone

theorem closeDrawer_eq_some {r r' : Route} (h : r.closeDrawer = some r') : r' = { r with drawer := none } := by
  unfold Route.closeDrawer at h
  split at h <;> cases h
  rfl

/-- The rule for a step: routes with `P` stay when the drawer opens or closes and when the stream
delivers, and the handler brings no others. -/
theorem forall_step {e : Event} (he : e.enabled w = true) (hnew : ∀ r, w.Pushes (e.screens w) r → P r)
    (hdrawer : ∀ r drawer, P r → P { r with drawer := drawer })
    (hdeliver : ∀ page snapshot, e.delivery w = some (page, snapshot) → ∀ r ∈ w.stack, P r →
      P (r.rebuild w.fresh snapshot))
    (h : ∀ r ∈ w.stack, P r) : ∀ r ∈ (w.step e).stack, P r := by
  have hnav := effect_brings he hnew fun r => hdrawer r _
  refine Navigator.forall_applyAll (fun r r' hr hp => ?_) hnav fun r hr => ?_
  · rw [closeDrawer_eq_some hr]; exact hdrawer r none hp
  · cases hd : e.delivery w with
    | none => rw [hd] at hr; exact h r hr
    | some d =>
      rw [hd] at hr
      obtain ⟨r₀, hr₀, rfl⟩ := List.mem_map.1 hr
      split
      · exact hdeliver d.1 d.2 hd r₀ hr₀ (h r₀ hr₀)
      · exact h r₀ hr₀

theorem rebuild_cases (r : Route) (page : Nat) (snapshot : Snapshot) :
    r.rebuild page snapshot = r ∨ ∃ gate, r.gate = some gate ∧
      r.rebuild page snapshot = { r with screen := gate.builder snapshot, page := page, drawer := none } := by
  unfold Route.rebuild
  split
  · exact .inl rfl
  · rename_i gate hg
    split
    · exact .inl rfl
    · exact .inr ⟨gate, hg, rfl⟩

end Rules

end Notely
