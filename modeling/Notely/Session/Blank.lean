/-
The bottom of the stack. A navigator without routes shows nothing, and there is nothing to tap; a dialog at
the bottom leaves that when it is closed. Every handler but one keeps a screen to begin with at the bottom: the
failed email sign-in pops before it shows its error, and what it pops is the page itself when the loading dialog
was dismissed and the page is the only route (`never_blank_iff`). The login page is the only route when it was
reached from the sign-up page that its own link opened. The handlers that still wait then bring nothing back
(`blank_forever`).
-/
import Notely.Session.Email

namespace Notely

open Navigator (Op Grounded)

/-! ## The bottom -/

/-- The screens that stand at the bottom. -/
def Screen.isGround : Screen → Bool
  | progress | streamError | introScreen | login | signUp | savedNotes => true
  | _ => false

theorem isDialog_of_isGround {screen : Screen} (h : screen.isGround = true) : screen.isDialog = false := by
  cases screen <;> first | rfl | cases h

/-- There is a route at the bottom, and it shows such a screen. -/
def App.Grounded (w : App) : Prop := Navigator.Grounded (fun r => r.screen.isGround = true) w.stack

/-- The failed sign-in that pops its own page, the only route there is. -/
def Event.Strands (w : App) (e : Event) : Prop :=
  ∃ context r, e = .signinReply context (.error .firebaseAuthException) ∧ w.mounted context = true ∧
    w.stack = [r] ∧ r.drawer = none

theorem builder_isGround (gate : Gate) (snapshot : Snapshot) : (gate.builder snapshot).isGround = true := by
  rcases gate with _ | _ <;> rcases snapshot with _ | _ | (_ | _) <;> rfl

theorem closeDrawer_eq_none {r : Route} : r.closeDrawer = none ↔ r.drawer = none := by
  cases hd : r.drawer <;> simp [Route.closeDrawer, hd]

/-! ## The handlers -/

section Rules

variable {w : App} {P : Route → Prop}

/-- What a handler can do to the stack, with the flag for those that pop: what it puts in the place of other
pages can stand at the bottom. -/
inductive Navigates (w : App) : Bool → List (Op Route) → Prop
  | stays {pops : Bool} : Navigates w pops []
  | drawer : Navigates w false [.addLocalHistoryEntry fun r => { r with drawer := some w.fresh }]
  | opens (screen : Screen) : Navigates w false [.push (w.page screen)]
  | asks (screen : Screen) : Navigates w false [.push (w.dialog screen)]
  | replaces (gate : Option Gate) {screen : Screen} (h : screen.isGround = true) :
      Navigates w false [.pushReplacement { w.page screen with gate := gate }]
  | clears {screen : Screen} (h : screen.isGround = true) : Navigates w false [App.removeAll (w.page screen)]
  | asksThenClears {screen : Screen} (h : screen.isGround = true) :
      Navigates w false [.push (w.dialog .alertDialog), App.removeAll (w.page screen)]
  | leaves : Navigates w true [.pop]
  | fails : Navigates w true [.pop, .push (w.dialog .alertDialog)]

theorem navigates_if {pops c : Bool} {ops : List (Op Route)} (h : Navigates w pops ops) :
    Navigates w pops (if c then ops else []) := by
  cases c with
  | true => exact h
  | false => exact .stays

theorem tap_navigates {t : Tap} {eff : Effect} (h : w.tap t = some eff) : Navigates w false eff.nav := by
  unfold App.tap at h
  split at h
  · cases h
  · rename_i top rest _
    cases hd : top.drawer with
    | some drawer =>
      rw [hd] at h
      simp only [drawerTap] at h
      split at h <;> cases h
      · exact .replaces none rfl
      · exact .opens _
      · exact .stays
    | none =>
      rw [hd] at h
      simp only [pageTap] at h
      split at h
      -- a page or a dialog on top, a page in place of the others, the drawer, or nothing
      all_goals first
        | (cases h; exact .opens _)
        | (cases h; exact .asks _)
        | (cases h; exact .clears rfl)
        | (cases h; exact .replaces _ rfl)
        | (cases h; exact .stays)
        | (split at h <;> cases h; exact .drawer)
        | cases h

/-- The events whose handler pops. -/
def Event.pops : Event → Bool
  | back | dismiss => true
  | signinReply _ (.error .firebaseAuthException) => true
  | _ => false

theorem effect_navigates {e : Event} (he : e.enabled w = true) : Navigates w e.pops (e.effect w).nav := by
  cases e with
  | tap t =>
    obtain ⟨eff, heff⟩ := Option.isSome_iff_exists.1 he
    simp only [Event.effect, heff, Option.getD_some]
    exact tap_navigates heff
  | signinReply context result =>
    rcases result with ⟨_ | _⟩ | user
    · exact navigates_if .fails
    · exact .stays
    · exact navigates_if (.clears rfl)
  | signUpReply context email created result =>
    rcases result with ⟨_ | _⟩ | _
    · exact navigates_if (.asks _)
    · exact .stays
    · exact navigates_if (.clears rfl)
  | updateDisplayNameReply email username result => cases result <;> exact .stays
  | googleReply button context reply =>
    simp only [Event.effect, GoogleButton.reply]
    split
    · exact .stays
    · -- the dialog of a failed chooser, and the notes when the test passes
      have hdialog : GoogleButton.errorDialog w context reply = [] ∨
          GoogleButton.errorDialog w context reply = [.push (w.dialog .alertDialog)] := by
        unfold GoogleButton.errorDialog
        split
        · split
          · exact .inr rfl
          · exact .inl rfl
        · exact .inl rfl
      dsimp only [GoogleButton.onPressed]
      rcases hdialog with hd | hd <;> rw [hd]
      · exact navigates_if (.clears rfl)
      · split
        · exact .asksThenClears rfl
        · exact .asks _
  | signOutReply context result =>
    rcases result with _ | _
    · exact .stays
    · exact navigates_if (.clears rfl)
  | back => exact .leaves
  | dismiss => exact .leaves
  | deliver page => exact .stays
  | deliverError page => exact .stays
  | build page => exact .stays
  | accountCreated context email => exact .stays
  | delayOver context => exact .stays

/-- What holds of the screens that can stand at the bottom, with their drawer open or closed, is kept there by a
handler that does not pop. -/
theorem Navigates.lays {P : Route → Prop} {nav : List (Op Route)} (h : Navigates w false nav)
    (hground : ∀ r : Route, r.screen.isGround = true → P r)
    (hdrawer : ∀ r drawer, P r → P { r with drawer := drawer }) : ∀ op ∈ nav, op.Lays P := by
  intro op ho
  cases h with
  | stays => cases ho
  | drawer => cases List.mem_singleton.1 ho; exact fun r hr => hdrawer r _ hr
  | opens screen => cases List.mem_singleton.1 ho; trivial
  | asks screen => cases List.mem_singleton.1 ho; trivial
  | replaces gate hs => cases List.mem_singleton.1 ho; exact hground _ hs
  | clears hs => cases List.mem_singleton.1 ho; exact hground _ hs
  | asksThenClears hs =>
    rcases List.mem_cons.1 ho with rfl | ho
    · trivial
    · cases List.mem_singleton.1 ho; exact hground _ hs

/-- A delivery rebuilds the bottom to what can stand there. -/
theorem rebuild_grounded (hground : ∀ r : Route, r.screen.isGround = true → P r)
    (h : Navigator.Grounded P w.stack) (d : Option (Nat × Snapshot)) : Navigator.Grounded P (w.rebuild d) := by
  cases d with
  | none => exact h
  | some d =>
    obtain ⟨base, hb, hp⟩ := h
    refine ⟨_, by rw [App.rebuild, List.getLast?_map, hb]; rfl, ?_⟩
    dsimp only
    split
    · rcases rebuild_cases base w.fresh d.2 with hr | ⟨gate, -, hr⟩ <;> rw [hr]
      · exact hp
      · exact hground _ (builder_isGround gate d.2)
    · exact hp

theorem grounded_of_not_pops (hground : ∀ r : Route, r.screen.isGround = true → P r)
    (hdrawer : ∀ r drawer, P r → P { r with drawer := drawer }) {e : Event} (he : e.enabled w = true)
    (hp : e.pops = false) (h : Navigator.Grounded P w.stack) : Navigator.Grounded P (w.step e).stack :=
  (rebuild_grounded hground h _).applyAll ((hp ▸ effect_navigates he).lays hground hdrawer)

/-- A pop keeps it too, unless it takes the only route. -/
theorem grounded_pop (hdrawer : ∀ r drawer, P r → P { r with drawer := drawer }) {top : Route} {rest : List Route}
    (h : Navigator.Grounded P (top :: rest)) :
    Navigator.Grounded P (Navigator.popTop Route.closeDrawer (top :: rest)) ↔ ¬ (rest = [] ∧ top.drawer = none) := by
  rw [h.popTop fun r r' hr hp => closeDrawer_eq_some hr ▸ hdrawer r none hp, closeDrawer_eq_none]

theorem signin_fails_unmounted {context : Nat} (hm : w.mounted context = false) :
    (w.step (.signinReply context (.error .firebaseAuthException))).stack = w.stack := by
  simp only [App.step, Event.effect, Login.signinReply, hm, Event.delivery, App.rebuild]
  rfl

end Rules

/-- One step: there stays a screen at the bottom, unless the event strands. -/
theorem grounded_step {w : App} {e : Event} (he : e.enabled w = true) (h : w.Grounded) :
    (w.step e).Grounded ↔ ¬ e.Strands w := by
  have hdrawer : ∀ (r : Route) drawer, r.screen.isGround = true →
      ({ r with drawer := drawer } : Route).screen.isGround = true :=
    fun _ _ hr => hr
  obtain ⟨top, rest, hst⟩ : ∃ top rest, w.stack = top :: rest := by
    cases hst : w.stack with
    | nil => rw [App.Grounded, hst] at h; exact absurd h Navigator.not_grounded_nil
    | cons top rest => exact ⟨top, rest, rfl⟩
  have hg : Navigator.Grounded (fun r : Route => r.screen.isGround = true) (top :: rest) := hst ▸ h
  cases hp : e.pops with
  | false =>
    refine iff_of_true (grounded_of_not_pops (fun _ hr => hr) hdrawer he hp h) ?_
    rintro ⟨context, r, rfl, -⟩
    cases hp
  | true =>
    cases e with
    | back =>
      refine iff_of_true ?_ (by rintro ⟨_, _, heq, -⟩; cases heq)
      show Navigator.Grounded _ (Navigator.popTop Route.closeDrawer w.stack)
      rw [hst, grounded_pop hdrawer hg]
      rintro ⟨rfl, hd⟩
      simp [Event.enabled, hst, hd] at he
    | dismiss =>
      refine iff_of_true ?_ (by rintro ⟨_, _, heq, -⟩; cases heq)
      show Navigator.Grounded _ (Navigator.popTop Route.closeDrawer w.stack)
      rw [hst, grounded_pop hdrawer hg]
      rintro ⟨rfl, -⟩
      -- no dialog stands at the bottom
      have hground := (Navigator.grounded_singleton (P := fun r : Route => r.screen.isGround = true)).1 hg
      have hpage := isDialog_of_isGround hground
      simp [Event.enabled, hst, hpage] at he
    | signinReply context result =>
      rcases result with ⟨_ | _⟩ | user
      · cases hm : w.mounted context with
        | false =>
          rw [App.Grounded, signin_fails_unmounted hm]
          refine iff_of_true h ?_
          rintro ⟨_, _, heq, hm', -⟩
          cases heq
          rw [hm] at hm'; cases hm'
        | true =>
          rw [App.Grounded, signin_fails hm, Navigator.grounded_cons_of_not (fun hd => by cases hd), hst,
            grounded_pop hdrawer hg]
          refine not_congr ⟨?_, ?_⟩
          · rintro ⟨rfl, hd⟩
            exact ⟨context, top, rfl, hm, hst, hd⟩
          · rintro ⟨_, r, -, -, hr, hd⟩
            rw [hst] at hr
            cases hr
            exact ⟨rfl, hd⟩
      · cases hp
      · cases hp
    | _ => cases hp

/-! ## Runs -/

theorem grounded_start (user : Option User) : (App.start user).Grounded :=
  Navigator.grounded_singleton.2 (rfl : Screen.progress.isGround = true)

/-- From the opening of the app on: at every point of a run one of the screens to begin with stands at the
bottom of the stack, under whatever else is open, exactly when no failed email sign-in pops the page it was
made on as the only route there is. -/
theorem never_blank_iff (user : Option User) (log : List Event) (h : (appSystem (.start user)).Valid log) :
    (∀ fs, fs <:+ log → ∃ base, ((App.start user).after fs).stack.getLast? = some base ∧ base.screen.isGround = true) ↔
      Trace.Always (fun fs e => ¬ e.Strands ((App.start user).after fs)) log := by
  refine h.invariant_iff (I := App.Grounded) (grounded_start user) fun e fs hv hg => ?_
  exact grounded_step hv.1 hg

/-- Nobody is signed in. The login page that the sign-up page leads back to is the only route; a sign-in is
made there. -/
def onlyLogin : List Event := [
  .tap (.submit (lit "ann@mail.com")), .tap .signInLink, .tap .signUpLink, .tap .signInLink, .deliver 0]

theorem onlyLogin_valid : (appSystem (.start none)).Valid onlyLogin := ⟨rfl, rfl, rfl, rfl, rfl, trivial⟩

/-- It fails, and the error is closed. -/
def failsWhileLoading : List Event := .dismiss :: .signinReply 7 (.error .firebaseAuthException) :: onlyLogin

/-- The same after the loading dialog was dismissed. -/
def failsAfterDismissal : List Event :=
  .dismiss :: .signinReply 7 (.error .firebaseAuthException) :: .dismiss :: onlyLogin

theorem never_blank_iff_failsWhileLoading :
    (appSystem (.start none)).Valid failsWhileLoading ∧
    ∀ fs, fs <:+ failsWhileLoading →
      ∃ base, ((App.start none).after fs).stack.getLast? = some base ∧ base.screen.isGround = true := by
  have hv : (appSystem (.start none)).Valid failsWhileLoading := ⟨rfl, rfl, onlyLogin_valid⟩
  refine ⟨hv, (never_blank_iff none failsWhileLoading hv).2 ⟨?_, ?_, ?_⟩⟩
  · rintro ⟨_, _, heq, -⟩; cases heq
  · rintro ⟨_, r, -, -, hst, -⟩; cases hst
  · refine ⟨?_, ?_, ?_, ?_, ?_, trivial⟩ <;> · rintro ⟨_, _, heq, -⟩; cases heq

/-- With the dialog dismissed no route is left, and nothing can happen any more. -/
theorem blank_after_failed_sign_in :
    (appSystem (.start none)).Valid failsAfterDismissal ∧ ((App.start none).after failsAfterDismissal).stack = [] ∧
    ∀ e : Event, e.enabled ((App.start none).after failsAfterDismissal) = false := by
  refine ⟨⟨rfl, rfl, rfl, onlyLogin_valid⟩, rfl, fun e => ?_⟩
  cases e <;> rfl

/-! ## Without a route -/

/-- Without a route no page is there for a handler to go on from. -/
theorem step_of_blank {w : App} {e : Event} (hst : w.stack = []) (he : e.enabled w = true) : (w.step e).stack = [] := by
  have hmounted : ∀ context, w.mounted context = false := fun context => by rw [App.mounted, hst]; rfl
  have hdrawer : ∀ context, w.drawerMounted context = false := fun context => by rw [App.drawerMounted, hst]; rfl
  have hnav : (e.effect w).nav = [] := by
    cases e with
    | tap t => simp [Event.enabled, App.tap, hst] at he
    | back => simp [Event.enabled, hst] at he
    | dismiss => simp [Event.enabled, hst] at he
    | signinReply context result =>
      rcases result with ⟨_ | _⟩ | user <;> simp [Event.effect, Login.signinReply, hmounted]
    | signUpReply context email created result =>
      rcases result with ⟨_ | _⟩ | _ <;> simp [Event.effect, SignUp.signUpReply, hmounted]
    | updateDisplayNameReply email username result => cases result <;> rfl
    | googleReply button context reply =>
      have htest : ∀ s, button.test w context s = false := fun s => by
        cases button <;> simp [GoogleButton.test, hmounted]
      simp only [Event.effect, GoogleButton.reply]
      split
      · rfl
      · simp only [GoogleButton.onPressed, htest, GoogleButton.errorDialog, hmounted]
        split <;> rfl
    | signOutReply context result => cases result <;> simp [Event.effect, MyDrawer.signOutReply, hdrawer]
    | deliver page => rfl
    | deliverError page => rfl
    | build page => rfl
    | accountCreated context email => rfl
    | delayOver context => rfl
  have hrebuild : w.rebuild (e.delivery w) = [] := by
    cases hd : e.delivery w <;> simp [App.rebuild, hst]
  show Navigator.applyAll Route.closeDrawer (w.rebuild (e.delivery w)) (e.effect w).nav = []
  rw [hrebuild, hnav]
  rfl

/-- The stack once empty stays empty, whatever the handlers that still wait are told: a sign-in that completes
later shows nothing. -/
theorem blank_forever (w : App) (log : List Event) (hst : w.stack = []) (h : (appSystem w).Valid log) :
    (w.after log).stack = [] :=
  h.invariant (I := fun _ w => w.stack = []) hst fun _ _ _ he ih => step_of_blank ih he

/-- On the only route a Google sign-in is left waiting; the email sign-in fails after its dialog was dismissed. -/
def strandedWithGoogle : App := (App.start none).after [
  .dismiss, .signinReply 7 (.error .firebaseAuthException), .dismiss, .tap (.submit (lit "ann@mail.com")),
  .tap .google, .tap .signInLink, .tap .signUpLink, .tap .signInLink, .deliver 0]

/-- The Google sign-in completes. -/
def googleCompletes : List Event := [
  .googleReply .login 7 (.signInWithCredential (.ok { email := lit "ann@mail.com", displayName := none })),
  .googleReply .login 7 (.authentication (.ok ())),
  .googleReply .login 7 (.signIn (.ok (some ⟨lit "ann@mail.com"⟩)))]

theorem blank_forever_googleCompletes :
    strandedWithGoogle.stack = [] ∧ (appSystem strandedWithGoogle).Valid googleCompletes ∧
    (strandedWithGoogle.after googleCompletes).currentUser.isSome = true ∧
    (strandedWithGoogle.after googleCompletes).stack = [] :=
  have hv : (appSystem strandedWithGoogle).Valid googleCompletes := ⟨rfl, rfl, rfl, trivial⟩
  ⟨rfl, hv, rfl, blank_forever strandedWithGoogle googleCompletes rfl hv⟩

end Notely
