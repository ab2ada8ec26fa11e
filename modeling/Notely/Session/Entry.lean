/-
Entering the notes. `SavedNotes` reads `currentUser!` as it is built, so it should be shown only when
somebody is signed in. The auth stream, the email sign-in and the email sign-up see to that. Three
handlers do not ask: the Google button of the SignUp page tests nothing but its context, the one of the
Login page takes the recorded account for a sign-in, and the drawer's "All notes" tests nothing at all.
-/
import Notely.Session.App

namespace Notely

open Navigator (Op)

/-! ## Entries -/

/-- A page of `SavedNotes` is there that was not. -/
def Enters (w w' : App) : Prop := ∃ r ∈ w'.stack, r.screen = .savedNotes ∧ ∀ r' ∈ w.stack, r'.page ≠ r.page

/-- The reply ends `googleLogIn` without a sign-in. -/
def GoogleReply.fails : GoogleReply → Bool
  | signIn (.ok (some _)) => false
  | signIn _ => true
  | authentication (.ok _) => false
  | authentication (.error _) => true
  | signInWithCredential (.ok _) => false
  | signInWithCredential (.error _) => true

/-- The handlers that do not ask meet a signed-in user: "All notes"; a `googleLogIn` that fails while its
SignUp page is there; and one that fails while its Login page is there and an account is recorded. -/
def AsksFirst (w : App) : Event → Prop
  | .tap .allNotes => w.currentUser ≠ none
  | .googleReply .signUp context reply => reply.fails = true → w.mounted context = true → w.currentUser ≠ none
  | .googleReply .login context reply =>
    reply.fails = true → w.mounted context = true → w.googleUser ≠ none → w.currentUser ≠ none
  | _ => True

/-- Pages are numbered from a counter. -/
def PagesBelow (w : App) : Prop := ∀ r ∈ w.stack, r.page < w.fresh

theorem pagesBelow_step {w : App} {e : Event} (he : e.enabled w = true) (h : PagesBelow w) :
    PagesBelow (w.step e) := by
  refine forall_step (P := fun r => r.page < w.fresh + 2) he ?_ ?_ ?_ ?_
  · intro r hr
    exact hr.2.2
  · intro r drawer hr
    exact hr
  · intro page snapshot _ r _ hr
    rcases rebuild_cases r w.fresh snapshot with hc | ⟨gate, -, hc⟩ <;> rw [hc]
    · exact hr
    · exact Nat.lt_add_of_pos_right (by decide)
  · intro r hr
    exact Nat.lt_add_right 2 (h r hr)

theorem pagesBelow {user : Option User} {log : List Event} (h : (appSystem (.start user)).Valid log) :
    PagesBelow ((App.start user).after log) := by
  refine h.invariant (I := fun _ w => PagesBelow w) ?_ ?_
  · intro r hr
    rw [List.mem_singleton.1 hr]; exact Nat.zero_lt_one
  · intro e es _ he ih
    exact pagesBelow_step he ih

/-! ## Recorded accounts -/

/-- A `googleLogIn` that is past its chooser has recorded an account. -/
def Recorded (w : App) : Prop :=
  ∀ button context await, .googleLogIn button context await ∈ w.tasks → await ≠ .signIn → w.googleUser ≠ none

theorem tap_googleLogIn {w : App} {t : Tap} {eff : Effect} (h : w.tap t = some eff) {button : GoogleButton}
    {context : Nat} {await : GoogleAwait} (hstart : .googleLogIn button context await ∈ eff.start) :
    await = .signIn := by
  unfold App.tap at h
  split at h
  · cases h
  · next top rest hst =>
    cases hd : top.drawer with
    | some drawer =>
      rw [hd] at h
      simp only [drawerTap] at h
      split at h <;> cases h
      · cases hstart
      · cases hstart
      · cases List.mem_singleton.1 hstart
    | none =>
      rw [hd] at h
      simp only [pageTap] at h
      split at h
      all_goals first
        | (cases h; cases hstart; done)
        | (cases h; cases List.mem_singleton.1 hstart; done)
        | (cases h; cases List.mem_singleton.1 hstart; rfl)
        | (split at h <;> cases h; cases hstart)
        | cases h

theorem googleUser_effect {w : App} {e : Event} (h : w.googleUser ≠ none) : (e.effect w).session.googleUser ≠ none := by
  cases e with
  | tap t =>
    show ((w.tap t).getD { session := w.toSession }).session.googleUser ≠ none
    cases ht : w.tap t with
    | none => exact h
    | some eff =>
      have hs := (tap_brings (P := fun _ => True) ht (fun _ _ => trivial) fun _ _ => trivial).1
      rw [Option.getD_some, hs]; exact h
  | signinReply context result => rcases result with ⟨_ | _⟩ | user <;> exact h
  | signUpReply context email created result => rcases result with ⟨_ | _⟩ | username <;> exact h
  | updateDisplayNameReply email username result => cases result <;> exact h
  | googleReply button context reply =>
    show (button.reply w context reply).session.googleUser ≠ none
    rcases reply with (_ | _ | account) | (_ | _) | (_ | user) <;>
      first | exact h | exact Option.some_ne_none _
  | signOutReply context result => cases result <;> exact h
  | _ => exact h

theorem recorded_step {w : App} {e : Event} (he : e.enabled w = true) (h : Recorded w) : Recorded (w.step e) := by
  intro button context await ht hne
  have hold : .googleLogIn button context await ∈ w.tasks → (w.step e).googleUser ≠ none :=
    fun ht => googleUser_effect (h button context await ht hne)
  have hmem : .googleLogIn button context await ∈ (e.effect w).start ++ e.task.elim w.tasks w.tasks.erase := ht
  rcases List.mem_append.1 hmem with hstart | hwaits
  · -- the call was resumed, as no other handler starts one past its chooser
    cases e with
    | tap t =>
      obtain ⟨eff, heff⟩ := Option.isSome_iff_exists.1 he
      simp only [Event.effect, heff, Option.getD_some] at hstart
      exact absurd (tap_googleLogIn heff hstart) hne
    | googleReply button' context' reply =>
      have hwaiting : .googleLogIn button' context' reply.await ∈ w.tasks := by
        simpa [Event.enabled, Event.task] using he
      show (button'.reply w context' reply).session.googleUser ≠ none
      rcases reply with (_ | _ | account) | (_ | _) | (_ | user)
      · cases hstart
      · cases hstart
      · exact Option.some_ne_none _
      · cases hstart
      · exact h button' context' .authentication hwaiting (by decide)
      · cases hstart
      · cases hstart
    | signinReply context result => rcases result with ⟨_ | _⟩ | user <;> cases hstart
    | accountCreated context email => cases List.mem_singleton.1 hstart
    | signUpReply context email created result =>
      rcases result with ⟨_ | _⟩ | username
      · cases hstart
      · cases hstart
      · cases List.mem_singleton.1 hstart
    | updateDisplayNameReply email username result => cases result <;> cases hstart
    | delayOver context => cases List.mem_singleton.1 hstart
    | signOutReply context result => cases result <;> cases hstart
    | _ => cases hstart
  · cases htask : e.task with
    | none => rw [htask] at hwaits; exact hold hwaits
    | some t => rw [htask] at hwaits; exact hold (List.mem_of_mem_erase hwaits)

/-! ## Which steps enter -/

/-- A handler that pushes no `SavedNotes`, and a delivery of nobody, enter nothing. -/
theorem not_enters {w : App} {e : Event} (he : e.enabled w = true) (hs : .savedNotes ∉ e.screens w)
    (hd : ∀ page snapshot, e.delivery w = some (page, snapshot) → snapshot = .error ∨ snapshot = .data none) :
    ¬ Enters w (w.step e) := by
  -- every page of `SavedNotes` after the step is one from before
  have hold : ∀ r ∈ (w.step e).stack, r.screen = .savedNotes → ∃ r' ∈ w.stack, r'.page = r.page := by
    refine forall_step (P := fun r => r.screen = .savedNotes → ∃ r' ∈ w.stack, r'.page = r.page) he ?_ ?_ ?_ ?_
    · intro r hr hsc
      rw [← hsc] at hs
      exact absurd hr.1 hs
    · intro r drawer hr
      exact hr
    · intro page snapshot hdel r _ hr
      rcases rebuild_cases r w.fresh snapshot with hc | ⟨gate, -, hc⟩ <;> rw [hc]
      · exact hr
      · intro hsc
        rcases hd page snapshot hdel with rfl | rfl <;> cases gate <;> cases hsc
    · intro r hr _
      exact ⟨r, hr, rfl⟩
  rintro ⟨r, hr, hsc, hne⟩
  obtain ⟨r', hr', hp⟩ := hold r hr hsc
  exact hne r' hr' hp

theorem enters_of_page {w w' : App} (h : PagesBelow w) (hr : w.page .savedNotes ∈ w'.stack) : Enters w w' := by
  refine ⟨_, hr, rfl, fun r' hr' => ?_⟩
  exact Nat.ne_of_lt (h r' hr')

theorem tap_allNotes {w : App} {eff : Effect} (h : w.tap .allNotes = some eff) :
    eff = { session := w.toSession, nav := [.pushReplacement (w.page .savedNotes)] } := by
  unfold App.tap at h
  split at h
  · cases h
  · split at h
    · cases h; rfl
    · simp only [pageTap] at h
      split at h <;> contradiction

/-- What a reply does: it ends the call and changes nothing; the call goes on, with the same current user;
or it signs in and ends the call. -/
theorem resume_cases (reply : GoogleReply) (s : Session) :
    (reply.fails = true ∧ reply.resume s = (s, none)) ∨
    (reply.fails = false ∧ ∃ s' await, reply.resume s = (s', some await) ∧ s'.currentUser = s.currentUser) ∨
    (reply.fails = false ∧ ∃ user, reply.resume s = ({ s with currentUser := some user }, none)) := by
  rcases reply with (_ | _ | account) | (_ | _) | (_ | user)
  · exact .inl ⟨rfl, rfl⟩
  · exact .inl ⟨rfl, rfl⟩
  · exact .inr (.inl ⟨rfl, _, _, rfl, rfl⟩)
  · exact .inl ⟨rfl, rfl⟩
  · exact .inr (.inl ⟨rfl, _, _, rfl, rfl⟩)
  · exact .inl ⟨rfl, rfl⟩
  · exact .inr (.inr ⟨rfl, user, rfl⟩)

/-- A failed `googleLogIn` enters exactly when the test of its button lets it. -/
theorem enters_googleReply {w : App} (h : PagesBelow w) {button : GoogleButton} {context : Nat} {reply : GoogleReply}
    (he : (Event.googleReply button context reply).enabled w = true)
    (hr : reply.resume w.toSession = (w.toSession, none)) :
    Enters w (w.step (.googleReply button context reply)) ↔ button.test w context w.toSession = true := by
  constructor
  · intro hent
    by_contra ht
    refine not_enters he ?_ (fun _ _ hd => by cases hd) hent
    simp [Event.screens, hr, ht]
  · intro ht
    refine enters_of_page h ?_
    simp [App.step, Event.effect, Event.delivery, App.rebuild, GoogleButton.reply, hr, GoogleButton.onPressed, ht,
      App.removeAll]

theorem asksFirst_googleReply {w : App} {button : GoogleButton} {context : Nat} {reply : GoogleReply} :
    AsksFirst w (.googleReply button context reply) ↔
      (reply.fails = true → button.test w context w.toSession = true → w.currentUser ≠ none) := by
  cases button with
  | login =>
    simp only [AsksFirst, GoogleButton.test, Bool.and_eq_true, Option.isSome_iff_ne_none]
    exact ⟨fun h hf ht => h hf ht.2 ht.1, fun h hf hm hg => h hf ⟨hg, hm⟩⟩
  | signUp => exact Iff.rfl

/-- At every step: an entry finds somebody signed in exactly when the handlers that do not ask do. -/
theorem entry_iff {w : App} {e : Event} (h : PagesBelow w) (he : e.enabled w = true) :
    (Enters w (w.step e) → (w.step e).currentUser ≠ none) ↔ AsksFirst w e := by
  have hno : ∀ {e : Event}, e.enabled w = true → .savedNotes ∉ e.screens w → e.delivery w = none →
      (Enters w (w.step e) → (w.step e).currentUser ≠ none) := fun he hs hd hent =>
    absurd hent (not_enters he hs fun _ _ hd' => by rw [hd] at hd'; cases hd')
  cases e with
  | tap t =>
    by_cases ht : t = .allNotes
    · subst ht
      obtain ⟨eff, heff⟩ := Option.isSome_iff_exists.1 he
      have heffect : (Event.tap .allNotes).effect w = eff := by simp [Event.effect, heff]
      obtain rfl := tap_allNotes heff
      have hu : (w.step (.tap .allNotes)).currentUser = w.currentUser := by
        show ((Event.tap .allNotes).effect w).session.currentUser = _
        rw [heffect]
      have hent : Enters w (w.step (.tap .allNotes)) := by
        refine enters_of_page h ?_
        simp [App.step, heffect, Op.apply]
      rw [hu]
      exact ⟨fun hc => hc hent, fun hc _ => hc⟩
    · have hs : .savedNotes ∉ (Event.tap t).screens w := by
        cases t <;> first | exact absurd rfl ht | simp [Event.screens, Tap.screens]
      have ha : AsksFirst w (.tap t) := by
        cases t <;> first | exact absurd rfl ht | trivial
      exact iff_of_true (hno he hs rfl) ha
  | googleReply button context reply =>
    rw [asksFirst_googleReply]
    have hu : (w.step (.googleReply button context reply)).currentUser =
        (reply.resume w.toSession).1.currentUser := by
      simp only [App.step, Event.effect, GoogleButton.reply]
      split <;> rename_i hr <;> rw [hr]
    rcases resume_cases reply w.toSession with ⟨hf, hr⟩ | ⟨hf, s, await, hr, -⟩ | ⟨hf, user, hr⟩
    · rw [enters_googleReply h he hr, hu, hr, hf]
      simp
    · refine iff_of_true (hno he (by simp [Event.screens, hr]) rfl) fun hx => ?_
      rw [hf] at hx; cases hx
    · refine iff_of_true (fun _ => ?_) fun hx => ?_
      · rw [hu, hr]; exact Option.some_ne_none user
      · rw [hf] at hx; cases hx
  | signinReply context result =>
    refine iff_of_true ?_ trivial
    rcases result with _ | user
    · exact hno he (by simp [Event.screens]) rfl
    · intro _; simp [App.step, Event.effect, Login.signinReply]
  | signUpReply context email created result =>
    refine iff_of_true ?_ trivial
    rcases result with _ | _
    · exact hno he (by simp [Event.screens]) rfl
    · intro _; simp [App.step, Event.effect, SignUp.signUpReply]
  | deliver page =>
    refine iff_of_true (fun hent hu => ?_) trivial
    refine not_enters he (by simp [Event.screens]) (fun p snapshot hd => ?_) hent
    cases hd
    exact .inr (congrArg Snapshot.data hu)
  | deliverError page =>
    refine iff_of_true (fun hent => ?_) trivial
    refine absurd hent (not_enters he (by simp [Event.screens]) fun p snapshot hd => ?_)
    cases hd; exact .inl rfl
  | back => exact iff_of_true (hno he (by simp [Event.screens]) rfl) trivial
  | dismiss => exact iff_of_true (hno he (by simp [Event.screens]) rfl) trivial
  | build page => exact iff_of_true (hno he (by simp [Event.screens]) rfl) trivial
  | accountCreated context email => exact iff_of_true (hno he (by simp [Event.screens]) rfl) trivial
  | updateDisplayNameReply email username result =>
    exact iff_of_true (hno he (by simp [Event.screens]) rfl) trivial
  | delayOver context => exact iff_of_true (hno he (by simp [Event.screens]) rfl) trivial
  | signOutReply context result => exact iff_of_true (hno he (by simp [Event.screens]) rfl) trivial

/-- In every run of the app, every entry to `SavedNotes` finds somebody signed in exactly when the
handlers that do not ask do at every step. -/
theorem entries_signed_in (user : Option User) (log : List Event) (h : (appSystem (.start user)).Valid log) :
    Trace.Always (fun es e => Enters ((App.start user).after es) ((App.start user).after (e :: es)) →
      ((App.start user).after (e :: es)).currentUser ≠ none) log ↔
    Trace.Always (fun es e => AsksFirst ((App.start user).after es) e) log := by
  refine Trace.always_congr h fun e es hs he => ?_
  exact entry_iff (pagesBelow (h.of_suffix hs).2) he

namespace FirstUse

/-- Ann's account. -/
def ann : User := { email := lit "ann@mail.com", displayName := some (lit "Ann") }

/-- The app is opened, and Ann signs in with email and password. -/
def signsIn : List Event := [.signinReply 3 (.ok ann), .tap (.submit ann.email), .tap .signInLink, .deliver 0]

theorem signsIn_valid : (appSystem (.start none)).Valid signsIn := ⟨rfl, rfl, rfl, rfl, trivial⟩

/-- The app is opened, and somebody tries to sign up with Google but closes the account chooser. -/
def cancels : List Event := [.googleReply .signUp 3 (.signIn (.ok none)), .tap .google, .tap .createAccount, .deliver 0]

theorem cancels_valid : (appSystem (.start none)).Valid cancels := ⟨rfl, rfl, rfl, rfl, trivial⟩

end FirstUse

open FirstUse in
theorem entries_signed_in_signsIn :
    (appSystem (.start none)).Valid signsIn ∧
    Enters ((App.start none).after signsIn.tail) ((App.start none).after signsIn) ∧
    ((App.start none).after signsIn).currentUser ≠ none := by
  have hasks : Trace.Always (fun es e => AsksFirst ((App.start none).after es) e) signsIn :=
    ⟨trivial, trivial, trivial, trivial, trivial⟩
  have hent : Enters ((App.start none).after signsIn.tail) ((App.start none).after signsIn) :=
    ⟨_, .head _, rfl, by decide⟩
  exact ⟨signsIn_valid, hent, ((entries_signed_in none signsIn signsIn_valid).2 hasks).1 hent⟩

open FirstUse in
/-- The SignUp page goes on to `SavedNotes` with nobody signed in. -/
theorem cancelled_sign_up_enters :
    (appSystem (.start none)).Valid cancels ∧
    Enters ((App.start none).after cancels.tail) ((App.start none).after cancels) ∧
    ((App.start none).after cancels).currentUser = none :=
  ⟨cancels_valid, ⟨_, .head _, rfl, by decide⟩, rfl⟩

end Notely
