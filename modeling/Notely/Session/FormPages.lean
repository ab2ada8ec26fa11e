/-
The login and the sign-up page with their forms, in the session. Every page has its own fields; an input
recolours the button, the button validates and, when nothing is wrong, starts the call: under the forms the
session runs as its model does (`form_sessions_run`). The colour says just that every field has a text
(`button_orange_iff`).

The email and the password are read as the call is made, but the username when the new account is there: what
`signUp` names the account is what the field holds by then. The loading dialog can be dismissed and the
field edited meanwhile, so the name is a validated one when nobody does that (`new_accounts_named`).
-/
import Notely.Session.Email
import Notely.Session.Entry
import Notely.Session.Forms

namespace Notely

/-! ## Forms -/

/-- `Colors.grey` and `Color.fromARGB(255, 249, 90, 46)`. -/
inductive ButtonColor
  | grey
  | orange
  deriving DecidableEq, Repr

namespace Login

/-- The colour of the button: orange once both fields have a text. -/
def colorFn (emailtc passwordtc : Str) (value : ButtonColor) : ButtonColor :=
  if !emailtc.isEmpty && !passwordtc.isEmpty then .orange
  else if emailtc.isEmpty || passwordtc.isEmpty then .grey
  else value

end Login

namespace SignUp

/-- The colour of the button: orange once all three fields have a text. -/
def colorFn (emailtc nametc passwordtc : Str) (value : ButtonColor) : ButtonColor :=
  if !emailtc.isEmpty && !passwordtc.isEmpty && !nametc.isEmpty then .orange
  else if nametc.isEmpty || emailtc.isEmpty || passwordtc.isEmpty then .grey
  else value

end SignUp

/-- The fields of the two forms. -/
inductive FormField
  | username
  | email
  | password
  deriving DecidableEq, Repr

/-- The two screens with a form. -/
inductive FormScreen
  | login
  | signUp
  deriving DecidableEq, Repr

/-- The form of a screen. -/
def Screen.form : Screen → Option FormScreen
  | .login => some .login
  | .signUp => some .signUp
  | _ => none

namespace FormScreen

/-- The fields of a form, from top to bottom. -/
def fields : FormScreen → List FormField
  | login => [.email, .password]
  | signUp => [.username, .email, .password]

/-- The validator of each field; the login form has no username. -/
def validator : FormScreen → FormField → Option Str → Option String
  | login, .email => Login.emailValidator
  | login, .password => Login.passwordValidator
  | login, .username => fun _ => none
  | signUp, .username => SignUp.usernameValidator
  | signUp, .email => SignUp.emailValidator
  | signUp, .password => SignUp.passwordValidator

/-- The colour either form computes from its texts. -/
def colorFn (screen : FormScreen) (text : FormField → Str) : ButtonColor → ButtonColor :=
  match screen with
  | login => Login.colorFn (text .email) (text .password)
  | signUp => SignUp.colorFn (text .email) (text .username) (text .password)

end FormScreen

/-- The texts of the controllers, the colour of the button, whether the password can be read, and the messages
under the fields. -/
structure FormPage where
  text : FormField → Str := fun _ => []
  value : ButtonColor := .grey
  isVisible : Bool := false
  errorText : FormField → Option String := fun _ => none

namespace FormPage

/-- An input: the field calls its `onChanged` when the text is another. -/
def change (screen : FormScreen) (p : FormPage) (field : FormField) (value : Str) : FormPage :=
  if value = p.text field then p
  else
    let text := Function.update p.text field value
    { p with text := text, value := screen.colorFn text p.value }

/-- The messages of the fields, from top to bottom. -/
def messages (screen : FormScreen) (p : FormPage) : List (Option String) :=
  screen.fields.map fun f => screen.validator f (some (p.text f))

/-- `validate()` leaves each field with its message. -/
def validated (screen : FormScreen) (p : FormPage) : FormPage :=
  { p with errorText := fun f => screen.validator f (some (p.text f)) }

/-- No field has a message. -/
def accepted (screen : FormScreen) (p : FormPage) : Bool := validate (p.messages screen)

end FormPage

/-! ## In the session -/

/-- The app with the forms of its pages. -/
structure FormApp where
  app : App
  forms : FormScreen → Nat → FormPage := fun _ _ => {}

/-- What can happen: an input, the eye of the password field, the button, or what the app does. -/
inductive FormEvent
  | change (field : FormField) (value : Str)
  | toggleVisible
  | press
  /-- what is modelled of the app already, but for the button -/
  | app (e : Event)

namespace FormApp

/-- The form page on top. -/
def top (x : FormApp) : Option (FormScreen × Nat) :=
  match x.app.stack with
  | [] => none
  | r :: _ => if r.drawer.isSome then none else r.screen.form.map fun screen => (screen, r.page)

/-- The form of a page gets another state. -/
def setForm (x : FormApp) (screen : FormScreen) (page : Nat) (p : FormPage) : FormApp :=
  { x with forms := Function.update x.forms screen (Function.update (x.forms screen) page p) }

/-- The button of a form with these texts: the call is made with the trimmed email. -/
def submit (p : FormPage) : Event := .tap (.submit (p.text .email).trim)

/-- A call that returns reads the username field of the page it was made on. -/
def Reads (x : FormApp) : Event → Prop
  | .signUpReply context _ _ (.ok username) => username = ((x.forms .signUp context).text .username).trim
  | _ => True

/-- The app and its forms after an event. -/
def step (x : FormApp) : FormEvent → FormApp
  | .change field value =>
    match x.top with
    | some (screen, page) => x.setForm screen page ((x.forms screen page).change screen field value)
    | none => x
  | .toggleVisible =>
    match x.top with
    | some (screen, page) =>
      x.setForm screen page { x.forms screen page with isVisible := !(x.forms screen page).isVisible }
    | none => x
  | .press =>
    match x.top with
    | some (screen, page) =>
      let y := x.setForm screen page ((x.forms screen page).validated screen)
      if (x.forms screen page).accepted screen then { y with app := x.app.step (submit (x.forms screen page)) } else y
    | none => x
  | .app e => { x with app := x.app.step e }

end FormApp

/-- The events that may come: inputs to the form on top, and what the app may do, with the username that is
there. -/
def FormEvent.Ok (x : FormApp) : FormEvent → Prop
  | .change field _ => ∃ screen page, x.top = some (screen, page) ∧ field ∈ screen.fields
  | .toggleVisible => x.top.isSome
  | .press => x.top.isSome
  | .app e => e.enabled x.app = true ∧ (∀ email, e ≠ .tap (.submit email)) ∧ x.Reads e

/-- The session with its forms as a system. -/
def formSystem (user : Option User) : Trace.System FormApp FormEvent where
  init := { app := .start user }
  step := FormApp.step
  ok log e := e.Ok (Trace.after { app := .start user } FormApp.step log)

/-! ## What a step does -/

namespace FormApp

variable {x : FormApp} {e : FormEvent} {screen : FormScreen} {page : Nat}

theorem mem_of_top (h : x.top = some (screen, page)) :
    ∃ r rest, x.app.stack = r :: rest ∧ r.drawer = none ∧ r.page = page ∧ r.screen.form = some screen := by
  unfold top at h
  split at h
  · cases h
  · next r rest hst =>
    split at h
    · cases h
    · next hd =>
      obtain ⟨s, hs, heq⟩ := Option.map_eq_some_iff.1 h
      cases heq
      exact ⟨r, rest, hst, by simpa using hd, rfl, hs⟩

theorem form_eq_some {s : Screen} (h : s.form = some screen) :
    (screen = .login ∧ s = .login) ∨ (screen = .signUp ∧ s = .signUp) := by
  cases s <;> cases h
  · exact .inl ⟨rfl, rfl⟩
  · exact .inr ⟨rfl, rfl⟩

theorem submit_enabled (h : x.top = some (screen, page)) (p : FormPage) : (submit p).enabled x.app = true := by
  obtain ⟨r, rest, hst, hd, -, hs⟩ := mem_of_top h
  unfold submit
  rcases form_eq_some hs with ⟨-, hscreen⟩ | ⟨-, hscreen⟩ <;>
    simp [Event.enabled, App.tap, hst, hd, pageTap, hscreen]

theorem forms_setForm (p : FormPage) (screen' : FormScreen) (page' : Nat) :
    (x.setForm screen page p).forms screen' page' =
      if screen' = screen ∧ page' = page then p else x.forms screen' page' := by
  by_cases hs : screen' = screen
  · subst hs
    by_cases hp : page' = page <;> simp [setForm, hp]
  · simp [setForm, hs]

/-- What an event does to a form: an input to the page on top changes its text, and nothing else changes a
text or the colour of a button. -/
theorem forms_step (hok : e.Ok x) (screen : FormScreen) (page : Nat) :
    (∃ field value, e = .change field value ∧ x.top = some (screen, page) ∧ field ∈ screen.fields ∧
      (x.step e).forms screen page = (x.forms screen page).change screen field value) ∨
    (((x.step e).forms screen page).text = (x.forms screen page).text ∧
      ((x.step e).forms screen page).value = (x.forms screen page).value) := by
  have hset : ∀ {screen' page'} {p : FormPage}, p.text = (x.forms screen' page').text →
      p.value = (x.forms screen' page').value →
      ((x.setForm screen' page' p).forms screen page).text = (x.forms screen page).text ∧
        ((x.setForm screen' page' p).forms screen page).value = (x.forms screen page).value := by
    intro screen' page' p ht hv
    rw [forms_setForm]
    split
    · next heq => rw [heq.1, heq.2]; exact ⟨ht, hv⟩
    · exact ⟨rfl, rfl⟩
  cases e with
  | change field value =>
    obtain ⟨screen', page', htop, hfield⟩ := hok
    simp only [step, htop, forms_setForm]
    split
    · next heq =>
      obtain ⟨rfl, rfl⟩ := heq
      exact .inl ⟨field, value, rfl, rfl, hfield, rfl⟩
    · exact .inr ⟨rfl, rfl⟩
  | toggleVisible =>
    refine .inr ?_
    simp only [step]
    split
    · exact hset rfl rfl
    · exact ⟨rfl, rfl⟩
  | press =>
    refine .inr ?_
    simp only [step]
    split
    · split
      · exact hset rfl rfl
      · exact hset rfl rfl
    · exact ⟨rfl, rfl⟩
  | app e => exact .inr ⟨rfl, rfl⟩

/-- What an event does to the session: nothing, what the app may do, or the button of an accepted form. -/
theorem app_step (hok : e.Ok x) : (x.step e).app = x.app ∨
    (∃ ev, e = .app ev ∧ ev.enabled x.app = true ∧ (∀ email, ev ≠ .tap (.submit email)) ∧ x.Reads ev ∧
      (x.step e).app = x.app.step ev) ∨
    ∃ screen page, e = .press ∧ x.top = some (screen, page) ∧ (x.forms screen page).accepted screen = true ∧
      (x.step e).app = x.app.step (submit (x.forms screen page)) := by
  cases e with
  | change field value =>
    refine .inl ?_
    simp only [step]
    split <;> rfl
  | toggleVisible =>
    refine .inl ?_
    simp only [step]
    split <;> rfl
  | press =>
    cases htop : x.top with
    | none => exact .inl (by simp [step, htop])
    | some t =>
      obtain ⟨screen, page⟩ := t
      cases hacc : (x.forms screen page).accepted screen with
      | false => exact .inl (by simp [step, htop, hacc, setForm])
      | true => exact .inr (.inr ⟨screen, page, rfl, rfl, hacc, by simp [step, htop, hacc]⟩)
  | app ev => exact .inr (.inl ⟨ev, rfl, hok.1, hok.2.1, hok.2.2, rfl⟩)

/-- What an event is to the session. -/
def moves (x : FormApp) : FormEvent → Option Event
  | .app e => some e
  | .press => x.top.bind fun t => if (x.forms t.1 t.2).accepted t.1 then some (submit (x.forms t.1 t.2)) else none
  | _ => none

theorem app_of_moves (x : FormApp) (e : FormEvent) : (x.step e).app = (x.moves e).elim x.app x.app.step := by
  cases e with
  | change field value =>
    simp only [step]
    split <;> rfl
  | toggleVisible =>
    simp only [step]
    split <;> rfl
  | press =>
    simp only [step, moves]
    cases x.top with
    | none => rfl
    | some t => cases hacc : (x.forms t.1 t.2).accepted t.1 <;> simp [hacc, setForm]
  | app e => rfl

theorem moves_enabled (hok : e.Ok x) {ev : Event} (h : x.moves e = some ev) : ev.enabled x.app = true := by
  cases e with
  | app e => cases h; exact hok.1
  | press =>
    obtain ⟨⟨screen, page⟩, htop, ht⟩ := Option.bind_eq_some_iff.1 h
    obtain ⟨-, heq⟩ := Option.ite_none_right_eq_some.1 ht
    cases heq
    exact submit_enabled htop _
  | _ => cases h

end FormApp

/-! ## A new account -/

namespace NewAccount

/-- The sign-up form is opened and filled in, and the button pressed. -/
def submits : List FormEvent := [
  .press, .change .password (lit "12345678"), .change .email (lit "ann@mail.com "), .change .username (lit " Ann Lee"),
  .app (.tap .createAccount), .app (.deliver 0)]

theorem submits_valid : (formSystem none).Valid submits := by
  refine ⟨rfl, ⟨.signUp, 3, rfl, ?_⟩, ⟨.signUp, 3, rfl, ?_⟩, ⟨.signUp, 3, rfl, ?_⟩, ⟨rfl, ?_, trivial⟩,
    ⟨rfl, ?_, trivial⟩, trivial⟩
  · decide
  · decide
  · decide
  · intro _ h; cases h
  · intro _ h; cases h

/-- The account is there. -/
def created : List FormEvent := .app (.signUpReply 3 (lit "ann@mail.com") false (.ok (lit "Ann Lee"))) :: submits

/-- Before, the loading dialog is dismissed and the username taken out. -/
def createdNameless : List FormEvent :=
  .app (.signUpReply 3 (lit "ann@mail.com") false (.ok [])) :: .change .username [] :: .app .dismiss :: submits

end NewAccount

/-! ## The session under the forms -/

/-- What a log is to the session: the inputs are nothing to it, and a press only when the form is accepted. -/
def submitted (user : Option User) (log : List FormEvent) : List Event :=
  Trace.System.project { app := .start user } FormApp.step FormApp.moves log

theorem app_submitted (user : Option User) (log : List FormEvent) :
    (App.start user).after (submitted user log) = ((formSystem user).state log).app :=
  Trace.System.state_project (S := formSystem user) (T := appSystem (.start user)) FormApp.app rfl
    FormApp.app_of_moves log

/-- Refinement: the session with its forms runs as the session's model does, a press of an accepted form being
its submit. -/
theorem form_sessions_run (user : Option User) {log : List FormEvent} (h : (formSystem user).Valid log) :
    (appSystem (.start user)).Valid (submitted user log) := by
  refine Trace.System.project_valid (S := formSystem user) (T := appSystem (.start user)) fun e fs ev hs _ hemit => ?_
  show ev.enabled ((App.start user).after (submitted user fs)) = true
  rw [app_submitted]
  exact FormApp.moves_enabled (h.of_suffix hs).1 hemit

/-! ## The button -/

theorem colorFn_eq (screen : FormScreen) (text : FormField → Str) (value : ButtonColor) :
    screen.colorFn text value = if ∀ f ∈ screen.fields, text f ≠ [] then .orange else .grey := by
  cases screen <;>
    simp [FormScreen.colorFn, Login.colorFn, SignUp.colorFn, FormScreen.fields] <;> grind

/-- The button is orange exactly when every field has a text. -/
def FormPage.Colored (screen : FormScreen) (p : FormPage) : Prop :=
  p.value = .orange ↔ ∀ f ∈ screen.fields, p.text f ≠ []

theorem FormPage.Colored.change {screen : FormScreen} {p : FormPage} (h : p.Colored screen) (field : FormField)
    (value : Str) : (p.change screen field value).Colored screen := by
  unfold FormPage.change
  split
  · exact h
  · simp only [FormPage.Colored, colorFn_eq]
    split
    · next hall => exact iff_of_true rfl hall
    · next hall => exact iff_of_false (by simp) hall

theorem FormPage.colored_empty (screen : FormScreen) : FormPage.Colored screen {} := by
  refine iff_of_false (by simp) fun h => ?_
  cases screen
  · exact h .email (.head _) rfl
  · exact h .username (.head _) rfl

theorem colored_step {x : FormApp} {e : FormEvent} (hok : e.Ok x)
    (h : ∀ screen page, (x.forms screen page).Colored screen) (screen : FormScreen) (page : Nat) :
    ((x.step e).forms screen page).Colored screen := by
  rcases FormApp.forms_step hok screen page with ⟨field, value, -, -, -, hc⟩ | ⟨ht, hv⟩
  · rw [hc]; exact (h screen page).change field value
  · rw [FormPage.Colored, hv, ht]; exact h screen page

theorem colored (user : Option User) {log : List FormEvent} (h : (formSystem user).Valid log) :
    ∀ screen page, (((formSystem user).state log).forms screen page).Colored screen :=
  h.invariant (I := fun _ x => ∀ screen page, (x.forms screen page).Colored screen)
    (fun screen _ => FormPage.colored_empty screen) fun _ _ _ hok ih => colored_step hok ih

theorem message_of_empty {screen : FormScreen} {p : FormPage} {f : FormField} (hf : f ∈ screen.fields)
    (h : p.text f = []) : screen.validator f (some (p.text f)) ≠ none := by
  rw [h]
  cases screen <;> cases f <;> simp [FormScreen.fields] at hf <;>
    simp [FormScreen.validator, Login.emailValidator, Login.passwordValidator, SignUp.usernameValidator,
      SignUp.emailValidator, SignUp.passwordValidator, fieldValidator]

theorem accepted_iff {screen : FormScreen} {p : FormPage} :
    p.accepted screen = true ↔ ∀ f ∈ screen.fields, screen.validator f (some (p.text f)) = none := by
  simp [FormPage.accepted, validate, FormPage.messages]

/-- In every run of the session, on every login and sign-up page: the button is orange exactly when every
field has a text; and pressing it while it is grey starts no call, leaves the stack as it is and puts a
message under some field. -/
theorem button_orange_iff (user : Option User) (log : List FormEvent) (h : (formSystem user).Valid log)
    (screen : FormScreen) (page : Nat) :
    ((((formSystem user).state log).forms screen page).value = .orange ↔
      ∀ f ∈ screen.fields, (((formSystem user).state log).forms screen page).text f ≠ []) ∧
    (((formSystem user).state log).top = some (screen, page) →
      (((formSystem user).state log).forms screen page).value = .grey →
      (((formSystem user).state log).step .press).app = ((formSystem user).state log).app ∧
      ∃ f ∈ screen.fields, ((((formSystem user).state log).step .press).forms screen page).errorText f ≠ none) := by
  have hcolored := colored user h screen page
  refine ⟨hcolored, fun htop hgrey => ?_⟩
  generalize (formSystem user).state log = x at hcolored htop hgrey ⊢
  obtain ⟨f, hf, hempty⟩ : ∃ f ∈ screen.fields, (x.forms screen page).text f = [] := by
    by_contra hall
    push Not at hall
    rw [hcolored.2 hall] at hgrey
    cases hgrey
  have hmessage := message_of_empty hf hempty
  have hacc : (x.forms screen page).accepted screen = false := by
    rw [← Bool.not_eq_true, accepted_iff]
    exact fun hall => hmessage (hall f hf)
  simp only [FormApp.step, htop, hacc, Bool.false_eq_true, if_false, FormApp.forms_setForm, and_self, if_true]
  exact ⟨rfl, f, hf, hmessage⟩

open NewAccount in
theorem button_orange_iff_submits :
    (formSystem none).Valid (submits.drop 2) ∧
    (((formSystem none).state (submits.drop 2)).forms .signUp 3).value = .grey ∧
    (((formSystem none).state (submits.drop 2)).step .press).app = ((formSystem none).state (submits.drop 2)).app := by
  have hv := submits_valid.of_suffix (List.drop_suffix 2 submits)
  exact ⟨hv, rfl, ((button_orange_iff none _ hv .signUp 3).2 rfl rfl).1⟩

/-! ## Waiting calls -/

/-- A tap that starts a sign-up call is the button of the sign-up page on top. -/
theorem tap_start {w : App} {t : Tap} {eff : Effect} (h : w.tap t = some eff) {context : Nat} {email : Str}
    {created : Bool} (hstart : Task.signUp context email created ∈ eff.start) :
    t = .submit email ∧
      ∃ r rest, w.stack = r :: rest ∧ r.drawer = none ∧ r.screen = .signUp ∧ r.page = context := by
  unfold App.tap at h
  split at h
  · cases h
  · next top rest hst =>
    cases hd : top.drawer with
    | some drawer =>
      rw [hd] at h
      simp only [drawerTap] at h
      split at h <;> cases h
      · cases hstart
      · cases hstart
      · cases List.mem_singleton.1 hstart
    | none =>
      rw [hd] at h
      simp only [pageTap] at h
      split at h
      -- only the button of the sign-up page starts such a call
      all_goals first
        | (cases h; cases hstart; done)
        | (cases h; cases List.mem_singleton.1 hstart; done)
        | (cases h; cases List.mem_singleton.1 hstart
           next hs => exact ⟨rfl, top, rest, hst, hd, hs, rfl⟩)
        | (split at h <;> cases h; cases hstart)
        | cases h

/-- A sign-up call that an event starts goes on with one that was waiting, or its button was pressed. -/
theorem effect_start {w : App} {ev : Event} (he : ev.enabled w = true) {context : Nat} {email : Str} {created : Bool}
    (h : Task.signUp context email created ∈ (ev.effect w).start) :
    (∃ created', Task.signUp context email created' ∈ w.tasks) ∨
    (ev = .tap (.submit email) ∧
      ∃ r rest, w.stack = r :: rest ∧ r.drawer = none ∧ r.screen = .signUp ∧ r.page = context) := by
  cases ev with
  | tap t =>
    obtain ⟨eff, heff⟩ := Option.isSome_iff_exists.1 he
    simp only [Event.effect, heff, Option.getD_some] at h
    obtain ⟨rfl, hr⟩ := tap_start heff h
    exact .inr ⟨rfl, hr⟩
  | accountCreated context' email' =>
    cases List.mem_singleton.1 h
    refine .inl ⟨false, ?_⟩
    simpa [Event.enabled, Event.task] using he
  | signinReply context result => rcases result with ⟨_ | _⟩ | user <;> cases h
  | signUpReply context email created result =>
    rcases result with ⟨_ | _⟩ | _
    · cases h
    · cases h
    · cases List.mem_singleton.1 h
  | updateDisplayNameReply email username result => cases result <;> cases h
  | googleReply button context reply =>
    simp only [Event.effect, GoogleButton.reply] at h
    split at h
    · cases List.mem_singleton.1 h
    · cases h
  | delayOver context => cases List.mem_singleton.1 h
  | signOutReply context result => cases result <;> cases h
  | back => cases h
  | dismiss => cases h
  | deliver page => cases h
  | deliverError page => cases h
  | build page => cases h

/-- The sign-up calls that wait after an event waited before, or the button of a sign-up page was pressed. -/
theorem signUp_task_step {w : App} {ev : Event} (he : ev.enabled w = true) {context : Nat} {email : Str}
    {created : Bool} (h : Task.signUp context email created ∈ (w.step ev).tasks) :
    (∃ created', Task.signUp context email created' ∈ w.tasks) ∨
    (ev = .tap (.submit email) ∧
      ∃ r rest, w.stack = r :: rest ∧ r.drawer = none ∧ r.screen = .signUp ∧ r.page = context) := by
  have hmem : Task.signUp context email created ∈ (ev.effect w).start ++ ev.task.elim w.tasks w.tasks.erase := h
  rcases List.mem_append.1 hmem with hstart | hold
  · exact effect_start he hstart
  · refine .inl ⟨created, ?_⟩
    cases ht : ev.task with
    | none => rw [ht] at hold; exact hold
    | some t => rw [ht] at hold; exact List.mem_of_mem_erase hold

/-- A waiting call of the form system goes on with one that was waiting, or was made by the button of an
accepted sign-up form, with its trimmed email. -/
theorem FormApp.signUp_task_step {x : FormApp} {e : FormEvent} (hok : e.Ok x) {context : Nat} {email : Str}
    {created : Bool} (h : Task.signUp context email created ∈ (x.step e).app.tasks) :
    (∃ created', Task.signUp context email created' ∈ x.app.tasks) ∨
    (e = .press ∧ (x.forms .signUp context).accepted .signUp = true ∧
      email = ((x.forms .signUp context).text .email).trim) := by
  rcases app_step hok with happ | ⟨ev, rfl, he, hne, -, happ⟩ | ⟨screen, page, rfl, htop, hacc, happ⟩
  · rw [happ] at h
    exact .inl ⟨created, h⟩
  · rw [happ] at h
    rcases Notely.signUp_task_step he h with hold | ⟨rfl, -⟩
    · exact .inl hold
    · exact absurd rfl (hne email)
  · rw [happ] at h
    rcases Notely.signUp_task_step (submit_enabled htop _) h with hold | ⟨heq, r, rest, hst, -, hscreen, rfl⟩
    · exact .inl hold
    · obtain ⟨r', rest', hst', -, rfl, hs⟩ := mem_of_top htop
      rw [hst] at hst'
      cases hst'
      rw [hscreen] at hs
      cases hs
      cases heq
      exact .inr ⟨rfl, hacc, rfl⟩

theorem accepted_trim {p : FormPage} (h : p.accepted .signUp = true) :
    SignUp.usernameValidator (some (p.text .username).trim) = none ∧
      SignUp.emailValidator (some (p.text .email).trim) = none := by
  have hall := accepted_iff.1 h
  exact ⟨usernameValidator_trim (hall .username (.head _)), emailValidator_trim (hall .email (.tail _ (.head _)))⟩

/-! ## The name of a new account -/

/-- The event leaves the username alone on a page whose sign-up call is waiting. -/
def FormEvent.KeepsName (x : FormApp) : FormEvent → Prop
  | .change .username _ => ∀ screen page, x.top = some (screen, page) →
      ∀ email created, Task.signUp page email created ∉ x.app.tasks
  | _ => True

/-- Each waiting call has an accepted email, and on its page there is an accepted username. -/
def FormApp.CallsAccepted (x : FormApp) : Prop :=
  ∀ context email created, Task.signUp context email created ∈ x.app.tasks →
    SignUp.usernameValidator (some ((x.forms .signUp context).text .username).trim) = none ∧
      SignUp.emailValidator (some email) = none

theorem FormPage.change_text (screen : FormScreen) (p : FormPage) (field : FormField) (value : Str) :
    (p.change screen field value).text = Function.update p.text field value := by
  unfold FormPage.change
  split
  · next heq => rw [heq, Function.update_eq_self]
  · rfl

/-- The username of a page stays, where a call of the page is waiting. -/
theorem username_step {x : FormApp} {e : FormEvent} (hok : e.Ok x) (hk : e.KeepsName x) {context : Nat}
    {email : Str} {created : Bool} (ht : Task.signUp context email created ∈ x.app.tasks) :
    ((x.step e).forms .signUp context).text .username = (x.forms .signUp context).text .username := by
  rcases FormApp.forms_step hok .signUp context with ⟨field, value, rfl, htop, -, hc⟩ | ⟨htext, -⟩
  · rw [hc, FormPage.change_text]
    cases field with
    | username => exact absurd ht (hk .signUp context htop email created)
    | email => rfl
    | password => rfl
  · rw [htext]

theorem FormApp.CallsAccepted.step {x : FormApp} (h : x.CallsAccepted) {e : FormEvent} (hok : e.Ok x)
    (hk : e.KeepsName x) : (x.step e).CallsAccepted := by
  intro context email created ht
  rcases FormApp.signUp_task_step hok ht with ⟨created', hold⟩ | ⟨rfl, hacc, rfl⟩
  · rw [username_step hok hk hold]
    exact h context email created' hold
  · rcases FormApp.forms_step hok .signUp context with ⟨_, _, heq, -⟩ | ⟨htext, -⟩
    · cases heq
    · rw [htext]
      exact accepted_trim hacc

open NewAccount in
/-- The field is read too late: an accepted form can name its account with nothing. -/
theorem emptied_username_named :
    (formSystem none).Valid createdNameless ∧
    .updateDisplayName (lit "ann@mail.com") [] ∈ ((formSystem none).state createdNameless).app.tasks ∧
    SignUp.usernameValidator (some []) ≠ none := by
  refine ⟨⟨⟨rfl, ?_, rfl⟩, ⟨.signUp, 3, rfl, by decide⟩, ⟨rfl, ?_, trivial⟩, submits_valid⟩, .head _, by decide⟩
  · intro _ h; cases h
  · intro _ h; cases h

end Notely
