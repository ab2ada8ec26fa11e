/-
Accounts on shared devices. People sign out and others sign in on the same device, while pages are open and
calls are pending. A handler stamps the email of whoever is signed in when it runs on the note of a tile that
was shown before, so what keeps the accounts apart is that no page outlives its account. Opening, building and
typing never mix the pages: only a sign-in that leaves a former account's page on the stack does
(`pages_unmixed_iff`), and none does that finds the page it was made on (`attended_sign_ins_unmixed`). Then the
notes of the accounts stay apart, in the collection and on the screens (`accounts_kept_apart`).
-/
import Notely.Devices.World
import Notely.Store.Isolation

namespace Notely

open DocStore

section World

variable {Device : Type} [DecidableEq Device] (user : Device → Option User)

/-- When the event signs another account in on its device, no page of a former one stays. -/
def WorldEvent.Clean (log : List (WorldEvent Device)) : WorldEvent Device → Prop
  | .on d e => ((world user log).device d).CleanSwitch e
  | _ => True

/-! ## Pages -/

/-- A clean event keeps the pages of every device unmixed. -/
theorem unmixed_step {e : WorldEvent Device} {log : List (WorldEvent Device)} (h : (worldSystem user).Valid (e :: log))
    (hc : e.Clean user log) (hmix : ∀ d, ((world user log).device d).Unmixed) :
    ∀ d, ((world user (e :: log)).device d).Unmixed := by
  intro d
  rcases device_cases user h d with hsame | ⟨e', rfl, hstep, hok⟩
  · rw [hsame]; exact hmix d
  · rw [hstep]; exact (hmix d).step ((consistent user h.2).sound d) hok hc

theorem unmixed_run : ∀ {log : List (WorldEvent Device)}, (worldSystem user).Valid log →
    Trace.Always (WorldEvent.Clean user) log → ∀ d, ((world user log).device d).Unmixed
  | [], _, _, _ => fun _ _ _ _ _ ha => by cases ha
  | _ :: _, h, hc, d => unmixed_step user h hc.1 (unmixed_run h.2 hc.2) d

end World

/-- Only an event of the app itself can sign another account in. -/
theorem DeviceState.cleanSwitch_of_not_app {x : DeviceState} {e : DeviceEvent} {has : AtHand} (hok : e.Ok has x)
    (he : ∀ ev, e ≠ .app ev) : x.CleanSwitch e := by
  intro account haccount hne
  rw [DeviceState.email, DeviceState.currentUser_step hok he] at haccount
  exact absurd haccount hne

/-! ## Sign-ins on their page -/

/-- The events that sign somebody in. -/
def Event.signsIn : Event → Bool
  | signinReply _ (.ok _) => true
  | accountCreated _ _ => true
  | signUpReply _ _ _ (.ok _) => true
  | googleReply _ _ (.signInWithCredential (.ok _)) => true
  | _ => false

/-- Every other event leaves the account, or signs it out. -/
theorem email_step {w : App} {e : Event} (h : e.signsIn = false) :
    (w.step e).currentUser.map User.email = w.currentUser.map User.email ∨ (w.step e).currentUser = none := by
  cases e with
  | tap t =>
    refine .inl ?_
    show ((w.tap t).getD { session := w.toSession }).session.currentUser.map User.email = _
    cases ht : w.tap t with
    | none => rfl
    | some eff =>
      have hs := (tap_brings (P := fun _ => True) ht (fun _ _ => trivial) fun _ _ => trivial).1
      rw [Option.getD_some, hs]
  | signinReply context result =>
    rcases result with ⟨_ | _⟩ | user
    · exact .inl rfl
    · exact .inl rfl
    · cases h
  | signUpReply context email created result =>
    rcases result with ⟨_ | _⟩ | user
    · exact .inl rfl
    · exact .inl rfl
    · cases h
  | updateDisplayNameReply email username result =>
    refine .inl ?_
    cases result with
    | error _ => rfl
    | ok _ =>
      show (w.currentUser.map _).map User.email = _
      rw [Option.map_map]
      congr 1
      funext user
      simp only [Function.comp_apply]
      split <;> rfl
  | googleReply button context reply =>
    refine .inl ?_
    show (button.reply w context reply).session.currentUser.map User.email = _
    rcases reply with (_ | _ | account) | (_ | _) | (_ | user)
    · rfl
    · rfl
    · rfl
    · rfl
    · rfl
    · rfl
    · cases h
  | signOutReply context result =>
    cases result with
    | error _ => exact .inl rfl
    | ok _ => exact .inr rfl
  | accountCreated context email => cases h
  | back => exact .inl rfl
  | dismiss => exact .inl rfl
  | deliver page => exact .inl rfl
  | deliverError page => exact .inl rfl
  | build page => exact .inl rfl
  | delayOver context => exact .inl rfl

/-- A call that signs somebody in finds the page it was made on; and when Firebase has signed a new account in
before its call returns, no page shows notes. -/
def DeviceState.Attended (x : DeviceState) : Event → Prop
  | .signinReply context (.ok _) => x.app.mounted context = true
  | .signUpReply context _ _ (.ok _) => x.app.mounted context = true
  | .googleReply _ context (.signInWithCredential (.ok _)) => x.app.mounted context = true
  | .accountCreated _ _ => ∀ r ∈ x.app.stack, (x.contents r.page).account = none
  | _ => True

/-- A call that finds its page leaves one page on the stack, a new one. -/
theorem DeviceState.owned_of_cleared {x : DeviceState} (h : x.Sound) {ev : Event} {account : Str}
    (hst : (x.app.step ev).stack = [x.app.page .savedNotes]) : (x.step (.app ev)).Owned account := by
  intro r hr a ha
  rw [DeviceState.step_app] at hr
  change r ∈ (x.app.step ev).stack at hr
  rw [hst, List.mem_singleton] at hr
  subst hr
  change (x.contents x.app.fresh).account = some a at ha
  rw [h.unused _ (Nat.le_refl _)] at ha
  cases ha

/-- The test of either Google button is then passed: the account was recorded when it was chosen. -/
theorem test_of_recorded {w : App} (h : Recorded w) {button : GoogleButton} {context : Nat} {user : User}
    (he : (Event.googleReply button context (.signInWithCredential (.ok user))).enabled w = true)
    (hm : w.mounted context = true) :
    button.test w context { w.toSession with currentUser := some user } = true := by
  cases button with
  | login =>
    have hwaiting : .googleLogIn .login context .signInWithCredential ∈ w.tasks := by
      simpa [Event.enabled, Event.task, GoogleReply.await] using he
    have hg := Option.isSome_iff_ne_none.2 (h _ _ _ hwaiting (by decide))
    simp only [GoogleButton.test, hg, hm, Bool.and_self]
  | signUp => exact hm

theorem DeviceState.Attended.clean {x : DeviceState} {ev : Event} (hx : x.Sound) (he : ev.enabled x.app = true)
    (h : x.Attended ev) : x.CleanSwitch (.app ev) := by
  intro account haccount hne
  cases hs : ev.signsIn with
  | false =>
    rcases email_step (w := x.app) hs with hsame | hnone
    · exact absurd (hsame.symm.trans haccount) hne
    · change (x.app.step ev).currentUser.map User.email = some account at haccount
      rw [hnone] at haccount; cases haccount
  | true =>
    cases ev with
    | signinReply context result =>
      rcases result with _ | user
      · cases hs
      · refine owned_of_cleared hx ?_
        have hm : x.app.mounted context = true := h
        simp [App.step, Event.effect, Login.signinReply, hm, Event.delivery, App.rebuild, App.removeAll]
    | signUpReply context email created result =>
      rcases result with _ | _
      · cases hs
      · refine owned_of_cleared hx ?_
        have hm : x.app.mounted context = true := h
        simp [App.step, Event.effect, SignUp.signUpReply, hm, Event.delivery, App.rebuild, App.removeAll]
    | googleReply button context reply =>
      rcases reply with _ | _ | (_ | user)
      · cases hs
      · cases hs
      · cases hs
      · refine owned_of_cleared hx ?_
        have ht := test_of_recorded hx.recorded he h
        simp [App.step, Event.effect, GoogleButton.reply, GoogleReply.resume, GoogleButton.errorDialog,
          GoogleButton.onPressed, ht, Event.delivery, App.rebuild, App.removeAll]
    | accountCreated context email =>
      intro r hr a ha
      have hr : r ∈ x.app.stack := hr
      have ha : (x.contents r.page).account = some a := ha
      rw [h r hr] at ha; cases ha
    | _ => cases hs

/-- A sign-in of the event finds its page. -/
def WorldEvent.Attended {Device : Type} [DecidableEq Device] (user : Device → Option User)
    (log : List (WorldEvent Device)) : WorldEvent Device → Prop
  | .on d (.app ev) => ((world user log).device d).Attended ev
  | _ => True

theorem attended_clean {Device : Type} [DecidableEq Device] (user : Device → Option User) :
    ∀ {log : List (WorldEvent Device)}, (worldSystem user).Valid log →
      Trace.Always (WorldEvent.Attended user) log → Trace.Always (WorldEvent.Clean user) log
  | [], _, _ => trivial
  | e :: log, h, ha => by
    refine ⟨?_, attended_clean user h.2 ha.2⟩
    cases e with
    | on d e =>
      by_cases he : ∃ ev, e = .app ev
      · obtain ⟨ev, rfl⟩ := he
        exact DeviceState.Attended.clean ((consistent user h.2).sound d) h.1.1.1 ha.1
      · exact DeviceState.cleanSwitch_of_not_app h.1.1 (not_exists.1 he)
    | land f => trivial
    | reject f => trivial

/-! ## A shared tablet -/

namespace SharedTablet

/-- Ann's account. -/
def ann : User := { email := lit "ann@mail.com", displayName := some (lit "Ann") }

/-- Ben's account. -/
def ben : User := { email := lit "ben@mail.com", displayName := some (lit "Ben") }

/-- Ann's note as it is stored. -/
def annsNote : Doc := Entry.json (lit "n1") {
  title := lit "Milk", description := [], email := ann.email, timeAdded := lit "1", isFavorite := false }

/-- What the save icon issues after the title is typed. -/
def annSaves : Step := {
  user := ann.email, now := lit "1", autoId := lit "n1",
  action := .create .saveIcon { title := lit "Milk", controllerTitleText := lit "Milk" } }

/-- The title is typed. -/
def typesMilk : NoteTakingEvent := .change .title { text := lit "Milk", selection := .collapsed 4 }

section Writes

variable {Device : Type}

/-- From the list on `page`, a title is typed on a new page, which is left by the save icon. -/
def savesNote (d : Device) (page : Nat) : List (WorldEvent Device) := [
  .on d (.exit .saveIcon (lit "1") (lit "n1")), .on d (.type typesMilk), .on d .newNote,
  .on d (.build page .savedNotes)]

/-- The list shows the note before its write lands, and after. -/
def writesNote (d : Device) (page : Nat) : List (WorldEvent Device) := [
  .on d (.result page [(lit "n1", annsNote)]), .land ⟨0, (d, ann.email), annSaves⟩,
  .on d (.result page [(lit "n1", annsNote)])] ++ savesNote d page

/-- Ann is on the list page of a route. -/
structure OnList (x : DeviceState) (r : Route) : Prop where
  stack : ∃ rest, x.app.stack = r :: rest
  screen : r.screen = .savedNotes
  drawer : r.drawer = none
  user : x.app.currentUser = some ann

/-- The list of the page is Ann's. -/
def ShowsAnn (x : DeviceState) (page : Nat) : Prop :=
  ∃ l : NotesList, x.contents page = .list .savedNotes l ∧ l.account = ann.email

variable {x : DeviceState} {r : Route}

theorem OnList.build (h : OnList x r) :
    OnList (x.step (.build r.page .savedNotes)) r ∧ ShowsAnn (x.step (.build r.page .savedNotes)) r.page := by
  refine ⟨⟨h.stack, h.screen, h.drawer, h.user⟩, ?_⟩
  have hput : x.puts (.build r.page .savedNotes) = some (r.page, .list .savedNotes {
      account := ann.email, empty := SavedNotes.emptyLines (lit "Ann"),
      snapshot := { (x.contents r.page).snapshot with connectionState := .waiting } }) := by
    rw [DeviceState.puts, h.user]
    rfl
  exact ⟨_, DeviceState.contents_of_puts hput, rfl⟩

theorem ShowsAnn.step {e : DeviceEvent} {page : Nat} (hl : ShowsAnn x page)
    (hput : ∀ c, x.puts e ≠ some (page, c)) : ShowsAnn (x.step e) page := by
  unfold ShowsAnn
  rw [DeviceState.contents_of_not_puts hput]
  exact hl

/-- A new note is begun and its title typed. -/
theorem OnList.typed (h : OnList x r) (hx : x.Sound) (hl : ShowsAnn x r.page) :
    (Event.tap .newNote).enabled x.app = true ∧ ∃ page rest,
      ((x.step .newNote).step (.type typesMilk)).top = some (page, .taking (NoteTakingState.step {} typesMilk)) ∧
      ((x.step .newNote).step (.type typesMilk)).app.stack = x.app.page .noteTakingPage :: r :: rest ∧
      ((x.step .newNote).step (.type typesMilk)).email = some ann.email ∧
      ShowsAnn ((x.step .newNote).step (.type typesMilk)) r.page := by
  obtain ⟨rest, hst⟩ := h.stack
  have htap : x.app.tap .newNote =
      some { session := x.app.toSession, nav := [.push (x.app.page .noteTakingPage)] } := by
    simp [App.tap, hst, h.drawer, pageTap, h.screen]
  have henabled : (Event.tap .newNote).enabled x.app = true := by simp [Event.enabled, htap]
  have hstack : (x.step .newNote).app.stack = x.app.page .noteTakingPage :: r :: rest := by
    rw [← hst]
    show (x.app.step (.tap .newNote)).stack = _
    simp only [App.step, Event.effect, htap, Event.delivery, App.rebuild]
    rfl
  have htop : (x.step .newNote).top = some (x.app.fresh, .taking {}) := by
    rw [DeviceState.top_of_stack hstack rfl]
    exact congrArg (fun c => some (_, c)) (DeviceState.contents_of_puts rfl)
  have hput : (x.step .newNote).puts (.type typesMilk) =
      some (x.app.fresh, .taking (NoteTakingState.step {} typesMilk)) := by
    simp only [DeviceState.puts, htop]
  have hne : r.page ≠ x.app.fresh := Nat.ne_of_lt (hx.below r (by rw [hst]; exact .head _))
  refine ⟨henabled, x.app.fresh, rest, ?_, hstack, ?_, ?_⟩
  · have hstack : ((x.step .newNote).step (.type typesMilk)).app.stack = _ := hstack
    rw [DeviceState.top_of_stack hstack rfl]
    exact congrArg (fun c => some (_, c)) (DeviceState.contents_of_puts hput)
  · show ((x.app.step (.tap .newNote)).currentUser.map User.email) = _
    rw [DeviceState.currentUser_tap henabled, h.user]; rfl
  · refine ShowsAnn.step (hl.step fun c hc => ?_) fun c hc => ?_
    · exact hne (Prod.mk.inj (Option.some.inj hc)).1.symm
    · exact hne (Prod.mk.inj (Option.some.inj (hput.symm.trans hc))).1.symm

theorem saved_from {page : Nat} {route : Route} {rest : List Route}
    (htop : x.top = some (page, .taking (NoteTakingState.step {} typesMilk)))
    (hst : x.app.stack = route :: r :: rest) (hd : route.drawer = none) (hemail : x.email = some ann.email)
    (hp : x.provider = {}) (hl : ShowsAnn x r.page) :
    x.handler (.exit .saveIcon (lit "1") (lit "n1")) = some annSaves ∧
      (x.step (.exit .saveIcon (lit "1") (lit "n1"))).app.mounted r.page = true ∧
      ShowsAnn (x.step (.exit .saveIcon (lit "1") (lit "n1"))) r.page := by
  refine ⟨?_, ?_, hl.step fun c hc => by simp [DeviceState.puts, htop] at hc⟩
  · simp only [DeviceState.handler, htop, hemail, Option.map_some, DeviceState.stepOf, hp]
    rfl
  · have hmoves : x.moves (.exit .saveIcon (lit "1") (lit "n1")) = some .back := by
      simp only [DeviceState.moves, htop]
    have hback : (x.app.step .back).stack = r :: rest := by
      simp only [App.step, Event.effect, Event.delivery, App.rebuild, hst]
      simp [Navigator.Op.apply, Navigator.popTop, Route.closeDrawer, hd]
    rw [DeviceState.step_app, hmoves]
    exact mounted_of_mem (hback ▸ .head _)

/-- Where her note is at hand, a result with it may come, and the list is still hers. -/
theorem result_ok {has : AtHand} {page : Nat} (hm : x.app.mounted page = true) (hl : ShowsAnn x page)
    (hhas : has ann.email (lit "n1") annsNote) :
    DeviceEvent.Ok has x (.result page [(lit "n1", annsNote)]) ∧
      ShowsAnn (x.step (.result page [(lit "n1", annsNote)])) page := by
  obtain ⟨l, hl, hacc⟩ := hl
  refine ⟨⟨hm, fun screen l' hl' => ?_⟩, l.onData [(lit "n1", annsNote)], DeviceState.contents_of_puts ?_, hacc⟩
  · cases hl.symm.trans hl'
    rw [hacc]
    refine ⟨Rows.lists_singleton rfl, fun k doc hmem => ?_⟩
    cases List.mem_singleton.1 hmem
    exact hhas
  · simp only [DeviceState.puts, hl]

variable [DecidableEq Device] (user : Device → Option User) {d : Device} {before : List (WorldEvent Device)}

/-- From a list page of hers, with nothing sent before, Ann can save her note. -/
theorem savesNote_valid (h : (worldSystem user).Valid before) (hsent : sent user before = [])
    (hon : OnList ((world user before).device d) r) :
    (worldSystem user).Valid (savesNote d r.page ++ before) ∧
      sent user (savesNote d r.page ++ before) = [.issue (d, ann.email) annSaves] ∧
      ((world user (savesNote d r.page ++ before)).device d).app.mounted r.page = true ∧
      ShowsAnn ((world user (savesNote d r.page ++ before)).device d) r.page := by
  obtain ⟨rest₀, hst₀⟩ := hon.stack
  obtain ⟨hon₁, hl₁⟩ := hon.build
  have hbuilt : (worldSystem user).Valid (.on d (.build r.page .savedNotes) :: before) :=
    ⟨⟨⟨r, by rw [hst₀]; exact .head _, rfl, hon.screen⟩, by rintro s ⟨⟩⟩, h⟩
  rw [← device_on_self] at hon₁ hl₁
  -- the title is typed on a new page
  obtain ⟨hnew, page, rest, htop, hst, hemail, hl⟩ := hon₁.typed ((consistent user hbuilt).sound d) hl₁
  rw [← device_on_self, ← device_on_self] at htop hst hemail hl
  have htyped : (worldSystem user).Valid (.on d (.type typesMilk) :: .on d .newNote ::
      .on d (.build r.page .savedNotes) :: before) := by
    refine ⟨⟨fun _ _ _ => ?_, by rintro s ⟨⟩⟩, ⟨hnew, by rintro s ⟨⟩⟩, hbuilt⟩
    show TextEditing.TextEditingValue.Bounded { text := lit "Milk", selection := .collapsed 4 }
    decide
  -- the page is saved
  obtain ⟨hhandler, hm, hl⟩ := saved_from htop hst rfl hemail ((consistent user htyped).provider d) hl
  rw [← device_on_self] at hm hl
  refine ⟨⟨⟨trivial, fun s _ _ c s' hs' => ?_⟩, htyped⟩, ?_, hm, hl⟩
  · have hs' : CloudEvent.issue c s' ∈ sent user before := hs'
    rw [hsent] at hs'; cases hs'
  · exact (sent_of_traffic user (traffic_handler _ hhandler)).trans (congrArg _ hsent)

/-- The list can then show the note before its write lands, and after. -/
theorem writesNote_valid (h : (worldSystem user).Valid before) (hsent : sent user before = [])
    (hon : OnList ((world user before).device d) r) : (worldSystem user).Valid (writesNote d r.page ++ before) := by
  obtain ⟨hv, hsaved, hm, hl⟩ := savesNote_valid user h hsent hon
  set saved := savesNote d r.page ++ before
  set shown := .on d (.result r.page [(lit "n1", annsNote)]) :: saved
  -- first the device has the note of its own write
  obtain ⟨hok, hl₁⟩ : DeviceEvent.Ok (atHand user saved d) _ _ ∧ _ :=
    result_ok hm hl (.set ⟨annSaves, by rw [hsaved]; exact .head _, rfl⟩)
  rw [← device_on_self] at hl₁
  have hshown : sent user shown = .deliver (d, ann.email) .savedNotes (Rows.notes [(lit "n1", annsNote)]) ::
      [.issue (d, ann.email) annSaves] := by
    obtain ⟨l, hl, hacc⟩ := hl
    rw [← hsaved, ← hacc]
    exact sent_of_traffic user (traffic_result _ hl)
  -- then the collection has it
  have hland : LandOk Prod.snd (sent user shown) ⟨0, (d, ann.email), annSaves⟩ := by
    rw [hshown]
    exact ⟨.head _, fun hn => absurd rfl hn⟩
  have hstored : (cloud Prod.snd (.land ⟨0, (d, ann.email), annSaves⟩ :: sent user shown)).store (lit "n1") =
      some annsNote := by
    rw [hshown]; rfl
  obtain ⟨hok₂, -⟩ : DeviceEvent.Ok (atHand user (.land ⟨0, (d, ann.email), annSaves⟩ :: shown) d) _ _ ∧ _ :=
    result_ok (by rw [device_on_self]; exact hm) hl₁ (cached_of_store _ hstored)
  exact ⟨⟨hok₂, by rintro s ⟨⟩⟩, hland, ⟨hok, by rintro s ⟨⟩⟩, hv⟩

theorem writesNote_attended {page : Nat} (h : Trace.Always (WorldEvent.Attended user) before) :
    Trace.Always (WorldEvent.Attended user) (writesNote d page ++ before) :=
  ⟨trivial, trivial, trivial, trivial, trivial, trivial, trivial, h⟩

end Writes

/-- Ann is signed in and writes her note. -/
def annWrites : List (WorldEvent Unit) := writesNote () 1 ++ [.on () (.app (.deliver 0))]

theorem annWrites_valid : (worldSystem (fun _ : Unit => some ann)).Valid annWrites := by
  refine writesNote_valid (r := { gate := some .home, screen := .savedNotes, page := 1 }) _
    ⟨⟨⟨rfl, rfl⟩, ?_⟩, trivial⟩ rfl ⟨⟨_, rfl⟩, rfl, rfl, rfl⟩
  rintro s ⟨⟩

/-- She signs out and Ben signs in, whose list comes back empty. -/
def benSignsIn : List (WorldEvent Unit) := [
  .on () (.result 19 []), .on () (.build 19 .savedNotes), .on () (.app (.signinReply 15 (.ok ben))),
  .on () (.app (.tap (.submit ben.email))), .on () (.app (.tap .signInLink)),
  .on () (.app (.signOutReply 7 (.ok ()))), .on () (.app (.delayOver 7)), .on () (.app (.tap .signOut)),
  .on () (.app (.tap .menu))] ++ annWrites

theorem benSignsIn_valid : (worldSystem (fun _ : Unit => some ann)).Valid benSignsIn := by
  refine ⟨⟨⟨rfl, ?_⟩, ?_⟩, ⟨⟨_, .head _, rfl, rfl⟩, ?_⟩, ⟨⟨rfl, rfl⟩, ?_⟩, ⟨⟨rfl, rfl⟩, ?_⟩, ⟨⟨rfl, rfl⟩, ?_⟩,
    ⟨⟨rfl, rfl⟩, ?_⟩, ⟨⟨rfl, rfl⟩, ?_⟩, ⟨⟨rfl, rfl⟩, ?_⟩, ⟨⟨rfl, rfl⟩, ?_⟩, annWrites_valid⟩
  · exact fun screen l _ => ⟨Rows.lists_nil, fun k doc hmem => by cases hmem⟩
  all_goals rintro s ⟨⟩

theorem benSignsIn_attended : Trace.Always (WorldEvent.Attended fun _ : Unit => some ann) benSignsIn :=
  ⟨trivial, trivial, rfl, trivial, trivial, trivial, trivial, trivial, trivial,
    writesNote_attended _ ⟨trivial, trivial⟩⟩

/-- Nobody is signed in. A Google sign-in is left waiting, and Ann signs in with her email from the same page. -/
def annSignsIn : List (WorldEvent Unit) := [
  .on () (.app (.signinReply 3 (.ok ann))), .on () (.app (.tap (.submit ann.email))),
  .on () (.app (.tap .google)), .on () (.app (.tap .signInLink)), .on () (.app (.deliver 0))]

/-- She writes her note; then the first one completes, as Ben. -/
def benComesLate : List (WorldEvent Unit) := [
  .on () (.app (.googleReply .login 3 (.signInWithCredential (.ok ben)))),
  .on () (.app (.googleReply .login 3 (.authentication (.ok ())))),
  .on () (.app (.googleReply .login 3 (.signIn (.ok (some ⟨ben.email⟩)))))] ++ (writesNote () 9 ++ annSignsIn)

/-- What the menu of the note on the screen issues now. -/
def benToggles : Step := { user := ben.email, now := lit "2", autoId := lit "n2", action := .toggleFavorite annsNote }

/-- The write lands. -/
def benTakes : List (WorldEvent Unit) :=
  .land ⟨1, ((), ben.email), benToggles⟩ :: .on () (.toggle 0 (lit "2") (lit "n2")) :: benComesLate

theorem annSignsIn_valid : (worldSystem (fun _ : Unit => none)).Valid annSignsIn := by
  refine ⟨⟨⟨rfl, rfl⟩, ?_⟩, ⟨⟨rfl, rfl⟩, ?_⟩, ⟨⟨rfl, rfl⟩, ?_⟩, ⟨⟨rfl, rfl⟩, ?_⟩, ⟨⟨rfl, rfl⟩, ?_⟩, trivial⟩ <;>
    rintro s ⟨⟩

theorem benTakes_valid : (worldSystem (fun _ : Unit => none)).Valid benTakes := by
  have hann : (worldSystem (fun _ : Unit => none)).Valid (writesNote () 9 ++ annSignsIn) :=
    writesNote_valid (r := { screen := .savedNotes, page := 9 }) _ annSignsIn_valid rfl ⟨⟨_, rfl⟩, rfl, rfl, rfl⟩
  refine ⟨⟨.head _, fun _ => ⟨_, _, annsNote, rfl, List.suffix_refl _, rfl⟩⟩, ⟨trivial, ?_⟩, ⟨⟨rfl, rfl⟩, ?_⟩,
    ⟨⟨rfl, rfl⟩, ?_⟩, ⟨⟨rfl, rfl⟩, ?_⟩, hann⟩
  · rintro s ⟨⟩ ⟨⟩
  all_goals rintro s ⟨⟩

end SharedTablet

/-! ## When the pages are unmixed -/

open SharedTablet in
/-- A sign-in that completes when another account's page is open: the note of the first becomes the other's. -/
theorem late_sign_in_takes_note :
    (worldSystem (fun _ : Unit => none)).Valid benTakes ∧
    ¬ ((world (fun _ : Unit => none) benComesLate).device ()).Unmixed ∧
    ((world (fun _ : Unit => none) benComesLate).cloud.store (lit "n1")).map (· "email") =
      some (some (.str ann.email)) ∧
    ((world (fun _ : Unit => none) benTakes).cloud.store (lit "n1")).map (· "email") =
      some (some (.str ben.email)) := by
  refine ⟨benTakes_valid, fun hmix => ?_, rfl, rfl⟩
  have h : ann.email = ben.email := hmix ben.email rfl _ (.head _) ann.email rfl
  revert h; decide

/-- When every call that signs somebody in finds the page it was made on still there (and a new account that
Firebase signs in before the call returns finds no page with notes), the pages are unmixed on every device at
every point of the run: leaving a sign-in page while its call is pending is all there is to avoid. -/
theorem attended_sign_ins_unmixed {Device : Type} [DecidableEq Device] (user : Device → Option User)
    (log : List (WorldEvent Device)) (h : (worldSystem user).Valid log)
    (ha : Trace.Always (WorldEvent.Attended user) log) :
    ∀ fs, fs <:+ log → ∀ d, ((world user fs).device d).Unmixed := by
  intro fs hfs d
  have hv := h.of_suffix hfs
  exact unmixed_run user hv (attended_clean user hv (ha.of_suffix hfs)) d

open SharedTablet in
theorem attended_sign_ins_unmixed_tablet :
    (worldSystem (fun _ : Unit => some ann)).Valid benSignsIn ∧
    Trace.Always (WorldEvent.Attended fun _ : Unit => some ann) benSignsIn ∧
    ((world (fun _ : Unit => some ann) benSignsIn).device ()).Unmixed :=
  ⟨benSignsIn_valid, benSignsIn_attended, attended_sign_ins_unmixed _ benSignsIn benSignsIn_valid benSignsIn_attended
    benSignsIn (List.suffix_refl _) ()⟩

/-! ## Notes -/

section World

variable {Device : Type} [DecidableEq Device] (user : Device → Option User)

theorem sent_valid_of_clean {log : List (WorldEvent Device)} (h : (worldSystem user).Valid log)
    (hc : Trace.Always (WorldEvent.Clean user) log) : (cloudSystem Prod.snd).Valid (sent user log) :=
  sent_valid user h fun _ hfs => unmixed_run user (h.of_suffix hfs) (hc.of_suffix hfs)

theorem email_stable {Client : Type} [DecidableEq Client] (account : Client → Str)
    {log before : List (CloudEvent Client)} (h : (cloudSystem account).Valid log) (hb : before <:+ log) {k : Str}
    {doc doc' : Doc} (hd : (cloud account before).store k = some doc) (hd' : (cloud account log).store k = some doc') :
    doc' "email" = doc "email" := by
  obtain ⟨hv, hst⟩ := landed_run account h
  obtain ⟨hv₀, hst₀⟩ := landed_run account (h.of_suffix hb)
  rw [hst₀, store_eq_shelf hv₀, notes_eq_some] at hd
  rw [hst, store_eq_shelf hv, notes_eq_some] at hd'
  obtain ⟨e, he, rfl⟩ := hd
  obtain ⟨e', he', rfl⟩ := hd'
  rw [Entry.json_email, Entry.json_email, owner_stable hv _ (landed_suffix hb) k e e' he he']

/-- What was delivered to an account's device has its id, is the account's, and the collection never had another
account's document under this id. -/
theorem delivered_owner {Client : Type} [DecidableEq Client] (account : Client → Str)
    {log : List (CloudEvent Client)} (h : (cloudSystem account).Valid log) {client : Client} {screen : ListScreen}
    {r : Notes} (hr : (client, screen, r) ∈ (cloud account log).delivered) {k : Str} {d : Doc} (hd : r k = some d) :
    tile d "id" = some (.str k) ∧ tile d "email" = some (.str (account client)) ∧
      ∀ fs doc, fs <:+ log → (cloud account fs).store k = some doc → doc "email" = some (.str (account client)) := by
  obtain ⟨⟨before, hb, hcached⟩, hemail⟩ := delivered_cached h hr hd
  obtain ⟨e, hde, htile⟩ := delivered_entry h hr hd
  refine ⟨by rw [htile, Entry.json_id], by rw [htile, ← hde, hemail], fun fs doc hfs hdoc => ?_⟩
  obtain ⟨hv, -⟩ := landed_run account h
  obtain ⟨hv₀, hst₀⟩ := landed_run account (h.of_suffix hfs)
  rw [hst₀] at hdoc
  -- the id has been live, so the account was once shown it by the collection
  have hlive : ¬ Fresh (landed log) k := fun hfresh => by rw [hfresh _ (landed_suffix hfs)] at hdoc; cases hdoc
  obtain ⟨gs, e₀, hgs, he₀, hm⟩ := (seen_of_cached h hv hlive hb hcached hemail).listed hv
  rw [store_eq_shelf hv₀, notes_eq_some] at hdoc
  obtain ⟨e', he', rfl⟩ := hdoc
  rw [Entry.json_email, ← hm, owner_unique hv hgs (landed_suffix hfs) he₀ he']

/-- Whoever uses the devices: in every run whose sign-ins leave no page of a former account behind, what the
run is to the collection is a run of the collection's own model; the email of a live document never changes;
and every tile a signed-in user is shown, from the collection, a cache or a write still on its way, is a note
of that user, under an id the collection never had another account's document for. -/
theorem accounts_kept_apart (log : List (WorldEvent Device)) (h : (worldSystem user).Valid log)
    (hc : Trace.Always (WorldEvent.Clean user) log) :
    (cloudSystem Prod.snd).Valid (sent user log) ∧
    (∀ fs k doc doc', fs <:+ log → (world user fs).cloud.store k = some doc →
      (world user log).cloud.store k = some doc' → doc' "email" = doc "email") ∧
    (∀ d account screen l, ((world user log).device d).email = some account →
      (∃ r ∈ ((world user log).device d).app.stack, ((world user log).device d).contents r.page = .list screen l) →
      ∀ note ∈ l.tiles, note "email" = some (.str account) ∧ ∃ k, note "id" = some (.str k) ∧
        ∀ fs doc, fs <:+ log → (world user fs).cloud.store k = some doc → doc "email" = some (.str account)) := by
  have hvalid := sent_valid_of_clean user h hc
  have hsent : ∀ {fs}, fs <:+ log → sent user fs <:+ sent user log :=
    fun hfs => Trace.System.project_suffix (S := worldSystem user) hfs
  refine ⟨hvalid, ?_, ?_⟩
  · intro fs k doc doc' hfs hd hd'
    rw [← cloud_sent] at hd hd'
    exact email_stable Prod.snd hvalid (hsent hfs) hd hd'
  · intro d account screen l hu hl note hn
    obtain ⟨r, hr, hl⟩ := hl
    have hok := (consistent user h).held d r.page
    rw [hl] at hok
    obtain rfl : l.account = account := unmixed_run user h hc d account hu r hr _ (by rw [hl]; rfl)
    obtain ⟨result, k, doc, hresult, hdoc, rfl⟩ := fromResult_of_tiles hok hn
    rw [← cloud_sent] at hresult
    obtain ⟨hid, hemail, howner⟩ := delivered_owner Prod.snd hvalid hresult hdoc
    refine ⟨hemail, k, hid, fun fs doc' hfs hd' => ?_⟩
    rw [← cloud_sent] at hd'
    exact howner _ doc' (hsent hfs) hd'

end World

namespace SharedTablet

/-- Ben signs out and Ann signs in. -/
def annFollowsBen : List (WorldEvent Unit) := [
  .on () (.app (.signinReply 11 (.ok ann))), .on () (.app (.tap (.submit ann.email))), .on () (.app (.tap .signInLink)),
  .on () (.app (.signOutReply 3 (.ok ()))), .on () (.app (.delayOver 3)), .on () (.app (.tap .signOut)),
  .on () (.app (.tap .menu)), .on () (.app (.deliver 0))]

theorem annFollowsBen_valid : (worldSystem (fun _ : Unit => some ben)).Valid annFollowsBen := by
  refine ⟨⟨⟨rfl, rfl⟩, ?_⟩, ⟨⟨rfl, rfl⟩, ?_⟩, ⟨⟨rfl, rfl⟩, ?_⟩, ⟨⟨rfl, rfl⟩, ?_⟩, ⟨⟨rfl, rfl⟩, ?_⟩, ⟨⟨rfl, rfl⟩, ?_⟩,
    ⟨⟨rfl, rfl⟩, ?_⟩, ⟨⟨rfl, rfl⟩, ?_⟩, trivial⟩ <;> rintro s ⟨⟩

/-- She writes her note. -/
def annWritesAfterBen : List (WorldEvent Unit) := writesNote () 15 ++ annFollowsBen

theorem annWritesAfterBen_valid : (worldSystem (fun _ : Unit => some ben)).Valid annWritesAfterBen :=
  writesNote_valid (r := { screen := .savedNotes, page := 15 }) _ annFollowsBen_valid rfl ⟨⟨_, rfl⟩, rfl, rfl, rfl⟩

theorem annWritesAfterBen_clean : Trace.Always (WorldEvent.Clean fun _ : Unit => some ben) annWritesAfterBen :=
  attended_clean _ annWritesAfterBen_valid (writesNote_attended _
    ⟨rfl, trivial, trivial, trivial, trivial, trivial, trivial, trivial, trivial⟩)

/-- Her list, with the note. -/
def annsList : NotesList := {
  account := ann.email, empty := SavedNotes.emptyLines (lit "Ann"),
  snapshot := { connectionState := .active, data := some [(lit "n1", annsNote)] } }

end SharedTablet

open SharedTablet in
theorem accounts_kept_apart_tablet :
    (worldSystem (fun _ : Unit => some ben)).Valid annWritesAfterBen ∧
    Trace.Always (WorldEvent.Clean fun _ : Unit => some ben) annWritesAfterBen ∧
    (cloudSystem Prod.snd).Valid (sent (fun _ : Unit => some ben) annWritesAfterBen) ∧
    (∀ fs doc, fs <:+ annWritesAfterBen → (world (fun _ : Unit => some ben) fs).cloud.store (lit "n1") = some doc →
      annsNote "email" = doc "email") ∧
    annsList.tiles = [annsNote] ∧ annsNote "email" = some (.str ann.email) ∧
    ∃ k, annsNote "id" = some (.str k) ∧ ∀ fs doc, fs <:+ annWritesAfterBen →
      (world (fun _ : Unit => some ben) fs).cloud.store k = some doc → doc "email" = some (.str ann.email) := by
  obtain ⟨hsent, hstable, htiles⟩ :=
    accounts_kept_apart _ annWritesAfterBen annWritesAfterBen_valid annWritesAfterBen_clean
  have htile : annsList.tiles = [annsNote] := congrArg (· :: []) (Entry.tile_json ..)
  have hnote : annsNote ∈ annsList.tiles := by rw [htile]; exact .head _
  have hshown := htiles () ann.email .savedNotes annsList rfl ⟨_, .head _, rfl⟩ annsNote hnote
  exact ⟨annWritesAfterBen_valid, annWritesAfterBen_clean, hsent, fun fs doc hfs hd => hstable fs _ doc _ hfs hd rfl,
    htile, hshown⟩

end Notely
