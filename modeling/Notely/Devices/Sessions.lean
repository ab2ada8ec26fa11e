/-
The sessions inside the whole system. A device leaves a page with a text, or closes a dialog, because of what
the page holds; the model of the session allows it because of the screen its route shows. The two agree
(`pages_fit_routes`): every page holds what belongs on its screen, no two routes show the same page, and under
a page with a text there is another to go back to. So what happens to the session and the stack of a device,
in any run of all of them, is a run of the session's model (`device_sessions_run`).

A page that is left has a number no page gets again, and whoever writes from a page with a text or a dialog
leaves it: it writes once (`pages_write_once`). A sign-out that finds its drawer leaves no page with notes: until
somebody signs in, the device shows none and its handlers write nothing (`signed_out_device_silent`).
-/
import Notely.Devices.Accounts
import Notely.Session.Blank

namespace Notely

open Navigator (Op)

/-! ## Page numbers -/

section Routes

variable {w : App} {e : Event}

theorem Navigates.keepsKey {pops : Bool} {nav : List (Op Route)} (h : Navigates w pops nav) :
    ∀ op ∈ nav, op.KeepsKey Route.page := by
  cases h <;> simp [Op.KeepsKey, App.removeAll]

/-- A handler gives the two new numbers, each once at most. -/
theorem Navigates.pushes {pops : Bool} {nav : List (Op Route)} (h : Navigates w pops nav) :
    (nav.filterMap (Op.pushes Route.page)).Sublist [w.fresh + 1, w.fresh] := by
  cases h with
  | fails =>
    show [w.fresh + 1].Sublist [w.fresh + 1, w.fresh]
    simp
  | _ => simp [Op.pushes, App.removeAll, App.page, App.dialog]

theorem nav_of_delivery {d : Nat × Snapshot} (h : e.delivery w = some d) : (e.effect w).nav = [] := by
  cases e <;> first | rfl | cases h

/-- A delivery gives the new number to one route at most. -/
theorem nodup_rebuild (hb : PagesBelow w) (h : (w.stack.map Route.page).Nodup) (page : Nat) (snapshot : Snapshot) :
    ((w.rebuild (some (page, snapshot))).map Route.page).Nodup := by
  have hinj := List.inj_on_of_nodup_map h
  rw [App.rebuild, List.map_map]
  refine List.Nodup.map_on (fun r hr r' hr' heq => ?_) h.of_map
  simp only [Function.comp_apply] at heq
  have hnew : ∀ r ∈ w.stack, (r.rebuild w.fresh snapshot).page = r.page ∨
      (r.rebuild w.fresh snapshot).page = w.fresh := by
    intro r _
    rcases rebuild_cases r w.fresh snapshot with hc | ⟨gate, -, hc⟩ <;> rw [hc]
    · exact .inl rfl
    · exact .inr rfl
  have hlt := hb r hr
  have hlt' := hb r' hr'
  split at heq <;> split at heq
  · next hp hp' => exact hinj hr hr' (hp.trans hp'.symm)
  · rcases hnew r hr with hn | hn <;> rw [hn] at heq <;> omega
  · rcases hnew r' hr' with hn | hn <;> rw [hn] at heq <;> omega
  · exact hinj hr hr' heq

theorem nodup_step (he : e.enabled w = true) (hb : PagesBelow w) (h : (w.stack.map Route.page).Nodup) :
    ((w.step e).stack.map Route.page).Nodup := by
  have hnav := effect_navigates he
  refine Navigator.nodup_applyAll (fun r r' hr => by rw [closeDrawer_eq_some hr]) hnav.keepsKey ?_
  cases hd : e.delivery w with
  | some d =>
    rw [nav_of_delivery hd, List.filterMap_nil, List.append_nil]
    exact nodup_rebuild hb h d.1 d.2
  | none =>
    refine List.Nodup.append h (hnav.pushes.nodup (by simp)) fun page hold hnew => ?_
    obtain ⟨r, hr, rfl⟩ := List.mem_map.1 hold
    have hlt := hb r hr
    have hmem := hnav.pushes.subset hnew
    simp only [List.mem_cons, List.not_mem_nil, or_false] at hmem
    omega

/-! ## Routes before and after -/

/-- A page that was there shows the screen it showed. -/
theorem same_or_new (he : e.enabled w = true) : ∀ r ∈ (w.step e).stack,
    (∃ r₀ ∈ w.stack, r₀.page = r.page ∧ r₀.screen = r.screen) ∨ w.fresh ≤ r.page := by
  refine forall_step he (fun r hr => .inr hr.2.1) (fun r drawer hr => hr) (fun page snapshot _ r _ hp => ?_)
    fun r hr => .inl ⟨r, hr, rfl, rfl⟩
  rcases rebuild_cases r w.fresh snapshot with hc | ⟨gate, -, hc⟩ <;> rw [hc]
  · exact hp
  · exact .inr (Nat.le_refl _)

/-- A page that was not there shows one of the screens its event pushes. -/
theorem screen_of_new {t : Tap} (he : (Event.tap t).enabled w = true) (hb : PagesBelow w) :
    ∀ r ∈ (w.step (.tap t)).stack, w.fresh ≤ r.page → r.screen ∈ t.screens := by
  refine forall_step (P := fun r => w.fresh ≤ r.page → r.screen ∈ t.screens) he (fun r hr _ => hr.1)
    (fun r drawer hr => hr) (fun page snapshot hd => by cases hd) fun r hr hle => ?_
  exact absurd (hb r hr) (Nat.not_lt.2 hle)

end Routes

/-! ## Pages with a text -/

/-- The pages with a text. -/
def Screen.isText : Screen → Bool
  | noteTakingPage | noteEditingPage | favNoteEditingPage => true
  | _ => false

/-- There is no route, or one without a text at the bottom. -/
def App.Rests (w : App) : Prop := w.stack = [] ∨ Navigator.Grounded (fun r => r.screen.isText = false) w.stack

theorem App.Rests.bottom {w : App} (h : w.Rests) {r : Route} (hr : w.stack.getLast? = some r) :
    r.screen.isText = false := by
  rcases h with hst | ⟨base, hb, hp⟩
  · rw [hst] at hr; cases hr
  · rw [hr] at hb; cases hb; exact hp

theorem rests_step {w : App} {e : Event} (he : e.enabled w = true) (h : w.Rests) : (w.step e).Rests := by
  have hdrawer : ∀ (r : Route) drawer, r.screen.isText = false →
      ({ r with drawer := drawer } : Route).screen.isText = false :=
    fun _ _ hr => hr
  have hground : ∀ r : Route, r.screen.isGround = true → r.screen.isText = false := by
    intro r hr
    cases hs : r.screen <;> rw [hs] at hr <;> first | rfl | cases hr
  rcases h with hst | hg
  · exact .inl (step_of_blank hst he)
  have hpop : ∀ stack, Navigator.Grounded (fun r : Route => r.screen.isText = false) stack →
      Navigator.popTop Route.closeDrawer stack = [] ∨
        Navigator.Grounded (fun r => r.screen.isText = false) (Navigator.popTop Route.closeDrawer stack) := by
    intro stack hg
    cases stack with
    | nil => exact absurd hg Navigator.not_grounded_nil
    | cons top rest =>
      by_cases hlast : rest = [] ∧ top.drawer = none
      · rw [Navigator.popTop_of_none (closeDrawer_eq_none.2 hlast.2)]
        exact .inl hlast.1
      · exact .inr ((grounded_pop hdrawer hg).2 hlast)
  cases hp : e.pops with
  | false => exact .inr (grounded_of_not_pops hground hdrawer he hp hg)
  | true =>
    cases e with
    | back => exact hpop _ hg
    | dismiss => exact hpop _ hg
    | signinReply context result =>
      rcases result with ⟨_ | _⟩ | user
      · cases hm : w.mounted context with
        | false => rw [App.Rests, signin_fails_unmounted hm]; exact .inr hg
        | true =>
          rw [App.Rests, signin_fails hm]
          refine .inr ?_
          rcases hpop _ hg with hnil | hg
          · rw [hnil]; exact Navigator.grounded_singleton.2 rfl
          · exact hg.cons _
      · cases hp
      · cases hp
    | _ => cases hp

/-! ## What pages hold -/

/-- The editing page a tile of the list opens. -/
def ListScreen.editingPage : ListScreen → Screen
  | savedNotes => .noteEditingPage
  | favorites => .favNoteEditingPage

/-- What belongs on a screen. -/
def Content.Fits (screen : Screen) : Content → Prop
  | .blank => True
  | .list s _ => screen = s.screen
  | .taking _ => screen = .noteTakingPage
  | .editing s _ _ => screen = s.editingPage
  | .dialog _ _ _ => screen = .alertDialog

theorem Content.Fits.isText {screen : Screen} {c : Content} (h : c.Fits screen) (hc : c.isText = true) :
    screen.isText = true := by
  cases c with
  | taking t => rw [show screen = .noteTakingPage from h]; rfl
  | editing s account t => rw [show screen = s.editingPage from h]; cases s <;> rfl
  | _ => cases hc

theorem stack_openNote {w : App} {top : Route} {rest : List Route} {screen : ListScreen} (hst : w.stack = top :: rest)
    (hd : top.drawer = none) (hs : top.screen = screen.screen) :
    (w.step (.tap .openNote)).stack = w.page screen.editingPage :: w.stack := by
  have htap : w.tap .openNote = some { session := w.toSession, nav := [.push (w.page screen.editingPage)] } := by
    simp only [App.tap, hst, hd, pageTap, hs]
    cases screen <;> rfl
  simp only [App.step, Event.effect, htap, Event.delivery, App.rebuild]
  rfl

namespace DeviceState

/-- Pages and routes agree. -/
structure Matched (x : DeviceState) : Prop where
  nodup : (x.app.stack.map Route.page).Nodup
  fits : ∀ r ∈ x.app.stack, (x.contents r.page).Fits r.screen
  rests : x.app.Rests

variable {x : DeviceState} {e : DeviceEvent}

/-- The screen under a page with a text, and the dialog, are what the session's model asks for. -/
theorem Matched.enabled (h : x.Matched) {has : AtHand} (hok : e.Ok has x) {ev : Event} (hm : x.moves e = some ev) :
    ev.enabled x.app = true := by
  cases moves_cases hok hm with
  | app he => exact he
  | newNote he => exact he
  | openNote _ he => exact he
  | openDialog he => exact he
  | leave htop hc =>
    obtain ⟨r, rest, hst, -, rfl, rfl⟩ := stack_of_top htop
    have htext := (h.fits r (by rw [hst]; exact .head _)).isText hc
    have hdialog : r.screen.isDialog = false := by
      cases hs : r.screen <;> rw [hs] at htext <;> first | rfl | cases htext
    have hrest : rest ≠ [] := by
      rintro rfl
      have hbottom := h.rests.bottom (r := r) (by rw [hst]; rfl)
      rw [htext] at hbottom; cases hbottom
    simp [Event.enabled, hst, hdialog, hrest]
  | close htop =>
    obtain ⟨r, rest, hst, -, rfl, hc⟩ := stack_of_top htop
    have hs := h.fits r (by rw [hst]; exact .head _)
    rw [hc] at hs
    have hs : r.screen = .alertDialog := hs
    simp [Event.enabled, hst, hs, Screen.isDialog]

/-- A rule for every step: what an enabled event keeps, a device keeps. -/
theorem Matched.app_step (h : x.Matched) {has : AtHand} (hok : e.Ok has x) {Q : App → Prop} (hsame : Q x.app)
    (hstep : ∀ ev, ev.enabled x.app = true → Q (x.app.step ev)) : Q (x.step e).app := by
  rw [DeviceState.step_app]
  cases hm : x.moves e with
  | none => exact hsame
  | some ev => exact hstep ev (h.enabled hok hm)

theorem Matched.same_or_new (h : x.Matched) {has : AtHand} (hok : e.Ok has x) : ∀ r ∈ (x.step e).app.stack,
    (∃ r₀ ∈ x.app.stack, r₀.page = r.page ∧ r₀.screen = r.screen) ∨ x.app.fresh ≤ r.page :=
  h.app_step hok (Q := fun w => ∀ r ∈ w.stack,
      (∃ r₀ ∈ x.app.stack, r₀.page = r.page ∧ r₀.screen = r.screen) ∨ x.app.fresh ≤ r.page)
    (fun r hr => .inl ⟨r, hr, rfl, rfl⟩) fun _ he => Notely.same_or_new he

theorem Matched.puts_fits (h : x.Matched) (hx : x.Sound) {has : AtHand} (hok : e.Ok has x) {r : Route} {c : Content}
    (hr : r ∈ (x.step e).app.stack) (hput : x.puts e = some (r.page, c)) : c.Fits r.screen := by
  -- a page that was there has its screen still
  have hold : r.page < x.app.fresh → ∃ r₀ ∈ x.app.stack, r₀.page = r.page ∧ r₀.screen = r.screen := by
    intro hlt
    exact (h.same_or_new hok r hr).resolve_right (Nat.not_le.2 hlt)
  have hkept : ∀ {c}, r.page < x.app.fresh → x.contents r.page = c → c.Fits r.screen := by
    rintro c hlt rfl
    obtain ⟨r₀, hr₀, hp, hs⟩ := hold hlt
    have hfits := h.fits r₀ hr₀
    rwa [hp, hs] at hfits
  have htop : ∀ {c}, x.top = some (r.page, c) → c.Fits r.screen := by
    intro c ht
    obtain ⟨-, -, -, hc⟩ := mem_of_top ht
    exact hkept (lt_fresh_of_top hx ht) hc
  generalize hpage : r.page = page at hput
  cases puts_cases hok hput with
  | @built r₁ screen l hr₁ hscreen _ _ =>
    obtain ⟨r₀, hr₀, hp, hs⟩ := hold (by rw [hpage]; exact hx.below r₁ hr₁)
    obtain rfl : r₀ = r₁ := List.inj_on_of_nodup_map h.nodup hr₀ hr₁ (hp.trans hpage)
    exact hs.symm.trans hscreen
  | threw _ => trivial
  | data hm hl =>
    subst hpage
    exact (hkept (hx.lt_fresh hm) hl : (Content.list _ _).Fits r.screen)
  | failed hm hl =>
    subst hpage
    exact (hkept (hx.lt_fresh hm) hl : (Content.list _ _).Fits r.screen)
  | newNote =>
    have hnew := screen_of_new hok hx.below r hr (Nat.le_of_eq hpage.symm)
    exact List.mem_singleton.1 hnew
  | @opened index screen account note ht =>
    obtain ⟨page, l, htop, -, -⟩ := top_of_tileAt ht
    obtain ⟨top, rest, hst, hd, rfl, hc⟩ := stack_of_top htop
    have hs := h.fits top (by rw [hst]; exact .head _)
    rw [hc] at hs
    rw [step_app, moves, ht] at hr
    have hr : r ∈ (x.app.step (.tap .openNote)).stack := hr
    rw [stack_openNote hst hd hs] at hr
    unfold Content.opened
    split
    · rcases List.mem_cons.1 hr with rfl | hr
      · rfl
      · exact absurd (hx.below r hr) (by omega)
    · trivial
  | asked ht =>
    rw [step_app, moves, ht] at hr
    have hnew := screen_of_new hok hx.below r hr (by omega)
    exact List.mem_singleton.1 hnew
  | typed ht _ => subst hpage; exact (htop ht : (Content.taking _).Fits r.screen)
  | edited ht _ => subst hpage; exact (htop ht : (Content.editing _ _ _).Fits r.screen)

theorem Matched.step (h : x.Matched) (hx : x.Sound) {has : AtHand} (hok : e.Ok has x) : (x.step e).Matched := by
  refine ⟨?_, fun r hr => ?_, ?_⟩
  · exact h.app_step hok (Q := fun w => (w.stack.map Route.page).Nodup) h.nodup
      fun ev he => nodup_step he hx.below h.nodup
  · rcases contents_step r.page with hc | hput
    · rw [hc]
      rcases h.same_or_new hok r hr with ⟨r₀, hr₀, hp, hs⟩ | hnew
      · rw [← hp, ← hs]; exact h.fits r₀ hr₀
      · rw [hx.unused _ hnew]; trivial
    · exact h.puts_fits hx hok hr hput
  · exact h.app_step hok h.rests fun ev he => rests_step he h.rests

theorem matched_start (user : Option User) : Matched { app := .start user } := by
  refine ⟨List.nodup_singleton _, fun r hr => trivial, .inr ?_⟩
  exact Navigator.grounded_singleton.2 rfl

end DeviceState

/-! ## Runs -/

section World

variable {Device : Type} [DecidableEq Device] (user : Device → Option User)

/-- What is kept by every event a device may take holds of every device after every run. -/
theorem device_invariant {I : Device → DeviceState → Prop} (h0 : ∀ d, I d { app := .start (user d) })
    (hstep : ∀ d x e notes, x.Sound → e.Ok notes x → I d x → I d (x.step e)) {log : List (WorldEvent Device)}
    (h : (worldSystem user).Valid log) : ∀ d, I d ((world user log).device d) := by
  refine h.invariant (I := fun _ w => ∀ d, I d (w.device d)) h0 ?_
  intro e log hv hok ih d
  show I d ((world user (e :: log)).device d)
  rcases device_cases user ⟨hok, hv⟩ d with hsame | ⟨e', rfl, hnext, hok'⟩
  · rw [hsame]; exact ih d
  · rw [hnext]; exact hstep d _ e' _ ((consistent user hv).sound d) hok' (ih d)

theorem matched {log : List (WorldEvent Device)} (h : (worldSystem user).Valid log) :
    ∀ d, ((world user log).device d).Matched :=
  device_invariant user (I := fun _ x => x.Matched) (fun _ => DeviceState.matched_start _)
    (fun _ _ _ _ hx hok hm => hm.step hx hok) h

/-- What an event is to the session of a device. -/
def World.moves (w : World Device) (d : Device) : WorldEvent Device → Option Event
  | .on d' e => if d' = d then (w.device d).moves e else none
  | _ => none

/-- What a log is to the session of a device. -/
def moved (d : Device) (log : List (WorldEvent Device)) : List Event :=
  Trace.System.project (.start user) World.step (fun w => w.moves d) log

theorem app_moved (d : Device) (log : List (WorldEvent Device)) :
    (App.start (user d)).after (moved user d log) = ((world user log).device d).app := by
  refine Trace.System.state_project (S := worldSystem user) (T := appSystem (.start (user d)))
    (fun w => (w.device d).app) rfl (fun w e => ?_) log
  cases e with
  | on d' e =>
    show (Function.update w.device d' ((w.device d').step e) d).app = _
    by_cases hd : d' = d
    · subst hd
      rw [Function.update_self, World.moves, if_pos rfl]
      rfl
    · rw [Function.update_of_ne (Ne.symm hd), World.moves, if_neg hd]
      rfl
  | land f => rfl
  | reject f => rfl

end World

/-- Refinement: what happens to the session and the stack of a device, in any run of the whole system, is a run
of the session's model, and it leads to the session and the stack the device has. -/
theorem device_sessions_run {Device : Type} [DecidableEq Device] (user : Device → Option User)
    (log : List (WorldEvent Device)) (h : (worldSystem user).Valid log) (d : Device) :
    (appSystem (.start (user d))).Valid (moved user d log) ∧
    (App.start (user d)).after (moved user d log) = ((world user log).device d).app := by
  refine ⟨?_, app_moved user d log⟩
  refine Trace.System.project_valid (S := worldSystem user) (T := appSystem (.start (user d)))
    fun e fs ev hs _ hemit => ?_
  have hv := h.of_suffix hs
  have hemit : (world user fs).moves d e = some ev := hemit
  show ev.enabled ((App.start (user d)).after (moved user d fs)) = true
  rw [app_moved]
  cases e with
  | on d' e =>
    obtain ⟨rfl, hm⟩ := Option.ite_none_right_eq_some.1 hemit
    exact (matched user hv.2 d').enabled hv.1.1 hm
  | land f => cases hemit
  | reject f => cases hemit

open SharedTablet in
theorem device_sessions_run_tablet :
    (worldSystem (fun _ : Unit => some ann)).Valid benSignsIn ∧
    (appSystem (.start (some ann))).Valid (moved (fun _ : Unit => some ann) () benSignsIn) ∧
    (moved (fun _ : Unit => some ann) () benSignsIn).length = 10 :=
  ⟨benSignsIn_valid, (device_sessions_run _ benSignsIn benSignsIn_valid ()).1, rfl⟩

/-! ## Pages that are left -/

namespace DeviceState

variable {x : DeviceState} {e : DeviceEvent} {page : Nat}

/-- The page had its number and is not there. -/
def Gone (x : DeviceState) (page : Nat) : Prop := page < x.app.fresh ∧ x.app.mounted page = false

/-- It does not come back: a new page has a new number. -/
theorem Gone.step (h : x.Gone page) {has : AtHand} (hok : e.Ok has x) : (x.step e).Gone page := by
  refine ⟨Nat.lt_of_lt_of_le h.1 fresh_le_step, Bool.eq_false_iff.2 fun hm => ?_⟩
  obtain ⟨r, hr, hp⟩ := List.any_eq_true.1 hm
  have hpage : r.page = page := beq_iff_eq.1 hp
  rcases stack_step hok r hr with hold | ⟨hnew, -⟩
  · rw [hpage, h.2] at hold; cases hold
  · exact absurd h.1 (Nat.not_lt.2 (hpage ▸ hnew))

/-- A save handler that writes leaves its page. -/
theorem editor_pops {screen : ListScreen} {exit : Exit} {page : EditingPage} {env : Env} {r : Reaction}
    (h : (screen.editor exit page).react env = .ok r) (hw : r.write ≠ none) : r.atOnce = [.pop] := by
  have hsave : ∀ {messages : EditingPage → List (Option String)} {isFavorite : Bool}
      {updateNote : Env → Doc → Note → Except DartError NoteWrite},
      EditingPage.saveHandler messages isFavorite updateNote env page = .ok r → r.atOnce = [.pop] := by
    intro messages isFavorite updateNote h
    unfold EditingPage.saveHandler at h
    split at h
    · obtain ⟨id, -, h⟩ := bind_eq_ok h
      obtain ⟨write, -, h⟩ := bind_eq_ok h
      cases h; rfl
    · cases h; exact absurd rfl hw
  cases screen <;> cases exit <;> exact hsave h

/-- A handler of the page or the dialog on top, and not of a list, that writes. -/
structure WritesFrom (x : DeviceState) (page : Nat) (e : DeviceEvent) : Prop where
  top : ∃ c, x.top = some (page, c) ∧ ∀ screen l, c ≠ .list screen l
  writes : ∃ s, x.handler e = some s ∧ s.write ≠ none

/-- It leaves what it was started from. -/
theorem WritesFrom.leaves (h : x.WritesFrom page e) : x.moves e = some .back ∨ x.moves e = some .dismiss := by
  obtain ⟨c, htop, hlist⟩ := h.top
  obtain ⟨s, hs, hw⟩ := h.writes
  cases handler_cases hs with
  | create htop' _ => exact .inl (by simp only [moves, htop'])
  | @edit exit now autoId user page' screen account t htop' hu =>
    refine .inl ?_
    have hreact : (x.reaction (.exit exit now autoId)).any (·.atOnce.contains .pop) = true := by
      rw [reaction, hs, Option.bind_some]
      unfold Step.write at hw
      split at hw
      · next r hr =>
        have hpop := editor_pops hr hw
        rw [hr]
        simp only [Except.toOption, Option.any_some, hpop]
        rfl
      · exact absurd rfl hw
    simp only [moves, htop']
    rw [if_pos hreact]
  | toggle ht _ =>
    obtain ⟨page', l, htop', -⟩ := top_of_tileAt ht
    rw [htop] at htop'
    cases htop'
    exact absurd rfl (hlist _ l)
  | delete htop' => exact .inr (by simp only [moves, htop'])
  | remove htop' _ => exact .inr (by simp only [moves, htop'])

theorem WritesFrom.gone (h : x.WritesFrom page e) (hm : x.Matched) (hx : x.Sound) : (x.step e).Gone page := by
  obtain ⟨c, htop, -⟩ := h.top
  obtain ⟨r, rest, hst, hd, rfl, -⟩ := stack_of_top htop
  have happ : (x.step e).app.stack = rest ∧ (x.step e).app.fresh = x.app.fresh + 2 := by
    have hpop : Navigator.popTop Route.closeDrawer x.app.stack = rest := by
      rw [hst, Navigator.popTop_of_none (closeDrawer_eq_none.2 hd)]
    rw [step_app]
    rcases h.leaves with hmove | hmove <;> rw [hmove] <;> exact ⟨hpop, rfl⟩
  refine ⟨?_, Bool.eq_false_iff.2 fun hmounted => ?_⟩
  · rw [happ.2]
    exact Nat.lt_add_right 2 (hx.below r (by rw [hst]; exact .head _))
  · -- no other route shows the page
    obtain ⟨r', hr', hp⟩ := List.any_eq_true.1 hmounted
    rw [happ.1] at hr'
    have hnodup := hm.nodup
    rw [hst, List.map_cons, List.nodup_cons] at hnodup
    exact hnodup.1 (List.mem_map.2 ⟨r', hr', beq_iff_eq.1 hp⟩)

end DeviceState

section World

variable {Device : Type} [DecidableEq Device] (user : Device → Option User)

theorem gone_run {d : Device} {page : Nat} : ∀ {log fs : List (WorldEvent Device)}, (worldSystem user).Valid log →
    fs <:+ log → ((world user fs).device d).Gone page → ((world user log).device d).Gone page
  | [], fs, _, hs, hg => by rw [List.suffix_nil.1 hs] at hg; exact hg
  | e :: log, fs, h, hs, hg => by
    rcases List.suffix_cons_iff.1 hs with rfl | hs
    · exact hg
    have ih := gone_run h.2 hs hg
    rcases device_cases user h d with hsame | ⟨e', rfl, hstep, hok⟩
    · rw [hsame]; exact ih
    · rw [hstep]; exact ih.step hok

theorem not_writes_again {d : Device} {page : Nat} {e e' : DeviceEvent} {fs fs' : List (WorldEvent Device)}
    (h : (worldSystem user).Valid fs') (hs : .on d e :: fs <:+ fs')
    (hw : ((world user fs).device d).WritesFrom page e) :
    ¬ ((world user fs').device d).WritesFrom page e' := by
  intro hw'
  have hv := h.of_suffix hs
  have hgone := hw.gone (matched user hv.2 d) ((consistent user hv.2).sound d)
  rw [← device_on_self] at hgone
  obtain ⟨c, htop, -⟩ := hw'.top
  obtain ⟨r, hr, rfl, -⟩ := DeviceState.mem_of_top htop
  have hmounted := (gone_run user h hs hgone).2
  rw [mounted_of_mem hr] at hmounted
  cases hmounted

end World

/-- No duplicated write: in every run, on every device, a note-taking page, an editing page or a confirmation dialog
writes at most once, however often its buttons are pressed; two events that write from it are one and the same. -/
theorem pages_write_once {Device : Type} [DecidableEq Device] (user : Device → Option User)
    (log fs fs' : List (WorldEvent Device)) (h : (worldSystem user).Valid log) (d : Device) (page : Nat)
    (e e' : DeviceEvent) (hs : .on d e :: fs <:+ log) (hs' : .on d e' :: fs' <:+ log)
    (hw : ((world user fs).device d).WritesFrom page e) (hw' : ((world user fs').device d).WritesFrom page e') :
    e = e' ∧ fs = fs' := by
  rcases Trace.suffix_cases hs hs' with heq | hlt | hlt
  · cases heq; exact ⟨rfl, rfl⟩
  · exact absurd hw' (not_writes_again user (h.of_suffix hs').2 hlt hw)
  · exact absurd hw (not_writes_again user (h.of_suffix hs).2 hlt hw')

open SharedTablet in
theorem pages_write_once_tablet :
    (worldSystem (fun _ : Unit => some ann)).Valid annWrites ∧
    ((world (fun _ : Unit => some ann) (annWrites.drop 4)).device ()).WritesFrom 3
      (.exit .saveIcon (lit "1") (lit "n1")) ∧
    ∀ e fs, .on () e :: fs <:+ annWrites → ((world (fun _ : Unit => some ann) fs).device ()).WritesFrom 3 e →
      .exit .saveIcon (lit "1") (lit "n1") = e := by
  have hw : ((world (fun _ : Unit => some ann) (annWrites.drop 4)).device ()).WritesFrom 3
      (.exit .saveIcon (lit "1") (lit "n1")) :=
    ⟨⟨_, rfl, fun _ _ hl => by cases hl⟩, annSaves, rfl, fun hn => by cases hn⟩
  refine ⟨annWrites_valid, hw, fun e fs hs hw' => ?_⟩
  exact (pages_write_once _ annWrites _ fs annWrites_valid () 3 _ e ⟨annWrites.take 3, rfl⟩ hs hw hw').1

/-! ## Signed out -/

namespace DeviceState

variable {x : DeviceState} {e : DeviceEvent}

/-- Nobody is signed in and no page shows notes. -/
structure Empty (x : DeviceState) : Prop where
  nobody : x.app.currentUser = none
  accounts : ∀ r ∈ x.app.stack, (x.contents r.page).account = none

theorem Empty.email (h : x.Empty) : x.email = none := by rw [DeviceState.email, h.nobody]; rfl

theorem Empty.step (h : x.Empty) (hx : x.Sound) {has : AtHand} (hok : e.Ok has x)
    (hin : ∀ ev, e = .app ev → ev.signsIn = false) : (x.step e).Empty := by
  constructor
  · by_cases he : ∃ ev, e = .app ev
    · obtain ⟨ev, rfl⟩ := he
      show (x.app.step ev).currentUser = none
      rcases email_step (w := x.app) (hin ev rfl) with hsame | hnone
      · rw [h.nobody] at hsame
        exact Option.map_eq_none_iff.1 hsame
      · exact hnone
    · push Not at he
      rw [currentUser_step hok he]; exact h.nobody
  · intro r hr
    rcases contents_step r.page with hc | hput
    · rw [hc]
      rcases stack_step hok r hr with hm | ⟨hnew, -⟩
      · obtain ⟨r₀, hr₀, hp⟩ := List.any_eq_true.1 hm
        rw [← beq_iff_eq.1 hp]; exact h.accounts r₀ hr₀
      · rw [hx.unused _ hnew]; rfl
    · cases ha : ((x.step e).contents r.page).account with
      | none => rfl
      | some a =>
        rcases puts_account hok hput ha with hu | ⟨r₀, hr₀, ha₀⟩
        · rw [h.email] at hu; cases hu
        · rw [h.accounts r₀ hr₀] at ha₀; cases ha₀

/-- No handler finds anything to write: all but the delete ask for the user, and the delete for a tile. -/
theorem Empty.handler (h : x.Empty) (e : DeviceEvent) : x.handler e = none := by
  cases hs : x.handler e with
  | none => rfl
  | some s =>
    have hnobody : ∀ {user}, x.email ≠ some user := fun hu => by rw [h.email] at hu; cases hu
    cases handler_cases hs with
    | create _ hu => exact absurd hu hnobody
    | edit _ hu => exact absurd hu hnobody
    | toggle _ hu => exact absurd hu hnobody
    | delete htop =>
      obtain ⟨r, hr, rfl, hc⟩ := mem_of_top htop
      have hnone := h.accounts r hr
      rw [hc] at hnone; cases hnone
    | remove _ hu => exact absurd hu hnobody

theorem Empty.tiles (h : x.Empty) {r : Route} (hr : r ∈ x.app.stack) (screen : ListScreen) (l : NotesList) :
    x.contents r.page ≠ .list screen l := by
  intro hl
  have hnone := h.accounts r hr
  rw [hl] at hnone; cases hnone

/-- A sign-out that finds its drawer leaves the introduction only. -/
theorem empty_of_signOut (hx : x.Sound) {context : Nat} (hd : x.app.drawerMounted context = true) :
    (x.step (.app (.signOutReply context (.ok ())))).Empty := by
  refine ⟨rfl, fun r hr => ?_⟩
  have hst : (x.app.step (.signOutReply context (.ok ()))).stack = [x.app.page .introScreen] := by
    simp [App.step, Event.effect, MyDrawer.signOutReply, hd, Event.delivery, App.rebuild, App.removeAll]
  have hr : r ∈ (x.app.step (.signOutReply context (.ok ()))).stack := hr
  rw [hst, List.mem_singleton] at hr
  subst hr
  show (x.contents x.app.fresh).account = none
  rw [hx.unused _ (Nat.le_refl _)]; rfl

end DeviceState

theorem empty_run {Device : Type} [DecidableEq Device] (user : Device → Option User) {d : Device} {context : Nat}
    {before : List (WorldEvent Device)} (hd : ((world user before).device d).app.drawerMounted context = true) :
    ∀ {later : List (WorldEvent Device)},
      (worldSystem user).Valid (later ++ .on d (.app (.signOutReply context (.ok ()))) :: before) →
      (∀ ev, .on d (.app ev) ∈ later → ev.signsIn = false) →
      ((world user (later ++ .on d (.app (.signOutReply context (.ok ()))) :: before)).device d).Empty
  | [], h, _ => by
    rw [List.nil_append, device_on_self]
    exact DeviceState.empty_of_signOut ((consistent user h.2).sound d) hd
  | e :: later, h, hin => by
    have ih := empty_run user hd h.2 fun ev hev => hin ev (.tail _ hev)
    rw [List.cons_append] at h ⊢
    rcases device_cases user h d with hsame | ⟨e', rfl, hstep, hok⟩
    · rw [hsame]; exact ih
    · rw [hstep]
      refine ih.step ((consistent user h.2).sound d) hok ?_
      rintro ev rfl
      exact hin ev (.head _)

/-- After a sign-out that finds its drawer still open, and until somebody signs in on the device, whatever is done
on it and whatever the other devices do: nobody is signed in, no page of the stack has a list of notes, and no
event on the device makes a handler write. -/
theorem signed_out_device_silent {Device : Type} [DecidableEq Device] (user : Device → Option User) (d : Device)
    (context : Nat) (before later log : List (WorldEvent Device))
    (hlog : log = later ++ .on d (.app (.signOutReply context (.ok ()))) :: before) (h : (worldSystem user).Valid log)
    (hd : ((world user before).device d).app.drawerMounted context = true)
    (hin : ∀ ev, .on d (.app ev) ∈ later → ev.signsIn = false) :
    ((world user log).device d).email = none ∧
    (∀ r ∈ ((world user log).device d).app.stack, ∀ screen l,
      ((world user log).device d).contents r.page ≠ .list screen l) ∧
    ∀ e, ((world user log).device d).handler e = none := by
  subst hlog
  have hempty := empty_run user hd h hin
  exact ⟨hempty.email, fun _ hr screen l => hempty.tiles hr screen l, hempty.handler⟩

namespace SharedTablet

/-- The sign-out is tapped and its delay is over. -/
def signingOut : List (WorldEvent Unit) := [
  .on () (.app (.delayOver 7)), .on () (.app (.tap .signOut)), .on () (.app (.tap .menu))] ++ annWrites

/-- What can be tried then: the menu of a tile, the button of its dialog, a page to sign in. -/
def triesAfter : List (WorldEvent Unit) := [
  .on () (.app (.tap .signInLink)), .on () (.confirm (lit "2") (lit "n2")), .on () (.toggle 0 (lit "2") (lit "n2"))]

/-- The sign-out completes, and this is tried. -/
def signedOut : List (WorldEvent Unit) := triesAfter ++ .on () (.app (.signOutReply 7 (.ok ()))) :: signingOut

theorem signedOut_valid : (worldSystem (fun _ : Unit => some ann)).Valid signedOut := by
  refine ⟨⟨⟨rfl, rfl⟩, ?_⟩, ⟨trivial, ?_⟩, ⟨trivial, ?_⟩, ⟨⟨rfl, rfl⟩, ?_⟩, ⟨⟨rfl, rfl⟩, ?_⟩, ⟨⟨rfl, rfl⟩, ?_⟩,
    ⟨⟨rfl, rfl⟩, ?_⟩, annWrites_valid⟩ <;> rintro s ⟨⟩

/-- Nobody is signed in at first. Ann signs in, on a page no stream rebuilds. -/
def annEnters : List (WorldEvent Unit) := [
  .on () (.app (.signinReply 3 (.ok ann))), .on () (.app (.tap (.submit ann.email))),
  .on () (.app (.tap .signInLink)), .on () (.app (.deliver 0))]

theorem annEnters_valid : (worldSystem (fun _ : Unit => none)).Valid annEnters := by
  refine ⟨⟨⟨rfl, rfl⟩, ?_⟩, ⟨⟨rfl, rfl⟩, ?_⟩, ⟨⟨rfl, rfl⟩, ?_⟩, ⟨⟨rfl, rfl⟩, ?_⟩, trivial⟩ <;> rintro s ⟨⟩

/-- She writes her note, signs out and closes the drawer before the delay is over, and opens the dialog of her note
after the sign-out. -/
def closesDrawer : List (WorldEvent Unit) := [
  .on () (.openDialog 0), .on () (.app (.signOutReply 13 (.ok ()))), .on () (.app (.delayOver 13)),
  .on () (.app .back), .on () (.app (.tap .signOut)), .on () (.app (.tap .menu))] ++ (writesNote () 7 ++ annEnters)

theorem closesDrawer_valid : (worldSystem (fun _ : Unit => none)).Valid closesDrawer := by
  have hann : (worldSystem (fun _ : Unit => none)).Valid (writesNote () 7 ++ annEnters) :=
    writesNote_valid (r := { screen := .savedNotes, page := 7 }) _ annEnters_valid rfl ⟨⟨_, rfl⟩, rfl, rfl, rfl⟩
  refine ⟨⟨rfl, ?_⟩, ⟨⟨rfl, rfl⟩, ?_⟩, ⟨⟨rfl, rfl⟩, ?_⟩, ⟨⟨rfl, rfl⟩, ?_⟩, ⟨⟨rfl, rfl⟩, ?_⟩, ⟨⟨rfl, rfl⟩, ?_⟩, hann⟩ <;>
    rintro s ⟨⟩

end SharedTablet

open SharedTablet in
theorem signed_out_device_silent_tablet :
    (worldSystem (fun _ : Unit => some ann)).Valid signedOut ∧
    ((world (fun _ : Unit => some ann) signingOut).device ()).app.drawerMounted 7 = true ∧
    ∀ e, ((world (fun _ : Unit => some ann) signedOut).device ()).handler e = none := by
  refine ⟨signedOut_valid, rfl, ?_⟩
  have hin : ∀ ev, .on () (.app ev) ∈ triesAfter → ev.signsIn = false := by
    intro ev hev
    simp only [triesAfter, List.mem_cons, WorldEvent.on.injEq, DeviceEvent.app.injEq, reduceCtorEq, and_false,
      List.not_mem_nil, or_false, true_and] at hev
    subst hev; rfl
  exact (signed_out_device_silent (fun _ : Unit => some ann) () 7 signingOut triesAfter signedOut rfl signedOut_valid
    rfl hin).2.2

open SharedTablet in
/-- With the drawer closed in time the notes stay on the screen, and the delete, which asks for no user, is still
issued when nobody is signed in. -/
theorem delete_after_sign_out :
    (worldSystem (fun _ : Unit => none)).Valid closesDrawer ∧
    ((world (fun _ : Unit => none) closesDrawer).device ()).email = none ∧
    ((world (fun _ : Unit => none) closesDrawer).device ()).handler (.confirm (lit "2") (lit "n2")) =
      some { user := ann.email, now := lit "2", autoId := lit "n2", action := .delete annsNote } :=
  ⟨closesDrawer_valid, rfl, rfl⟩

end Notely
