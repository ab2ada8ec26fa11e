/-
One device: the session and the stack of its app, and what the pages on the stack hold. A list page holds
what its builder has of the query, a page with a text what was typed, an editing page and a dialog the note
of the tile they were opened from. An event changes at most one page, does at most one thing to the
navigator, and may run a handler that writes.

Handlers read `currentUser!` when they run. With nobody signed in it throws: the editing pages then stay
open, while in the other handlers the exception is lost in a future and the page or dialog is left all the
same. The delete of the menu reads no user.
-/
import Notely.Editing.NoteEditing
import Notely.Screens.NotesList
import Notely.Session.Entry

namespace Notely

/-! ## Pages -/

/-- What a page or a dialog holds; an editing page and a dialog remember the account whose list they were
opened from. -/
inductive Content
  | blank
  | list (screen : ListScreen) (list : NotesList)
  | taking (page : NoteTakingState)
  | editing (screen : ListScreen) (account : Str) (page : EditingState)
  | dialog (screen : ListScreen) (account : Str) (note : Doc)

namespace Content

/-- The account whose notes the page shows. -/
def account : Content → Option Str
  | list _ l => some l.account
  | editing _ account _ => some account
  | dialog _ account _ => some account
  | _ => none

/-- The pages with a text. -/
def isText : Content → Bool
  | taking _ | editing _ _ _ => true
  | _ => false

/-- The snapshot of the `StreamBuilder` that is there; a new one has none. -/
def snapshot : Content → AsyncSnapshot
  | list _ l => l.snapshot
  | _ => {}

/-- The editing page opened on a tile; where its build throws, an error is shown. -/
def opened (screen : ListScreen) (account : Str) (note : Doc) : Content :=
  match EditingState.openOn note with
  | .ok page => editing screen account page
  | .error _ => blank

end Content

/-- The screen of the app a list page is. -/
def ListScreen.screen : ListScreen → Screen
  | savedNotes => .savedNotes
  | favorites => .favorites

/-- The app of a device, what its pages hold by their numbers, and its provider of the favourite status. -/
structure DeviceState where
  app : App
  contents : Nat → Content := fun _ => .blank
  provider : IsFavoriteProvider := {}

/-- What can happen on a device. -/
inductive DeviceEvent
  /-- what is modelled of the app already, but for the taps below -/
  | app (e : Event)
  /-- a list page is built, for the first time or again -/
  | build (page : Nat) (screen : ListScreen)
  /-- the stream of a list gives a result, or an error -/
  | result (page : Nat) (rows : Rows)
  | failure (page : Nat)
  /-- the button for a new note, a tap on a tile, and what opens the dialog of a tile -/
  | newNote
  | openNote (index : Nat)
  | openDialog (index : Nat)
  /-- an input on a note-taking page or an editing page, or one of its exits -/
  | type (e : NoteTakingEvent)
  | edit (e : EditingEvent)
  | exit (exit : Exit) (now autoId : Str)
  /-- the favourite entry of a tile's menu -/
  | toggle (index : Nat) (now autoId : Str)
  /-- the button of the dialog on top -/
  | confirm (now autoId : Str)

namespace DeviceState

/-- The email of whoever is signed in. -/
def email (x : DeviceState) : Option Str := x.app.currentUser.map User.email

/-- The page that takes the taps and what it holds; an open drawer is in front of its page. -/
def top (x : DeviceState) : Option (Nat × Content) :=
  match x.app.stack with
  | [] => none
  | r :: _ => if r.drawer.isSome then none else some (r.page, x.contents r.page)

/-- A tile of the list on top, with the screen and the account of the list. -/
def tileAt (x : DeviceState) (index : Nat) : Option (ListScreen × Str × Doc) :=
  match x.top with
  | some (_, .list screen l) => l.tiles[index]?.map fun note => (screen, l.account, note)
  | _ => none

/-! ## Handlers -/

/-- A handler run on the device. -/
def stepOf (x : DeviceState) (user now autoId : Str) (action : Action) : Step :=
  { user, now, autoId, provider := x.provider, action }

/-- The handler an event runs. A delete is put down to the account the tile was shown to. -/
def handler (x : DeviceState) : DeviceEvent → Option Step
  | .exit exit now autoId =>
    match x.top with
    | some (_, .taking page) => x.email.map fun user => x.stepOf user now autoId (.create exit page.page)
    | some (_, .editing screen _ page) =>
      x.email.map fun user => x.stepOf user now autoId (screen.editor exit page.page)
    | _ => none
  | .toggle index now autoId =>
    match x.tileAt index with
    | some (.savedNotes, _, note) => x.email.map fun user => x.stepOf user now autoId (.toggleFavorite note)
    | _ => none
  | .confirm now autoId =>
    match x.top with
    | some (_, .dialog .savedNotes account note) => some (x.stepOf account now autoId (.delete note))
    | some (_, .dialog .favorites _ note) =>
      x.email.map fun user => x.stepOf user now autoId (.removeFromFavorites note)
    | _ => none
  | _ => none

/-- What the handler does, when it runs and does not throw. -/
def reaction (x : DeviceState) (e : DeviceEvent) : Option Reaction :=
  (x.handler e).bind fun s => (s.action.react s.env).toOption

/-! ## A step -/

/-- The page an event changes, and what it holds then. -/
def puts (x : DeviceState) : DeviceEvent → Option (Nat × Content)
  | .build page screen =>
    match screen.build x.app.currentUser (x.contents page).snapshot with
    | .ok l => some (page, .list screen l)
    | .error _ => some (page, .blank)
  | .result page rows =>
    match x.contents page with
    | .list screen l => some (page, .list screen (l.onData rows))
    | _ => none
  | .failure page =>
    match x.contents page with
    | .list screen l => some (page, .list screen l.onError)
    | _ => none
  | .newNote => some (x.app.fresh, .taking {})
  | .openNote index => (x.tileAt index).map fun t => (x.app.fresh, .opened t.1 t.2.1 t.2.2)
  | .openDialog index => (x.tileAt index).map fun t => (x.app.fresh + 1, .dialog t.1 t.2.1 t.2.2)
  | .type e =>
    match x.top with
    | some (page, .taking s) => some (page, .taking (s.step e))
    | _ => none
  | .edit e =>
    match x.top with
    | some (page, .editing screen account s) => some (page, .editing screen account (s.step screen e))
    | _ => none
  | .exit exit _ _ =>
    match x.top with
    | some (page, .editing screen account s) => some (page, .editing screen account (s.step screen (.press exit)))
    | _ => none
  | _ => none

/-- What an event does to the session and the stack. -/
def moves (x : DeviceState) : DeviceEvent → Option Event
  | .app e => some e
  | .newNote => some (.tap .newNote)
  | .openNote index => (x.tileAt index).map fun _ => .tap .openNote
  | .openDialog index => (x.tileAt index).map fun _ => .tap .openDialog
  | .exit exit now autoId =>
    match x.top with
    | some (_, .taking _) => some .back
    | some (_, .editing _ _ _) =>
      if (x.reaction (.exit exit now autoId)).any (·.atOnce.contains .pop) then some .back else none
    | _ => none
  | .confirm _ _ =>
    match x.top with
    | some (_, .dialog _ _ _) => some .dismiss
    | _ => none
  | _ => none

/-- The device after an event. -/
def step (x : DeviceState) (e : DeviceEvent) : DeviceState where
  app := (x.moves e).elim x.app x.app.step
  contents := (x.puts e).elim x.contents fun put => Function.update x.contents put.1 put.2
  provider := (x.reaction e).elim x.provider (·.provider)

end DeviceState

/-- The taps that are events of their own here. -/
def Event.opensNote : Event → Bool
  | tap .newNote | tap .openNote | tap .openDialog => true
  | _ => false

/-- What a device may have of the collection while it shows an account's notes: the account, an id and a document. -/
abbrev AtHand := Str → Str → Doc → Prop

/-- The events a device may take. A result of a list's query is of what the device has: its rows are documents
that are at hand, each once, and just such as the query asks for. -/
def DeviceEvent.Ok (has : AtHand) (x : DeviceState) : DeviceEvent → Prop
  | app e => e.enabled x.app = true ∧ e.opensNote = false
  | build page screen => ∃ r ∈ x.app.stack, r.page = page ∧ r.screen = screen.screen
  | result page rows => x.app.mounted page = true ∧
      ∀ screen l, x.contents page = .list screen l →
        rows.Lists (screen.result l.account rows.notes) ∧ ∀ k d, (k, d) ∈ rows → has l.account k d
  | failure page => x.app.mounted page = true
  | newNote => (Event.tap .newNote).enabled x.app = true
  | openNote _ => (Event.tap .openNote).enabled x.app = true
  | openDialog _ => (Event.tap .openDialog).enabled x.app = true
  | type e => ∀ page s, x.top = some (page, .taking s) → e.Ok s
  | edit e => ∀ exit, e ≠ .press exit
  | _ => True

/-! ## What a step can do -/

namespace DeviceState

variable {x : DeviceState} {e : DeviceEvent}

/-- What takes the taps is the first route, with its drawer closed. -/
theorem stack_of_top {page : Nat} {c : Content} (h : x.top = some (page, c)) :
    ∃ r rest, x.app.stack = r :: rest ∧ r.drawer = none ∧ r.page = page ∧ x.contents page = c := by
  unfold top at h
  split at h
  · cases h
  · next r rest hst =>
    split at h
    · cases h
    · next hd =>
      cases h
      exact ⟨r, rest, hst, Option.not_isSome_iff_eq_none.1 hd, rfl, rfl⟩

theorem mem_of_top {page : Nat} {c : Content} (h : x.top = some (page, c)) :
    ∃ r ∈ x.app.stack, r.page = page ∧ x.contents page = c := by
  obtain ⟨r, rest, hst, -, hp, hc⟩ := stack_of_top h
  exact ⟨r, by rw [hst]; exact .head _, hp, hc⟩

theorem top_of_tileAt {index : Nat} {screen : ListScreen} {account : Str} {note : Doc}
    (h : x.tileAt index = some (screen, account, note)) :
    ∃ page l, x.top = some (page, .list screen l) ∧ l.account = account ∧ note ∈ l.tiles := by
  unfold tileAt at h
  split at h
  · next page screen l htop =>
    obtain ⟨note', hn, heq⟩ := Option.map_eq_some_iff.1 h
    cases heq
    exact ⟨page, l, htop, rfl, List.mem_of_getElem? hn⟩
  · cases h

theorem list_of_tileAt {index : Nat} {screen : ListScreen} {account : Str} {note : Doc}
    (h : x.tileAt index = some (screen, account, note)) :
    ∃ r ∈ x.app.stack, ∃ l, x.contents r.page = .list screen l ∧ l.account = account ∧ note ∈ l.tiles := by
  obtain ⟨page, l, htop, hacc, hn⟩ := top_of_tileAt h
  obtain ⟨r, hr, rfl, hc⟩ := mem_of_top htop
  exact ⟨r, hr, l, hc, hacc, hn⟩

theorem step_app : (x.step e).app = (x.moves e).elim x.app x.app.step := rfl

/-- What an event can put on a page: a list is built, for the signed-in user, or its build throws; a list gets
a result or an error; a page or a dialog is opened, empty or on a tile; the page on top takes an input. -/
inductive PutsOn (x : DeviceState) : DeviceEvent → Nat → Content → Prop
  | built {r : Route} {screen : ListScreen} {l : NotesList} (hr : r ∈ x.app.stack) (hscreen : r.screen = screen.screen)
      (hu : x.email = some l.account) (hw : l.snapshot.connectionState = .waiting) :
      PutsOn x (.build r.page screen) r.page (.list screen l)
  | threw {r : Route} {screen : ListScreen} (hr : r ∈ x.app.stack) : PutsOn x (.build r.page screen) r.page .blank
  | data {page : Nat} {rows : Rows} {screen : ListScreen} {l : NotesList} (hm : x.app.mounted page = true)
      (hl : x.contents page = .list screen l) : PutsOn x (.result page rows) page (.list screen (l.onData rows))
  | failed {page : Nat} {screen : ListScreen} {l : NotesList} (hm : x.app.mounted page = true)
      (hl : x.contents page = .list screen l) : PutsOn x (.failure page) page (.list screen l.onError)
  | newNote : PutsOn x .newNote x.app.fresh (.taking {})
  | opened {index : Nat} {screen : ListScreen} {account : Str} {note : Doc}
      (ht : x.tileAt index = some (screen, account, note)) :
      PutsOn x (.openNote index) x.app.fresh (.opened screen account note)
  | asked {index : Nat} {screen : ListScreen} {account : Str} {note : Doc}
      (ht : x.tileAt index = some (screen, account, note)) :
      PutsOn x (.openDialog index) (x.app.fresh + 1) (.dialog screen account note)
  | typed {page : Nat} {s : NoteTakingState} {e : NoteTakingEvent} (htop : x.top = some (page, .taking s))
      (he : e.Ok s) : PutsOn x (.type e) page (.taking (s.step e))
  | edited {page : Nat} {screen : ListScreen} {account : Str} {s : EditingState} {e : DeviceEvent}
      {input : EditingEvent} (htop : x.top = some (page, .editing screen account s))
      (he : e = .edit input ∨ ∃ exit now autoId, e = .exit exit now autoId ∧ input = .press exit) :
      PutsOn x e page (.editing screen account (s.step screen input))

theorem puts_cases {page : Nat} {c : Content} {has : AtHand} (hok : e.Ok has x) (h : x.puts e = some (page, c)) :
    x.PutsOn e page c := by
  cases e with
  | build page screen =>
    obtain ⟨r, hr, rfl, hscreen⟩ := hok
    simp only [puts] at h
    split at h <;> cases h
    · next l hl =>
      obtain ⟨⟨user, hu, hacc⟩, hsnap⟩ := build_ok hl
      exact .built hr hscreen (by rw [email, hu, hacc]; rfl) (by rw [hsnap])
    · exact .threw hr
  | result page rows =>
    simp only [puts] at h
    split at h <;> cases h
    next screen l hl => exact .data hok.1 hl
  | failure page =>
    simp only [puts] at h
    split at h <;> cases h
    next screen l hl => exact .failed hok hl
  | newNote => cases h; exact .newNote
  | openNote index =>
    obtain ⟨⟨screen, account, note⟩, ht, heq⟩ := Option.map_eq_some_iff.1 h
    cases heq
    exact .opened ht
  | openDialog index =>
    obtain ⟨⟨screen, account, note⟩, ht, heq⟩ := Option.map_eq_some_iff.1 h
    cases heq
    exact .asked ht
  | type e =>
    simp only [puts] at h
    split at h <;> cases h
    next s htop => exact .typed htop (hok _ s htop)
  | edit e =>
    simp only [puts] at h
    split at h <;> cases h
    next screen account s htop => exact .edited htop (.inl rfl)
  | exit exit now autoId =>
    simp only [puts] at h
    split at h <;> cases h
    next screen account s htop => exact .edited htop (.inr ⟨exit, now, autoId, rfl, rfl⟩)
  | app e => cases h
  | toggle index now autoId => cases h
  | confirm now autoId => cases h

/-- What an event can do to the app: what the app may do, opening a page or a dialog, or leaving the page with
a text or closing the dialog that is on top. -/
inductive MovesBy (x : DeviceState) : DeviceEvent → Event → Prop
  | app {ev : Event} (he : ev.enabled x.app = true) : MovesBy x (.app ev) ev
  | newNote (he : (Event.tap .newNote).enabled x.app = true) : MovesBy x .newNote (.tap .newNote)
  | openNote {index : Nat} {screen : ListScreen} {account : Str} {note : Doc}
      (ht : x.tileAt index = some (screen, account, note)) (he : (Event.tap .openNote).enabled x.app = true) :
      MovesBy x (.openNote index) (.tap .openNote)
  | openDialog {index : Nat} (he : (Event.tap .openDialog).enabled x.app = true) :
      MovesBy x (.openDialog index) (.tap .openDialog)
  | leave {exit : Exit} {now autoId : Str} {page : Nat} {c : Content} (htop : x.top = some (page, c))
      (hc : c.isText = true) : MovesBy x (.exit exit now autoId) .back
  | close {now autoId : Str} {page : Nat} {screen : ListScreen} {account : Str} {note : Doc}
      (htop : x.top = some (page, .dialog screen account note)) : MovesBy x (.confirm now autoId) .dismiss

theorem moves_cases {ev : Event} {has : AtHand} (hok : e.Ok has x) (h : x.moves e = some ev) : x.MovesBy e ev := by
  cases e with
  | app e => cases h; exact .app hok.1
  | newNote => cases h; exact .newNote hok
  | openNote index =>
    obtain ⟨⟨screen, account, note⟩, ht, rfl⟩ := Option.map_eq_some_iff.1 h
    exact .openNote ht hok
  | openDialog index =>
    obtain ⟨t, -, rfl⟩ := Option.map_eq_some_iff.1 h
    exact .openDialog hok
  | exit exit now autoId =>
    simp only [moves] at h
    split at h
    · next htop => cases h; exact .leave htop rfl
    · next htop =>
      split at h <;> cases h
      exact .leave htop rfl
    · cases h
  | confirm now autoId =>
    simp only [moves] at h
    split at h <;> cases h
    next htop => exact .close htop
  | _ => cases h

/-- What handler an event can run: an exit of the page on top, the toggle of a tile on top, or the button of the
dialog on top, which deletes or removes. All but the delete run as the signed-in user. -/
inductive Handles (x : DeviceState) : DeviceEvent → Step → Prop
  | create {exit : Exit} {now autoId user : Str} {page : Nat} {t : NoteTakingState}
      (htop : x.top = some (page, .taking t)) (hu : x.email = some user) :
      Handles x (.exit exit now autoId) (x.stepOf user now autoId (.create exit t.page))
  | edit {exit : Exit} {now autoId user : Str} {page : Nat} {screen : ListScreen} {account : Str} {t : EditingState}
      (htop : x.top = some (page, .editing screen account t)) (hu : x.email = some user) :
      Handles x (.exit exit now autoId) (x.stepOf user now autoId (screen.editor exit t.page))
  | toggle {index : Nat} {now autoId user account : Str} {note : Doc}
      (ht : x.tileAt index = some (.savedNotes, account, note)) (hu : x.email = some user) :
      Handles x (.toggle index now autoId) (x.stepOf user now autoId (.toggleFavorite note))
  | delete {now autoId account : Str} {page : Nat} {note : Doc}
      (htop : x.top = some (page, .dialog .savedNotes account note)) :
      Handles x (.confirm now autoId) (x.stepOf account now autoId (.delete note))
  | remove {now autoId user account : Str} {page : Nat} {note : Doc}
      (htop : x.top = some (page, .dialog .favorites account note)) (hu : x.email = some user) :
      Handles x (.confirm now autoId) (x.stepOf user now autoId (.removeFromFavorites note))

theorem handler_cases {s : Step} (h : x.handler e = some s) : x.Handles e s := by
  cases e with
  | exit exit now autoId =>
    simp only [handler] at h
    split at h
    · next htop =>
      obtain ⟨user, hu, rfl⟩ := Option.map_eq_some_iff.1 h
      exact .create htop hu
    · next htop =>
      obtain ⟨user, hu, rfl⟩ := Option.map_eq_some_iff.1 h
      exact .edit htop hu
    · cases h
  | toggle index now autoId =>
    simp only [handler] at h
    split at h
    · next ht =>
      obtain ⟨user, hu, rfl⟩ := Option.map_eq_some_iff.1 h
      exact .toggle ht hu
    · cases h
  | confirm now autoId =>
    simp only [handler] at h
    split at h
    · next htop => cases h; exact .delete htop
    · next htop =>
      obtain ⟨user, hu, rfl⟩ := Option.map_eq_some_iff.1 h
      exact .remove htop hu
    · cases h
  | _ => cases h

/-- A page holds what it held, or what the event put there. -/
theorem contents_step (page : Nat) :
    (x.step e).contents page = x.contents page ∨ x.puts e = some (page, (x.step e).contents page) := by
  simp only [step]
  cases h : x.puts e with
  | none => exact .inl rfl
  | some put =>
    by_cases hp : page = put.1
    · subst hp
      exact .inr (by simp)
    · exact .inl (by simp [hp])

theorem contents_of_puts {page : Nat} {c : Content} (h : x.puts e = some (page, c)) :
    (x.step e).contents page = c := by
  simp only [step, h, Option.elim_some, Function.update_self]

theorem contents_of_not_puts {page : Nat} (h : ∀ c, x.puts e ≠ some (page, c)) :
    (x.step e).contents page = x.contents page := by
  rcases contents_step page with hc | hc
  · exact hc
  · exact absurd hc (h _)

theorem top_of_stack {r : Route} {rest : List Route} (hst : x.app.stack = r :: rest) (hd : r.drawer = none) :
    x.top = some (r.page, x.contents r.page) := by
  simp [top, hst, hd]

theorem currentUser_tap {w : App} {t : Tap} (h : (Event.tap t).enabled w = true) :
    (w.step (.tap t)).currentUser = w.currentUser := by
  obtain ⟨eff, heff⟩ := Option.isSome_iff_exists.1 h
  have hs := (tap_brings (P := fun _ => True) heff (fun _ _ => trivial) fun _ _ => trivial).1
  show ((Event.tap t).effect w).session.currentUser = _
  simp only [Event.effect, heff, Option.getD_some, hs]

/-- Only an event of the app itself changes who is signed in. -/
theorem currentUser_step {has : AtHand} (hok : e.Ok has x) (he : ∀ ev, e ≠ .app ev) :
    (x.step e).app.currentUser = x.app.currentUser := by
  rw [step_app]
  cases hm : x.moves e with
  | none => rfl
  | some ev =>
    cases moves_cases hok hm with
    | app _ => exact absurd rfl (he ev)
    | newNote ht => exact currentUser_tap ht
    | openNote _ ht => exact currentUser_tap ht
    | openDialog ht => exact currentUser_tap ht
    | leave _ _ => rfl
    | close _ => rfl

end DeviceState

/-! ## Old pages and new ones -/

/-- A route shows a page that was there, or one of the two numbers a step may give. -/
def App.OldOrNew (w : App) (r : Route) : Prop :=
  w.mounted r.page = true ∨ (w.fresh ≤ r.page ∧ r.page < w.fresh + 2)

theorem oldOrNew_leave {w : App} : ∀ r ∈ Navigator.applyAll Route.closeDrawer w.stack [.pop], w.OldOrNew r := by
  refine Navigator.forall_applyAll (fun r r' hr hp => ?_) (brings_one _ trivial) fun r hr => .inl (mounted_of_mem hr)
  rw [closeDrawer_eq_some hr]; exact hp

theorem oldOrNew_step {w : App} {e : Event} (he : e.enabled w = true) : ∀ r ∈ (w.step e).stack, w.OldOrNew r := by
  refine forall_step he (fun r hr => .inr hr.2) (fun r drawer hr => hr) (fun page snapshot _ r hr hp => ?_)
    fun r hr => .inl (mounted_of_mem hr)
  rcases rebuild_cases r w.fresh snapshot with hr' | ⟨gate, -, hr'⟩ <;> rw [hr']
  · exact hp
  · exact .inr ⟨Nat.le_refl _, Nat.lt_add_of_pos_right (by decide)⟩

namespace DeviceState

variable {x : DeviceState} {e : DeviceEvent}

theorem stack_step {has : AtHand} (hok : e.Ok has x) : ∀ r ∈ (x.step e).app.stack, x.app.OldOrNew r := by
  rw [step_app]
  cases hm : x.moves e with
  | none => exact fun r hr => .inl (mounted_of_mem hr)
  | some ev =>
    cases moves_cases hok hm with
    | app he => exact oldOrNew_step he
    | newNote he => exact oldOrNew_step he
    | openNote _ he => exact oldOrNew_step he
    | openDialog he => exact oldOrNew_step he
    | leave _ _ => exact oldOrNew_leave
    | close _ => exact oldOrNew_leave

/-- The pages on the stack have numbers that were given, the others hold nothing, and a Google sign-in that is
past its chooser has recorded its account. -/
structure Sound (x : DeviceState) : Prop where
  below : PagesBelow x.app
  unused : ∀ page, x.app.fresh ≤ page → x.contents page = .blank
  recorded : Recorded x.app

theorem Sound.lt_fresh (h : x.Sound) {page : Nat} (hm : x.app.mounted page = true) : page < x.app.fresh := by
  obtain ⟨r, hr, hp⟩ := List.any_eq_true.1 hm
  exact beq_iff_eq.1 hp ▸ h.below r hr

theorem lt_fresh_of_top (h : x.Sound) {page : Nat} {c : Content} (ht : x.top = some (page, c)) :
    page < x.app.fresh := by
  obtain ⟨r, hr, rfl, -⟩ := mem_of_top ht
  exact h.below r hr

theorem fresh_le_step : x.app.fresh ≤ (x.step e).app.fresh := by
  rw [step_app]
  cases x.moves e with
  | none => exact Nat.le_refl _
  | some ev => exact Nat.le_add_right _ 2

/-- What an event puts, it puts on a page that has its number then. -/
theorem puts_lt_fresh (h : x.Sound) {has : AtHand} (hok : e.Ok has x) {page : Nat} {c : Content}
    (hput : x.puts e = some (page, c)) : page < (x.step e).app.fresh := by
  have hold : page < x.app.fresh → page < (x.step e).app.fresh := fun hlt => Nat.lt_of_lt_of_le hlt fresh_le_step
  cases puts_cases hok hput with
  | built hr _ _ _ => exact hold (h.below _ hr)
  | threw hr => exact hold (h.below _ hr)
  | data hm _ => exact hold (h.lt_fresh hm)
  | failed hm _ => exact hold (h.lt_fresh hm)
  | newNote => exact Nat.lt_add_of_pos_right (by decide)
  | opened ht =>
    rw [step_app, moves, ht]
    exact Nat.lt_add_of_pos_right (by decide)
  | asked ht =>
    rw [step_app, moves, ht]
    exact Nat.lt_succ_self _
  | typed htop _ => exact hold (lt_fresh_of_top h htop)
  | edited htop _ => exact hold (lt_fresh_of_top h htop)

theorem recorded_device {has : AtHand} (hok : e.Ok has x) (h : Recorded x.app) : Recorded (x.step e).app := by
  rw [step_app]
  cases hm : x.moves e with
  | none => exact h
  | some ev =>
    cases moves_cases hok hm with
    | app he => exact recorded_step he h
    | newNote he => exact recorded_step he h
    | openNote _ he => exact recorded_step he h
    | openDialog he => exact recorded_step he h
    | leave _ _ => exact h
    | close _ => exact h

theorem Sound.step (h : x.Sound) {has : AtHand} (hok : e.Ok has x) : (x.step e).Sound := by
  refine ⟨fun r hr => ?_, fun page hp => ?_, recorded_device hok h.recorded⟩
  · rcases stack_step hok r hr with hm | ⟨-, hlt⟩
    · exact Nat.lt_of_lt_of_le (h.lt_fresh hm) fresh_le_step
    · -- a route with a new page comes from a move, which takes both numbers
      cases hm : x.moves e with
      | none =>
        rw [step_app, hm] at hr ⊢
        exact h.below r hr
      | some ev => rw [step_app, hm]; exact hlt
  · rcases contents_step page with hc | hput
    · rw [hc]; exact h.unused page (Nat.le_trans fresh_le_step hp)
    · exact absurd (puts_lt_fresh h hok hput) (Nat.not_lt.2 hp)

theorem sound_start (user : Option User) : Sound { app := .start user } := by
  refine ⟨fun r hr => ?_, fun page _ => rfl, fun _ _ _ ht => by cases ht⟩
  rw [List.mem_singleton.1 hr]
  exact Nat.zero_lt_one

/-! ## Accounts -/

/-- Every page on the stack that shows notes shows those of the account. -/
def Owned (x : DeviceState) (account : Str) : Prop :=
  ∀ r ∈ x.app.stack, ∀ a, (x.contents r.page).account = some a → a = account

/-- Whoever is signed in, the pages show no other account's notes. -/
def Unmixed (x : DeviceState) : Prop := ∀ account, x.email = some account → x.Owned account

/-- When the event signs another account in, no page that shows notes of a former one stays on the stack. -/
def CleanSwitch (x : DeviceState) (e : DeviceEvent) : Prop :=
  ∀ account, (x.step e).email = some account → x.email ≠ some account → (x.step e).Owned account

/-- Where the account of what an event puts comes from: a list that is built asks for the signed-in user's
notes, and anything else shows what a page on the stack shows. -/
theorem puts_account {page : Nat} {c : Content} {a : Str} {has : AtHand} (hok : e.Ok has x)
    (h : x.puts e = some (page, c)) (ha : c.account = some a) :
    x.email = some a ∨ ∃ r ∈ x.app.stack, (x.contents r.page).account = some a := by
  have htile : ∀ {index screen account note}, x.tileAt index = some (screen, account, note) → account = a →
      ∃ r ∈ x.app.stack, (x.contents r.page).account = some a := by
    rintro index screen account note ht rfl
    obtain ⟨r, hr, l, hl, rfl, -⟩ := list_of_tileAt ht
    exact ⟨r, hr, by rw [hl]; rfl⟩
  have hlist : ∀ {page screen l}, x.app.mounted page = true → x.contents page = .list screen l → l.account = a →
      ∃ r ∈ x.app.stack, (x.contents r.page).account = some a := by
    rintro page screen l hm hl rfl
    obtain ⟨r, hr, hp⟩ := List.any_eq_true.1 hm
    exact ⟨r, hr, by rw [beq_iff_eq.1 hp, hl]; rfl⟩
  cases puts_cases hok h with
  | built _ _ hu _ => cases ha; exact .inl hu
  | threw _ => cases ha
  | data hm hl => cases ha; exact .inr (hlist hm hl rfl)
  | failed hm hl => cases ha; exact .inr (hlist hm hl rfl)
  | newNote => cases ha
  | opened ht =>
    refine .inr (htile ht ?_)
    unfold Content.opened at ha
    split at ha <;> cases ha
    rfl
  | asked ht => cases ha; exact .inr (htile ht rfl)
  | typed _ _ => cases ha
  | edited htop _ =>
    obtain ⟨r, hr, rfl, hc⟩ := mem_of_top htop
    exact .inr ⟨r, hr, by rw [hc]; exact ha⟩

/-- Only a switch of the account can mix the pages. -/
theorem Unmixed.step (hu : x.Unmixed) (h : x.Sound) {has : AtHand} (hok : e.Ok has x) (hc : x.CleanSwitch e) :
    (x.step e).Unmixed := by
  intro account haccount
  by_cases hsame : x.email = some account
  · have hold : ∀ {page a}, x.app.mounted page = true → (x.contents page).account = some a → a = account := by
      intro page a hm ha
      obtain ⟨r, hr, hp⟩ := List.any_eq_true.1 hm
      exact hu account hsame r hr a (by rw [beq_iff_eq.1 hp]; exact ha)
    intro r hr a ha
    rcases contents_step r.page with hcont | hput
    · rw [hcont] at ha
      rcases stack_step hok r hr with hm | ⟨hnew, -⟩
      · exact hold hm ha
      · rw [h.unused _ hnew] at ha; cases ha
    · rcases puts_account hok hput ha with hemail | ⟨r₀, hr₀, ha₀⟩
      · rw [hsame] at hemail; cases hemail; rfl
      · exact hu account hsame r₀ hr₀ a ha₀
  · exact hc account haccount hsame

end DeviceState

end Notely
