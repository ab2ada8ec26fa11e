/-
The whole system: any number of devices over one collection, each with its own session and pages. What an
event is to the collection can be read off it: a query result is delivered, a handler issues its write,
a write lands or is refused. The devices of the collection's model are then pairs of a device and an
account, and a run of the whole system projects to a run of theirs (`sent_valid`), as long as no page shows
the notes of another account than the one that is signed in. In every run, one rule follows what the handlers
write through the collection, the caches and the pages (`world_docs`).
-/
import Notely.Devices.Device
import Notely.Store.Clients

namespace Notely

/-! ## The system -/

/-- The devices, and the collection with what is on its way. -/
structure World (Device : Type) where
  device : Device → DeviceState
  cloud : Cloud (Device × Str) := {}

/-- Something happens on a device, or to a write that is on its way. -/
inductive WorldEvent (Device : Type)
  | on (device : Device) (e : DeviceEvent)
  | land (flight : Flight (Device × Str))
  | reject (flight : Flight (Device × Str))

section World

variable {Device : Type} [DecidableEq Device]

namespace World

/-- Every device is opened, with the session Firebase has stored there. -/
def start (user : Device → Option User) : World Device := { device := fun d => { app := .start (user d) } }

/-- What an event is to the collection. -/
def traffic (w : World Device) : WorldEvent Device → Option (CloudEvent (Device × Str))
  | .on device (.result page rows) =>
    match (w.device device).contents page with
    | .list screen l => some (.deliver (device, l.account) screen rows.notes)
    | _ => none
  | .on device e => ((w.device device).handler e).map fun s => .issue (device, s.user) s
  | .land flight => some (.land flight)
  | .reject flight => some (.reject flight)

/-- The world after an event. -/
def step (w : World Device) (e : WorldEvent Device) : World Device where
  device := match e with
    | .on device e => Function.update w.device device ((w.device device).step e)
    | _ => w.device
  cloud := (w.traffic e).elim w.cloud (w.cloud.step Prod.snd)

end World

variable (user : Device → Option User)

/-- The world after a log. -/
def world (log : List (WorldEvent Device)) : World Device := Trace.after (.start user) World.step log

/-- What the log is to the collection. -/
def sent (log : List (WorldEvent Device)) : List (CloudEvent (Device × Str)) :=
  Trace.System.project (.start user) World.step World.traffic log

/-- What a device may have of the collection for an account. -/
def atHand (log : List (WorldEvent Device)) (device : Device) : AtHand :=
  fun account => Cached Prod.snd (sent user log) (device, account)

/-- An event may follow a log: the device can take it, and a new note gets an id no create was given; writes land
and are refused as in the collection's model. -/
def WorldEvent.Ok (log : List (WorldEvent Device)) : WorldEvent Device → Prop
  | .on device e =>
    e.Ok (atHand user log device) ((world user log).device device) ∧
    ∀ s, ((world user log).device device).handler e = some s → s.action.note = none →
      ∀ c s', CloudEvent.issue c s' ∈ sent user log → s'.action.note = none → s'.autoId ≠ s.autoId
  | .land flight => LandOk Prod.snd (sent user log) flight
  | .reject flight => flight ∈ (cloud Prod.snd (sent user log)).flights

/-- The devices with all they have as a system. -/
def worldSystem : Trace.System (World Device) (WorldEvent Device) where
  init := .start user
  step := World.step
  ok := WorldEvent.Ok user

/-- The collection of the whole system is the one its projection leads to. -/
theorem cloud_sent (log : List (WorldEvent Device)) :
    cloud Prod.snd (sent user log) = (world user log).cloud :=
  Trace.System.state_project (S := worldSystem user) (T := cloudSystem Prod.snd) World.cloud rfl (fun _ _ => rfl) log

theorem device_on_self (d : Device) (e : DeviceEvent) (log : List (WorldEvent Device)) :
    (world user (.on d e :: log)).device d = ((world user log).device d).step e :=
  Function.update_self ..

theorem device_on_other {d d' : Device} (hd : d' ≠ d) (e : DeviceEvent) (log : List (WorldEvent Device)) :
    (world user (.on d e :: log)).device d' = (world user log).device d' :=
  Function.update_of_ne hd ..

/-- What an event of a run does to a device: nothing, or the device takes an event it may take. -/
theorem device_cases {e : WorldEvent Device} {log : List (WorldEvent Device)} (h : (worldSystem user).Valid (e :: log))
    (d : Device) : (world user (e :: log)).device d = (world user log).device d ∨
    ∃ e', e = .on d e' ∧ (world user (e :: log)).device d = ((world user log).device d).step e' ∧
      e'.Ok (atHand user log d) ((world user log).device d) := by
  cases e with
  | on d' e =>
    by_cases hd : d = d'
    · subst hd
      exact .inr ⟨e, rfl, device_on_self user d e log, h.1.1⟩
    · exact .inl (device_on_other user hd e log)
  | land f => exact .inl rfl
  | reject f => exact .inl rfl

/-! ## What the pages hold was delivered -/

/-- The note was on a tile built from a result of the account's query that came to the device. -/
def FromResult (delivered : List ((Device × Str) × ListScreen × Notes)) (device : Device) (account : Str)
    (screen : ListScreen) (note : Doc) : Prop :=
  ∃ r k d, ((device, account), screen, r) ∈ delivered ∧ r k = some d ∧ note = tile d

/-- The rows a list shows are a delivered result of its query, an editing page and a dialog have the note of
a tile, and a note-taking page has its texts in both places. -/
def Content.Ok (delivered : List ((Device × Str) × ListScreen × Notes)) (device : Device) : Content → Prop
  | .blank => True
  | .list screen l => ∀ rows, l.snapshot = { connectionState := .active, data := some rows } →
      ∃ r, ((device, l.account), screen, r) ∈ delivered ∧ rows.Lists r
  | .taking page => page.Agrees
  | .editing screen account page => FromResult delivered device account screen page.note
  | .dialog screen account note => FromResult delivered device account screen note

omit [DecidableEq Device] in
theorem FromResult.mono {delivered delivered' : List ((Device × Str) × ListScreen × Notes)} {device : Device}
    {account : Str} {screen : ListScreen} {note : Doc} (h : FromResult delivered device account screen note)
    (hsub : delivered ⊆ delivered') : FromResult delivered' device account screen note := by
  obtain ⟨r, k, d, hr, hd⟩ := h
  exact ⟨r, k, d, hsub hr, hd⟩

omit [DecidableEq Device] in
theorem Content.Ok.mono {delivered delivered' : List ((Device × Str) × ListScreen × Notes)} {device : Device}
    {c : Content} (h : c.Ok delivered device) (hsub : delivered ⊆ delivered') : c.Ok delivered' device := by
  cases c with
  | blank => trivial
  | list screen l =>
    intro rows hrows
    obtain ⟨r, hr, hl⟩ := h rows hrows
    exact ⟨r, hsub hr, hl⟩
  | taking page => exact h
  | editing screen account page => exact FromResult.mono h hsub
  | dialog screen account note => exact FromResult.mono h hsub

omit [DecidableEq Device] in
theorem fromResult_of_tiles {delivered : List ((Device × Str) × ListScreen × Notes)} {device : Device}
    {screen : ListScreen} {l : NotesList} (h : (Content.list screen l).Ok delivered device) {note : Doc}
    (hn : note ∈ l.tiles) : FromResult delivered device l.account screen note := by
  obtain ⟨rows, k, d, hrows, hmem, rfl⟩ := mem_tiles hn
  obtain ⟨r, hr, hl⟩ := h rows hrows
  exact ⟨r, k, d, hr, (hl.mem k d).1 hmem, rfl⟩

omit [DecidableEq Device] in
theorem fromResult_of_tileAt {delivered : List ((Device × Str) × ListScreen × Notes)} {device : Device}
    {x : DeviceState} (h : ∀ page, (x.contents page).Ok delivered device) {index : Nat} {screen : ListScreen}
    {account : Str} {note : Doc} (ht : x.tileAt index = some (screen, account, note)) :
    FromResult delivered device account screen note := by
  obtain ⟨r, -, l, hl, rfl, hn⟩ := DeviceState.list_of_tileAt ht
  have hok := h r.page
  rw [hl] at hok
  exact fromResult_of_tiles hok hn

omit [DecidableEq Device] in
/-- What an event puts on a page is as the pages should be, once a result that comes is counted as delivered. -/
theorem puts_ok {delivered : List ((Device × Str) × ListScreen × Notes)} {device : Device} {x : DeviceState}
    {e : DeviceEvent} {has : AtHand} (hok : e.Ok has x) (h : ∀ page, (x.contents page).Ok delivered device)
    (hres : ∀ page rows screen l, e = .result page rows → x.contents page = .list screen l →
      ((device, l.account), screen, screen.result l.account rows.notes) ∈ delivered) {page : Nat} {c : Content}
    (hput : x.puts e = some (page, c)) : c.Ok delivered device := by
  cases DeviceState.puts_cases hok hput with
  | built _ _ _ hw =>
    intro rows hrows
    rw [hrows] at hw; cases hw
  | threw _ => trivial
  | @data page rows screen l _ hl =>
    intro rows' hrows
    cases hrows
    exact ⟨_, hres page rows screen l rfl hl, (hok.2 screen l hl).1⟩
  | failed _ _ => intro rows hrows; cases hrows
  | newNote => exact NoteTakingState.agrees_init
  | opened ht =>
    have hn := fromResult_of_tileAt h ht
    unfold Content.opened
    split
    · next page ho =>
      obtain ⟨title, description, -, -, rfl⟩ := EditingState.openOn_ok ho
      exact hn
    · trivial
  | asked ht => exact fromResult_of_tileAt h ht
  | typed htop he =>
    obtain ⟨r, -, rfl, hc⟩ := DeviceState.mem_of_top htop
    have hagree := h r.page
    rw [hc] at hagree
    exact NoteTakingState.Agrees.step hagree he
  | @edited _ screen account s _ input htop _ =>
    obtain ⟨r, -, rfl, hc⟩ := DeviceState.mem_of_top htop
    have hnote := h r.page
    rw [hc] at hnote
    show FromResult delivered device account screen (s.step screen input).note
    rw [EditingState.step_note]
    exact hnote

theorem delivered_step {Client : Type} [DecidableEq Client] (account : Client → Str) (w : Cloud Client)
    (e : CloudEvent Client) : w.delivered ⊆ (w.step account e).delivered := by
  cases e with
  | deliver client screen view => exact List.subset_cons_self _ _
  | issue client s => exact (issue_frame w client s).2.1 ▸ List.Subset.refl _
  | land f => exact List.Subset.refl _
  | reject f => exact List.Subset.refl _

theorem react_provider {action : Action} {env : Env} {r : Reaction} (h : action.react env = .ok r) :
    r.provider = env.provider := by
  have hsave : ∀ {messages : EditingPage → List (Option String)} {isFavorite : Bool}
      {updateNote : Env → Doc → Note → Except DartError NoteWrite} {page : EditingPage},
      EditingPage.saveHandler messages isFavorite updateNote env page = .ok r → r.provider = env.provider := by
    intro messages isFavorite updateNote page h
    unfold EditingPage.saveHandler at h
    split at h
    · obtain ⟨id, -, h⟩ := bind_eq_ok h
      obtain ⟨write, -, h⟩ := bind_eq_ok h
      cases h; rfl
    · cases h; rfl
  cases action with
  | create exit page =>
    cases exit <;> cases h
    · unfold NoteTakingPage.backArrow
      split <;> rfl
    · rfl
  | edit exit page => cases exit <;> exact hsave h
  | editFavorite exit page => cases exit <;> exact hsave h
  | toggleFavorite note => exact (SavedNotes.addToFavorites_frame h).1
  | removeFromFavorites note => exact (Favorites.removeFromFavorites_frame h).1
  | delete note =>
    obtain ⟨docNote, -, h⟩ := bind_eq_ok h
    cases h; rfl

namespace DeviceState

variable {x : DeviceState} {e : DeviceEvent}

theorem handler_provider {s : Step} (h : x.handler e = some s) : s.provider = x.provider := by
  cases handler_cases h <;> rfl

theorem provider_step : (x.step e).provider = x.provider := by
  show (x.reaction e).elim x.provider (·.provider) = x.provider
  cases hr : x.reaction e with
  | none => rfl
  | some r =>
    obtain ⟨s, hs, hreact⟩ := Option.bind_eq_some_iff.1 hr
    cases hok : s.action.react s.env with
    | error err => rw [hok] at hreact; cases hreact
    | ok r' =>
      rw [hok] at hreact
      cases hreact
      exact (react_provider hok).trans (handler_provider hs)

end DeviceState

theorem provider_issue {Client : Type} [DecidableEq Client] {w : Cloud Client} {client : Client} {s : Step}
    (h : s.provider = w.provider client) : (w.issue client s).provider = w.provider := by
  unfold Cloud.issue
  split
  · rfl
  · next r hr =>
    have hp : r.provider = w.provider client := (react_provider hr).trans h
    simp only [hp, Function.update_eq_self]

/-! ## The invariant -/

/-- On every device the pages are numbered and hold what they should, and no provider was ever changed. -/
structure World.Consistent (w : World Device) : Prop where
  sound : ∀ d, (w.device d).Sound
  held : ∀ d page, ((w.device d).contents page).Ok w.cloud.delivered d
  provider : ∀ d, (w.device d).provider = {}
  providers : ∀ client, w.cloud.provider client = {}

omit user in
/-- What stands on the devices stays as it is while the collection moves on. -/
theorem World.Consistent.cloud {w : World Device} (h : w.Consistent) {e : CloudEvent (Device × Str)}
    (hp : ∀ client s, e = .issue client s → s.provider = {}) :
    World.Consistent { w with cloud := w.cloud.step Prod.snd e } := by
  refine ⟨h.sound, fun d page => (h.held d page).mono (delivered_step _ _ _), h.provider, ?_⟩
  cases e with
  | issue client s =>
    have hs : s.provider = w.cloud.provider client := by rw [h.providers, hp client s rfl]
    intro c
    show (w.cloud.issue client s).provider c = {}
    rw [provider_issue hs, h.providers]
  | deliver client screen view => exact h.providers
  | land f => exact h.providers
  | reject f => exact h.providers

omit user in
/-- One device takes an event; a result it takes counts as delivered already. -/
theorem World.Consistent.device {w : World Device} (h : w.Consistent) {d : Device} {e : DeviceEvent} {has : AtHand}
    (hok : e.Ok has (w.device d))
    (hres : ∀ page rows screen l, e = .result page rows → (w.device d).contents page = .list screen l →
      ((d, l.account), screen, screen.result l.account rows.notes) ∈ w.cloud.delivered) :
    World.Consistent { w with device := Function.update w.device d ((w.device d).step e) } := by
  -- the other devices are as they were
  have hother : ∀ {P : Device → DeviceState → Prop}, (∀ d', P d' (w.device d')) → P d ((w.device d).step e) →
      ∀ d', P d' (Function.update w.device d ((w.device d).step e) d') := by
    intro P hP hd d'
    by_cases hd' : d' = d
    · subst hd'; rw [Function.update_self]; exact hd
    · rw [Function.update_of_ne hd']; exact hP d'
  refine ⟨hother h.sound ((h.sound d).step hok), ?_, ?_, h.providers⟩
  · refine hother (P := fun d x => ∀ page, (x.contents page).Ok w.cloud.delivered d) h.held fun page => ?_
    rcases DeviceState.contents_step page with hc | hput
    · rw [hc]; exact h.held d page
    · exact puts_ok hok (h.held d) hres hput
  · refine hother (P := fun _ x => x.provider = {}) h.provider ?_
    rw [DeviceState.provider_step]; exact h.provider d

omit user [DecidableEq Device] in
theorem traffic_cases {w : World Device} {ev : WorldEvent Device} {ce : CloudEvent (Device × Str)}
    (h : w.traffic ev = some ce) :
    (∃ d page rows screen l, ev = .on d (.result page rows) ∧ (w.device d).contents page = .list screen l ∧
      ce = .deliver (d, l.account) screen rows.notes) ∨
    (∃ d e s, ev = .on d e ∧ (w.device d).handler e = some s ∧ ce = .issue (d, s.user) s) ∨
    (∃ f, ev = .land f ∧ ce = .land f) ∨ ∃ f, ev = .reject f ∧ ce = .reject f := by
  cases ev with
  | on d e =>
    cases e with
    | result page rows =>
      simp only [World.traffic] at h
      split at h <;> cases h
      next screen l hl => exact .inl ⟨d, page, rows, screen, l, rfl, hl, rfl⟩
    | _ =>
      simp only [World.traffic] at h
      obtain ⟨s, hs, rfl⟩ := Option.map_eq_some_iff.1 h
      exact .inr (.inl ⟨d, _, s, rfl, hs, rfl⟩)
  | land f => cases h; exact .inr (.inr (.inl ⟨f, rfl, rfl⟩))
  | reject f => cases h; exact .inr (.inr (.inr ⟨f, rfl, rfl⟩))

omit user [DecidableEq Device] in
theorem traffic_result (w : World Device) {d : Device} {page : Nat} {rows : Rows} {screen : ListScreen} {l : NotesList}
    (hl : (w.device d).contents page = .list screen l) :
    w.traffic (.on d (.result page rows)) = some (.deliver (d, l.account) screen rows.notes) := by
  simp only [World.traffic, hl]

omit user [DecidableEq Device] in
theorem traffic_handler (w : World Device) {d : Device} {e : DeviceEvent} {s : Step}
    (hs : (w.device d).handler e = some s) : w.traffic (.on d e) = some (.issue (d, s.user) s) := by
  cases e with
  | result page rows => cases hs
  | _ => simp only [World.traffic, hs, Option.map_some]

theorem sent_of_traffic {log : List (WorldEvent Device)} {e : WorldEvent Device} {ce : CloudEvent (Device × Str)}
    (h : (world user log).traffic e = some ce) : sent user (e :: log) = ce :: sent user log := by
  show ((world user log).traffic e).elim _ _ = _
  rw [h]; rfl

theorem consistent {log : List (WorldEvent Device)} (h : (worldSystem user).Valid log) :
    (world user log).Consistent := by
  refine h.invariant (I := fun _ w => w.Consistent) ?_ ?_
  · exact ⟨fun d => DeviceState.sound_start _, fun _ _ => trivial, fun _ => rfl, fun _ => rfl⟩
  · intro e log hv hok ih
    have ih : (world user log).Consistent := ih
    -- first the collection moves, then the device
    have hcloud : World.Consistent ⟨(world user log).device,
        ((world user log).traffic e).elim (world user log).cloud ((world user log).cloud.step Prod.snd)⟩ := by
      cases ht : (world user log).traffic e with
      | none => exact ih
      | some ce =>
        refine ih.cloud fun client s hce => ?_
        subst hce
        rcases traffic_cases ht with ⟨_, _, _, _, _, -, -, heq⟩ | ⟨d, e, s', -, hs, heq⟩ | ⟨_, -, heq⟩ | ⟨_, -, heq⟩ <;>
          cases heq
        rw [DeviceState.handler_provider hs, ih.provider]
    cases e with
    | on d e =>
      refine hcloud.device hok.1 fun page rows screen l he hl => ?_
      subst he
      have hl : ((world user log).device d).contents page = .list screen l := hl
      dsimp only
      rw [traffic_result _ hl]
      exact .head _
    | land f => exact hcloud
    | reject f => exact hcloud

/-- Where what is sent comes from: a result, a handler, or what happens to a write. -/
theorem sent_cases {log : List (WorldEvent Device)} {ce : CloudEvent (Device × Str)}
    {before : List (CloudEvent (Device × Str))} (h : ce :: before <:+ sent user log) :
    ∃ e fs, e :: fs <:+ log ∧ (world user fs).traffic e = some ce ∧ sent user fs = before :=
  Trace.System.suffix_project (S := worldSystem user) h

theorem sent_handler {log : List (WorldEvent Device)} {client : Device × Str} {s : Step}
    {before : List (CloudEvent (Device × Str))} (h : .issue client s :: before <:+ sent user log) :
    ∃ d e fs, .on d e :: fs <:+ log ∧ ((world user fs).device d).handler e = some s ∧ sent user fs = before := by
  obtain ⟨ev, fs, hfs, ht, hsent⟩ := sent_cases user h
  rcases traffic_cases ht with ⟨_, _, _, _, _, -, -, heq⟩ | ⟨d, e, s', rfl, hs, heq⟩ | ⟨_, -, heq⟩ | ⟨_, -, heq⟩ <;>
    cases heq
  exact ⟨d, e, fs, hfs, hs, hsent⟩

/-- The rule for what documents are like, over whole runs: they are all such as `T` says, if each handler, run when
those before it are, writes such a one. -/
theorem world_docs {T : Str → Doc → Prop} {log : List (WorldEvent Device)} (h : (worldSystem user).Valid log)
    (hT : ∀ d e fs s, .on d e :: fs <:+ log → ((world user fs).device d).handler e = some s →
      AllDocs Prod.snd T (sent user fs) → ∀ w x, s.write = some w → w.doc = some x → T w.target x) :
    AllDocs Prod.snd T (sent user log) := by
  refine all_docs (fun client screen view before hb k doc hdoc => ?_) (fun f before hb => ?_)
    fun client s before hb hdocs => ?_
  · obtain ⟨ev, fs, hfs, ht, rfl⟩ := sent_cases user hb
    rcases traffic_cases ht with ⟨d, page, rows, _, l, rfl, hl, heq⟩ | ⟨_, _, _, -, -, heq⟩ | ⟨_, -, heq⟩ |
      ⟨_, -, heq⟩ <;> cases heq
    exact ((h.of_suffix hfs).1.1.2 screen l hl).2 k doc (Rows.mem_of_notes hdoc)
  · obtain ⟨ev, fs, hfs, ht, rfl⟩ := sent_cases user hb
    rcases traffic_cases ht with ⟨_, _, _, _, _, -, -, heq⟩ | ⟨_, _, _, -, -, heq⟩ | ⟨f', rfl, heq⟩ | ⟨_, -, heq⟩ <;>
      cases heq
    exact (h.of_suffix hfs).1.flying
  · obtain ⟨d, e, fs, hfs, hs, rfl⟩ := sent_handler user hb
    exact hT d e fs s hfs hs hdocs

/-! ## The projection is a run of the devices -/

omit user [DecidableEq Device] in
/-- On unmixed pages a handler acts on a tile that was shown to its user, and that offers it. -/
theorem handler_tile {delivered : List ((Device × Str) × ListScreen × Notes)} {d : Device} {x : DeviceState}
    (hmix : x.Unmixed) (h : ∀ page, (x.contents page).Ok delivered d) {e : DeviceEvent} {s : Step}
    (hs : x.handler e = some s) {note : Doc} (hn : s.action.note = some note) :
    ∃ screen, s.action.offeredOn screen = true ∧ FromResult delivered d s.user screen note := by
  have htop : ∀ {page c}, x.top = some (page, c) → c.Ok delivered d ∧
      ∀ {a}, x.email = some s.user → c.account = some a → a = s.user := by
    intro page c htop
    obtain ⟨r, hr, rfl, rfl⟩ := DeviceState.mem_of_top htop
    exact ⟨h r.page, fun hu ha => hmix s.user hu r hr _ ha⟩
  cases DeviceState.handler_cases hs with
  | create _ _ => cases hn
  | @edit _ _ _ _ _ screen account t ht hu =>
    obtain ⟨hok, hacc⟩ := htop ht
    obtain rfl : t.note = note := by cases screen <;> exact Option.some.inj hn
    refine ⟨screen, by cases screen <;> rfl, ?_⟩
    rw [← hacc hu rfl]; exact hok
  | toggle ht hu =>
    cases hn
    have hres := fromResult_of_tileAt h ht
    obtain ⟨r, hr, l, hl, rfl, -⟩ := DeviceState.list_of_tileAt ht
    have hacc := hmix _ hu r hr l.account (by rw [hl]; rfl)
    exact ⟨.savedNotes, rfl, hacc ▸ hres⟩
  | delete ht =>
    cases hn
    exact ⟨.savedNotes, rfl, (htop ht).1⟩
  | remove ht hu =>
    cases hn
    obtain ⟨hok, hacc⟩ := htop ht
    refine ⟨.favorites, rfl, ?_⟩
    rw [← hacc hu rfl]; exact hok

/-- Refinement: where the pages are unmixed at every point, what a run is to the collection is a run of the
devices of the collection's model. -/
theorem sent_valid {log : List (WorldEvent Device)} (h : (worldSystem user).Valid log)
    (hmix : ∀ fs, fs <:+ log → ∀ d, ((world user fs).device d).Unmixed) :
    (cloudSystem Prod.snd).Valid (sent user log) := by
  refine Trace.System.project_valid (S := worldSystem user) (T := cloudSystem Prod.snd) fun e fs ce hs _ hemit => ?_
  have hv := h.of_suffix hs
  have hfs : fs <:+ log := (List.suffix_cons e fs).trans hs
  have hemit : (world user fs).traffic e = some ce := hemit
  have hcons := consistent user hv.2
  show CloudEvent.Ok Prod.snd (sent user fs) ce
  rcases traffic_cases hemit with ⟨d, page, rows, screen, l, rfl, hl, rfl⟩ | ⟨d, e, s, rfl, hhandler, rfl⟩ |
    ⟨f, rfl, rfl⟩ | ⟨f, rfl, rfl⟩
  · exact fun k doc hdoc => (hv.1.1.2 screen l hl).2 k doc (Rows.mem_of_notes hdoc)
  · refine ⟨rfl, ?_, fun note hn => ?_, hv.1.2 s hhandler⟩
    · rw [cloud_sent, hcons.providers, DeviceState.handler_provider hhandler, hcons.provider]
    · rw [cloud_sent]
      obtain ⟨screen, hoffer, r, k, doc, hr, hd, hnote⟩ := handler_tile (hmix fs hfs d) (hcons.held d) hhandler hn
      exact ⟨screen, r, k, doc, hr, hoffer, hd, hnote⟩
  · exact hv.1
  · exact hv.1

end World

end Notely
