/-
The pages inside the whole system. Every page with a text, on any device, is in a state its own machine
reaches by inputs that were made on that device (`reached`), so what is proven of a page alone holds of it
there. With it the texts can be followed from the keyboard through pages, writes, documents and tiles:
whatever is stored as a title was typed into a title field, and a body into a body field
(`stored_text_was_typed`), in every run and whoever was signed in.
-/
import Notely.Devices.Accounts

namespace Notely

open DocStore

/-! ## Pages and their machines -/

/-- The page is in a state its machine reaches by inputs of the log made on the device. -/
def Content.Reached {Device : Type} (log : List (WorldEvent Device)) (d : Device) : Content → Prop
  | .taking t => ∃ es, noteTakingSystem.Valid es ∧ t = noteTakingSystem.state es ∧ ∀ e ∈ es, .on d (.type e) ∈ log
  | .editing screen _ t => ∃ s es, EditingState.openOn t.note = .ok s ∧ t = s.run screen es ∧
      ∀ e ∈ es, .on d (.edit e) ∈ log ∨ ∃ exit now autoId, e = .press exit ∧ .on d (.exit exit now autoId) ∈ log
  | _ => True

section Reached

variable {Device : Type} {log log' : List (WorldEvent Device)} {d : Device}

theorem Content.Reached.mono {c : Content} (h : c.Reached log d) (hsub : log ⊆ log') : c.Reached log' d := by
  cases c with
  | taking t =>
    obtain ⟨es, hv, ht, hes⟩ := h
    exact ⟨es, hv, ht, fun e he => hsub (hes e he)⟩
  | editing screen account t =>
    obtain ⟨s, es, ho, ht, hes⟩ := h
    refine ⟨s, es, ho, ht, fun e he => ?_⟩
    rcases hes e he with hin | ⟨exit, now, autoId, hpress, hin⟩
    · exact .inl (hsub hin)
    · exact .inr ⟨exit, now, autoId, hpress, hsub hin⟩
  | blank => trivial
  | list screen l => trivial
  | dialog screen account note => trivial

/-- What an event puts on a page is one input further. -/
theorem puts_reached {x : DeviceState} {e : DeviceEvent} {has : AtHand} (hok : e.Ok has x)
    (h : ∀ page, (x.contents page).Reached log d) {page : Nat} {c : Content} (hput : x.puts e = some (page, c)) :
    c.Reached (.on d e :: log) d := by
  have hkept : ∀ {page c}, x.top = some (page, c) → c.Reached (.on d e :: log) d := by
    intro page c htop
    obtain ⟨r, -, rfl, hc⟩ := DeviceState.mem_of_top htop
    exact hc ▸ (h r.page).mono (List.subset_cons_self _ _)
  cases DeviceState.puts_cases hok hput with
  | built _ _ _ _ => trivial
  | threw _ => trivial
  | data _ _ => trivial
  | failed _ _ => trivial
  | newNote => exact ⟨[], trivial, rfl, fun e he => by cases he⟩
  | opened _ =>
    unfold Content.opened
    split
    · next page ho =>
      obtain ⟨title, description, -, -, rfl⟩ := EditingState.openOn_ok ho
      exact ⟨_, [], ho, rfl, fun e he => by cases he⟩
    · trivial
  | asked _ => trivial
  | @typed _ s input htop hin =>
    obtain ⟨es, hv, rfl, hes⟩ := hkept htop
    refine ⟨input :: es, ⟨hin, hv⟩, rfl, fun e he => ?_⟩
    rcases List.mem_cons.1 he with rfl | he
    · exact .head _
    · exact hes e he
  | @edited _ screen account s _ input htop hin =>
    obtain ⟨s₀, es, ho, hs, hes⟩ := hkept htop
    refine ⟨s₀, input :: es, ?_, ?_, fun e he => ?_⟩
    · rw [EditingState.step_note]; exact ho
    · rw [hs]; rfl
    rcases List.mem_cons.1 he with rfl | he
    · rcases hin with rfl | ⟨exit, now, autoId, rfl, rfl⟩
      · exact .inl (.head _)
      · exact .inr ⟨exit, now, autoId, rfl, .head _⟩
    · exact hes e he

end Reached

section World

variable {Device : Type} [DecidableEq Device] (user : Device → Option User)

theorem reached {log : List (WorldEvent Device)} (h : (worldSystem user).Valid log) :
    ∀ d page, (((world user log).device d).contents page).Reached log d := by
  refine h.invariant (I := fun log w => ∀ d page, ((w.device d).contents page).Reached log d) ?_ ?_
  · intro d page; trivial
  · intro e log hv hok ih d page
    have hmono := (ih d page).mono (List.subset_cons_self e log)
    show (((world user (e :: log)).device d).contents page).Reached _ d
    rcases device_cases user ⟨hok, hv⟩ d with hsame | ⟨e', rfl, hstep, hok'⟩
    · rw [hsame]; exact hmono
    · rw [hstep]
      rcases DeviceState.contents_step page with hc | hput
      · rw [hc]; exact hmono
      · exact puts_reached hok' (ih d) hput

end World

/-! ## Texts -/

/-- The two texts of a document are there, and are such as `T` says. -/
structure HasTexts (T : PageField → Str → Prop) (doc : Doc) : Prop where
  title : ∃ s, doc "title" = some (.str s) ∧ T .title s
  description : ∃ s, doc "description" = some (.str s) ∧ T .body s

/-- The texts an action carries are such as `T` says. -/
def Action.Carries (T : PageField → Str → Prop) : Action → Prop
  | create _ page => T .title page.title ∧ T .body page.description
  | edit _ page => T .title page.titleField ∧ T .body page.bodyField
  | editFavorite _ page => T .title page.titleField ∧ T .body page.bodyField
  | toggleFavorite note => HasTexts T note
  | removeFromFavorites note => HasTexts T note
  | delete _ => True

section Texts

variable {T : PageField → Str → Prop}

theorem HasTexts.tile {doc : Doc} (h : HasTexts T doc) : HasTexts T (tile doc) := by
  obtain ⟨⟨title, ht, hT₁⟩, ⟨description, hd, hT₂⟩⟩ := h
  have htile : Notely.tile doc = doc := by simp [Notely.tile, putIfNull, ht, hd]
  rw [htile]
  exact ⟨⟨title, ht, hT₁⟩, ⟨description, hd, hT₂⟩⟩

theorem hasTexts_toJson {note : Note} (ht : T .title note.title) (hd : T .body note.body) : HasTexts T note.toJson :=
  ⟨⟨_, rfl, ht⟩, ⟨_, rfl, hd⟩⟩

theorem saveHandler_hasTexts {messages : EditingPage → List (Option String)} {isFavorite : Bool} {env : Env}
    {page : EditingPage} {r : Reaction}
    (hr : EditingPage.saveHandler messages isFavorite NoteEditingPage.updateNote env page = .ok r)
    (hT : T .title page.titleField ∧ T .body page.bodyField) {w : NoteWrite} (hw : r.write = some w) {doc : Doc}
    (hdoc : w.doc = some doc) : HasTexts T doc := by
  unfold EditingPage.saveHandler at hr
  split at hr
  · obtain ⟨id, -, hr⟩ := bind_eq_ok hr
    obtain ⟨write, hwrite, hr⟩ := bind_eq_ok hr
    obtain ⟨docNote, -, hwrite⟩ := bind_eq_ok hwrite
    cases hwrite; cases hr; cases hw; cases hdoc
    exact hasTexts_toJson hT.1 hT.2
  · cases hr; cases hw

/-- The favourite-status handlers read the texts of the tile back. -/
theorem HasTexts.asString {note : Doc} {title body : Str} (h : HasTexts T note)
    (ht : asString (note "title") = .ok title) (hb : asString (note "description") = .ok body) :
    T .title title ∧ T .body body := by
  obtain ⟨⟨title', ht', hT₁⟩, ⟨body', hb', hT₂⟩⟩ := h
  rw [ht'] at ht
  rw [hb'] at hb
  cases ht; cases hb
  exact ⟨hT₁, hT₂⟩

theorem react_hasTexts {action : Action} {env : Env} {r : Reaction} (hr : action.react env = .ok r)
    (h : action.Carries T) {w : NoteWrite} (hw : r.write = some w) {doc : Doc} (hdoc : w.doc = some doc) :
    HasTexts T doc := by
  cases action with
  | create exit page =>
    have hcreate : w = NoteTakingPage.createNote env page page.title := by
      cases exit <;> cases hr
      · unfold NoteTakingPage.backArrow at hw
        split at hw <;> cases hw
        rfl
      · cases hw; rfl
    subst hcreate
    cases hdoc
    exact hasTexts_toJson h.1 h.2
  | edit exit page => cases exit <;> exact saveHandler_hasTexts hr h hw hdoc
  | editFavorite exit page => cases exit <;> exact saveHandler_hasTexts hr h hw hdoc
  | toggleFavorite note =>
    obtain ⟨docNote, -, hr⟩ := bind_eq_ok hr
    obtain ⟨body, hb, hr⟩ := bind_eq_ok hr
    obtain ⟨title, ht, hr⟩ := bind_eq_ok hr
    cases hr; cases hw; cases hdoc
    exact hasTexts_toJson (HasTexts.asString h ht hb).1 (HasTexts.asString h ht hb).2
  | removeFromFavorites note =>
    obtain ⟨docNote, -, hr⟩ := bind_eq_ok hr
    obtain ⟨body, hb, hr⟩ := bind_eq_ok hr
    obtain ⟨title, ht, hr⟩ := bind_eq_ok hr
    cases hr; cases hw; cases hdoc
    exact hasTexts_toJson (HasTexts.asString h ht hb).1 (HasTexts.asString h ht hb).2
  | delete note =>
    obtain ⟨docNote, -, hr⟩ := bind_eq_ok hr
    cases hr; cases hw; cases hdoc

theorem write_hasTexts {s : Step} (h : s.action.Carries T) {w : NoteWrite} (hw : s.write = some w) {doc : Doc}
    (hdoc : w.doc = some doc) : HasTexts T doc := by
  unfold Step.write at hw
  split at hw
  · next r hr => exact react_hasTexts hr h hw hdoc
  · cases hw

end Texts

/-! ## From the keyboard -/

/-- The text an event puts in a field of the page on top. -/
def DeviceEvent.typed (field : PageField) : DeviceEvent → Option Str
  | .type e => e.typed field
  | .edit e => e.typed field
  | _ => none

section World

variable {Device : Type} {log : List (WorldEvent Device)}

/-- The text is empty, or was typed into such a field on some device. -/
def Typed (log : List (WorldEvent Device)) (field : PageField) (text : Str) : Prop :=
  text = [] ∨ ∃ d e, .on d e ∈ log ∧ e.typed field = some text

theorem typed_of_taking {d : Device} {t : NoteTakingState} (h : (Content.taking t).Reached log d) (f : PageField) :
    Typed log f (t.stateText f) := by
  obtain ⟨es, hv, rfl, hes⟩ := h
  rw [(noteTaking_agrees hv).text f, noteTaking_text f hv]
  cases hlast : es.findSome? (NoteTakingEvent.typed f) with
  | none => exact .inl rfl
  | some text =>
    obtain ⟨e, he, ht⟩ := List.exists_of_findSome?_eq_some hlast
    exact .inr ⟨d, _, hes e he, ht⟩

theorem typed_of_editing {d : Device} {screen : ListScreen} {account : Str} {t : EditingState}
    (h : (Content.editing screen account t).Reached log d) (hn : HasTexts (Typed log) t.note) (f : PageField) :
    Typed log f (t.field f).text := by
  obtain ⟨s, es, ho, ht, hes⟩ := h
  rw [ht, s.run_field_text screen f es]
  cases hlast : lastTyped f es with
  | none =>
    obtain ⟨title, description, htitle, hdescription, rfl⟩ := EditingState.openOn_ok ho
    obtain ⟨⟨title', ht', hT₁⟩, ⟨description', hd', hT₂⟩⟩ := hn
    cases htitle.symm.trans ht'
    cases hdescription.symm.trans hd'
    cases f with
    | title => exact hT₁
    | body => exact hT₂
  | some text =>
    obtain ⟨e, he, htyped⟩ := List.exists_of_findSome?_eq_some hlast
    rcases hes e he with hin | ⟨exit, now, autoId, rfl, -⟩
    · exact .inr ⟨d, _, hin, htyped⟩
    · cases htyped

/-- A handler carries typed texts, when those delivered to its device were typed. -/
theorem handler_typed {delivered : List ((Device × Str) × ListScreen × Notes)} {d : Device} {x : DeviceState}
    (hok : ∀ page, (x.contents page).Ok delivered d) (hreach : ∀ page, (x.contents page).Reached log d)
    (hdel : ∀ c screen r, (c, screen, r) ∈ delivered → ∀ k doc, r k = some doc → HasTexts (Typed log) doc)
    {e : DeviceEvent} {s : Step} (hs : x.handler e = some s) : s.action.Carries (Typed log) := by
  have hnote : ∀ {account screen note}, FromResult delivered d account screen note → HasTexts (Typed log) note := by
    rintro account screen note ⟨r, k, doc, hr, hd, rfl⟩
    exact (hdel _ _ r hr k doc hd).tile
  have htop : ∀ {page c}, x.top = some (page, c) → c.Ok delivered d ∧ c.Reached log d := by
    intro page c htop
    obtain ⟨r, -, rfl, rfl⟩ := DeviceState.mem_of_top htop
    exact ⟨hok r.page, hreach r.page⟩
  cases DeviceState.handler_cases hs with
  | create ht _ => exact ⟨typed_of_taking (htop ht).2 .title, typed_of_taking (htop ht).2 .body⟩
  | @edit _ _ _ _ _ screen _ _ ht _ =>
    have htyped := typed_of_editing (htop ht).2 (hnote (htop ht).1)
    cases screen <;> exact ⟨htyped .title, htyped .body⟩
  | toggle ht _ => exact hnote (fromResult_of_tileAt hok ht)
  | delete _ => trivial
  | remove ht _ => exact hnote (htop ht).1

variable [DecidableEq Device] (user : Device → Option User)

/-- Every text that is stored, sent or delivered was typed. -/
theorem typed_docs (h : (worldSystem user).Valid log) :
    AllDocs Prod.snd (fun _ doc => HasTexts (Typed log) doc) (sent user log) := by
  refine world_docs user h fun d e fs s hfs hs hdocs w x hw hx => ?_
  have hv := (h.of_suffix hfs).2
  have hsub : fs ⊆ log := ((List.suffix_cons _ _).trans hfs).subset
  have hreach : ∀ page, (((world user fs).device d).contents page).Reached log d :=
    fun page => (reached user hv d page).mono hsub
  refine write_hasTexts (handler_typed ((consistent user hv).held d) hreach ?_ hs) hw hx
  rw [← cloud_sent]
  exact hdocs.delivered

end World

/-- No text is made up. In every run, whoever signs in and out and whatever overtakes what, a document in the
collection has a title and a description, each of them empty or typed, as it is, into a field of its kind on
some device. No default text of a tile, no part of a text and no text of another field is ever stored. -/
theorem stored_text_was_typed {Device : Type} [DecidableEq Device] (user : Device → Option User)
    (log : List (WorldEvent Device)) (h : (worldSystem user).Valid log) (k : Str) (doc : Doc)
    (hd : (world user log).cloud.store k = some doc) :
    ∃ title description, doc "title" = some (.str title) ∧ doc "description" = some (.str description) ∧
      Typed log .title title ∧ Typed log .body description := by
  rw [← cloud_sent] at hd
  obtain ⟨⟨title, ht, hT₁⟩, ⟨description, hdesc, hT₂⟩⟩ := (typed_docs user h).stored _ (List.suffix_refl _) k doc hd
  exact ⟨title, description, ht, hdesc, hT₁, hT₂⟩

open SharedTablet in
theorem stored_text_was_typed_tablet :
    (worldSystem (fun _ : Unit => none)).Valid benTakes ∧ Typed benTakes .title (lit "Milk") := by
  obtain ⟨title, description, ht, -, htyped, -⟩ :=
    stored_text_was_typed (fun _ : Unit => none) benTakes benTakes_valid (lit "n1") _ rfl
  cases ht
  exact ⟨benTakes_valid, htyped⟩

end Notely
