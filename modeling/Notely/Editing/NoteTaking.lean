/-
The note-taking page as its user works on it: text comes in, selections move, fields are tapped, the
style buttons are pressed, the page is rebuilt, in any order. The text of each field is in two places,
the state variable that `createNote` reads and the controller that the field shows and the back arrow
tests. They agree along every run (`texts_agree`), the tap handlers, which take the selected text out
of the controller and put it back in, included.
-/
import Notely.Lib.TextEditing
import Notely.Lib.Trace
import Notely.Screens.Writers

namespace Notely

open DocStore TextEditing

/-- What a text field or a controller holds. -/
abbrev TextValue := TextEditingValue UInt16

/-- The two text fields of the pages with a text. -/
inductive PageField
  | title
  | body
  deriving DecidableEq, Repr

/-! ## The tap handlers -/

/-- The `onTap` of a text field, on the controller it reads; the source has it four times, for the two
fields of `NoteTakingPage` and the two of `NoteEditingPage`. -/
def onTap (controller : TextValue) : Except RangeError TextValue := do
  let currentSelection := controller.selection
  let selectedText ← currentSelection.textInside controller.text
  if selectedText.isEmpty then
    return controller
  else
    let startIndex := currentSelection.start
    let endIndex := currentSelection.stop
    let newSelection := TextSelection.collapsed endIndex
    let newText ← replaceRange controller.text startIndex endIndex selectedText
    return { selection := newSelection, text := newText }

/-- On a selection that lies in the text the handler only collapses it, to its end. -/
theorem onTap_inRange {v : TextValue} (h : InRange v.text v.selection.start v.selection.stop) :
    onTap v = .ok (if v.selection.isCollapsed then v
      else { v with selection := .collapsed v.selection.stop }) := by
  have hsub := substring_of_inRange h
  have hput := replaceRange_substring hsub
  have hempty := substring_isEmpty h
  simp only [onTap, TextSelection.textInside, hsub, bind, Except.bind, pure, Except.pure]
  by_cases hc : v.selection.start = v.selection.stop
  · rw [if_pos (hempty.2 hc), if_pos (by simpa [TextSelection.isCollapsed] using hc)]
  · rw [if_neg (fun he => hc (hempty.1 he)), if_neg (by simpa [TextSelection.isCollapsed] using hc), hput]

theorem onTap_not_inRange {v : TextValue} (h : ¬ InRange v.text v.selection.start v.selection.stop) :
    onTap v = .error .outOfRange := by
  simp only [onTap, TextSelection.textInside, substring_of_not_inRange h, bind, Except.bind]

theorem onTap_keeps {v v' : TextValue} (h : onTap v = .ok v') (hb : v.Bounded) : v'.text = v.text ∧ v'.Bounded := by
  by_cases hr : InRange v.text v.selection.start v.selection.stop
  · rw [onTap_inRange hr] at h
    cases h
    split
    · exact ⟨rfl, hb⟩
    · refine ⟨rfl, fun _ => ?_⟩
      simpa using hr.2.2
  · rw [onTap_not_inRange hr] at h
    cases h

/-! ## The page -/

/-- The state of the note-taking page: the texts a save reads, the two styles and the controllers of the fields. -/
structure NoteTakingState where
  title : Str := []
  description : Str := []
  isBold : Bool := false
  isItalics : Bool := false
  controllerTitle : TextValue := {}
  controllerBody : TextValue := {}
  deriving DecidableEq, Repr

/-- What can happen to the page, but for its exits. -/
inductive NoteTakingEvent
  /-- the user edits: the text the field holds now, and the selection in it -/
  | change (field : PageField) (value : TextValue)
  | select (field : PageField) (selection : TextSelection)
  | tap (field : PageField)
  | bold
  | italics
  | rebuild

namespace NoteTakingState

/-- The state variable of a field. -/
def stateText (s : NoteTakingState) : PageField → Str
  | .title => s.title
  | .body => s.description

/-- The controller attached to a field; the field shows its text. -/
def controller (s : NoteTakingState) : PageField → TextValue
  | .title => s.controllerTitle
  | .body => s.controllerBody

/-- The controller of a field gets a text and a selection. -/
def setController (s : NoteTakingState) : PageField → TextValue → NoteTakingState
  | .title, v => { s with controllerTitle := v }
  | .body, v => { s with controllerBody := v }

/-- The `onChanged` of each field. -/
def onChanged (s : NoteTakingState) : PageField → Str → NoteTakingState
  | .title, value => { s with
      title := value
      controllerTitle := { text := value, selection := s.controllerTitle.selection } }
  | .body, value => { s with
      description := value
      controllerBody := { text := value, selection := s.controllerBody.selection } }

/-- The page after an event. -/
def step (s : NoteTakingState) : NoteTakingEvent → NoteTakingState
  -- the field puts what was typed into its controller and calls `onChanged` when the text is another
  | .change field value =>
    if value.text = (s.controller field).text then s.setController field value
    else (s.setController field value).onChanged field value.text
  | .select field selection => s.setController field { s.controller field with selection := selection }
  -- a handler that throws has changed nothing
  | .tap field => match onTap (s.controller field) with
    | .ok value => s.setController field value
    | .error _ => s
  | .bold => { s with isBold := !s.isBold }
  | .italics => { s with isItalics := !s.isItalics }
  | .rebuild => s

/-- What the two exits read. -/
def page (s : NoteTakingState) : NoteTakingPage := {
  title := s.title, description := s.description,
  controllerTitleText := s.controllerTitle.text, controllerBodyText := s.controllerBody.text }

end NoteTakingState

/-- Input leaves its selection in the text, and a selection is moved within the text. -/
def NoteTakingEvent.Ok (s : NoteTakingState) : NoteTakingEvent → Prop
  | .change _ value => value.Bounded
  | .select field selection => InRange (s.controller field).text selection.start selection.stop
  | _ => True

/-- The note-taking page as a system. -/
def noteTakingSystem : Trace.System NoteTakingState NoteTakingEvent where
  init := {}
  step := NoteTakingState.step
  ok log e := e.Ok (Trace.after {} NoteTakingState.step log)

/-! ## Both places of a text agree -/

namespace NoteTakingState

section Fields

variable (s : NoteTakingState) (field f : PageField) (v : TextValue)

@[simp] theorem stateText_setController : (s.setController field v).stateText f = s.stateText f := by
  cases field <;> cases f <;> rfl

theorem controller_setController :
    (s.setController field v).controller f = if f = field then v else s.controller f := by
  cases field <;> cases f <;> rfl

theorem stateText_onChanged (value : Str) :
    (s.onChanged field value).stateText f = if f = field then value else s.stateText f := by
  cases field <;> cases f <;> rfl

theorem controller_onChanged (value : Str) :
    (s.onChanged field value).controller f =
      if f = field then { text := value, selection := (s.controller field).selection } else s.controller f := by
  cases field <;> cases f <;> rfl

end Fields

/-- The state variables hold what the fields show, and no selection reaches beyond its text. -/
structure Agrees (s : NoteTakingState) : Prop where
  text : ∀ field, s.stateText field = (s.controller field).text
  bounded : ∀ field, (s.controller field).Bounded

theorem agrees_init : Agrees {} :=
  ⟨fun field => by cases field <;> rfl,
    fun field => by cases field <;> exact TextEditingValue.bounded_untouched []⟩

theorem Agrees.congr {s s' : NoteTakingState} (h : s.Agrees) (ht : ∀ f, s'.stateText f = s.stateText f)
    (hc : ∀ f, s'.controller f = s.controller f) : s'.Agrees :=
  ⟨fun f => by rw [ht, hc]; exact h.text f, fun f => by rw [hc]; exact h.bounded f⟩

theorem Agrees.setController {s : NoteTakingState} (h : s.Agrees) {field : PageField} {v : TextValue}
    (ht : v.text = (s.controller field).text) (hb : v.Bounded) : (s.setController field v).Agrees := by
  refine ⟨fun f => ?_, fun f => ?_⟩ <;> rw [controller_setController]
  · by_cases hf : f = field
    · rw [if_pos hf, stateText_setController, h.text, ht, hf]
    · rw [if_neg hf, stateText_setController, h.text]
  · by_cases hf : f = field
    · rw [if_pos hf]; exact hb
    · rw [if_neg hf]; exact h.bounded f

/-- Typed text reaches both places. -/
theorem Agrees.onChanged {s : NoteTakingState} (h : s.Agrees) {field : PageField} {v : TextValue}
    (hb : v.Bounded) : ((s.setController field v).onChanged field v.text).Agrees := by
  refine ⟨fun f => ?_, fun f => ?_⟩ <;> rw [controller_onChanged]
  · rw [stateText_onChanged]
    by_cases hf : f = field
    · rw [if_pos hf, if_pos hf]
    · rw [if_neg hf, if_neg hf, stateText_setController, controller_setController, if_neg hf, h.text]
  · by_cases hf : f = field
    · rw [if_pos hf, controller_setController, if_pos rfl]; exact hb
    · rw [if_neg hf, controller_setController, if_neg hf]; exact h.bounded f

theorem Agrees.step {s : NoteTakingState} (h : s.Agrees) {e : NoteTakingEvent} (hok : e.Ok s) :
    (s.step e).Agrees := by
  cases e with
  | change field value =>
    simp only [NoteTakingState.step]
    split
    · next ht => exact h.setController ht hok
    · exact h.onChanged hok
  | select field selection => exact h.setController rfl fun _ => hok.2.2
  | tap field =>
    simp only [NoteTakingState.step]
    split
    · next v' hv =>
      obtain ⟨ht, hb⟩ := onTap_keeps hv (h.bounded field)
      exact h.setController ht hb
    · exact h
  | bold => exact h.congr (fun f => by cases f <;> rfl) (fun f => by cases f <;> rfl)
  | italics => exact h.congr (fun f => by cases f <;> rfl) (fun f => by cases f <;> rfl)
  | rebuild => exact h

end NoteTakingState

theorem noteTaking_agrees {log : List NoteTakingEvent} (h : noteTakingSystem.Valid log) :
    (noteTakingSystem.state log).Agrees :=
  h.invariant (I := fun _ s => s.Agrees) NoteTakingState.agrees_init fun _ _ _ hok ih => ih.step hok

/-- The text an input puts in a field. -/
def NoteTakingEvent.typed (field : PageField) : NoteTakingEvent → Option Str
  | .change f value => if f = field then some value.text else none
  | _ => none

/-- A field shows what was typed into it, or what it showed before. -/
theorem NoteTakingState.Agrees.step_text {s : NoteTakingState} (h : s.Agrees) (e : NoteTakingEvent) (f : PageField) :
    ((s.step e).controller f).text = (e.typed f).getD (s.controller f).text := by
  cases e with
  | change field value =>
    simp only [NoteTakingState.step, NoteTakingEvent.typed]
    split
    · cases field <;> cases f <;> rfl
    · cases field <;> cases f <;> rfl
  | select field selection => cases field <;> cases f <;> rfl
  | tap field =>
    simp only [NoteTakingState.step, NoteTakingEvent.typed]
    split
    · next v hv =>
      have ht := (onTap_keeps hv (h.bounded field)).1
      rw [NoteTakingState.controller_setController]
      split
      · next hf => rw [hf]; exact ht
      · rfl
    · rfl
  | bold => cases f <;> rfl
  | italics => cases f <;> rfl
  | rebuild => rfl

/-- After any inputs a field shows the text last typed into it. -/
theorem noteTaking_text (f : PageField) : ∀ {log : List NoteTakingEvent}, noteTakingSystem.Valid log →
    ((noteTakingSystem.state log).controller f).text = (log.findSome? (NoteTakingEvent.typed f)).getD []
  | [], _ => by cases f <;> rfl
  | e :: log, h => by
    have hs := (noteTaking_agrees h.2).step_text e f
    rw [noteTaking_text f h.2] at hs
    rw [List.findSome?_cons]
    cases he : e.typed f with
    | none => rw [he] at hs; exact hs
    | some t => rw [he] at hs; exact hs

/-! ## What the exits store -/

/-- The document `createNote` stores is a note of the user, with the texts of the state variables. -/
theorem createNote_holdsNote (env : Env) (page : NoteTakingPage) :
    ∃ d, NoteTakingPage.createNote env page page.title = .set env.autoId d ∧
      HoldsNote d env.autoId page.title page.description false ∧ d "email" = some (Value.ofString? env.email) :=
  ⟨_, rfl, ⟨rfl, rfl, rfl, rfl⟩, rfl⟩

/-- The page shows no text. -/
def NoteTakingPage.IsEmpty (page : NoteTakingPage) : Prop :=
  page.controllerTitleText = [] ∧ page.controllerBodyText = []

theorem backArrow_of_isEmpty (env : Env) {page : NoteTakingPage} (h : page.IsEmpty) :
    NoteTakingPage.backArrow env page = { atOnce := [.pop], provider := env.provider } :=
  if_pos (by simp [h.1, h.2])

theorem backArrow_of_not_isEmpty (env : Env) {page : NoteTakingPage} (h : ¬ page.IsEmpty) :
    NoteTakingPage.backArrow env page = NoteTakingPage.saveIcon env page :=
  if_neg (by simpa [NoteTakingPage.IsEmpty, and_comm] using h)

/-- Where the texts agree, a created note has the displayed ones, and the back arrow creates it unless
both are empty. -/
theorem NoteTakingState.Agrees.created {s : NoteTakingState} (h : s.Agrees) (env : Env) : ∃ d,
    NoteTakingPage.createNote env s.page s.title = .set env.autoId d ∧
    d "title" = some (.str s.controllerTitle.text) ∧ d "description" = some (.str s.controllerBody.text) ∧
    (NoteTakingPage.saveIcon env s.page).write = some (.set env.autoId d) ∧
    ((NoteTakingPage.backArrow env s.page).write = none ↔
      d "title" = some (.str []) ∧ d "description" = some (.str [])) ∧
    ((NoteTakingPage.backArrow env s.page).write ≠ none →
      (NoteTakingPage.backArrow env s.page).write = some (.set env.autoId d)) := by
  obtain ⟨d, hd, hnote, -⟩ := createNote_holdsNote env s.page
  have htitle : d "title" = some (.str s.controllerTitle.text) :=
    hnote.title.trans (congrArg (some ∘ Value.str) (h.text .title))
  have hbody : d "description" = some (.str s.controllerBody.text) :=
    hnote.description.trans (congrArg (some ∘ Value.str) (h.text .body))
  refine ⟨d, hd, htitle, hbody, congrArg some hd, ?_⟩
  rw [htitle, hbody]
  by_cases hempty : s.page.IsEmpty
  · rw [backArrow_of_isEmpty env hempty]
    exact ⟨iff_of_true rfl (by simpa [NoteTakingPage.IsEmpty, NoteTakingState.page] using hempty),
      fun hne => absurd rfl hne⟩
  · rw [backArrow_of_not_isEmpty env hempty]
    exact ⟨iff_of_false (by simp [NoteTakingPage.saveIcon])
      (by simpa [NoteTakingPage.IsEmpty, NoteTakingState.page] using hempty), fun _ => congrArg some hd⟩

/-- Whatever was done on the page, the state variables hold the displayed texts; the note `createNote`
stores has just these, and the back arrow stores it unless both are empty. A tap puts a selected text
back where it was. -/
theorem texts_agree (log : List NoteTakingEvent) (h : noteTakingSystem.Valid log) :
    (noteTakingSystem.state log).title = (noteTakingSystem.state log).controllerTitle.text ∧
    (noteTakingSystem.state log).description = (noteTakingSystem.state log).controllerBody.text ∧
    (∀ env, ∃ d,
      NoteTakingPage.createNote env (noteTakingSystem.state log).page (noteTakingSystem.state log).title =
        .set env.autoId d ∧
      d "title" = some (.str (noteTakingSystem.state log).controllerTitle.text) ∧
      d "description" = some (.str (noteTakingSystem.state log).controllerBody.text) ∧
      (NoteTakingPage.saveIcon env (noteTakingSystem.state log).page).write = some (.set env.autoId d) ∧
      ((NoteTakingPage.backArrow env (noteTakingSystem.state log).page).write = none ↔
        d "title" = some (.str []) ∧ d "description" = some (.str [])) ∧
      ((NoteTakingPage.backArrow env (noteTakingSystem.state log).page).write ≠ none →
        (NoteTakingPage.backArrow env (noteTakingSystem.state log).page).write = some (.set env.autoId d))) ∧
    ∀ (text selectedText : Str) (selection : TextSelection), selection.textInside text = .ok selectedText →
      replaceRange text selection.start selection.stop selectedText = .ok text := by
  have hagree := noteTaking_agrees h
  refine ⟨hagree.text .title, hagree.text .body, hagree.created, ?_⟩
  intro text selectedText selection hsel
  exact replaceRange_substring hsel

/-- A title is typed, and a part of it selected from its end. -/
def selectedTitle : List NoteTakingEvent := [
  .select .title ⟨3, 1⟩, .change .title { text := lit "Milk", selection := .collapsed 4 }]

/-- The field is tapped and the page rebuilt. -/
def typedTitle : List NoteTakingEvent := .rebuild :: .tap .title :: selectedTitle

theorem typedTitle_valid : noteTakingSystem.Valid typedTitle := by
  refine ⟨trivial, trivial, ?_, ?_, trivial⟩
  · show InRange (lit "Milk") 1 3
    decide
  · show TextEditingValue.Bounded { text := lit "Milk", selection := .collapsed 4 }
    decide

theorem texts_agree_typedTitle :
    noteTakingSystem.Valid typedTitle ∧
    (noteTakingSystem.state typedTitle).title = (noteTakingSystem.state typedTitle).controllerTitle.text ∧
    (noteTakingSystem.state typedTitle).controllerTitle = { text := lit "Milk", selection := .collapsed 3 } :=
  ⟨typedTitle_valid, (texts_agree typedTitle typedTitle_valid).1, by decide⟩

end Notely
