/-
The two editing pages as their user works on them. Every build resets the state variables `title` and
`description` to the texts of the opened note, and every keystroke asks for a build, so for most of the
time they are not what the fields show. What is saved is (`saves_what_is_shown`): the save handlers run
`Form.save`, which stores the text of each field in its variable, and a rebuild comes only after the
handler.
-/
import Notely.Editing.NoteTaking
import Notely.Store.FavoriteStatus

namespace Notely

open DocStore TextEditing

/-! ## The pages -/

/-- An editing page: the opened note, the state variables, what the form fields hold, and the two
controllers, which no field is given. -/
structure EditingState where
  note : Doc
  title : Str := []
  description : Str := []
  titleField : TextValue := {}
  bodyField : TextValue := {}
  controllerTitle : TextValue := {}
  controllerBody : TextValue := {}

/-- What can happen to an editing page. -/
inductive EditingEvent
  /-- the user edits: the text the field holds now, and the selection in it -/
  | change (field : PageField) (value : TextValue)
  | select (field : PageField) (selection : TextSelection)
  | tap (field : PageField)
  | rebuild
  | press (exit : Exit)

namespace EditingState

/-- What a field holds. -/
def field (s : EditingState) : PageField → TextValue
  | .title => s.titleField
  | .body => s.bodyField

/-- A field gets a text and a selection. -/
def setField (s : EditingState) : PageField → TextValue → EditingState
  | .title, v => { s with titleField := v }
  | .body, v => { s with bodyField := v }

/-- The controller the tap handler of a field reads. -/
def controller (s : EditingState) : PageField → TextValue
  | .title => s.controllerTitle
  | .body => s.controllerBody

/-- That controller gets a text and a selection. -/
def setController (s : EditingState) : PageField → TextValue → EditingState
  | .title, v => { s with controllerTitle := v }
  | .body, v => { s with controllerBody := v }

/-- The `onChanged` of each field. -/
def onChanged (s : EditingState) : PageField → Str → EditingState
  | .title, value => { s with title := value }
  | .body, value => { s with description := value }

/-- What a build does before it returns the widgets. -/
def build (s : EditingState) : Except DartError EditingState := do
  let title ← asString (s.note "title")
  let description ← asString (s.note "description")
  return { s with title := title, description := description }

/-- The page on a note, after its first build: the fields have taken their `initialValue`. -/
def openOn (note : Doc) : Except DartError EditingState := do
  let s ← build { note := note }
  return { s with titleField := { text := s.title }, bodyField := { text := s.description } }

/-- A page that shows the two texts of its note. -/
def showing (note : Doc) (title description : Str) : EditingState := {
  note := note, title := title, description := description,
  titleField := { text := title }, bodyField := { text := description } }

/-- What the save handlers read. -/
def page (s : EditingState) : EditingPage := {
  note := s.note, title := s.title, description := s.description,
  titleField := s.titleField.text, bodyField := s.bodyField.text }

/-- The page opened from a screen. Only `NoteEditingPage` has tap handlers. -/
def step (screen : ListScreen) (s : EditingState) : EditingEvent → EditingState
  | .change field value =>
    if value.text = (s.field field).text then s.setField field value
    else (s.setField field value).onChanged field value.text
  | .select field selection => s.setField field { s.field field with selection := selection }
  | .tap field => match screen, onTap (s.controller field) with
    | .savedNotes, .ok value => s.setController field value
    | _, _ => s
  | .rebuild => match s.build with
    | .ok s' => s'
    | .error _ => s
  | .press _ =>
    if screen.accepts s.page then { s with title := s.page.save.title, description := s.page.save.description }
    else s

/-- The page after the events of a log, from the state it was opened in. -/
def run (screen : ListScreen) (s : EditingState) (log : List EditingEvent) : EditingState :=
  Trace.after s (step screen) log

end EditingState

/-- The text an event puts in a field. -/
def EditingEvent.typed (field : PageField) : EditingEvent → Option Str
  | .change f value => if f = field then some value.text else none
  | _ => none

/-- The text last put in a field. -/
def lastTyped (field : PageField) (log : List EditingEvent) : Option Str :=
  log.findSome? (EditingEvent.typed field)

/-! ## What the fields show -/

namespace EditingState

/-- A build reads the two texts of the note into the state variables. -/
theorem build_ok {s s' : EditingState} (h : s.build = .ok s') :
    ∃ title description, s.note "title" = some (.str title) ∧ s.note "description" = some (.str description) ∧
      s' = { s with title := title, description := description } := by
  obtain ⟨title, ht, h⟩ := bind_eq_ok h
  obtain ⟨description, hb, h⟩ := bind_eq_ok h
  cases h
  exact ⟨title, description, asString_eq_ok ht, asString_eq_ok hb, rfl⟩

theorem openOn_ok {note : Doc} {s : EditingState} (h : openOn note = .ok s) :
    ∃ title description, note "title" = some (.str title) ∧ note "description" = some (.str description) ∧
      s = showing note title description := by
  obtain ⟨s', hbuild, h⟩ := bind_eq_ok h
  obtain ⟨title, description, ht, hb, rfl⟩ := build_ok hbuild
  cases h
  exact ⟨title, description, ht, hb, rfl⟩

theorem openOn_texts {d : Doc} {title description : Str} (ht : d "title" = some (.str title))
    (hb : d "description" = some (.str description)) : openOn d = .ok (showing d title description) := by
  simp only [openOn, build, showing, ht, hb, asString, bind, Except.bind, pure, Except.pure]

section Step

variable (screen : ListScreen) (s : EditingState)

theorem build_frame {s s' : EditingState} (h : s.build = .ok s') :
    s'.note = s.note ∧ ∀ f, s'.field f = s.field f ∧ s'.controller f = s.controller f := by
  obtain ⟨title, description, -, -, rfl⟩ := build_ok h
  exact ⟨rfl, fun f => by cases f <;> exact ⟨rfl, rfl⟩⟩

@[simp] theorem step_note (e : EditingEvent) : (s.step screen e).note = s.note := by
  cases e with
  | change field value =>
    simp only [step]
    cases field <;> split <;> rfl
  | select field selection => cases field <;> rfl
  | tap field =>
    simp only [step]
    split
    · cases field <;> rfl
    · rfl
  | rebuild =>
    simp only [step]
    split
    · next hb => exact (build_frame hb).1
    · rfl
  | press exit =>
    simp only [step]
    split <;> rfl

theorem step_field_text (e : EditingEvent) (f : PageField) :
    ((s.step screen e).field f).text = (e.typed f).getD (s.field f).text := by
  cases e with
  | change field value =>
    simp only [step, EditingEvent.typed]
    split
    · next ht => cases field <;> cases f <;> simp [field, setField, ht]
    · cases field <;> cases f <;> rfl
  | select field selection => cases field <;> cases f <;> rfl
  | tap field =>
    simp only [step, EditingEvent.typed]
    split
    · cases field <;> cases f <;> rfl
    · rfl
  | rebuild =>
    simp only [step, EditingEvent.typed]
    split
    · next hb => exact congrArg TextEditingValue.text ((build_frame hb).2 f).1
    · rfl
  | press exit =>
    simp only [step, EditingEvent.typed]
    split
    · cases f <;> rfl
    · rfl

@[simp] theorem run_note : ∀ log, (s.run screen log).note = s.note
  | [] => rfl
  | e :: log => (step_note screen _ e).trans (run_note log)

/-- After any events a field shows the text last typed into it, or the one it was opened with. -/
theorem run_field_text (f : PageField) : ∀ log,
    ((s.run screen log).field f).text = (lastTyped f log).getD (s.field f).text
  | [] => rfl
  | e :: log => by
    have ih := run_field_text f log
    have hs := step_field_text screen (s.run screen log) e f
    rw [ih] at hs
    rw [lastTyped, List.findSome?_cons]
    cases he : e.typed f with
    | none => rw [he] at hs; exact hs
    | some t => rw [he] at hs; exact hs

end Step

end EditingState

/-! ## What is saved -/

/-- A press writes the note with the texts of the fields, when the form validates. -/
theorem react_editor (env : Env) {screen : ListScreen} {exit : Exit} {page : EditingPage} {id : Str}
    (hid : page.note "id" = some (.str id)) :
    Action.react env (screen.editor exit page) =
      if screen.accepts page then .ok {
        write := some (.update id (page.saved env id screen.flag).toJson), atOnce := [.pop],
        provider := env.provider }
      else .ok { provider := env.provider } := by
  cases screen with
  | savedNotes =>
    simp only [ListScreen.editor, ListScreen.accepts, validate_title, react_edit env id hid]
    cases page.titleField.isEmpty <;> rfl
  | favorites =>
    simp only [ListScreen.editor, ListScreen.accepts, validate_title_body, react_editFavorite env id hid]
    cases page.titleField.isEmpty || page.bodyField.isEmpty <;> rfl

theorem saveHandler_no_id (messages : EditingPage → List (Option String)) (isFavorite : Bool)
    (updateNote : Env → Doc → Note → Except DartError NoteWrite) (env : Env) {page : EditingPage}
    (hid : ∀ id, page.note "id" ≠ some (.str id)) (h : validate (messages page) = true) :
    EditingPage.saveHandler messages isFavorite updateNote env page = .error .typeError := by
  have hcast : asString (page.note "id") = .error .typeError := by
    unfold asString
    split
    · next s hs => exact absurd hs (hid s)
    · rfl
  simp only [EditingPage.saveHandler, EditingPage.save, h, if_true, hcast]
  rfl

/-- On a note whose id is no string an accepted press throws before anything is written. -/
theorem react_editor_no_id (env : Env) {screen : ListScreen} {exit : Exit} {page : EditingPage}
    (hid : ∀ id, page.note "id" ≠ some (.str id)) (h : screen.accepts page = true) :
    Action.react env (screen.editor exit page) = .error .typeError := by
  cases screen <;> cases exit <;> exact saveHandler_no_id _ _ _ env hid h

/-- The editing pages save exactly what is on the screen: on either page, opened on any note, after any
events, an accepted press of either exit writes the texts last typed into the fields, or those the page
was opened with. -/
theorem saves_what_is_shown (screen : ListScreen) (note : Doc) (s : EditingState)
    (hopen : EditingState.openOn note = .ok s) (log : List EditingEvent) (exit : Exit) (env : Env)
    (hacc : screen.accepts (s.run screen log).page = true) :
    (s.run screen log).titleField.text = (lastTyped .title log).getD s.title ∧
    (s.run screen log).bodyField.text = (lastTyped .body log).getD s.description ∧
    (∀ id, note "id" = some (.str id) → ∃ d,
      Action.react env (screen.editor exit (s.run screen log).page) =
        .ok { write := some (.update id d), atOnce := [.pop], provider := env.provider } ∧
      d "title" = some (.str (s.run screen log).titleField.text) ∧
      d "description" = some (.str (s.run screen log).bodyField.text)) ∧
    ((∀ id, note "id" ≠ some (.str id)) →
      Action.react env (screen.editor exit (s.run screen log).page) = .error .typeError) := by
  obtain ⟨title, description, -, -, hs⟩ := EditingState.openOn_ok hopen
  have hnote : (s.run screen log).page.note = note :=
    (s.run_note screen log).trans (by rw [hs]; rfl)
  have htitle : (s.field .title).text = s.title := by rw [hs]; rfl
  have hbody : (s.field .body).text = s.description := by rw [hs]; rfl
  refine ⟨?_, ?_, ?_, ?_⟩
  · rw [← htitle]; exact s.run_field_text screen .title log
  · rw [← hbody]; exact s.run_field_text screen .body log
  · intro id hid
    rw [← hnote] at hid
    refine ⟨_, (react_editor env hid).trans (if_pos hacc), rfl, rfl⟩
  · intro hid
    refine react_editor_no_id env (fun id => ?_) hacc
    rw [hnote]; exact hid id

namespace OneDevice

open TwoDevices

/-- The created note, opened from a list. -/
def opened : EditingState := .showing draft (lit "Shopping") (lit "milk")

theorem opened_draft : EditingState.openOn draft = .ok opened := rfl

/-- The body is changed; the rebuild after it resets the state variable. -/
def typedBody : List EditingEvent := [
  .rebuild, .change .body { text := lit "milk, eggs", selection := .collapsed 10 }]

end OneDevice

open TwoDevices OneDevice in
theorem saves_what_is_shown_typedBody :
    EditingState.openOn draft = .ok opened ∧
    ListScreen.savedNotes.accepts (opened.run .savedNotes typedBody).page = true ∧
    (opened.run .savedNotes typedBody).description = lit "milk" ∧
    ∃ d, Action.react TwoDevices.edit.env (.edit .backArrow (opened.run .savedNotes typedBody).page) =
        .ok { write := some (.update (lit "n1") d), atOnce := [.pop], provider := {} } ∧
      d "title" = some (.str (lit "Shopping")) ∧ d "description" = some (.str (lit "milk, eggs")) := by
  have hacc : ListScreen.savedNotes.accepts (opened.run .savedNotes typedBody).page = true := rfl
  refine ⟨opened_draft, hacc, rfl, ?_⟩
  exact (saves_what_is_shown .savedNotes draft opened opened_draft typedBody .backArrow TwoDevices.edit.env hacc).2.2.1
    (lit "n1") rfl

end Notely
