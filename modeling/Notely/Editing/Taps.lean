/-
Taps on the text fields. The four tap handlers read a controller's selection and take the selected text out
of its text, with no check that there is a selection. On `NoteTakingPage` the controller is the field's own,
so its selection is where the user put it, inside the text, and the handler only collapses it. On
`NoteEditingPage` no field is given the controller the handler reads: it is never touched, has no selection,
and every tap throws. So a tap is harmless exactly on `NoteTakingPage` (`tap_harmless_iff`).
-/
import Notely.Editing.NoteEditing

namespace Notely

open TextEditing

/-- A page with tap handlers. -/
inductive TapPage
  | noteTaking (s : NoteTakingState)
  | noteEditing (s : EditingState)

namespace TapPage

/-- What a field of the page holds and shows. -/
def shown : TapPage → PageField → TextValue
  | noteTaking s => s.controller
  | noteEditing s => s.field

/-- The controller the tap handler of a field reads. -/
def controller : TapPage → PageField → TextValue
  | noteTaking s => s.controller
  | noteEditing s => s.controller

/-- The page after a tap on a field. -/
def tap : TapPage → PageField → TapPage
  | noteTaking s, field => .noteTaking (s.step (.tap field))
  | noteEditing s, field => .noteEditing (s.step .savedNotes (.tap field))

/-- The page is reached from its opening by some events. -/
inductive Reached : TapPage → Prop
  | noteTaking {log : List NoteTakingEvent} : noteTakingSystem.Valid log →
      Reached (.noteTaking (noteTakingSystem.state log))
  | noteEditing {note : Doc} {s : EditingState} (log : List EditingEvent) : EditingState.openOn note = .ok s →
      Reached (.noteEditing (s.run .savedNotes log))

/-- The handler of the field completes, the page shows the same texts, and a range selected in the field is
left collapsed to its end in the handler's controller. -/
def Harmless (p : TapPage) (field : PageField) : Prop :=
  (∃ value, onTap (p.controller field) = .ok value) ∧
  (∀ f, ((p.tap field).shown f).text = (p.shown f).text) ∧
  ((p.shown field).selection.isCollapsed = false →
    ((p.tap field).controller field).selection = .collapsed (p.shown field).selection.stop)

/-- The page a note is created on. -/
def isNoteTaking : TapPage → Bool
  | noteTaking _ => true
  | noteEditing _ => false

end TapPage

/-! ## The controllers of the editing page -/

namespace EditingState

theorem onTap_untouched : onTap {} = .error .outOfRange :=
  onTap_not_inRange (TextEditingValue.not_inRange rfl)

theorem step_controller {screen : ListScreen} {s : EditingState} (h : ∀ f, s.controller f = {}) (e : EditingEvent) :
    ∀ f, (s.step screen e).controller f = {} := by
  intro f
  cases e with
  | change field value =>
    simp only [step]
    split <;> cases field <;> cases f <;> first | exact h .title | exact h .body
  | select field selection => cases field <;> cases f <;> first | exact h .title | exact h .body
  | tap field =>
    simp only [step, h field, onTap_untouched]
    exact h f
  | rebuild =>
    simp only [step]
    split
    · next hb => rw [((build_frame hb).2 f).2]; exact h f
    · exact h f
  | press exit =>
    simp only [step]
    split
    · cases f
      · exact h .title
      · exact h .body
    · exact h f

theorem run_controller {screen : ListScreen} {s : EditingState} (h : ∀ f, s.controller f = {}) :
    ∀ log f, (s.run screen log).controller f = {}
  | [] => h
  | e :: log => step_controller (run_controller h log) e

end EditingState

/-! ## Taps -/

/-- On an attached controller with a selection in its text the handler collapses the selection. -/
theorem NoteTakingState.Agrees.harmless {s : NoteTakingState} (h : s.Agrees) {field : PageField}
    (hv : (s.controller field).selection.isValid = true) : TapPage.Harmless (.noteTaking s) field := by
  have htap := onTap_inRange ((h.bounded field).inRange hv)
  have hstep : s.step (.tap field) = s.setController field (if (s.controller field).selection.isCollapsed
      then s.controller field
      else { s.controller field with selection := .collapsed (s.controller field).selection.stop }) := by
    simp only [NoteTakingState.step, htap]
  refine ⟨⟨_, htap⟩, fun f => ?_, fun hc => ?_⟩
  · show ((s.step (.tap field)).controller f).text = _
    rw [hstep, NoteTakingState.controller_setController]
    by_cases hf : f = field
    · subst hf
      rw [if_pos rfl]
      split <;> rfl
    · rw [if_neg hf]; rfl
  · change (s.controller field).selection.isCollapsed = false at hc
    show ((s.step (.tap field)).controller field).selection = _
    rw [hstep, NoteTakingState.controller_setController, if_pos rfl, hc]
    rfl

/-- In every state its page can reach, a tap on a field with a selection in it is harmless exactly when the
page is `NoteTakingPage`. -/
theorem tap_harmless_iff (p : TapPage) (hp : p.Reached) (field : PageField)
    (hv : (p.shown field).selection.isValid = true) : p.Harmless field ↔ p.isNoteTaking = true := by
  cases hp with
  | noteTaking hlog => exact iff_of_true ((noteTaking_agrees hlog).harmless hv) rfl
  | @noteEditing note s log hopen =>
    refine iff_of_false ?_ (by simp [TapPage.isNoteTaking])
    rintro ⟨⟨value, htap⟩, -⟩
    obtain ⟨title, description, -, -, hs⟩ := EditingState.openOn_ok hopen
    have huntouched : ∀ f, s.controller f = {} := by
      intro f
      rw [hs]
      cases f <;> rfl
    have hnone : onTap ((s.run .savedNotes log).controller field) = .error .outOfRange := by
      rw [EditingState.run_controller huntouched log field]
      exact EditingState.onTap_untouched
    have herror := hnone.symm.trans htap
    cases herror

/-- A tap on the title with a part of it selected collapses the selection. -/
theorem tap_harmless_iff_selectedTitle :
    TapPage.Reached (.noteTaking (noteTakingSystem.state selectedTitle)) ∧
    (noteTakingSystem.state selectedTitle).controllerTitle.selection.isCollapsed = false ∧
    TapPage.Harmless (.noteTaking (noteTakingSystem.state selectedTitle)) .title := by
  have hvalid : noteTakingSystem.Valid selectedTitle := typedTitle_valid.2.2
  have hp : TapPage.Reached (.noteTaking (noteTakingSystem.state selectedTitle)) := .noteTaking hvalid
  exact ⟨hp, by decide, (tap_harmless_iff _ hp .title (by decide)).2 rfl⟩

open OneDevice in
/-- On the editing page, a note opened and the caret put in its title, the tap throws. -/
theorem editing_tap_throws :
    EditingState.openOn TwoDevices.draft = .ok opened ∧
    (opened.run .savedNotes [.select .title (.collapsed 3)]).titleField.selection.isValid = true ∧
    onTap (opened.run .savedNotes [.select .title (.collapsed 3)]).controllerTitle = .error .outOfRange ∧
    onTap (opened.run .savedNotes [.select .title (.collapsed 3)]).controllerBody = .error .outOfRange :=
  ⟨opened_draft, by decide, by decide, by decide⟩

end Notely
