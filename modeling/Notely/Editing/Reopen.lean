/-
Creating a note and reopening it. The note-taking page stores a note when it is saved, and on its back
arrow when some text was typed. Reopened and left by the back arrow with no text changed, it goes back as
it was only if the editing page accepts its texts: `NoteEditingPage` wants a title, `FavNoteEditingPage` a
title and a body (`reopens_iff`). The creation asks for neither.
-/
import Notely.Editing.NoteEditing
import Notely.Store.Toggle

namespace Notely

open DocStore TextEditing

/-- No event of the log types. -/
def Untyped (log : List EditingEvent) : Prop := ∀ e ∈ log, ∀ f, e.typed f = none

/-- The document of the note `k` is opened on the page of a screen, and the back arrow, after events that type
nothing, passes the form and writes back to `k` the texts the document has. -/
def Reopens (screen : ListScreen) (k : Str) (d : Doc) (env : Env) (log : List EditingEvent) : Prop :=
  ∃ s, EditingState.openOn (tile d) = .ok s ∧ screen.accepts (s.run screen log).page = true ∧
    ∃ x, Action.react env (screen.editor .backArrow (s.run screen log).page) =
        .ok { write := some (.update k x), atOnce := [.pop], provider := env.provider } ∧
      x "title" = d "title" ∧ x "description" = d "description"

/-- The texts the form of a screen's page accepts. -/
def ListScreen.Accepted : ListScreen → Str → Str → Prop
  | savedNotes, title, _ => title ≠ []
  | favorites, title, description => title ≠ [] ∧ description ≠ []

/-! ## Reopening a note -/

theorem accepts_iff {screen : ListScreen} {page : EditingPage} :
    screen.accepts page = true ↔ screen.Accepted page.titleField page.bodyField := by
  cases screen with
  | savedNotes => simp [ListScreen.accepts, validate_title, ListScreen.Accepted]
  | favorites => simp [ListScreen.accepts, validate_title_body, ListScreen.Accepted]

theorem lastTyped_untyped {log : List EditingEvent} (h : Untyped log) (f : PageField) : lastTyped f log = none :=
  List.findSome?_eq_none_iff.2 fun e he => h e he f

theorem page_untyped (d : Doc) (title description : Str) (screen : ListScreen) {log : List EditingEvent}
    (hlog : Untyped log) :
    ((EditingState.showing d title description).run screen log).page.titleField = title ∧
    ((EditingState.showing d title description).run screen log).page.bodyField = description := by
  have htitle := (EditingState.showing d title description).run_field_text screen .title log
  have hbody := (EditingState.showing d title description).run_field_text screen .body log
  rw [lastTyped_untyped hlog] at htitle hbody
  exact ⟨htitle, hbody⟩

/-- A note reopens as it is exactly when the page accepts its texts. -/
theorem HoldsNote.reopens_iff {d : Doc} {k title description : Str} {isFavorite : Bool}
    (h : HoldsNote d k title description isFavorite) (screen : ListScreen) (env : Env) {log : List EditingEvent}
    (hlog : Untyped log) : Reopens screen k d env log ↔ screen.Accepted title description := by
  have hopen := EditingState.openOn_texts h.title h.description
  obtain ⟨ht, hb⟩ := page_untyped d title description screen hlog
  unfold Reopens
  rw [h.tile, hopen]
  constructor
  · rintro ⟨s, hs, hacc, -⟩
    cases hs
    rwa [accepts_iff, ht, hb] at hacc
  · intro haccepted
    have hacc : screen.accepts ((EditingState.showing d title description).run screen log).page = true := by
      rw [accepts_iff, ht, hb]; exact haccepted
    have hid : ((EditingState.showing d title description).run screen log).page.note "id" = some (.str k) :=
      (congrFun (EditingState.run_note screen _ log) "id").trans h.id
    refine ⟨_, rfl, hacc, _, (react_editor env hid).trans (if_pos hacc), ?_, ?_⟩
    · exact (congrArg (some ∘ Value.str) ht).trans h.title.symm
    · exact (congrArg (some ∘ Value.str) hb).trans h.description.symm

/-! ## Created notes -/

theorem create_holdsNote {c : Notes} {s : Step} {exit : Exit} {page : NoteTakingPage}
    (ha : s.action = .create exit page) (hw : s.write ≠ none) :
    ∃ d, allNotes s.user (s.exec c) s.autoId = some d ∧
      HoldsNote d s.autoId page.title page.description false := by
  have hwrite : s.write = some (NoteTakingPage.createNote s.env page page.title) := by
    simp only [Step.write, ha] at hw ⊢
    cases exit with
    | backArrow =>
      simp only [Action.react] at hw ⊢
      by_cases hempty : page.IsEmpty
      · rw [backArrow_of_isEmpty _ hempty] at hw
        exact absurd rfl hw
      · rw [backArrow_of_not_isEmpty _ hempty]
        rfl
    | saveIcon => rfl
  obtain ⟨d, hd, hnote, hemail⟩ := createNote_holdsNote s.env page
  refine ⟨d, select_eq_some.2 ⟨?_, ?_⟩, hnote⟩
  · simp only [Step.exec, hwrite, hd]
    exact apply_set_self Fields.overlay c _ _
  · rw [hemail]; exact beq_self_eq_true _

/-- A created note, reopened and left unchanged: from `SavedNotes` its own document is written back as it was
exactly when it has a title, and as a favourite exactly when it has a title and a body. -/
theorem created_reopens_iff (c : Notes) (s : Step) (exit : Exit) (page : NoteTakingPage)
    (ha : s.action = .create exit page) (hw : s.write ≠ none) (history : List FavoriteCall) (now autoId : Str) :
    ∃ d d', allNotes s.user (s.exec c) s.autoId = some d ∧
      d "title" = some (.str page.title) ∧ d "description" = some (.str page.description) ∧
      favorites s.user ((toggleStep history s.user now autoId d).exec (s.exec c)) s.autoId = some d' ∧
      ∀ env log, Untyped log →
        (Reopens .savedNotes s.autoId d env log ↔ page.title ≠ []) ∧
        (Reopens .favorites s.autoId d' env log ↔ page.title ≠ [] ∧ page.description ≠ []) := by
  obtain ⟨d, hd, hnote⟩ := create_holdsNote (c := c) ha hw
  obtain ⟨d', hd', hnote'⟩ := (toggleStep_toggles hnote hd history now autoId).holdsNote hnote
  refine ⟨d, d', hd, hnote.title, hnote.description, select_eq_some.2 ⟨hd', ?_⟩, fun env log hlog => ⟨?_, ?_⟩⟩
  · rw [hnote'.isFavorite]; rfl
  · exact hnote.reopens_iff .savedNotes env hlog
  · exact hnote'.reopens_iff .favorites env hlog

namespace OneDevice

open TwoDevices

/-- A note with a body and no title, left by the back arrow. -/
def createUntitled : Step := {
  user := ann, now := lit "1", autoId := lit "n1",
  action := .create .backArrow { description := lit "milk", controllerBodyText := lit "milk" } }

end OneDevice

open TwoDevices OneDevice in
theorem created_reopens_iff_create :
    TwoDevices.create.write ≠ none ∧
    ∃ d d', allNotes ann (TwoDevices.create.exec fun _ => none) (lit "n1") = some d ∧
      favorites ann ((toggleStep [] ann (lit "3") (lit "n3") d).exec (TwoDevices.create.exec fun _ => none))
        (lit "n1") = some d' ∧
      Reopens .savedNotes (lit "n1") d TwoDevices.edit.env [.rebuild] ∧
      Reopens .favorites (lit "n1") d' TwoDevices.edit.env [.rebuild] := by
  have hw : TwoDevices.create.write ≠ none := fun h => by cases h
  have hlog : Untyped [.rebuild] := by
    rintro e he f
    cases List.mem_singleton.1 he
    rfl
  obtain ⟨d, d', hd, -, -, hd', hre⟩ :=
    created_reopens_iff (fun _ => none) TwoDevices.create .saveIcon _ rfl hw [] (lit "3") (lit "n3")
  obtain ⟨hs, hf⟩ := hre TwoDevices.edit.env [.rebuild] hlog
  exact ⟨hw, d, d', hd, hd', hs.2 (by decide), hf.2 (by decide)⟩

open TwoDevices OneDevice in
/-- The stored note without a title opens, but the form rejects it and the back arrow writes nothing. -/
theorem untitled_note_stuck :
    ∃ d s, (createUntitled.exec fun _ => none) (lit "n1") = some d ∧
      d "title" = some (.str []) ∧ d "description" = some (.str (lit "milk")) ∧
      EditingState.openOn (tile d) = .ok s ∧ ListScreen.savedNotes.accepts s.page = false ∧
      Action.react TwoDevices.edit.env (.edit .backArrow s.page) = .ok { provider := {} } :=
  ⟨_, _, rfl, rfl, rfl, rfl, rfl, rfl⟩

end Notely
