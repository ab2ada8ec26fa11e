/-
The collection `notes` under the steps of its users. A step is one handler run by a signed-in user and its
write applied; every step but a create acts on a tile. A tile is built from a result of the user's own query,
which may be an old one and may show writes of the user's own before they land, also such as never do. `doc()`
yields an id that was never live.
-/
import Notely.Lib.Trace
import Notely.Screens.Writers

namespace Notely

open DocStore

/-! ## Queries -/

/-- `where('email', isEqualTo: email)`: the list of `SavedNotes`. -/
def allNotes (email : Str) (c : Notes) : Notes := select (fun d => d "email" == some (.str email)) c

/-- The list of `Favorites`: a second condition on the same query. -/
def favorites (email : Str) (c : Notes) : Notes :=
  select (fun d => d "isFavorite" == some (.bool true)) (allNotes email c)

/-- The two screens with a list of tiles. -/
inductive ListScreen
  | savedNotes
  | favorites
  deriving DecidableEq, Repr

/-- The query behind a screen. -/
def ListScreen.result (screen : ListScreen) (email : Str) (c : Notes) : Notes :=
  match screen with
  | savedNotes => Notely.allNotes email c
  | favorites => Notely.favorites email c

theorem result_subset {screen : ListScreen} {email k : Str} {c : Notes} {d : Doc}
    (h : screen.result email c k = some d) : allNotes email c k = some d := by
  cases screen with
  | savedNotes => exact h
  | favorites => exact (select_eq_some.1 h).1

/-! ## Steps -/

/-- The two ways out of a page with a text. -/
inductive Exit
  | backArrow
  | saveIcon
  deriving DecidableEq, Repr

/-- What a handler is run for. -/
inductive Action
  | create (exit : Exit) (page : NoteTakingPage)
  | edit (exit : Exit) (page : EditingPage)
  | editFavorite (exit : Exit) (page : EditingPage)
  | toggleFavorite (note : Doc)
  | removeFromFavorites (note : Doc)
  | delete (note : Doc)

namespace Action

/-- The handler an action runs. -/
def react (env : Env) : Action → Except DartError Reaction
  | create .backArrow page => .ok (NoteTakingPage.backArrow env page)
  | create .saveIcon page => .ok (NoteTakingPage.saveIcon env page)
  | edit .backArrow page => NoteEditingPage.backArrow env page
  | edit .saveIcon page => NoteEditingPage.saveIcon env page
  | editFavorite .backArrow page => FavNoteEditingPage.backArrow env page
  | editFavorite .saveIcon page => FavNoteEditingPage.saveIcon env page
  | toggleFavorite note => SavedNotes.addToFavorites env note
  | removeFromFavorites note => Favorites.removeFromFavorites env note
  | delete note => SavedNotes.delete env note

/-- The tile the action was started on. -/
def note : Action → Option Doc
  | create _ _ => none
  | edit _ page => some page.note
  | editFavorite _ page => some page.note
  | toggleFavorite note => some note
  | removeFromFavorites note => some note
  | delete note => some note

/-- The actions a tile of each screen offers, the page it opens included. -/
def offeredOn : Action → ListScreen → Bool
  | edit _ _, .savedNotes => true
  | toggleFavorite _, .savedNotes => true
  | delete _, .savedNotes => true
  | editFavorite _ _, .favorites => true
  | removeFromFavorites _, .favorites => true
  | _, _ => false

/-- The actions that rewrite a document that is there: the edits, the toggle and the removal. -/
def isUpdate : Action → Bool
  | create _ _ => false
  | delete _ => false
  | _ => true

/-- The favourite-status writes. -/
def isFavoriteWrite : Action → Bool
  | toggleFavorite _ => true
  | removeFromFavorites _ => true
  | _ => false

end Action

/-- A handler run by a signed-in user, with what it reads from the platform. -/
structure Step where
  user : Str
  now : Str
  autoId : Str
  provider : IsFavoriteProvider := {}
  action : Action

namespace Step

/-- What the handler reads from the platform. -/
def env (s : Step) : Env := { email := some s.user, now := s.now, autoId := s.autoId, provider := s.provider }

/-- The write the handler issues; a handler that throws issues none. -/
def write (s : Step) : Option NoteWrite :=
  match s.action.react s.env with
  | .ok r => r.write
  | .error _ => none

/-- The write applied. -/
def exec (c : Notes) (s : Step) : Notes :=
  match s.write with
  | some w => c.write w
  | none => c

end Step

/-- The collection after the steps of a log, from the empty one. -/
def store (es : List Step) : Notes := Trace.after (fun _ => none) Step.exec es

@[simp] theorem store_nil (k : Str) : store [] k = none := rfl

theorem store_cons (s : Step) (es : List Step) : store (s :: es) = s.exec (store es) := rfl

/-- What a user may have seen under an id: a document the user's query had at some point of the log, and whatever
an update of the user's, started on what was seen there, makes of it. A device shows such a write at once, so
nothing is asked of whether it lands. -/
inductive Seen (es : List Step) (user k : Str) : Doc → Prop
  | result {fs : List Step} {d : Doc} (hfs : fs <:+ es) (hd : allNotes user (store fs) k = some d) : Seen es user k d
  | written {s : Step} {d d' x : Doc} (hd : Seen es user k d) (hd' : Seen es user k d') (hu : s.user = user)
      (hn : s.action.note = some (tile d)) (hw : s.write = some (.update k x)) : Seen es user k (d'.overlay x)

/-- No document was ever live under the id. -/
def Fresh (es : List Step) (id : Str) : Prop := ∀ fs, fs <:+ es → store fs id = none

theorem fresh_cons {s : Step} {es : List Step} {id : Str} :
    Fresh (s :: es) id ↔ store (s :: es) id = none ∧ Fresh es id :=
  Trace.forall_suffix_cons

/-- The steps that may follow a log. -/
structure Step.Ok (es : List Step) (s : Step) : Prop where
  seen : ∀ note, s.action.note = some note → ∃ k d, Seen es s.user k d ∧ note = tile d
  fresh : s.action.note = none → Fresh es s.autoId

/-- The collection as a system: any number of users, any interleaving of their steps. -/
def notesSystem : Trace.System Notes Step where
  init := fun _ => none
  step := Step.exec
  ok := Step.Ok

end Notely
