/-
The writers of the collection `notes`: creating a note (`NoteTakingPage`), saving an edit
(`NoteEditingPage`, `FavNoteEditingPage`), deleting and toggling in the menu of `SavedNotes`, and
removing on the page `Favorites`. Each handler is a function of the note it was built with, of the
page it stands on and of what it reads from the platform; it throws, or issues at most one write
and says what it does at once and after the write is acknowledged.
-/
import Notely.Models.Note

namespace Notely

open DocStore

/-! ## What a handler reads and does -/

/-- The app-wide object of `Providers/favorite_provider.dart`. -/
structure IsFavoriteProvider where
  isFavorite : Bool := false
  deriving DecidableEq, Repr

/-- Both methods return a value and leave the object as it is. -/
def IsFavoriteProvider.makeFavorite (p : IsFavoriteProvider) : Bool × IsFavoriteProvider :=
  let makeFavorite := !p.isFavorite
  (makeFavorite, p)

/-- The method a marked tile calls; it returns the flag that is there. -/
def IsFavoriteProvider.removeFavorite (p : IsFavoriteProvider) : Bool × IsFavoriteProvider :=
  let makeFavorite := p.isFavorite
  (makeFavorite, p)

/-- What a handler reads from the platform: `currentUser!.email`, `DateTime.now().toString()`, the
id `doc()` generates, and the provider. -/
structure Env where
  email : Option Str
  now : Str
  autoId : Str
  provider : IsFavoriteProvider := {}
  deriving DecidableEq, Repr

/-- What a handler does on the screen. -/
inductive UiCommand
  | pop
  | showSnackBar (text : String)
  deriving DecidableEq, Repr

/-- What a handler does: the write it issues, the commands it runs at once and the ones it runs
when the write is acknowledged, and the provider it leaves. -/
structure Reaction where
  write : Option NoteWrite := none
  atOnce : List UiCommand := []
  onAck : List UiCommand := []
  provider : IsFavoriteProvider

/-- `collection('notes').doc(path)`: a null path asks for a generated id. -/
def doc (env : Env) : Option Value → Except DartError Str
  | some (.str s) => .ok s
  | some (.bool _) => .error .typeError
  | _ => .ok env.autoId

/-- `note[f] ??= v`. -/
def putIfNull (note : Doc) (f : String) (v : Value) : Doc :=
  match note f with
  | none | some .null => Function.update note f (some v)
  | some _ => note

/-- The note a tile of either list holds once it is built; its handlers close over this map. -/
def tile (note : Doc) : Doc :=
  putIfNull (putIfNull note "title" (.str (lit "No title"))) "description" (.str (lit ""))

theorem HoldsNote.tile {d : Doc} {k title description : Str} {isFavorite : Bool}
    (h : HoldsNote d k title description isFavorite) : Notely.tile d = d := by
  simp [Notely.tile, putIfNull, h.title, h.description]

/-! ## Creating -/

/-- What the handlers of the note-taking page read: the state variables and the texts of the two
controllers. -/
structure NoteTakingPage where
  title : Str := []
  description : Str := []
  controllerTitleText : Str := []
  controllerBodyText : Str := []
  deriving DecidableEq, Repr

namespace NoteTakingPage

/-- A new note, set under a generated id. -/
def createNote (env : Env) (page : NoteTakingPage) (title : Str) : NoteWrite :=
  let docNote := env.autoId
  let note : Note := {
    isFavorite := some false, timeAdded := some env.now, body := page.description, title := title,
    id := docNote, email := env.email }
  .set docNote note.toJson

/-- The back arrow: leaves without a note when both texts are empty. -/
def backArrow (env : Env) (page : NoteTakingPage) : Reaction :=
  if page.controllerBodyText.isEmpty && page.controllerTitleText.isEmpty then
    { atOnce := [.pop], provider := env.provider }
  else
    { write := some (createNote env page page.title), atOnce := [.pop], provider := env.provider }

/-- The save icon. -/
def saveIcon (env : Env) (page : NoteTakingPage) : Reaction :=
  { write := some (createNote env page page.title), atOnce := [.pop], provider := env.provider }

end NoteTakingPage

/-! ## Editing -/

/-- An editing page: the note it was opened on (`widget.note`, `widget.favNote`), the state
variables, and the texts its two form fields hold. -/
structure EditingPage where
  note : Doc
  title : Str
  description : Str
  titleField : Str
  bodyField : Str

/-- `Form.save`: the `onSaved` of each field stores its text in the state variable. -/
def EditingPage.save (p : EditingPage) : EditingPage :=
  { p with title := p.titleField, description := p.bodyField }

/-- The validator of the form fields that have one. -/
def validator (value : Str) : Option String := if value.isEmpty then some "can't be empty" else none

/-- `Form.validate` on the messages of the fields that have a validator. -/
def validate (messages : List (Option String)) : Bool := messages.all Option.isNone

/-- The four save handlers: validate, save, write the note with a fixed flag, leave. -/
def EditingPage.saveHandler (messages : EditingPage → List (Option String)) (isFavorite : Bool)
    (updateNote : Env → Doc → Note → Except DartError NoteWrite) (env : Env) (page : EditingPage) :
    Except DartError Reaction := do
  if validate (messages page) then
    let page := page.save
    let id ← asString (page.note "id")
    let update : Note := {
      isFavorite := some isFavorite, timeAdded := some env.now, body := page.description,
      title := page.title, email := env.email, id := id }
    let write ← updateNote env page.note update
    return { write := some write, atOnce := [.pop], provider := env.provider }
  else
    return { provider := env.provider }

theorem saveHandler_atOnce {messages : EditingPage → List (Option String)} {isFavorite : Bool}
    {updateNote : Env → Doc → Note → Except DartError NoteWrite} {env : Env} {page : EditingPage} {r : Reaction}
    (h : EditingPage.saveHandler messages isFavorite updateNote env page = .ok r) : r.atOnce <:+ [.pop] := by
  unfold EditingPage.saveHandler at h
  split at h
  · obtain ⟨id, -, h⟩ := bind_eq_ok h
    obtain ⟨write, -, h⟩ := bind_eq_ok h
    cases h
    exact List.suffix_refl _
  · cases h
    exact List.nil_suffix

namespace NoteEditingPage

/-- Only the title has a validator. -/
def messages (page : EditingPage) : List (Option String) := [validator page.titleField]

/-- The document of the tile is updated with the note. -/
def updateNote (env : Env) (note : Doc) (update : Note) : Except DartError NoteWrite := do
  let docNote ← doc env (note "id")
  return .update docNote update.toJson

/-- The back arrow saves. -/
def backArrow : Env → EditingPage → Except DartError Reaction :=
  EditingPage.saveHandler messages false updateNote

/-- The save icon saves as well. -/
def saveIcon : Env → EditingPage → Except DartError Reaction :=
  EditingPage.saveHandler messages false updateNote

end NoteEditingPage

namespace FavNoteEditingPage

/-- The title and the body have a validator. -/
def messages (page : EditingPage) : List (Option String) :=
  [validator page.titleField, validator page.bodyField]

/-- The document of the tile is updated with the note. -/
def updateFavNote (env : Env) (favNote : Doc) (update : Note) : Except DartError NoteWrite := do
  let favDocNote ← doc env (favNote "id")
  return .update favDocNote update.toJson

/-- The back arrow saves, with the mark. -/
def backArrow : Env → EditingPage → Except DartError Reaction :=
  EditingPage.saveHandler messages true updateFavNote

/-- The save icon saves, with the mark. -/
def saveIcon : Env → EditingPage → Except DartError Reaction :=
  EditingPage.saveHandler messages true updateFavNote

end FavNoteEditingPage

/-! ## The lists -/

namespace SavedNotes

/-- The confirmed delete of the menu: nothing waits for the write. -/
def delete (env : Env) (note : Doc) : Except DartError Reaction := do
  let docNote ← doc env (note "id")
  return {
    write := some (.delete docNote), atOnce := [.pop, .showSnackBar "Delete Successful!"],
    provider := env.provider }

/-- The favourite entry of the menu: the note of the tile with the other mark. The message waits for the write. -/
def addToFavorites (env : Env) (note : Doc) : Except DartError Reaction := do
  let docNote ← doc env (note "id")
  let favorite := if note "isFavorite" = some (.bool false) then env.provider.makeFavorite
    else env.provider.removeFavorite
  let body ← asString (note "description")
  let title ← asString (note "title")
  let thisNote : Note := {
    isFavorite := some favorite.1, timeAdded := some env.now, body := body, title := title,
    id := docNote, email := env.email }
  return {
    write := some (.update docNote thisNote.toJson),
    onAck := [.showSnackBar (if note "isFavorite" = some (.bool false) then "Added to Favorites!"
      else "Removed from Favorites!")],
    provider := favorite.2 }

theorem addToFavorites_frame {env : Env} {note : Doc} {r : Reaction} (h : addToFavorites env note = .ok r) :
    r.provider = env.provider ∧ r.atOnce = [] := by
  obtain ⟨docNote, -, h⟩ := bind_eq_ok h
  obtain ⟨body, -, h⟩ := bind_eq_ok h
  obtain ⟨title, -, h⟩ := bind_eq_ok h
  cases h
  refine ⟨?_, rfl⟩
  simp only [IsFavoriteProvider.makeFavorite, IsFavoriteProvider.removeFavorite]
  split <;> rfl

end SavedNotes

namespace Favorites

/-- The confirmed removal: the note of the tile without the mark. The message waits for the write. -/
def removeFromFavorites (env : Env) (note : Doc) : Except DartError Reaction := do
  let docNote ← doc env (note "id")
  let body ← asString (note "description")
  let title ← asString (note "title")
  let thisNote : Note := {
    isFavorite := some false, timeAdded := some env.now, body := body, title := title,
    id := docNote, email := env.email }
  return {
    write := some (.update docNote thisNote.toJson), atOnce := [.pop],
    onAck := [.showSnackBar "Removed from Favorites!"], provider := env.provider }

theorem removeFromFavorites_frame {env : Env} {note : Doc} {r : Reaction}
    (h : removeFromFavorites env note = .ok r) : r.provider = env.provider ∧ r.atOnce = [.pop] := by
  obtain ⟨docNote, -, h⟩ := bind_eq_ok h
  obtain ⟨body, -, h⟩ := bind_eq_ok h
  obtain ⟨title, -, h⟩ := bind_eq_ok h
  cases h
  exact ⟨rfl, rfl⟩

end Favorites

end Notely
