/-
The two pages with a list of notes. Each build makes a new query of the current user's notes and hands its
stream to a `StreamBuilder`, which leaves the old stream, keeps what that gave and waits; the first result
of the new one replaces it. The builder shows a spinner while it waits, the tiles when there are documents,
and otherwise, after an empty result and after an error alike, a text.
-/
import Notely.Session.Email
import Notely.Store.Steps
import Mathlib.Data.List.Nodup

namespace Notely

/-! ## Results -/

/-- The documents of a query result in their order: the id and the data of each. -/
abbrev Rows := List (Str × Doc)

/-- The documents of the rows under their ids. -/
def Rows.notes (rows : Rows) : Notes := fun k => rows.lookup k

theorem Rows.mem_of_notes {k : Str} {d : Doc} : ∀ {rows : Rows}, rows.notes k = some d → (k, d) ∈ rows
  | [], h => by cases h
  | (j, x) :: rows, h => by
    unfold Rows.notes at h
    rw [List.lookup_cons] at h
    split at h
    · next hk => cases h; rw [beq_iff_eq.1 hk]; exact .head _
    · exact .tail _ (Rows.mem_of_notes h)

/-- The rows are the documents of a result, each once. -/
structure Rows.Lists (rows : Rows) (r : Notes) : Prop where
  nodup : (rows.map Prod.fst).Nodup
  mem : ∀ k d, (k, d) ∈ rows ↔ r k = some d

theorem Rows.lists_nil {screen : ListScreen} {account : Str} :
    Rows.Lists [] (screen.result account (Rows.notes [])) := by
  refine ⟨List.nodup_nil, fun k d => iff_of_false List.not_mem_nil fun hd => ?_⟩
  cases (DocStore.select_eq_some.1 (result_subset hd)).1

theorem Rows.lists_singleton {screen : ListScreen} {account k : Str} {d : Doc}
    (h : screen.result account (Rows.notes [(k, d)]) k = some d) :
    Rows.Lists [(k, d)] (screen.result account (Rows.notes [(k, d)])) := by
  refine ⟨List.nodup_singleton _, fun j x => ⟨fun hmem => ?_, fun hx => ?_⟩⟩
  · cases List.mem_singleton.1 hmem; exact h
  · exact Rows.mem_of_notes (DocStore.select_eq_some.1 (result_subset hx)).1

/-! ## The builder -/

/-- The states of a `StreamBuilder` on a stream that does not end. -/
inductive ConnectionState
  | waiting
  | active
  deriving DecidableEq, Repr

/-- What a `StreamBuilder` has of its stream; the error of a failed one is not read. -/
structure AsyncSnapshot where
  connectionState : ConnectionState := .waiting
  data : Option Rows := none

/-- What the body of a list page shows. -/
inductive ListBody
  | progress
  | grid (tiles : List Doc)
  | message (lines : List Str)

/-- The builder of both pages: a spinner, the tiles, or the texts for nothing to show. -/
def listBody (empty : List Str) (snapshot : AsyncSnapshot) : ListBody :=
  match snapshot.connectionState, snapshot.data with
  | .waiting, _ => .progress
  | .active, some (row :: rows) => .grid ((row :: rows).map fun row => tile row.2)
  | .active, _ => .message empty

/-- What a list page has built: the email its query asks for, the texts for an empty list, and the snapshot
of its `StreamBuilder`. -/
structure NotesList where
  account : Str
  empty : List Str
  snapshot : AsyncSnapshot

namespace SavedNotes

/-- The texts for an empty list. -/
def emptyLines (firstName : Str) : List Str :=
  [lit "Hello " ++ firstName ++ lit ",", lit "Create your first note!"]

/-- `build`; `held` is the snapshot of the `StreamBuilder` that is there. -/
def build (currentUser : Option User) (held : AsyncSnapshot) : Except DartError NotesList := do
  let firstName ← firstName currentUser
  let some user := currentUser | throw .nullCheck
  return { account := user.email, empty := emptyLines firstName, snapshot := { held with connectionState := .waiting } }

end SavedNotes

namespace Favorites

/-- `build`. -/
def build (currentUser : Option User) (held : AsyncSnapshot) : Except DartError NotesList := do
  let some user := currentUser | throw .nullCheck
  return {
    account := user.email, empty := [lit "No favorite note yet!"],
    snapshot := { held with connectionState := .waiting } }

end Favorites

/-- The build of a list page. -/
def ListScreen.build : ListScreen → Option User → AsyncSnapshot → Except DartError NotesList
  | savedNotes => SavedNotes.build
  | favorites => Favorites.build

namespace NotesList

/-- A result has come. -/
def onData (l : NotesList) (rows : Rows) : NotesList :=
  { l with snapshot := { connectionState := .active, data := some rows } }

/-- The stream has failed. -/
def onError (l : NotesList) : NotesList := { l with snapshot := { connectionState := .active, data := none } }

/-- What is shown now. -/
def body (l : NotesList) : ListBody := listBody l.empty l.snapshot

/-- The tiles that are shown. -/
def tiles (l : NotesList) : List Doc :=
  match l.body with
  | .grid tiles => tiles
  | _ => []

end NotesList

/-! ## What is shown -/

/-- A build asks for the notes of whoever is signed in, and waits. -/
theorem build_ok {screen : ListScreen} {currentUser : Option User} {held : AsyncSnapshot} {l : NotesList}
    (h : screen.build currentUser held = .ok l) :
    (∃ user, currentUser = some user ∧ l.account = user.email) ∧
      l.snapshot = { held with connectionState := .waiting } := by
  cases screen with
  | savedNotes =>
    obtain ⟨name, -, h⟩ := bind_eq_ok h
    cases currentUser with
    | none => cases h
    | some user => cases h; exact ⟨⟨user, rfl, rfl⟩, rfl⟩
  | favorites =>
    cases currentUser with
    | none => cases h
    | some user => cases h; exact ⟨⟨user, rfl, rfl⟩, rfl⟩

/-- A tile is shown once a result has come, and is built from a row of it. -/
theorem mem_tiles {l : NotesList} {note : Doc} (h : note ∈ l.tiles) :
    ∃ rows k d, l.snapshot = { connectionState := .active, data := some rows } ∧ (k, d) ∈ rows ∧ note = tile d := by
  obtain ⟨account, empty, ⟨state, data⟩⟩ := l
  unfold NotesList.tiles NotesList.body listBody at h
  cases state with
  | waiting => cases h
  | active =>
    cases data with
    | none => cases h
    | some rows =>
      cases rows with
      | nil => cases h
      | cons row rows =>
        obtain ⟨⟨k, d⟩, hmem, rfl⟩ := List.mem_map.1 h
        exact ⟨_, k, d, rfl, hmem, rfl⟩

end Notely
