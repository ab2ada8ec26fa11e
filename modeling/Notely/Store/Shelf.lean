/-
The collection for what it is: a shelf of entries under their ids, each entry complete and owned by
an email. A shelf cannot hold a note under a wrong id, with a missing field or of a wrong type. The
steps move the shelf by the same three writes, an update replacing the entry whole, and the
documents of the collection are always the notes of the shelf (`store_eq_shelf`): results about the
writers are proven of the shelf and read off the documents.
-/
import Notely.Store.Steps

namespace Notely

open DocStore

/-! ## Entries and shelves -/

/-- A note without its id: the shelf has that. -/
structure Entry where
  title : Str
  description : Str
  email : Str
  timeAdded : Str
  isFavorite : Bool
  deriving DecidableEq, Repr

namespace Entry

/-- The note an entry stands for, under the id `k`. -/
def toNote (k : Str) (e : Entry) : Note := {
  id := k, title := e.title, body := e.description, email := some e.email, timeAdded := some e.timeAdded,
  isFavorite := some e.isFavorite }

/-- The document of an entry. -/
def json (k : Str) (e : Entry) : Doc := (e.toNote k).toJson

section json

variable (k : Str) (e : Entry)

@[simp] theorem json_isFavorite : e.json k "isFavorite" = some (.bool e.isFavorite) := rfl
@[simp] theorem json_id : e.json k "id" = some (.str k) := rfl
@[simp] theorem json_title : e.json k "title" = some (.str e.title) := rfl
@[simp] theorem json_description : e.json k "description" = some (.str e.description) := rfl
@[simp] theorem json_email : e.json k "email" = some (.str e.email) := rfl

theorem holdsNote : HoldsNote (e.json k) k e.title e.description e.isFavorite := ⟨rfl, rfl, rfl, rfl⟩

@[simp] theorem tile_json : tile (e.json k) = e.json k := (e.holdsNote k).tile

end json

/-- The id and the entry of a complete note's document. -/
def decode (d : Doc) : Option (Str × Entry) :=
  match Note.arguments d with
  | .ok { id, body, title, email := some email, timeAdded := some timeAdded, isFavorite := some isFavorite } =>
    some (id, { title, description := body, email, timeAdded, isFavorite })
  | _ => none

@[simp] theorem decode_json (k : Str) (e : Entry) : decode (e.json k) = some (k, e) := by
  simp [decode, json, arguments_toJson, toNote]

theorem overlay_json (k : Str) (e f : Entry) : (e.json k).overlay (f.json k) = f.json k :=
  overlay_toJson (e.toNote k) (f.toNote k)

theorem json_inj {k j : Str} {e f : Entry} (h : e.json k = f.json j) : k = j ∧ e = f := by
  have := congrArg decode h
  rw [decode_json, decode_json] at this
  simpa using this

end Entry

/-- The entries under their ids. -/
abbrev Shelf := Collection Str Entry

/-- An update replaces the entry. -/
def Shelf.write (a : Shelf) (w : Write Str Entry) : Shelf := apply (fun _ new => new) a w

/-- The documents of a shelf. -/
def Shelf.notes (a : Shelf) : Notes := encode Entry.json a

theorem notes_eq_some {a : Shelf} {k : Str} {d : Doc} :
    a.notes k = some d ↔ ∃ e, a k = some e ∧ e.json k = d :=
  encode_eq_some

theorem notes_eq_none {a : Shelf} {k : Str} : a.notes k = none ↔ a k = none := encode_eq_none

/-- Writing the documents of entries is writing the entries. -/
theorem notes_write (a : Shelf) (w : Write Str Entry) :
    a.notes.write (w.encode Entry.json) = (a.write w).notes :=
  encode_apply Entry.overlay_json a w

/-- The entries of one owner. -/
def Shelf.ownedBy (email : Str) (a : Shelf) : Shelf := select (fun e => e.email == email) a

theorem allNotes_notes (email : Str) (a : Shelf) : allNotes email a.notes = (a.ownedBy email).notes :=
  select_encode (fun k e => by simp) a

theorem ownedBy_eq_some {email k : Str} {a : Shelf} {e : Entry} :
    a.ownedBy email k = some e ↔ a k = some e ∧ e.email = email := by
  simp [Shelf.ownedBy, select_eq_some]

theorem allNotes_notes_eq_some {email k : Str} {a : Shelf} {d : Doc} :
    allNotes email a.notes k = some d ↔ ∃ e, a k = some e ∧ e.email = email ∧ e.json k = d := by
  rw [allNotes_notes, notes_eq_some]
  simp [ownedBy_eq_some, and_assoc]

/-! ## Whole notes -/

namespace Step

/-- What a step can send: a create a new note, an edit or a favourite-status write a note over the document its
tile names, and a delete that document's id. A note is sent whole, under its own id and with its user's email. -/
inductive Sends (s : Step) : NoteWrite → Prop
  | create {e : Entry} (hn : s.action.note = none) (he : e.email = s.user) : Sends s (.set s.autoId (e.json s.autoId))
  | update {note : Doc} {k : Str} {e : Entry} (hn : s.action.note = some note)
      (hk : doc s.env (note "id") = .ok k) (he : e.email = s.user) : Sends s (.update k (e.json k))
  | delete {note : Doc} {k : Str} (ha : s.action = .delete note) (hk : doc s.env (note "id") = .ok k) :
      Sends s (.delete k)

theorem sends_of_save {s : Step} {messages : EditingPage → List (Option String)} {isFavorite : Bool}
    {page : EditingPage} (hn : s.action.note = some page.note) {r : Reaction} {w : NoteWrite}
    (hr : EditingPage.saveHandler messages isFavorite NoteEditingPage.updateNote s.env page = .ok r)
    (hw : r.write = some w) : s.Sends w := by
  unfold EditingPage.saveHandler at hr
  split at hr
  · obtain ⟨id, hid, hr⟩ := bind_eq_ok hr
    obtain ⟨write, hwrite, hr⟩ := bind_eq_ok hr
    obtain ⟨docNote, hdoc, hwrite⟩ := bind_eq_ok hwrite
    cases hwrite; cases hr; cases hw
    obtain rfl : id = docNote := by
      have hid : page.note "id" = some (.str id) := asString_eq_ok hid
      have hdoc : doc s.env (page.note "id") = .ok docNote := hdoc
      rw [hid] at hdoc
      exact Except.ok.inj hdoc
    exact .update (e := ⟨page.titleField, page.bodyField, s.user, s.now, isFavorite⟩) hn hdoc rfl
  · cases hr; cases hw

theorem write_cases {s : Step} {w : NoteWrite} (h : s.write = some w) : s.Sends w := by
  unfold Step.write at h
  split at h
  · next r hr =>
    cases ha : s.action with
    | create exit page =>
      rw [ha] at hr
      have hcreate : w = NoteTakingPage.createNote s.env page page.title := by
        cases exit <;> cases hr
        · unfold NoteTakingPage.backArrow at h
          split at h <;> cases h
          rfl
        · cases h; rfl
      rw [hcreate]
      exact .create (e := ⟨page.title, page.description, s.user, s.now, false⟩) (by rw [ha]; rfl) rfl
    | edit exit page =>
      rw [ha] at hr
      cases exit <;> exact sends_of_save (by rw [ha]; rfl) hr h
    | editFavorite exit page =>
      rw [ha] at hr
      cases exit <;> exact sends_of_save (by rw [ha]; rfl) hr h
    | toggleFavorite note =>
      rw [ha] at hr
      obtain ⟨docNote, hdoc, hr⟩ := bind_eq_ok hr
      obtain ⟨body, -, hr⟩ := bind_eq_ok hr
      obtain ⟨title, -, hr⟩ := bind_eq_ok hr
      cases hr; cases h
      exact .update (e := ⟨title, body, s.user, s.now, _⟩) (by rw [ha]; rfl) hdoc rfl
    | removeFromFavorites note =>
      rw [ha] at hr
      obtain ⟨docNote, hdoc, hr⟩ := bind_eq_ok hr
      obtain ⟨body, -, hr⟩ := bind_eq_ok hr
      obtain ⟨title, -, hr⟩ := bind_eq_ok hr
      cases hr; cases h
      exact .update (e := ⟨title, body, s.user, s.now, false⟩) (by rw [ha]; rfl) hdoc rfl
    | delete note =>
      rw [ha] at hr
      obtain ⟨docNote, hdoc, hr⟩ := bind_eq_ok hr
      cases hr; cases h
      exact .delete ha hdoc
  · cases h

theorem note_of_set {s : Step} {k : Str} {d : Doc} (h : s.write = some (.set k d)) :
    s.action.note = none ∧ k = s.autoId := by
  cases write_cases h with
  | create hn _ => exact ⟨hn, rfl⟩

theorem note_of_update {s : Step} {k : Str} {d : Doc} (h : s.write = some (.update k d)) :
    ∃ note, s.action.note = some note := by
  cases write_cases h with
  | update hn _ _ => exact ⟨_, hn⟩

theorem write_doc {s : Step} {w : NoteWrite} (h : s.write = some w) {d : Doc} (hd : w.doc = some d) :
    ∃ e : Entry, d = e.json w.target ∧ e.email = s.user := by
  cases write_cases h with
  | create _ he => cases hd; exact ⟨_, rfl, he⟩
  | update _ _ he => cases hd; exact ⟨_, rfl, he⟩
  | delete _ _ => cases hd

end Step

/-- Whatever the steps are, every document is a whole note under its own id. -/
theorem store_entry : ∀ {es : List Step} {k : Str} {d : Doc}, store es k = some d → ∃ e : Entry, d = e.json k
  | [], k, d, h => by cases h
  | s :: es, k, d, h => by
    rw [store_cons, Step.exec] at h
    cases hw : s.write with
    | none => rw [hw] at h; exact store_entry h
    | some w =>
      rw [hw] at h
      rcases apply_eq_some _ _ h with ⟨-, hold⟩ | rfl | ⟨old, x, rfl, hold, rfl⟩
      · exact store_entry hold
      · obtain ⟨e, he, -⟩ := Step.write_doc hw rfl
        exact ⟨e, he⟩
      · obtain ⟨e, rfl⟩ := store_entry hold
        obtain ⟨f, hx, -⟩ := Step.write_doc hw rfl
        exact ⟨f, by rw [hx]; exact Entry.overlay_json k e f⟩

theorem allNotes_email {email k : Str} {c : Notes} {d : Doc} (h : allNotes email c k = some d) :
    d "email" = some (.str email) :=
  beq_iff_eq.1 (select_eq_some.1 h).2

/-- What a user has seen under an id is a note of that user with that id. -/
theorem Seen.entry {es : List Step} {user k : Str} {d : Doc} (h : Seen es user k d) :
    ∃ e : Entry, d = e.json k ∧ e.email = user := by
  induction h with
  | result _ hd =>
    obtain ⟨e, rfl⟩ := store_entry (select_eq_some.1 hd).1
    have hm := allNotes_email hd
    exact ⟨e, rfl, by simpa using hm⟩
  | written _ _ hu _ hw _ ih' =>
    obtain ⟨e, rfl, -⟩ := ih'
    obtain ⟨f, hx, hf⟩ := Step.write_doc hw rfl
    exact ⟨f, by rw [hx]; exact Entry.overlay_json k e f, hf.trans hu⟩

/-! ## The steps on the shelf -/

namespace Step

/-- The entry a step writes: the texts and the flag are its own, the rest is the session's. -/
def entry (s : Step) (title description : Str) (isFavorite : Bool) : Entry :=
  { title, description, email := s.user, timeAdded := s.now, isFavorite }

/-- What a step does to the shelf. -/
def change (s : Step) : Option (Write Str Entry) :=
  match s.action with
  | .create .backArrow page =>
    if page.controllerBodyText.isEmpty && page.controllerTitleText.isEmpty then none
    else some (.set s.autoId (s.entry page.title page.description false))
  | .create .saveIcon page => some (.set s.autoId (s.entry page.title page.description false))
  | .edit _ page =>
    if page.titleField.isEmpty then none
    else (Entry.decode page.note).map fun ke => .update ke.1 (s.entry page.titleField page.bodyField false)
  | .editFavorite _ page =>
    if page.titleField.isEmpty || page.bodyField.isEmpty then none
    else (Entry.decode page.note).map fun ke => .update ke.1 (s.entry page.titleField page.bodyField true)
  | .toggleFavorite note => (Entry.decode note).map fun ke => .update ke.1
      (s.entry ke.2.title ke.2.description
        (if ke.2.isFavorite then s.provider.removeFavorite.1 else s.provider.makeFavorite.1))
  | .removeFromFavorites note =>
    (Entry.decode note).map fun ke => .update ke.1 (s.entry ke.2.title ke.2.description false)
  | .delete note => (Entry.decode note).map fun ke => .delete ke.1

/-- The shelf after a step. -/
def moveShelf (a : Shelf) (s : Step) : Shelf :=
  match s.change with
  | some w => a.write w
  | none => a

end Step

/-! ## The handlers on the tile of a complete note -/

theorem validate_title (page : EditingPage) :
    validate (NoteEditingPage.messages page) = !page.titleField.isEmpty := by
  cases h : page.titleField.isEmpty <;> simp [validate, NoteEditingPage.messages, validator, h]

theorem validate_title_body (page : EditingPage) :
    validate (FavNoteEditingPage.messages page) = !(page.titleField.isEmpty || page.bodyField.isEmpty) := by
  cases h : page.titleField.isEmpty <;> cases h' : page.bodyField.isEmpty <;>
    simp [validate, FavNoteEditingPage.messages, validator, h, h']

section Handlers

variable (env : Env) (k : Str) (e : Entry)

theorem saveHandler_of_id (messages : EditingPage → List (Option String)) (isFavorite : Bool)
    (updateNote : Env → Doc → Note → Except DartError NoteWrite) {page : EditingPage}
    (hid : page.note "id" = some (.str k)) (hu : ∀ n, updateNote env page.note n = .ok (.update k n.toJson)) :
    EditingPage.saveHandler messages isFavorite updateNote env page =
      if validate (messages page) then .ok {
        write := some (.update k ({
          isFavorite := some isFavorite, timeAdded := some env.now, body := page.bodyField,
          title := page.titleField, email := env.email, id := k } : Note).toJson),
        atOnce := [.pop], provider := env.provider }
      else .ok { provider := env.provider } := by
  unfold EditingPage.saveHandler
  split
  · simp only [EditingPage.save, hid, asString, hu, bind, Except.bind, pure, Except.pure]
  · rfl

/-- The note a save writes over the document `k`. -/
def EditingPage.saved (page : EditingPage) (isFavorite : Bool) : Note := {
  isFavorite := some isFavorite, timeAdded := some env.now, body := page.bodyField, title := page.titleField,
  email := env.email, id := k }

theorem react_edit {exit : Exit} {page : EditingPage} (hid : page.note "id" = some (.str k)) :
    Action.react env (.edit exit page) =
      if page.titleField.isEmpty then .ok { provider := env.provider }
      else .ok { write := some (.update k (page.saved env k false).toJson), atOnce := [.pop],
                 provider := env.provider } := by
  have h := saveHandler_of_id env k NoteEditingPage.messages false NoteEditingPage.updateNote hid fun n => by
    simp only [NoteEditingPage.updateNote, hid, doc, bind, Except.bind, pure, Except.pure]
  rw [validate_title] at h
  cases exit <;> exact h.trans (by cases page.titleField.isEmpty <;> rfl)

theorem react_editFavorite {exit : Exit} {page : EditingPage} (hid : page.note "id" = some (.str k)) :
    Action.react env (.editFavorite exit page) =
      if page.titleField.isEmpty || page.bodyField.isEmpty then .ok { provider := env.provider }
      else .ok { write := some (.update k (page.saved env k true).toJson), atOnce := [.pop],
                 provider := env.provider } := by
  have h := saveHandler_of_id env k FavNoteEditingPage.messages true FavNoteEditingPage.updateFavNote hid fun n => by
    simp only [FavNoteEditingPage.updateFavNote, hid, doc, bind, Except.bind, pure, Except.pure]
  rw [validate_title_body] at h
  cases exit <;> exact h.trans (by cases page.titleField.isEmpty || page.bodyField.isEmpty <;> rfl)

variable {k}

theorem HoldsNote.addToFavorites {d : Doc} {title description : Str} {isFavorite : Bool}
    (h : HoldsNote d k title description isFavorite) : SavedNotes.addToFavorites env d = .ok {
      write := some (.update k ({
        isFavorite := some (if isFavorite then env.provider.removeFavorite.1 else env.provider.makeFavorite.1),
        timeAdded := some env.now, body := description, title := title, id := k,
        email := env.email } : Note).toJson),
      onAck := [.showSnackBar (if isFavorite then "Removed from Favorites!" else "Added to Favorites!")],
      provider := env.provider } := by
  cases isFavorite <;>
    simp [SavedNotes.addToFavorites, doc, asString, h.id, h.title, h.description, h.isFavorite, bind,
      Except.bind, pure, Except.pure, IsFavoriteProvider.makeFavorite, IsFavoriteProvider.removeFavorite]

theorem HoldsNote.removeFromFavorites {d : Doc} {title description : Str} {isFavorite : Bool}
    (h : HoldsNote d k title description isFavorite) : Favorites.removeFromFavorites env d = .ok {
      write := some (.update k ({
        isFavorite := some false, timeAdded := some env.now, body := description, title := title,
        id := k, email := env.email } : Note).toJson),
      atOnce := [.pop], onAck := [.showSnackBar "Removed from Favorites!"], provider := env.provider } := by
  simp only [Favorites.removeFromFavorites, doc, asString, h.id, h.title, h.description, bind, Except.bind,
    pure, Except.pure]

variable (k)

theorem delete_json : SavedNotes.delete env (e.json k) = .ok {
    write := some (.delete k), atOnce := [.pop, .showSnackBar "Delete Successful!"],
    provider := env.provider } :=
  rfl

end Handlers

namespace Step

/-- A step on a tile has the tile of a complete note. -/
def OnEntry (s : Step) : Prop := ∀ note, s.action.note = some note → ∃ k e, note = Entry.json k e

/-- On the tile of a complete note every handler issues the write of its entry. -/
theorem write_eq_change {s : Step} (h : s.OnEntry) :
    s.write = s.change.map (Write.encode Entry.json) := by
  obtain ⟨user, now, autoId, provider, action⟩ := s
  cases action with
  | create exit page =>
    cases exit with
    | backArrow =>
      simp only [write, change, Action.react, NoteTakingPage.backArrow]
      split <;> rfl
    | saveIcon => rfl
  | edit exit page =>
    obtain ⟨k, e, hn⟩ := h page.note rfl
    simp only [write, react_edit _ k (by rw [hn]; rfl), change, hn, Entry.decode_json]
    cases page.titleField.isEmpty <;> rfl
  | editFavorite exit page =>
    obtain ⟨k, e, hn⟩ := h page.note rfl
    simp only [write, react_editFavorite _ k (by rw [hn]; rfl), change, hn, Entry.decode_json]
    cases page.titleField.isEmpty || page.bodyField.isEmpty <;> rfl
  | toggleFavorite note =>
    obtain ⟨k, e, rfl⟩ := h note rfl
    simp only [write, change, Action.react, (e.holdsNote k).addToFavorites _, Entry.decode_json]
    rfl
  | removeFromFavorites note =>
    obtain ⟨k, e, rfl⟩ := h note rfl
    simp only [write, change, Action.react, (e.holdsNote k).removeFromFavorites _, Entry.decode_json]
    rfl
  | delete note =>
    obtain ⟨k, e, rfl⟩ := h note rfl
    simp only [write, change, Action.react, delete_json, Entry.decode_json]
    rfl

end Step

/-! ## What a step does to an entry -/

/-- A create puts nothing, or a note that is no favourite under its new id. -/
theorem change_of_create {s : Step} {exit : Exit} {page : NoteTakingPage} (h : s.action = .create exit page) :
    s.change = none ∨ s.change = some (.set s.autoId (s.entry page.title page.description false)) := by
  obtain ⟨user, now, autoId, provider, action⟩ := s
  subst h
  cases exit with
  | backArrow =>
    simp only [Step.change]
    split
    · exact .inl rfl
    · exact .inr rfl
  | saveIcon => exact .inr rfl

theorem create_of_note {a : Action} (h : a.note = none) : ∃ exit page, a = .create exit page := by
  cases a <;> first | exact ⟨_, _, rfl⟩ | cases h

/-- A save of an editing page leaves the shelf, or there is a title and the entry gets the texts of the fields. -/
theorem change_of_edit {s : Step} {exit : Exit} {page : EditingPage}
    (ha : s.action = .edit exit page ∨ s.action = .editFavorite exit page) {k : Str} {e : Entry}
    (hp : page.note = e.json k) :
    s.change = none ∨ page.titleField ≠ [] ∧
      ∃ isFavorite, s.change = some (.update k (s.entry page.titleField page.bodyField isFavorite)) := by
  rcases ha with ha | ha
  · simp only [Step.change, ha, hp, Entry.decode_json]
    split
    · exact .inl rfl
    · next ht => exact .inr ⟨fun h => ht (List.isEmpty_iff.2 h), _, rfl⟩
  · simp only [Step.change, ha, hp, Entry.decode_json]
    split
    · exact .inl rfl
    · next ht => exact .inr ⟨fun h => ht (Bool.or_eq_true_iff.2 (.inl (List.isEmpty_iff.2 h))), _, rfl⟩

/-- A favourite-status write puts the text of its tile. -/
theorem favorite_change {s : Step} {k : Str} {e : Entry} (hf : s.action.isFavoriteWrite = true)
    (hn : s.action.note = some (e.json k)) :
    ∃ isFavorite, s.change = some (.update k (s.entry e.title e.description isFavorite)) := by
  cases ha : s.action with
  | toggleFavorite note =>
    rw [ha] at hn
    cases hn
    simp only [Step.change, ha, Entry.decode_json]
    exact ⟨_, rfl⟩
  | removeFromFavorites note =>
    rw [ha] at hn
    cases hn
    simp only [Step.change, ha, Entry.decode_json]
    exact ⟨_, rfl⟩
  | _ => rw [ha] at hf; cases hf

/-- On the tile of an entry, a delete removes that entry, and any other step leaves the shelf or replaces
the entry by one of its user, with a title or with the texts it has. -/
theorem change_of_note {s : Step} {k : Str} {e : Entry} (hn : s.action.note = some (e.json k)) :
    ((∃ note, s.action = .delete note) ∧ s.change = some (.delete k)) ∨
    (s.action.isUpdate = true ∧ (s.change = none ∨ ∃ e', s.change = some (.update k e') ∧ e'.email = s.user ∧
      (e'.title ≠ [] ∨ e'.title = e.title ∧ e'.description = e.description))) := by
  cases ha : s.action with
  | create exit page => rw [ha] at hn; cases hn
  | edit exit page =>
    rw [ha] at hn
    rcases change_of_edit (.inl ha) (Option.some.inj hn) with hc | ⟨ht, b, hc⟩
    · exact .inr ⟨rfl, .inl hc⟩
    · exact .inr ⟨rfl, .inr ⟨_, hc, rfl, .inl ht⟩⟩
  | editFavorite exit page =>
    rw [ha] at hn
    rcases change_of_edit (.inr ha) (Option.some.inj hn) with hc | ⟨ht, b, hc⟩
    · exact .inr ⟨rfl, .inl hc⟩
    · exact .inr ⟨rfl, .inr ⟨_, hc, rfl, .inl ht⟩⟩
  | toggleFavorite note =>
    obtain ⟨b, hc⟩ := favorite_change (by rw [ha]; rfl) hn
    exact .inr ⟨rfl, .inr ⟨_, hc, rfl, .inr ⟨rfl, rfl⟩⟩⟩
  | removeFromFavorites note =>
    obtain ⟨b, hc⟩ := favorite_change (by rw [ha]; rfl) hn
    exact .inr ⟨rfl, .inr ⟨_, hc, rfl, .inr ⟨rfl, rfl⟩⟩⟩
  | delete note =>
    rw [ha] at hn
    cases hn
    simp only [Step.change, ha, Entry.decode_json]
    exact .inl ⟨⟨_, rfl⟩, rfl⟩

/-! ## The collection is the notes of the shelf -/

/-- The shelf after the steps of a log. -/
def shelf (es : List Step) : Shelf := Trace.after (fun _ => none) Step.moveShelf es

theorem shelf_cons (s : Step) (es : List Step) : shelf (s :: es) = s.moveShelf (shelf es) := rfl

/-- A step of a run is started on the document of an entry. -/
theorem Step.Ok.onEntry {s : Step} {es : List Step} (h : s.Ok es) : s.OnEntry := by
  intro note hn
  obtain ⟨k, d, hs, rfl⟩ := h.seen note hn
  obtain ⟨e, rfl, -⟩ := hs.entry
  exact ⟨k, e, Entry.tile_json k e⟩

/-- What a step of a run writes is its change of the shelf. -/
theorem write_of_change {s : Step} {es : List Step} (h : notesSystem.Valid (s :: es)) :
    s.write = s.change.map (Write.encode Entry.json) :=
  Step.write_eq_change h.1.onEntry

/-- Refinement: along every run the documents are the notes of the shelf. -/
theorem store_eq_shelf : ∀ {es : List Step}, notesSystem.Valid es → store es = (shelf es).notes
  | [], _ => rfl
  | s :: es, h => by
    rw [store_cons, shelf_cons, Step.exec, Step.moveShelf, write_of_change h, store_eq_shelf h.2]
    cases s.change with
    | none => rfl
    | some w => exact notes_write _ w

/-! ## What a step can do -/

/-- The user has seen the entry under `k`, and the user's query had one there at some point of the log. -/
structure SeenEntry (es : List Step) (user k : Str) (e : Entry) : Prop where
  seen : Seen es user k (e.json k)
  listed : ∃ fs e₀, fs <:+ es ∧ shelf fs k = some e₀ ∧ e₀.email = user

theorem Seen.listed {es : List Step} (h : notesSystem.Valid es) {user k : Str} {d : Doc} (hs : Seen es user k d) :
    ∃ fs e, fs <:+ es ∧ shelf fs k = some e ∧ e.email = user := by
  induction hs with
  | result hfs hd =>
    rw [store_eq_shelf (h.of_suffix hfs)] at hd
    obtain ⟨e, he, hm, -⟩ := allNotes_notes_eq_some.1 hd
    exact ⟨_, e, hfs, he, hm⟩
  | written _ _ _ _ _ ih _ => exact ih

/-- A step is started on the document of an entry its user has seen. -/
theorem seen_entry {s : Step} {es : List Step} (h : notesSystem.Valid (s :: es)) {note : Doc}
    (hn : s.action.note = some note) : ∃ k e, SeenEntry es s.user k e ∧ note = e.json k := by
  obtain ⟨k, d, hs, rfl⟩ := h.1.seen note hn
  obtain ⟨e, rfl, -⟩ := hs.entry
  exact ⟨k, e, ⟨hs, hs.listed h.2⟩, Entry.tile_json k e⟩

theorem fresh_shelf {s : Step} {es fs : List Step} (h : notesSystem.Valid (s :: es)) (hn : s.action.note = none)
    (hfs : fs <:+ es) : shelf fs s.autoId = none := by
  have := h.1.fresh hn fs hfs
  rw [store_eq_shelf (h.2.of_suffix hfs)] at this
  exact notes_eq_none.1 this

/-- Everything a step can do to the shelf: nothing; put an entry of its user under an id that was
never used; replace, if it is still there, an entry its user has seen by one of that user; or remove
such an entry. -/
theorem change_cases {s : Step} {es : List Step} (h : notesSystem.Valid (s :: es)) :
    s.change = none ∨
    (∃ e, s.change = some (.set s.autoId e) ∧ s.action.note = none ∧ e.email = s.user ∧
      ∀ fs, fs <:+ es → shelf fs s.autoId = none) ∨
    (∃ k e₀ e, SeenEntry es s.user k e₀ ∧ s.change = some (.update k e) ∧ e.email = s.user) ∨
    (∃ k e₀, SeenEntry es s.user k e₀ ∧ s.change = some (.delete k)) := by
  cases hn : s.action.note with
  | none =>
    obtain ⟨exit, page, ha⟩ := create_of_note hn
    rcases change_of_create ha with hc | hc
    · exact .inl hc
    · exact .inr (.inl ⟨_, hc, rfl, rfl, fun fs hfs => fresh_shelf h hn hfs⟩)
  | some note =>
    obtain ⟨k, e, hs, rfl⟩ := seen_entry h hn
    rcases change_of_note hn with ⟨-, hc⟩ | ⟨-, hc | ⟨e', hc, hm, -⟩⟩
    · exact .inr (.inr (.inr ⟨k, e, hs, hc⟩))
    · exact .inl hc
    · exact .inr (.inr (.inl ⟨k, e, e', hs, hc, hm⟩))

theorem shelf_of_change {s : Step} {w : Write Str Entry} (es : List Step) (h : s.change = some w) :
    shelf (s :: es) = (shelf es).write w := by
  rw [shelf_cons, Step.moveShelf, h]

/-- Where an entry comes from: it was there and the step changed another, or the step put it there. -/
theorem entry_cases {s : Step} {es : List Step} {k : Str} {e : Entry} (he : shelf (s :: es) k = some e) :
    (shelf es k = some e ∧ ∀ w, s.change = some w → k ≠ w.target) ∨
    s.change = some (.set k e) ∨ s.change = some (.update k e) := by
  cases hc : s.change with
  | none =>
    rw [shelf_cons, Step.moveShelf, hc] at he
    exact .inl ⟨he, fun w hw => by cases hw⟩
  | some w =>
    rw [shelf_of_change es hc, Shelf.write] at he
    rcases apply_eq_some _ _ he with ⟨hne, hold⟩ | rfl | ⟨old, x, rfl, -, rfl⟩
    · exact .inl ⟨hold, fun w' hw => by cases hw; exact hne⟩
    · exact .inr (.inl rfl)
    · exact .inr (.inr rfl)

theorem create_of_set {s : Step} {es : List Step} (h : notesSystem.Valid (s :: es)) {k : Str} {e : Entry}
    (hc : s.change = some (.set k e)) : ∃ exit page, s.action = .create exit page := by
  rcases change_cases h with hc' | ⟨_, -, hn, -⟩ | ⟨_, _, _, -, hc', -⟩ | ⟨_, _, -, hc'⟩
  · rw [hc'] at hc; cases hc
  · exact create_of_note hn
  · rw [hc'] at hc; cases hc
  · rw [hc'] at hc; cases hc

/-- The same, at one id: the entry stays; it is the first under a new id; it replaces one the user has
seen; or it is gone, and the user had seen it. -/
theorem shelf_cases {s : Step} {es : List Step} (h : notesSystem.Valid (s :: es)) (k : Str) :
    shelf (s :: es) k = shelf es k ∨
    (∃ e, k = s.autoId ∧ s.action.note = none ∧ shelf (s :: es) k = some e ∧ e.email = s.user ∧
      ∀ fs, fs <:+ es → shelf fs k = none) ∨
    (∃ e₀ f e, SeenEntry es s.user k e₀ ∧ shelf es k = some f ∧ shelf (s :: es) k = some e ∧ e.email = s.user) ∨
    (∃ e₀, SeenEntry es s.user k e₀ ∧ shelf (s :: es) k = none) := by
  rcases change_cases h with hc | ⟨e, hc, hn, hm, hfresh⟩ | ⟨j, e₀, e, hs, hc, hm⟩ | ⟨j, e₀, hs, hc⟩
  · rw [shelf_cons, Step.moveShelf, hc]; exact .inl rfl
  · rw [shelf_of_change es hc, Shelf.write]
    by_cases hk : k = s.autoId
    · subst hk; exact .inr (.inl ⟨e, rfl, hn, apply_set_self .., hm, hfresh⟩)
    · exact .inl (apply_of_ne _ _ hk)
  · rw [shelf_of_change es hc, Shelf.write]
    by_cases hk : k = j
    · subst hk
      cases hf : shelf es k with
      | none => rw [apply_update_of_none _ _ _ hf]; exact .inl hf
      | some f => exact .inr (.inr (.inl ⟨e₀, f, e, hs, rfl, by rw [apply_update_self, hf]; rfl, hm⟩))
    · exact .inl (apply_of_ne _ _ hk)
  · rw [shelf_of_change es hc, Shelf.write]
    by_cases hk : k = j
    · subst hk; exact .inr (.inr (.inr ⟨e₀, hs, apply_delete_self ..⟩))
    · exact .inl (apply_of_ne _ _ hk)

/-- A step puts a document only under the id its create was given. -/
theorem store_none_of_step {s : Step} {es : List Step} (h : notesSystem.Valid (s :: es)) {k : Str}
    (hk : store es k = none) (hne : s.action.note = none → k ≠ s.autoId) : store (s :: es) k = none := by
  rw [store_eq_shelf h.2, notes_eq_none] at hk
  rw [store_eq_shelf h, notes_eq_none]
  rcases shelf_cases h k with hc | ⟨_, hid, hn, -⟩ | ⟨_, _, _, -, hf, -⟩ | ⟨_, -, hc⟩
  · rw [hc, hk]
  · exact absurd hid (hne hn)
  · rw [hk] at hf; cases hf
  · exact hc

/-- An id that was ever live was given to a create. -/
theorem create_of_not_fresh : ∀ {es : List Step}, notesSystem.Valid es → ∀ {k : Str}, ¬ Fresh es k →
    ∃ s ∈ es, s.action.note = none ∧ s.autoId = k
  | [], _, k, hk => absurd (fun fs hfs => by rw [List.suffix_nil.1 hfs]; rfl) hk
  | s :: es, h, k, hk => by
    by_cases hfr : Fresh es k
    · -- fresh until now: the step is the create of `k`
      by_contra hnone
      push Not at hnone
      refine hk (fresh_cons.2 ⟨store_none_of_step h (hfr _ (List.suffix_refl _)) fun hn hid => ?_, hfr⟩)
      exact hnone s (.head _) hn hid.symm
    · obtain ⟨t, ht, hid⟩ := create_of_not_fresh h.2 hfr
      exact ⟨t, .tail _ ht, hid⟩

end Notely
