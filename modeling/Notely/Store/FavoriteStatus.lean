/-
Text edits and the favourite flag. Neither editing page shows the flag, and each writes a fixed one:
`NoteEditingPage`, opened from `SavedNotes`, writes false, `FavNoteEditingPage`, opened from
`Favorites`, writes true. The second is the flag of every note of its list. The first is not: all notes
are on `SavedNotes`, so a save there keeps the flag exactly for the notes that are no favourites.
-/
import Notely.Store.Documents

namespace Notely

open DocStore

/-! ## Saves of an up-to-date tile -/

namespace ListScreen

/-- The page a tap on a tile opens, left by one of its exits. -/
def editor : ListScreen → Exit → EditingPage → Action
  | savedNotes => .edit
  | favorites => .editFavorite

/-- The form of that page validates. -/
def accepts : ListScreen → EditingPage → Bool
  | savedNotes, page => validate (NoteEditingPage.messages page)
  | favorites, page => validate (FavNoteEditingPage.messages page)

/-- The flag that page writes. -/
def flag : ListScreen → Bool
  | savedNotes => false
  | favorites => true

end ListScreen

/-- The step saves accepted texts for the note `k`, opened on the screen from an up-to-date list. -/
def Saves (c : Notes) (screen : ListScreen) (k : Str) (s : Step) : Prop :=
  ∃ exit page d, s.action = screen.editor exit page ∧ screen.result s.user c k = some d ∧
    page.note = tile d ∧ screen.accepts page = true

/-- The flag of the note `k` is as before, and so is every user's list of favourites. -/
def KeepsFlag (c c' : Notes) (k : Str) : Prop :=
  (c' k).map (· "isFavorite") = (c k).map (· "isFavorite") ∧
    ∀ user j, (favorites user c' j).isSome = (favorites user c j).isSome

/-- The note `k` is a favourite. -/
def IsFavorite (c : Notes) (k : Str) : Prop := (c k).map (· "isFavorite") = some (some (.bool true))

/-! ## What a save does -/

theorem result_entry {es : List Step} (h : notesSystem.Valid es) {screen : ListScreen} {user k : Str} {d : Doc}
    (hd : screen.result user (store es) k = some d) :
    ∃ e, shelf es k = some e ∧ e.email = user ∧ d = e.json k ∧ (screen = .favorites → e.isFavorite = true) := by
  have hall := result_subset hd
  rw [store_eq_shelf h] at hall
  obtain ⟨e, he, hm, rfl⟩ := allNotes_notes_eq_some.1 hall
  refine ⟨e, he, hm, rfl, ?_⟩
  rintro rfl
  simpa using (select_eq_some.1 hd).2

theorem Saves.valid {es : List Step} (h : notesSystem.Valid es) {screen : ListScreen} {k : Str} {s : Step}
    (hs : Saves (store es) screen k s) : notesSystem.Valid (s :: es) := by
  obtain ⟨exit, page, d, ha, hd, hn, -⟩ := hs
  have hnote : s.action.note = some page.note := by rw [ha]; cases screen <;> rfl
  refine ⟨⟨fun note hn' => ?_, fun hn' => ?_⟩, h⟩
  · rw [hnote] at hn'; cases hn'
    exact ⟨k, d, .result (List.suffix_refl _) (result_subset hd), hn⟩
  · rw [hnote] at hn'; cases hn'

/-- A save replaces the entry by one of the same owner with the flag of the page. -/
theorem Saves.shelf {es : List Step} (h : notesSystem.Valid es) {screen : ListScreen} {k : Str} {s : Step}
    (hs : Saves (store es) screen k s) :
    ∃ e e', shelf es k = some e ∧ s.action.note = some (e.json k) ∧ Notely.shelf (s :: es) k = some e' ∧
      e'.email = e.email ∧ e'.isFavorite = screen.flag ∧ (screen = .favorites → e.isFavorite = true) := by
  obtain ⟨exit, page, d, ha, hd, hn, hacc⟩ := hs
  obtain ⟨e, he, hm, rfl, hfav⟩ := result_entry h hd
  rw [Entry.tile_json] at hn
  have hnote : s.action.note = some (e.json k) := by rw [ha, ← hn]; cases screen <;> rfl
  have hc : s.change = some (.update k (s.entry page.titleField page.bodyField screen.flag)) := by
    cases screen with
    | savedNotes =>
      simp only [ListScreen.accepts, validate_title, Bool.not_eq_true'] at hacc
      simp [Step.change, ha, ListScreen.editor, hacc, hn, ListScreen.flag]
    | favorites =>
      simp only [ListScreen.accepts, validate_title_body, Bool.not_eq_true'] at hacc
      simp [Step.change, ha, ListScreen.editor, hacc, hn, ListScreen.flag]
  refine ⟨e, s.entry page.titleField page.bodyField screen.flag, he, hnote, ?_, hm.symm, rfl, hfav⟩
  rw [shelf_of_change es hc, Shelf.write, apply_update_self, he]; rfl

theorem isSome_favorites {es : List Step} (h : notesSystem.Valid es) (user k : Str) :
    (favorites user (store es) k).isSome = true ↔
      ∃ e, shelf es k = some e ∧ e.email = user ∧ e.isFavorite = true := by
  rw [Option.isSome_iff_exists, store_eq_shelf h]
  constructor
  · rintro ⟨d, hd⟩
    obtain ⟨hall, hfav⟩ := select_eq_some.1 hd
    obtain ⟨e, he, hm, rfl⟩ := allNotes_notes_eq_some.1 hall
    exact ⟨e, he, hm, by simpa using hfav⟩
  · rintro ⟨e, he, hm, hf⟩
    exact ⟨_, select_eq_some.2 ⟨allNotes_notes_eq_some.2 ⟨e, he, hm, rfl⟩, by simp [hf]⟩⟩

theorem save_keeps_iff {es : List Step} (h : notesSystem.Valid es) {screen : ListScreen} {k : Str} {s : Step}
    (hs : Saves (store es) screen k s) {e : Entry} (he : shelf es k = some e) :
    KeepsFlag (store es) (store (s :: es)) k ↔ screen.flag = e.isFavorite := by
  have h' := hs.valid h
  obtain ⟨e₀, e', he₀, hn, he', hm, hf, -⟩ := hs.shelf h
  rw [he] at he₀; cases he₀
  constructor
  · rintro ⟨hk, -⟩
    rw [store_eq_shelf h', store_eq_shelf h, notes_eq_some.2 ⟨e, he, rfl⟩, notes_eq_some.2 ⟨e', he', rfl⟩] at hk
    rw [← hf]; simpa using hk
  · intro hflag
    refine ⟨?_, fun user j => ?_⟩
    · rw [store_eq_shelf h', store_eq_shelf h, notes_eq_some.2 ⟨e, he, rfl⟩, notes_eq_some.2 ⟨e', he', rfl⟩]
      simp [hf, hflag]
    · rw [Bool.eq_iff_iff]
      by_cases hj : j = k
      · -- the same owner and the same flag: on the same lists
        subst hj
        rw [isSome_favorites h', isSome_favorites h]
        simp [he, he', hm, hf, hflag]
      · simp only [favorites, allNotes, select, step_frame h' hn hj]

/-- At every reachable state, a save keeps the flag and the lists of favourites exactly when it is not
a save of a favourite from `SavedNotes`; so in a run all saves do, exactly when none is such a save. -/
theorem edit_keeps_flag (es : List Step) (h : notesSystem.Valid es) :
    (∀ screen k s, Saves (store es) screen k s →
      (KeepsFlag (store es) (store (s :: es)) k ↔ ¬ (screen = .savedNotes ∧ IsFavorite (store es) k))) ∧
    (Trace.Always (fun fs s => ∀ screen k, Saves (store fs) screen k s →
        KeepsFlag (store fs) (store (s :: fs)) k) es ↔
      Trace.Always (fun fs s => ∀ screen k, Saves (store fs) screen k s →
        ¬ (screen = .savedNotes ∧ IsFavorite (store fs) k)) es) := by
  have hsave : ∀ fs, notesSystem.Valid fs → ∀ screen k s, Saves (store fs) screen k s →
      (KeepsFlag (store fs) (store (s :: fs)) k ↔ ¬ (screen = .savedNotes ∧ IsFavorite (store fs) k)) := by
    intro fs hv screen k s hs
    obtain ⟨e, -, he, -, -, -, -, hfav⟩ := hs.shelf hv
    have hfavorite : IsFavorite (store fs) k ↔ e.isFavorite = true := by
      unfold IsFavorite
      rw [store_eq_shelf hv, notes_eq_some.2 ⟨e, he, rfl⟩]; simp
    rw [save_keeps_iff hv hs he, hfavorite]
    cases screen with
    | savedNotes => simp [ListScreen.flag]
    | favorites => simp [ListScreen.flag, hfav rfl]
  refine ⟨hsave es h, Trace.always_congr h fun s fs hs _ => ?_⟩
  exact forall₃_congr (hsave fs (h.of_suffix ((List.suffix_cons s fs).trans hs)) · · s ·)

/-! ## A favourite edited from each list -/

namespace OneDevice

open TwoDevices

/-- The created note after it was made a favourite. -/
def favorite : Doc := Entry.json (lit "n1") {
  title := lit "Shopping", description := lit "milk", email := ann, timeAdded := lit "3", isFavorite := true }

/-- An edit of the favourite from one of the two screens. -/
def saveFrom (screen : ListScreen) : Step := {
  user := ann, now := lit "5", autoId := lit "n5",
  action := screen.editor .backArrow {
    note := favorite, title := lit "Shopping", description := lit "milk",
    titleField := lit "Shopping", bodyField := lit "milk, eggs" } }

theorem toggled_valid : notesSystem.Valid [toggle, create] := by
  have h : (cloudSystem TwoDevices.account).Valid (.land toggleFlight :: bothSent) :=
    toggleFirst_valid.of_suffix (List.suffix_cons _ _)
  exact (landed_run TwoDevices.account h).1

theorem saveFrom_saves (screen : ListScreen) : Saves (store [toggle, create]) screen (lit "n1") (saveFrom screen) := by
  have hall : allNotes ann (store [toggle, create]) (lit "n1") = some favorite := by
    rw [store_eq_shelf toggled_valid, allNotes_notes_eq_some]
    exact ⟨_, rfl, rfl, rfl⟩
  have hfav : favorites ann (store [toggle, create]) (lit "n1") = some favorite := select_eq_some.2 ⟨hall, rfl⟩
  cases screen with
  | savedNotes => exact ⟨_, _, favorite, rfl, hall, rfl, rfl⟩
  | favorites => exact ⟨_, _, favorite, rfl, hfav, rfl, rfl⟩

end OneDevice

open TwoDevices OneDevice in
/-- Saved from `Favorites`, the note stays a favourite. -/
theorem edit_keeps_flag_favorites :
    notesSystem.Valid [TwoDevices.toggle, TwoDevices.create] ∧
    KeepsFlag (store [TwoDevices.toggle, TwoDevices.create])
      (store [saveFrom .favorites, TwoDevices.toggle, TwoDevices.create]) (lit "n1") := by
  refine ⟨toggled_valid, ?_⟩
  have h := (edit_keeps_flag _ toggled_valid).1 .favorites (lit "n1") _ (saveFrom_saves .favorites)
  exact h.2 (by rintro ⟨⟨⟩, -⟩)

open TwoDevices OneDevice in
/-- Saved from `SavedNotes`, it is none any more, and gone from the list of favourites. -/
theorem edit_clears_flag :
    notesSystem.Valid [saveFrom .savedNotes, TwoDevices.toggle, TwoDevices.create] ∧
    Saves (store [TwoDevices.toggle, TwoDevices.create]) .savedNotes (lit "n1") (saveFrom .savedNotes) ∧
    (store [TwoDevices.toggle, TwoDevices.create] (lit "n1")).map (· "isFavorite") = some (some (.bool true)) ∧
    (store [saveFrom .savedNotes, TwoDevices.toggle, TwoDevices.create] (lit "n1")).map (· "isFavorite") =
      some (some (.bool false)) ∧
    (favorites ann (store [TwoDevices.toggle, TwoDevices.create]) (lit "n1")).isSome = true ∧
    (favorites ann (store [saveFrom .savedNotes, TwoDevices.toggle, TwoDevices.create]) (lit "n1")).isSome = false :=
  ⟨(saveFrom_saves .savedNotes).valid toggled_valid, saveFrom_saves .savedNotes, rfl, rfl, rfl, rfl⟩

end Notely
