/-
What the devices keep of the collection, whatever they hold and in whatever order their writes land:
every document is a complete note under its own id, a write reaches only the document its tile was
read from, and the live ids are the created ones less the deleted ones.
-/
import Notely.Store.Clients
import Mathlib.Data.Set.Basic

namespace Notely

open DocStore

/-! ## Complete notes -/

/-- The document of an entry has the fields and the types of a note, and reads back as it is. -/
theorem json_complete (k : Str) (e : Entry) :
    e.json k "id" = some (.str k) ∧ (∀ f, (e.json k f).isSome = true ↔ f ∈ noteFields) ∧
    (∃ title description isFavorite, e.json k "title" = some (.str title) ∧
      e.json k "description" = some (.str description) ∧ e.json k "isFavorite" = some (.bool isFavorite)) ∧
    ∀ user, (Note.fromJson (some user) (e.json k)).map Note.toJson = .ok (e.json k) := by
  refine ⟨rfl, toJson_isSome _, ⟨e.title, e.description, e.isFavorite, rfl, rfl, rfl⟩, fun user => ?_⟩
  unfold Entry.json
  rw [fromJson_toJson]; rfl

/-! ## A step and its document -/

/-- A step addresses the document its tile was read from. -/
theorem change_target {s : Step} {k : Str} {e : Entry} (hn : s.action.note = some (e.json k))
    {w : Write Str Entry} (hw : s.change = some w) : w.target = k := by
  rcases change_of_note hn with ⟨-, hc⟩ | ⟨-, hc | ⟨e', hc, -⟩⟩ <;> rw [hc] at hw <;> cases hw
  · rfl
  · rfl

theorem step_frame {s : Step} {es : List Step} (h : notesSystem.Valid (s :: es)) {k j : Str} {e : Entry}
    (hn : s.action.note = some (e.json k)) (hj : j ≠ k) : store (s :: es) j = store es j := by
  rw [store_eq_shelf h, store_eq_shelf h.2]
  unfold Shelf.notes encode
  congr 1
  rw [shelf_cons, Step.moveShelf]
  cases hc : s.change with
  | none => rfl
  | some w => exact apply_of_ne _ _ (by rw [change_target hn hc]; exact hj)

section Clients

variable {Client : Type} [DecidableEq Client] (account : Client → Str)

/-- In every run of the devices every document under `k` is a note with the id `k`: exactly the six
fields, of the types `fromJson` expects, and read back by whoever is signed in and written again it is the same
document. And a landing edit, toggle, removal or delete changes only the document its tile was read from. -/
theorem documents_well_formed (log : List (CloudEvent Client)) (h : (cloudSystem account).Valid log) :
    (∀ k d, (cloud account log).store k = some d →
      d "id" = some (.str k) ∧ (∀ f, (d f).isSome = true ↔ f ∈ noteFields) ∧
      (∃ title description isFavorite, d "title" = some (.str title) ∧
        d "description" = some (.str description) ∧ d "isFavorite" = some (.bool isFavorite)) ∧
      ∀ user, (Note.fromJson (some user) d).map Note.toJson = .ok d) ∧
    (∀ f before note screen r k d, .land f :: before <:+ log → f.step.action.note = some note →
      (f.client, screen, r) ∈ (cloud account before).delivered → r k = some d → note = tile d →
      ∀ j, j ≠ k → (cloud account (.land f :: before)).store j = (cloud account before).store j) := by
  constructor
  · intro k d hd
    obtain ⟨hv, hst⟩ := landed_run account h
    rw [hst, store_eq_shelf hv, notes_eq_some] at hd
    obtain ⟨e, -, rfl⟩ := hd
    exact json_complete k e
  · intro f before note screen r k d hs hn hr hd htile j hj
    have hv := h.of_suffix hs
    obtain ⟨e, -, he⟩ := delivered_entry hv.2 hr hd
    rw [(landed_run account hv).2, (landed_run account hv.2).2]
    exact step_frame (landed_run account hv).1 (by rw [hn, htile, he]) hj

end Clients

open TwoDevices in
theorem documents_well_formed_editFirst :
    (cloudSystem TwoDevices.account).Valid editFirst ∧
    ∃ d, (cloud TwoDevices.account editFirst).store (lit "n1") = some d ∧
      (∀ f, (d f).isSome = true ↔ f ∈ noteFields) ∧
      (Note.fromJson (some TwoDevices.ann) d).map Note.toJson = .ok d :=
  have h := (documents_well_formed TwoDevices.account editFirst editFirst_valid).1 (lit "n1") _ rfl
  ⟨editFirst_valid, _, rfl, h.2.1, h.2.2.2 _⟩

/-! ## Live ids -/

/-- The ids of the creates of a log that stored a note. -/
def createdIds (es : List Step) : Set Str :=
  {k | ∃ s ∈ es, (∃ exit page, s.action = .create exit page) ∧ s.write.isSome = true ∧ s.autoId = k}

/-- The ids of the deletes of a log. -/
def deletedIds (es : List Step) : Set Str :=
  {k | ∃ s ∈ es, ∃ note, s.action = .delete note ∧ note "id" = some (.str k)}

theorem mem_createdIds_cons {s : Step} {es : List Step} {k : Str} : k ∈ createdIds (s :: es) ↔
    ((∃ exit page, s.action = .create exit page) ∧ s.write.isSome = true ∧ s.autoId = k) ∨ k ∈ createdIds es := by
  simp [createdIds]

theorem mem_deletedIds_cons {s : Step} {es : List Step} {k : Str} : k ∈ deletedIds (s :: es) ↔
    (∃ note, s.action = .delete note ∧ note "id" = some (.str k)) ∨ k ∈ deletedIds es := by
  simp [deletedIds]

theorem deletedIds_mono {es fs : List Step} (h : fs <:+ es) : deletedIds fs ⊆ deletedIds es := by
  rintro k ⟨s, hs, hk⟩
  exact ⟨s, h.subset hs, hk⟩

theorem not_fresh_of_deleted {es : List Step} (h : notesSystem.Valid es) :
    ∀ k ∈ deletedIds es, ¬ Fresh es k := by
  refine h.invariant (I := fun es _ => ∀ k ∈ deletedIds es, ¬ Fresh es k) ?_ ?_
  · rintro k ⟨s, hs, -⟩; cases hs
  · intro s es hv hok ih k hk hf
    rcases mem_deletedIds_cons.1 hk with ⟨note, ha, hid⟩ | hk
    · obtain ⟨j, e, hs, rfl⟩ := seen_entry ⟨hok, hv⟩ (show s.action.note = some note by rw [ha]; rfl)
      obtain rfl : j = k := by simpa using hid
      obtain ⟨fs, e₀, hfs, he, -⟩ := hs.listed
      have := (fresh_cons.1 hf).2 fs hfs
      rw [store_eq_shelf (hv.of_suffix hfs), notes_eq_none, he] at this; cases this
    · exact ih k hk (fresh_cons.1 hf).2

theorem isSome_store {es : List Step} (h : notesSystem.Valid es) (k : Str) :
    (store es k).isSome = (shelf es k).isSome := by
  rw [store_eq_shelf h]; simp [Shelf.notes, encode]

/-- An edit, toggle or removal neither adds a document nor removes one. -/
theorem update_keeps_ids {s : Step} {es : List Step} (h : notesSystem.Valid (s :: es))
    (hu : s.action.isUpdate = true) (k : Str) : (store (s :: es) k).isSome = (store es k).isSome := by
  have hn : ∃ note, s.action.note = some note := by
    cases ha : s.action <;> rw [ha] at hu <;> first | exact ⟨_, rfl⟩ | cases hu
  obtain ⟨note, hn⟩ := hn
  obtain ⟨j, e, -, rfl⟩ := seen_entry h hn
  rw [isSome_store h, isSome_store h.2, shelf_cons, Step.moveShelf]
  rcases change_of_note hn with ⟨⟨_, ha⟩, -⟩ | ⟨-, hc | ⟨e', hc, -⟩⟩
  · rw [ha] at hu; cases hu
  · rw [hc]
  · rw [hc]
    exact isSome_apply_update _ _ j k e'

theorem live_create {s : Step} {es : List Step} (h : notesSystem.Valid (s :: es)) {exit : Exit}
    {page : NoteTakingPage} (ha : s.action = .create exit page) (k : Str) :
    (store (s :: es) k).isSome = true ↔ (s.write.isSome = true ∧ s.autoId = k) ∨ (store es k).isSome = true := by
  have hw : s.write = s.change.map (Write.encode Entry.json) :=
    s.write_eq_change fun note hn => by rw [ha] at hn; cases hn
  rw [isSome_store h, isSome_store h.2, hw, shelf_cons, Step.moveShelf]
  rcases change_of_create ha with hc | hc <;> rw [hc]
  · simp
  · show (apply _ (shelf es) (.set s.autoId _) k).isSome = true ↔ _
    rw [isSome_apply_set, eq_comm (a := k)]
    simp

theorem live_delete {s : Step} {es : List Step} (h : notesSystem.Valid (s :: es)) {note : Doc}
    (ha : s.action = .delete note) (k : Str) :
    (store (s :: es) k).isSome = true ↔ note "id" ≠ some (.str k) ∧ (store es k).isSome = true := by
  obtain ⟨j, e, -, rfl⟩ := seen_entry h (show s.action.note = some note by rw [ha]; rfl)
  have hc : s.change = some (.delete j) := by
    unfold Step.change
    rw [ha]; simp
  rw [isSome_store h, isSome_store h.2, shelf_of_change es hc, Shelf.write, isSome_apply_delete, ne_comm]
  simp

theorem live_iff {es : List Step} (h : notesSystem.Valid es) :
    ∀ k, (store es k).isSome = true ↔ k ∈ createdIds es ∧ k ∉ deletedIds es := by
  refine h.invariant (I := fun es _ => ∀ k, (store es k).isSome = true ↔ k ∈ createdIds es ∧ k ∉ deletedIds es) ?_ ?_
  · intro k
    simp [createdIds]
  · intro s es hv hok ih k
    have h : notesSystem.Valid (s :: es) := ⟨hok, hv⟩
    rw [mem_createdIds_cons, mem_deletedIds_cons]
    cases ha : s.action with
    | create exit page =>
      -- the id of a create was never live, so no delete before it was of that id
      have hnd : s.autoId ∉ deletedIds es := fun hd =>
        not_fresh_of_deleted hv _ hd (hok.fresh (by rw [ha]; rfl))
      rw [live_create h ha, ih k]
      by_cases hk : s.autoId = k
      · subst hk; simp [hnd]
      · simp [hk]
    | delete note =>
      rw [live_delete h ha, ih k]
      simp only [reduceCtorEq, exists_false, false_and, false_or, Action.delete.injEq, exists_eq_left', not_or]
      tauto
    | edit exit page => rw [update_keeps_ids h (by rw [ha]; rfl), ih k]; simp
    | editFavorite exit page => rw [update_keeps_ids h (by rw [ha]; rfl), ih k]; simp
    | toggleFavorite note => rw [update_keeps_ids h (by rw [ha]; rfl), ih k]; simp
    | removeFromFavorites note => rw [update_keeps_ids h (by rw [ha]; rfl), ih k]; simp

/-- At every point of every run of the devices the live ids are those of the landed creates less those
of the landed deletes; a landing edit, toggle or removal neither adds a document nor removes one; and
a note deleted at some point is not there at any later one. -/
theorem deleted_stay_deleted {Client : Type} [DecidableEq Client] (account : Client → Str)
    (log : List (CloudEvent Client)) (h : (cloudSystem account).Valid log) :
    {k | ((cloud account log).store k).isSome = true} = createdIds (landed log) \ deletedIds (landed log) ∧
    (∀ f before, .land f :: before <:+ log → f.step.action.isUpdate = true → ∀ k,
      ((cloud account (.land f :: before)).store k).isSome = ((cloud account before).store k).isSome) ∧
    (∀ before, before <:+ log → ∀ k ∈ deletedIds (landed before), (cloud account log).store k = none) := by
  obtain ⟨hv, hst⟩ := landed_run account h
  refine ⟨?_, fun f before hs hu k => ?_, fun before hs k hk => ?_⟩
  · ext k
    rw [Set.mem_ofPred_eq, hst, live_iff hv k, Set.mem_sdiff]
  · have hb := h.of_suffix hs
    rw [(landed_run account hb).2, (landed_run account hb.2).2]
    exact update_keeps_ids (landed_run account hb).1 hu k
  · have hd : k ∈ deletedIds (landed log) := deletedIds_mono (landed_suffix hs) hk
    rw [hst, ← Option.not_isSome_iff_eq_none, live_iff hv k]
    exact fun hl => hl.2 hd

open TwoDevices in
theorem deleted_stay_deleted_deleteFirst :
    (cloudSystem TwoDevices.account).Valid deleteFirst ∧
    (cloud TwoDevices.account deleteFirst).store (lit "n1") = none := by
  refine ⟨deleteFirst_valid, ?_⟩
  -- deleted where the delete landed, two stale writes ago
  have hs : CloudEvent.land deleteFlight :: .issue .laptop delete :: bothSent <:+ deleteFirst :=
    (List.suffix_cons _ _).trans (List.suffix_cons _ _)
  exact (deleted_stay_deleted TwoDevices.account deleteFirst deleteFirst_valid).2.2 _ hs (lit "n1")
    ⟨TwoDevices.delete, .head _, draft, rfl, rfl⟩

end Notely
