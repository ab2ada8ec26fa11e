/-
Texts across devices. A favourite-status write sends the whole note, the text of its tile included,
so what it does to the stored text depends on what landed since the tile was built. It leaves the
text as it is exactly when the tile still shows the stored text, and in the runs where every
favourite-status write does, the stored text is always the last one saved.
-/
import Notely.Store.Documents

namespace Notely

open DocStore

/-- The title and the description of a document. -/
def textOf (d : Doc) : Option Value × Option Value := (d "title", d "description")

/-- No text changes between two states of the collection. -/
def KeepsText (c c' : Notes) : Prop := ∀ k, (c' k).map textOf = (c k).map textOf

/-- The tile of a step shows the text its document has; nothing is asked when the document is gone. -/
def TextCurrent (c : Notes) (s : Step) : Prop :=
  ∀ note k d, s.action.note = some note → note "id" = some (.str k) → c k = some d → textOf d = textOf note

/-- The text a create or a saved edit gives the document `k`. -/
def Step.text (s : Step) (k : Str) : Option (Str × Str) :=
  match s.action with
  | .create _ page => if s.write.isSome && s.autoId == k then some (page.title, page.description) else none
  | .edit _ page => if s.write.isSome && page.note "id" == some (.str k) then some (page.titleField, page.bodyField)
    else none
  | .editFavorite _ page =>
    if s.write.isSome && page.note "id" == some (.str k) then some (page.titleField, page.bodyField) else none
  | _ => none

/-- The text last saved for the document `k`. -/
def lastText : List Step → Str → Option (Str × Str)
  | [], _ => none
  | s :: es, k => (s.text k).or (lastText es k)

/-! ## One favourite-status write -/

theorem note_of_isFavoriteWrite {s : Step} (h : s.action.isFavoriteWrite = true) :
    ∃ note, s.action.note = some note := by
  cases ha : s.action <;> rw [ha] at h <;> first | exact ⟨_, rfl⟩ | cases h

theorem textOf_json_inj {k j : Str} {e f : Entry} :
    textOf (e.json k) = textOf (f.json j) ↔ e.title = f.title ∧ e.description = f.description := by
  simp [textOf]

/-- A favourite-status write leaves every text as it is exactly when its tile is current. -/
theorem favorite_keeps_iff {s : Step} {es : List Step} (h : notesSystem.Valid (s :: es))
    (hf : s.action.isFavoriteWrite = true) :
    KeepsText (store es) (store (s :: es)) ↔ TextCurrent (store es) s := by
  obtain ⟨note, hn⟩ := note_of_isFavoriteWrite hf
  obtain ⟨k, e, -, rfl⟩ := seen_entry h hn
  obtain ⟨b, hc⟩ := favorite_change hf hn
  have hself : store (s :: es) k = (store es k).map fun _ => (s.entry e.title e.description b).json k := by
    rw [store_eq_shelf h, store_eq_shelf h.2, shelf_of_change es hc]
    simp only [Shelf.notes, encode, Shelf.write, apply_update_self, Option.map_map]
    rfl
  constructor
  · intro hk note j d hn' hid hd
    rw [hn] at hn'; cases hn'
    obtain rfl : k = j := by simpa using hid
    have := hk k
    rw [hself, hd] at this
    exact (Option.some.inj this).symm
  · intro hcur j
    by_cases hj : j = k
    · subst hj
      rw [hself]
      cases hd : store es j with
      | none => rfl
      | some d => exact congrArg some (hcur _ j d hn rfl hd).symm
    · rw [step_frame h hn hj]

/-! ## The last saved text -/

theorem write_isSome {s : Step} (h : s.OnEntry) : s.write.isSome = s.change.isSome := by
  rw [Step.write_eq_change h]
  simp

theorem edit_text {s : Step} (h : s.OnEntry) {exit : Exit} {page : EditingPage}
    (ha : s.action = .edit exit page ∨ s.action = .editFavorite exit page) :
    ((∀ k, s.text k = none) ∧ s.change = none) ∨
    ∃ j e, s.change = some (.update j e) ∧
      ∀ k, s.text k = if j = k then some (e.title, e.description) else none := by
  have hnote : s.action.note = some page.note := by rcases ha with ha | ha <;> rw [ha] <;> rfl
  obtain ⟨j, e₀, hn⟩ := h _ hnote
  have htext : ∀ k, s.text k = if s.change.isSome && page.note "id" == some (.str k)
      then some (page.titleField, page.bodyField) else none := by
    intro k
    rcases ha with ha | ha <;> simp only [Step.text, ha, write_isSome h]
  rcases change_of_edit ha hn with hc | ⟨-, b, hc⟩
  · exact .inl ⟨fun k => by rw [htext, hc]; rfl, hc⟩
  · refine .inr ⟨j, _, hc, fun k => ?_⟩
    rw [htext, hc, hn, Entry.json_id]
    simp [Step.entry]

/-- What a create, an edit or a delete saves: no text, and then it writes nothing or removes; or a text
for one document, and that is what it puts there. -/
theorem saved_text {s : Step} (h : s.OnEntry) (hf : s.action.isFavoriteWrite = false) :
    ((∀ k, s.text k = none) ∧ (s.change = none ∨ ∃ j, s.change = some (.delete j))) ∨
    ∃ j e, (s.change = some (.set j e) ∨ s.change = some (.update j e)) ∧
      ∀ k, s.text k = if j = k then some (e.title, e.description) else none := by
  cases ha : s.action with
  | create exit page =>
    have htext : ∀ k, s.text k = if s.change.isSome && s.autoId == k then some (page.title, page.description)
        else none := by
      intro k
      simp only [Step.text, ha, write_isSome h]
    rcases change_of_create ha with hc | hc
    · exact .inl ⟨fun k => by rw [htext, hc]; rfl, .inl hc⟩
    · refine .inr ⟨s.autoId, _, .inl hc, fun k => ?_⟩
      rw [htext, hc]
      simp [Step.entry]
  | edit exit page =>
    rcases edit_text h (.inl ha) with ⟨ht, hc⟩ | ⟨j, e, hc, ht⟩
    · exact .inl ⟨ht, .inl hc⟩
    · exact .inr ⟨j, e, .inr hc, ht⟩
  | editFavorite exit page =>
    rcases edit_text h (.inr ha) with ⟨ht, hc⟩ | ⟨j, e, hc, ht⟩
    · exact .inl ⟨ht, .inl hc⟩
    · exact .inr ⟨j, e, .inr hc, ht⟩
  | delete note =>
    obtain ⟨j, e₀, rfl⟩ := h note (by rw [ha]; rfl)
    refine .inl ⟨fun k => by simp only [Step.text, ha], .inr ⟨j, ?_⟩⟩
    simp [Step.change, ha]
  | toggleFavorite note => rw [ha] at hf; cases hf
  | removeFromFavorites note => rw [ha] at hf; cases hf

/-- The document a step carries has the text the step saves, or is sent by a favourite-status write and has the
text of its tile. -/
theorem carried_text {s : Step} (h : s.OnEntry) {w : NoteWrite} (hw : s.write = some w) {d : Doc}
    (hd : w.doc = some d) : ∃ e : Entry, d = e.json w.target ∧ e.email = s.user ∧
      (s.text w.target = some (e.title, e.description) ∨ s.action.isFavoriteWrite = true ∧
        ∃ e₀ : Entry, s.action.note = some (e₀.json w.target) ∧ e.title = e₀.title ∧
          e.description = e₀.description) := by
  have hchange := Step.write_eq_change h
  rw [hw] at hchange
  cases hf : s.action.isFavoriteWrite with
  | false =>
    obtain ⟨f, hdf, hm⟩ := Step.write_doc hw hd
    rcases saved_text h hf with ⟨-, hc | ⟨j, hc⟩⟩ | ⟨j, e, hc | hc, htext⟩ <;> rw [hc] at hchange <;> cases hchange
    · cases hd
    · cases hd
      exact ⟨e, rfl, (Entry.json_inj hdf).2 ▸ hm, .inl ((htext j).trans (if_pos rfl))⟩
    · cases hd
      exact ⟨e, rfl, (Entry.json_inj hdf).2 ▸ hm, .inl ((htext j).trans (if_pos rfl))⟩
  | true =>
    obtain ⟨note, hn⟩ := note_of_isFavoriteWrite hf
    obtain ⟨j, e₀, rfl⟩ := h note hn
    obtain ⟨b, hc⟩ := favorite_change hf hn
    rw [hc] at hchange
    cases hchange
    cases hd
    exact ⟨_, rfl, rfl, .inr ⟨rfl, e₀, hn, rfl, rfl⟩⟩

/-- After a create, an edit or a delete, an entry has the text the step saved for it, or the step saved
none and the entry is the one before. -/
theorem text_step {s : Step} {es : List Step} (h : notesSystem.Valid (s :: es))
    (hf : s.action.isFavoriteWrite = false) {k : Str} {e : Entry} (he : shelf (s :: es) k = some e) :
    s.text k = some (e.title, e.description) ∨ (s.text k = none ∧ shelf es k = some e) := by
  rcases entry_cases he with ⟨hold, hne⟩ | hput
  · rcases saved_text h.1.onEntry hf with ⟨ht, -⟩ | ⟨j, e', hc, ht⟩
    · exact .inr ⟨ht k, hold⟩
    · have hk : k ≠ j := by rcases hc with hc | hc <;> exact hne _ hc
      rw [ht k, if_neg (Ne.symm hk)]
      exact .inr ⟨rfl, hold⟩
  · rcases saved_text h.1.onEntry hf with ⟨-, hc | ⟨j, hc⟩⟩ | ⟨j, e', hc, ht⟩
    · rw [hc] at hput; rcases hput with h' | h' <;> cases h'
    · rw [hc] at hput; rcases hput with h' | h' <;> cases h'
    · obtain ⟨rfl, rfl⟩ : j = k ∧ e' = e := by
        rcases hc with hc | hc <;> rw [hc] at hput <;> rcases hput with h' | h' <;> cases h' <;> exact ⟨rfl, rfl⟩
      rw [ht j, if_pos rfl]
      exact .inl rfl

/-- When every favourite-status write of a run had a current tile, every entry has the text last saved
for it. -/
theorem text_eq_lastText {es : List Step} (h : notesSystem.Valid es)
    (hcur : Trace.Always (fun fs s => s.action.isFavoriteWrite = true → TextCurrent (store fs) s) es) :
    ∀ k e, shelf es k = some e → lastText es k = some (e.title, e.description) := by
  refine h.invariant (I := fun es _ =>
    Trace.Always (fun fs s => s.action.isFavoriteWrite = true → TextCurrent (store fs) s) es →
      ∀ k e, shelf es k = some e → lastText es k = some (e.title, e.description)) ?_ ?_ hcur
  · intro _ k e he; cases he
  · intro s es hv hok ih hcur k e he
    have h : notesSystem.Valid (s :: es) := ⟨hok, hv⟩
    cases hf : s.action.isFavoriteWrite with
    | false =>
      rcases text_step h hf he with ht | ⟨ht, hk⟩
      · rw [lastText, ht]; rfl
      · rw [lastText, ht]; exact ih hcur.2 k e hk
    | true =>
      -- the write kept the text of every document, so also the text last saved for it
      have ht : s.text k = none := by
        unfold Step.text
        cases ha : s.action <;> rw [ha] at hf <;> first | rfl | cases hf
      have hkeep := (favorite_keeps_iff h hf).2 (hcur.1 hf) k
      rw [store_eq_shelf h, store_eq_shelf hv, notes_eq_some.2 ⟨e, he, rfl⟩] at hkeep
      cases hk : shelf es k with
      | none => rw [notes_eq_none.2 hk] at hkeep; cases hkeep
      | some f =>
        rw [notes_eq_some.2 ⟨f, hk, rfl⟩] at hkeep
        obtain ⟨h1, h2⟩ := textOf_json_inj.1 (Option.some.inj hkeep)
        rw [lastText, ht, h1, h2]; exact ih hcur.2 k f hk

/-! ## On the devices -/

section Clients

variable {Client : Type} [DecidableEq Client] (account : Client → Str)

/-- The condition on a run of the devices is the one on its landed steps. -/
theorem always_landed {P : Notes → Step → Prop} : ∀ {log : List (CloudEvent Client)},
    (cloudSystem account).Valid log →
    (∀ f before, .land f :: before <:+ log → P (cloud account before).store f.step) →
    Trace.Always (fun fs s => P (store fs) s) (landed log)
  | [], _, _ => trivial
  | e :: log, h, hP => by
    have hrest := always_landed h.2 fun f before hs => hP f before (hs.trans (List.suffix_cons e log))
    cases e with
    | land f =>
      refine ⟨?_, hrest⟩
      show P (store (landed log)) f.step
      rw [← (landed_run account h.2).2]
      exact hP f log (List.suffix_refl _)
    | deliver client screen view => exact hrest
    | issue client s => exact hrest
    | reject f => exact hrest

/-- Across devices: a landing favourite-status write leaves every stored text as it is exactly when the
tile it was issued from shows the text its document has at that moment (or the document is gone). In a
run where every one of them does, the text of every document is the one last saved for it by a create
or an edit. -/
theorem favorite_write_keeps_text (log : List (CloudEvent Client)) (h : (cloudSystem account).Valid log) :
    (∀ f before, .land f :: before <:+ log → f.step.action.isFavoriteWrite = true →
      (KeepsText (cloud account before).store (cloud account (.land f :: before)).store ↔
        TextCurrent (cloud account before).store f.step)) ∧
    ((∀ f before, .land f :: before <:+ log → f.step.action.isFavoriteWrite = true →
        TextCurrent (cloud account before).store f.step) →
      ∀ k d, (cloud account log).store k = some d → ∃ title description,
        lastText (landed log) k = some (title, description) ∧
        textOf d = (some (.str title), some (.str description))) := by
  constructor
  · intro f before hs hf
    have hb := h.of_suffix hs
    rw [(landed_run account hb).2, (landed_run account hb.2).2]
    exact favorite_keeps_iff (landed_run account hb).1 hf
  · intro hcur k d hd
    obtain ⟨hv, hst⟩ := landed_run account h
    have hal := always_landed account (P := fun c s => s.action.isFavoriteWrite = true → TextCurrent c s) h hcur
    rw [hst, store_eq_shelf hv, notes_eq_some] at hd
    obtain ⟨e, he, rfl⟩ := hd
    exact ⟨e.title, e.description, text_eq_lastText hv hal k e he, rfl⟩

end Clients

open TwoDevices in
theorem toggleFirst_current : ∀ f before, CloudEvent.land f :: before <:+ toggleFirst →
    f.step.action.isFavoriteWrite = true → TextCurrent (cloud TwoDevices.account before).store f.step := by
  intro f before hs hf note k d hn hk hd
  have hmem : CloudEvent.land f ∈ toggleFirst := hs.subset (.head _)
  simp only [toggleFirst, bothSent, List.mem_cons, CloudEvent.land.injEq, reduceCtorEq, List.not_mem_nil,
    or_false, false_or] at hmem
  rcases hmem with rfl | rfl | rfl
  · cases hf
  · obtain rfl : before = bothSent := by
      rcases List.suffix_cons_iff.1 hs with h | h
      · cases h
      · rcases List.suffix_cons_iff.1 h with h | h
        · exact (List.cons.inj h).2
        · exact absurd (h.subset (.head _)) (by simp [bothSent, toggleFlight])
    cases hn
    obtain rfl : lit "n1" = k := by simpa [draft] using hk
    cases hd; rfl
  · cases hf

open TwoDevices in
/-- The toggle lands first, on the text its tile shows: the edit stays. -/
theorem favorite_write_keeps_text_toggleFirst :
    (cloudSystem TwoDevices.account).Valid toggleFirst ∧
    KeepsText (cloud TwoDevices.account bothSent).store
      (cloud TwoDevices.account (.land toggleFlight :: bothSent)).store ∧
    ∃ d, (cloud TwoDevices.account toggleFirst).store (lit "n1") = some d ∧
      textOf d = (some (.str (lit "Shopping")), some (.str (lit "milk, eggs"))) := by
  obtain ⟨hkeep, hlast⟩ := favorite_write_keeps_text TwoDevices.account toggleFirst toggleFirst_valid
  have hs : CloudEvent.land toggleFlight :: bothSent <:+ toggleFirst := List.suffix_cons _ _
  refine ⟨toggleFirst_valid, (hkeep toggleFlight bothSent hs rfl).2 (toggleFirst_current _ _ hs rfl), _, rfl, ?_⟩
  obtain ⟨title, description, hl, ht⟩ := hlast toggleFirst_current (lit "n1") _ rfl
  cases hl; exact ht

open TwoDevices in
/-- The edit lands first: the toggle, sent from a tile built before, puts the old text back. -/
theorem toggle_reverts_edit :
    (cloudSystem TwoDevices.account).Valid editFirst ∧
    TwoDevices.toggle.action.isFavoriteWrite = true ∧
    ((cloud TwoDevices.account (.land editFlight :: bothSent)).store (lit "n1")).map textOf =
      some (some (.str (lit "Shopping")), some (.str (lit "milk, eggs"))) ∧
    ((cloud TwoDevices.account editFirst).store (lit "n1")).map textOf =
      some (some (.str (lit "Shopping")), some (.str (lit "milk"))) ∧
    ¬ KeepsText (cloud TwoDevices.account (.land editFlight :: bothSent)).store
      (cloud TwoDevices.account editFirst).store := by
  refine ⟨editFirst_valid, rfl, rfl, rfl, fun h => ?_⟩
  exact absurd (h (lit "n1")) (by decide)

end Notely
