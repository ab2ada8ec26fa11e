/-
Blank notes. The editing pages want a title, the favourite-status writes copy a text that was stored, and
the back arrow of the note-taking page stores nothing when both of its texts are empty; its save icon has
no such test. So along a run no blank note is ever stored exactly when the save icon is never pressed on
an empty page, and that is also where the two exits of the page differ (`no_blank_iff`).
-/
import Notely.Editing.NoteTaking
import Notely.Store.Texts

namespace Notely

open DocStore

/-- Both texts of the document are empty. -/
def Blank (d : Doc) : Prop := d "title" = some (.str []) ∧ d "description" = some (.str [])

/-- No document is blank. -/
def NoBlank (c : Notes) : Prop := ∀ k d, c k = some d → ¬ Blank d

/-- The page a note is created on is one its user can bring about. -/
def Step.PageReached (s : Step) : Prop :=
  ∀ exit page, s.action = .create exit page →
    ∃ log, noteTakingSystem.Valid log ∧ page = (noteTakingSystem.state log).page

/-- The save icon is pressed on an empty page. -/
def Step.SavesEmpty (s : Step) : Prop := ∃ page, s.action = .create .saveIcon page ∧ page.IsEmpty

/-! ## What is put on the shelf -/

/-- Both texts of the entry are empty. -/
def Entry.Blank (e : Entry) : Prop := e.title = [] ∧ e.description = []

theorem blank_json {k : Str} {e : Entry} : Notely.Blank (e.json k) ↔ e.Blank := by
  simp [Notely.Blank, Entry.Blank]

theorem noBlank_notes {a : Shelf} : NoBlank a.notes ↔ ∀ k e, a k = some e → ¬ e.Blank := by
  constructor
  · intro h k e he hb
    exact h k _ (notes_eq_some.2 ⟨e, he, rfl⟩) (blank_json.2 hb)
  · intro h k d hd hb
    obtain ⟨e, he, rfl⟩ := notes_eq_some.1 hd
    exact h k e he (blank_json.1 hb)

theorem reached_empty_iff {log : List NoteTakingEvent} (h : noteTakingSystem.Valid log) :
    (noteTakingSystem.state log).page.IsEmpty ↔
      (noteTakingSystem.state log).page.title = [] ∧ (noteTakingSystem.state log).page.description = [] := by
  have hagree := noteTaking_agrees h
  have ht : (noteTakingSystem.state log).page.title = _ := hagree.text .title
  have hb : (noteTakingSystem.state log).page.description = _ := hagree.text .body
  rw [ht, hb]
  rfl

/-- A create stores a blank note exactly from the save icon of an empty page. -/
theorem create_blank_iff {s : Step} (hp : s.PageReached) {exit : Exit} {page : NoteTakingPage}
    (ha : s.action = .create exit page) {k : Str} {e : Entry} (hc : s.change = some (.set k e)) :
    e.Blank ↔ s.SavesEmpty := by
  obtain ⟨log, hv, rfl⟩ := hp exit page ha
  have hempty := reached_empty_iff hv
  have he : e = s.entry (noteTakingSystem.state log).page.title (noteTakingSystem.state log).page.description
      false := by
    rcases change_of_create ha with h | h <;> rw [h] at hc <;> cases hc
    rfl
  have hblank : e.Blank ↔ (noteTakingSystem.state log).page.IsEmpty := by rw [he, hempty]; rfl
  rw [hblank]
  cases exit with
  | backArrow =>
    -- something was stored, so the test of the back arrow failed
    have hne : ¬ (noteTakingSystem.state log).page.IsEmpty := by
      rintro ⟨ht, hb⟩
      simp [Step.change, ha, ht, hb] at hc
    refine iff_of_false hne ?_
    rintro ⟨page, hpage, -⟩
    rw [ha] at hpage; cases hpage
  | saveIcon =>
    constructor
    · intro h; exact ⟨_, ha, h⟩
    · rintro ⟨page, hpage, h⟩
      rw [ha] at hpage; cases hpage
      exact h

/-- An update has a title or the texts of its tile. -/
theorem update_noBlank {s : Step} {k j : Str} {e₀ e : Entry} (hn : s.action.note = some (e₀.json j))
    (hc : s.change = some (.update k e)) (h₀ : ¬ e₀.Blank) : ¬ e.Blank := by
  rcases change_of_note hn with ⟨-, hc'⟩ | ⟨-, hc' | ⟨e', hc', -, htexts⟩⟩ <;> rw [hc'] at hc <;> cases hc
  rcases htexts with ht | ⟨ht, hd⟩
  · exact fun hb => ht hb.1
  · exact fun hb => h₀ ⟨ht ▸ hb.1, hd ▸ hb.2⟩

theorem seen_noBlank {es : List Step} (hno : ∀ fs, fs <:+ es → NoBlank (store fs)) {user k : Str} {d : Doc}
    (h : Seen es user k d) : ¬ Blank d := by
  induction h with
  | result hfs hd => exact hno _ hfs k _ (select_eq_some.1 hd).1
  | @written s _ _ x hd hd' _ hn hw ih _ =>
    obtain ⟨e, rfl, -⟩ := hd.entry
    obtain ⟨e', rfl, -⟩ := hd'.entry
    rw [Entry.tile_json] at hn
    have hon : s.OnEntry := fun note hn' => ⟨k, e, Option.some.inj (hn'.symm.trans hn)⟩
    rw [Step.write_eq_change hon] at hw
    obtain ⟨w, hc, hx⟩ := Option.map_eq_some_iff.1 hw
    cases w with
    | update j f =>
      cases hx
      rw [Entry.overlay_json, blank_json]
      exact update_noBlank hn hc (mt blank_json.2 ih)
    | set j f => cases hx
    | delete j => cases hx

/-! ## Runs -/

/-- While the save icon is not pressed on an empty page, no blank note is ever stored. A favourite-status write may
copy an old text, so the induction is over all states before. -/
theorem store_noBlank : ∀ {es : List Step}, notesSystem.Valid es → (∀ s ∈ es, s.PageReached) →
    (∀ s ∈ es, ¬ s.SavesEmpty) → ∀ fs, fs <:+ es → NoBlank (store fs)
  | [], _, _, _, fs, hfs => by
    rw [List.suffix_nil.1 hfs]
    intro k d hd; cases hd
  | s :: es, h, hp, hs, fs, hfs => by
    have ih := store_noBlank h.2 (fun t ht => hp t (.tail _ ht)) (fun t ht => hs t (.tail _ ht))
    refine Trace.forall_suffix_cons.2 ⟨?_, ih⟩ fs hfs
    rw [store_eq_shelf h, noBlank_notes]
    intro k e he
    rcases entry_cases he with ⟨hold, -⟩ | hc | hc
    · have hes := ih es (List.suffix_refl _)
      rw [store_eq_shelf h.2, noBlank_notes] at hes
      exact hes k e hold
    · obtain ⟨exit, page, ha⟩ := create_of_set h hc
      exact fun hb => hs s (.head _) ((create_blank_iff (hp s (.head _)) ha hc).1 hb)
    · cases hn : s.action.note with
      | none =>
        obtain ⟨exit, page, ha⟩ := create_of_note hn
        rcases change_of_create ha with h' | h' <;> rw [h'] at hc <;> cases hc
      | some note =>
        obtain ⟨j, e₀, hseen, rfl⟩ := seen_entry h hn
        exact update_noBlank hn hc (mt blank_json.2 (seen_noBlank ih hseen.seen))

theorem savesEmpty_blank {s : Step} {es : List Step} (h : notesSystem.Valid (s :: es)) (hp : s.PageReached)
    (hs : s.SavesEmpty) : ¬ NoBlank (store (s :: es)) := by
  obtain ⟨page, ha, hempty⟩ := id hs
  have hc : s.change = some (.set s.autoId (s.entry page.title page.description false)) := by
    simp only [Step.change, ha]
  rw [store_eq_shelf h, noBlank_notes, shelf_of_change es hc]
  intro hno
  exact hno s.autoId _ (apply_set_self ..) ((create_blank_iff hp ha hc).2 hs)

theorem exits_agree_iff {page : NoteTakingPage} {c : Notes} {s : Step} (hfresh : c s.autoId = none) :
    Step.exec c { s with action := .create .backArrow page } =
      Step.exec c { s with action := .create .saveIcon page } ↔ ¬ page.IsEmpty := by
  simp only [Step.exec, Step.write, Action.react]
  by_cases hempty : page.IsEmpty
  · rw [backArrow_of_isEmpty _ hempty]
    refine iff_of_false (fun hsame => ?_) (not_not_intro hempty)
    have hat : c s.autoId = _ := (congrFun hsame s.autoId).trans (apply_set_self ..)
    rw [hfresh] at hat
    cases hat
  · rw [backArrow_of_not_isEmpty _ hempty]
    exact iff_of_true rfl hempty

/-- Along a run no blank note is ever stored exactly when the save icon is never pressed on an empty page;
and the two exits of a page do the same to every store exactly when the page is not empty. -/
theorem no_blank_iff (es : List Step) (h : notesSystem.Valid es) (hp : ∀ s ∈ es, s.PageReached) :
    ((∀ fs, fs <:+ es → NoBlank (store fs)) ↔ ∀ s ∈ es, ¬ s.SavesEmpty) ∧
    ∀ (page : NoteTakingPage) (c : Notes) (s : Step), c s.autoId = none →
      (Step.exec c { s with action := .create .backArrow page } =
        Step.exec c { s with action := .create .saveIcon page } ↔ ¬ page.IsEmpty) := by
  refine ⟨⟨?_, ?_⟩, fun page c s hfresh => exits_agree_iff hfresh⟩
  · intro hno s hs hempty
    obtain ⟨fs, gs, rfl⟩ := List.append_of_mem hs
    have hsuf : s :: gs <:+ fs ++ s :: gs := List.suffix_append _ _
    exact savesEmpty_blank (h.of_suffix hsuf) (hp s hs) hempty (hno _ hsuf)
  · exact store_noBlank h hp

namespace OneDevice

open TwoDevices

/-- A title is typed and the page left by the back arrow. -/
def createTyped : Step := {
  user := ann, now := lit "1", autoId := lit "n1",
  action := .create .backArrow (noteTakingSystem.state typedTitle).page }

/-- The page is opened and the save icon pressed. -/
def createBlank : Step := {
  user := ann, now := lit "1", autoId := lit "n1",
  action := .create .saveIcon (noteTakingSystem.state []).page }

theorem create_first {s : Step} (h : s.action.note = none) : notesSystem.Valid [s] := by
  refine ⟨⟨fun note hn => ?_, fun _ fs hfs => ?_⟩, trivial⟩
  · rw [h] at hn; cases hn
  · rw [List.suffix_nil.1 hfs]; rfl

theorem createTyped_reached : ∀ s ∈ [createTyped], s.PageReached := by
  intro s hs exit page ha
  cases List.mem_singleton.1 hs
  cases ha
  exact ⟨typedTitle, typedTitle_valid, rfl⟩

end OneDevice

open OneDevice in
theorem no_blank_iff_createTyped :
    notesSystem.Valid [createTyped] ∧ (∀ s ∈ [createTyped], s.PageReached) ∧
    ∀ fs, fs <:+ [createTyped] → NoBlank (store fs) := by
  have hv : notesSystem.Valid [createTyped] := create_first rfl
  refine ⟨hv, createTyped_reached, ?_⟩
  refine (no_blank_iff [createTyped] hv createTyped_reached).1.2 fun s hs => ?_
  cases List.mem_singleton.1 hs
  rintro ⟨page, ha, -⟩
  cases ha

open OneDevice in
/-- The save icon of the untouched page stores a blank note; the back arrow stores none. -/
theorem save_icon_stores_blank :
    notesSystem.Valid [createBlank] ∧ noteTakingSystem.Valid [] ∧
    (∃ d, store [createBlank] (lit "n1") = some d ∧ Blank d) ∧
    store [{ createBlank with action := .create .backArrow (noteTakingSystem.state []).page }] (lit "n1") = none :=
  ⟨create_first rfl, trivial, ⟨_, rfl, rfl, rfl⟩, rfl⟩

end Notely
