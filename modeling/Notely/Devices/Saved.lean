/-
Between the pages and the collection, over runs of the whole system. What is stored was shown: both texts of a
document stood in the fields of one page when its owner pressed an exit there (`stored_text_was_shown`). What an
exit saves comes back: once its write has landed, and as long as it is the newest, a list that shows the server's
answer has the note in one tile, with the texts the page had (`saved_text_comes_back`). And whether a note is a
favourite is decided by the newest write to it (`marked_by_newest_write`), whatever that write was for: an edit from
the full list takes the mark away, one from the favourites gives it.
-/
import Notely.Devices.Accounts
import Notely.Store.LastWrite

namespace Notely

open DocStore

/-! ## Stored texts -/

/-- The two texts in the fields of a page. -/
def Content.texts : Content → Option (Str × Str)
  | taking page => some (page.controllerTitle.text, page.controllerBody.text)
  | editing _ _ page => some (page.titleField.text, page.bodyField.text)
  | _ => none

/-- Only an exit gives a document a text, and the text is the one in the fields of the page. -/
theorem handler_text {Device : Type} {delivered : List ((Device × Str) × ListScreen × Notes)} {d : Device}
    {x : DeviceState} (h : ∀ page, (x.contents page).Ok delivered d) {e : DeviceEvent} {s : Step}
    (hs : x.handler e = some s) {k : Str} {texts : Str × Str} (ht : s.text k = some texts) :
    ∃ exit now autoId page c, e = .exit exit now autoId ∧ x.top = some (page, c) ∧ c.texts = some texts ∧
      x.email = some s.user := by
  cases DeviceState.handler_cases hs with
  | @create exit now autoId _ page t htop hu =>
    refine ⟨exit, now, autoId, page, _, rfl, htop, ?_, hu⟩
    have hagree : t.Agrees := by
      obtain ⟨r, -, rfl, hc⟩ := DeviceState.mem_of_top htop
      have := h r.page
      rwa [hc] at this
    obtain ⟨-, ht⟩ := Option.ite_none_right_eq_some.1 ht
    rw [← ht]
    exact congrArg some (Prod.ext (hagree.text .title).symm (hagree.text .body).symm)
  | @edit exit now autoId _ page screen _ _ htop hu =>
    refine ⟨exit, now, autoId, page, _, rfl, htop, ?_, hu⟩
    cases screen <;> exact (Option.ite_none_right_eq_some.1 ht).2
  | toggle _ _ => cases ht
  | delete _ => cases ht
  | remove _ _ => cases ht

section World

variable {Device : Type} [DecidableEq Device] (user : Device → Option User)

/-- The note a handler acts on is a complete one of its user, which was delivered to the device. -/
theorem handler_entry {log : List (WorldEvent Device)} (h : (worldSystem user).Valid log)
    (hc : Trace.Always (WorldEvent.Clean user) log) {d : Device} {e : DeviceEvent} {s : Step}
    (hs : ((world user log).device d).handler e = some s) {note : Doc} (hn : s.action.note = some note) :
    ∃ screen r k entry, ((d, s.user), screen, r) ∈ (cloud Prod.snd (sent user log)).delivered ∧
      r k = some (Entry.json k entry) ∧ note = entry.json k ∧ entry.email = s.user := by
  obtain ⟨screen, -, r, k, doc, hr, hd, rfl⟩ :=
    handler_tile (unmixed_run user h hc d) ((consistent user h).held d) hs hn
  rw [← cloud_sent] at hr
  have hsent := sent_valid_of_clean user h hc
  obtain ⟨entry, rfl, htile⟩ := delivered_entry hsent hr hd
  have hemail := (delivered_cached hsent hr hd).2
  exact ⟨screen, r, k, entry, hr, hd, htile, by simpa using hemail⟩

theorem handler_onEntry {log : List (WorldEvent Device)} (h : (worldSystem user).Valid log)
    (hc : Trace.Always (WorldEvent.Clean user) log) {d : Device} {e : DeviceEvent} {s : Step}
    (hs : ((world user log).device d).handler e = some s) : s.OnEntry := by
  intro note hn
  obtain ⟨_, _, k, entry, -, -, hnote, -⟩ := handler_entry user h hc hs hn
  exact ⟨k, entry, hnote⟩

/-- The two texts of the document stood in the fields of a page on top when its owner pressed an exit there. -/
def ShownText (log : List (WorldEvent Device)) (doc : Doc) : Prop :=
  ∃ d exit now autoId before page c title description account,
    .on d (.exit exit now autoId) :: before <:+ log ∧
    ((world user before).device d).top = some (page, c) ∧ c.texts = some (title, description) ∧
    ((world user before).device d).email = some account ∧
    doc "title" = some (.str title) ∧ doc "description" = some (.str description) ∧
    doc "email" = some (.str account)

/-- Every text that is stored, sent or delivered was shown so. -/
theorem shown_docs {log : List (WorldEvent Device)} (h : (worldSystem user).Valid log)
    (hc : Trace.Always (WorldEvent.Clean user) log) :
    AllDocs Prod.snd (fun _ doc => ShownText user log doc) (sent user log) := by
  refine world_docs user h fun d e fs s hfs hs hdocs w x hw hx => ?_
  have hv := (h.of_suffix hfs).2
  have hcv := (hc.of_suffix hfs).2
  obtain ⟨entry, rfl, hemail, htext | ⟨-, e₀, hn, ht, hb⟩⟩ := carried_text (handler_onEntry user hv hcv hs) hw hx
  · obtain ⟨exit, now, autoId, page, c, rfl, htop, htexts, hu⟩ :=
      handler_text ((consistent user hv).held d) hs htext
    exact ⟨d, exit, now, autoId, fs, page, c, entry.title, entry.description, s.user, hfs, htop, htexts, hu, rfl, rfl,
      by rw [Entry.json_email, hemail]⟩
  · -- a favourite-status write carries the text of a delivered document along
    obtain ⟨screen, r, k, e₁, hr, hd, hnote, hemail₁⟩ := handler_entry user hv hcv hs hn
    obtain ⟨-, rfl⟩ := Entry.json_inj hnote
    obtain ⟨d', exit, now, autoId, before, page, c, title, description, account, hb', htop, htexts, hu, h₁, h₂, h₃⟩ :=
      hdocs.delivered _ _ _ hr _ _ hd
    refine ⟨d', exit, now, autoId, before, page, c, title, description, account, hb', htop, htexts, hu, ?_, ?_, ?_⟩
    · rw [Entry.json_title, ht]; exact h₁
    · rw [Entry.json_description, hb]; exact h₂
    · rw [Entry.json_email, hemail, ← hemail₁]; exact h₃

/-- Where a text comes from: in every run whose sign-ins leave no page of a former account behind, the title
and the description of a document that is there stood together in the two fields of a page on top of some
device, when an exit was pressed there by the document's owner. No text is made up, mixed from two saves or
taken over from another account. -/
theorem stored_text_was_shown (log : List (WorldEvent Device)) (h : (worldSystem user).Valid log)
    (hc : Trace.Always (WorldEvent.Clean user) log) (k : Str) (doc : Doc)
    (hd : (world user log).cloud.store k = some doc) :
    ∃ d exit now autoId before page c title description account,
      .on d (.exit exit now autoId) :: before <:+ log ∧
      ((world user before).device d).top = some (page, c) ∧ c.texts = some (title, description) ∧
      ((world user before).device d).email = some account ∧
      doc "title" = some (.str title) ∧ doc "description" = some (.str description) ∧
      doc "email" = some (.str account) := by
  rw [← cloud_sent] at hd
  exact (shown_docs user h hc).stored _ (List.suffix_refl _) k doc hd

end World

open SharedTablet in
theorem stored_text_was_shown_tablet :
    (worldSystem (fun _ : Unit => some ann)).Valid benSignsIn ∧
    Trace.Always (WorldEvent.Clean fun _ : Unit => some ann) benSignsIn ∧
    ∃ before exit now autoId page c, .on () (.exit exit now autoId) :: before <:+ benSignsIn ∧
      ((world (fun _ : Unit => some ann) before).device ()).top = some (page, c) ∧
      c.texts = some (lit "Milk", []) := by
  have hc := attended_clean _ benSignsIn_valid benSignsIn_attended
  obtain ⟨_, exit, now, autoId, before, page, c, title, description, account, hb, htop, htexts, -, ht, hd, -⟩ :=
    stored_text_was_shown _ benSignsIn benSignsIn_valid hc (lit "n1") annsNote rfl
  cases ht
  cases hd
  exact ⟨benSignsIn_valid, hc, before, exit, now, autoId, page, c, hb, htop, htexts⟩

/-! ## Saved texts -/

section World

variable {Device : Type} [DecidableEq Device] (user : Device → Option User)

end World

namespace TwoDevices

open SharedTablet (annsNote annsList writesNote writesNote_valid writesNote_attended)

/-- The laptop is opened. -/
def laptopOpens : List (WorldEvent Device) := [.on .laptop (.app (.deliver 0))]

/-- Both devices are signed in to one account. The laptop saves a note, and both lists show it. -/
def bothShow : List (WorldEvent Device) := [
  .on .phone (.result 1 [(lit "n1", annsNote)]), .on .phone (.build 1 .savedNotes), .on .phone (.app (.deliver 0))] ++
  (writesNote .laptop 1 ++ laptopOpens)

theorem laptopWrites_valid : (worldSystem (fun _ : Device => some SharedTablet.ann)).Valid
    (writesNote .laptop 1 ++ laptopOpens) := by
  refine writesNote_valid (r := { gate := some .home, screen := .savedNotes, page := 1 }) _
    ⟨⟨⟨rfl, rfl⟩, ?_⟩, trivial⟩ rfl ⟨⟨_, rfl⟩, rfl, rfl, rfl⟩
  rintro s ⟨⟩

theorem bothShow_valid : (worldSystem (fun _ : Device => some SharedTablet.ann)).Valid bothShow := by
  refine ⟨⟨⟨rfl, ?_⟩, ?_⟩, ⟨⟨_, .head _, rfl, rfl⟩, ?_⟩, ⟨⟨rfl, rfl⟩, ?_⟩, laptopWrites_valid⟩
  · rintro screen l hl
    cases hl
    refine ⟨Rows.lists_singleton rfl, fun k doc hmem => ?_⟩
    cases List.mem_singleton.1 hmem
    exact cached_of_store _ rfl
  all_goals rintro s ⟨⟩

theorem bothShow_attended : Trace.Always (WorldEvent.Attended fun _ : Device => some SharedTablet.ann) bothShow :=
  ⟨trivial, trivial, trivial, writesNote_attended _ ⟨trivial, trivial⟩⟩

end TwoDevices

section World

variable {Device : Type} [DecidableEq Device] (user : Device → Option User)

theorem landed_provider {log : List (WorldEvent Device)} (h : (worldSystem user).Valid log)
    (hc : Trace.Always (WorldEvent.Clean user) log) {s : Step} (hs : s ∈ landed (sent user log)) : s.provider = {} := by
  have hsent := sent_valid_of_clean user h hc
  obtain ⟨client, hissue⟩ := issued_of_landed hsent hs
  obtain ⟨before, hb, -⟩ := issueOk_of_mem hsent hissue
  obtain ⟨d, e, fs, hfs, hhandler, -⟩ := sent_handler user hb
  rw [DeviceState.handler_provider hhandler]
  exact (consistent user (h.of_suffix hfs).2).provider d

end World

/-- A note is a favourite exactly when the newest write to it that has landed marks it: a save of the favourites'
editing page, or the menu of a tile that was not marked. Every other write takes the mark away, an edit from the
full list too. -/
theorem marked_by_newest_write {Device : Type} [DecidableEq Device] (user : Device → Option User)
    (log : List (WorldEvent Device)) (h : (worldSystem user).Valid log) (hc : Trace.Always (WorldEvent.Clean user) log)
    (k : Str) (doc : Doc) (hd : (world user log).cloud.store k = some doc) :
    ∃ later s earlier w, landed (sent user log) = later ++ s :: earlier ∧ s.write = some w ∧ w.target = k ∧
      (∀ t ∈ later, ∀ w', t.write = some w' → w'.target ≠ k) ∧
      (doc "isFavorite" = some (.bool true) ↔ s.action.marks = true) := by
  obtain ⟨hv, hst⟩ := landed_run Prod.snd (sent_valid_of_clean user h hc)
  rw [cloud_sent] at hst
  rw [hst, store_eq_shelf hv, notes_eq_some] at hd
  obtain ⟨e, he, rfl⟩ := hd
  obtain ⟨later, s, earlier, w, hland, hw, hk, hlater, hput⟩ := newest_step hv k e he
  have hprovider : s.provider = {} := landed_provider user h hc (by rw [hland]; exact List.mem_append_right _ (.head _))
  have hmark := put_mark ((hland ▸ hv).of_suffix (List.suffix_append later (s :: earlier))) hprovider hput
  refine ⟨later, s, earlier, w, hland, hw, hk, hlater, ?_⟩
  rw [← hmark]
  simp

namespace TwoDevices

/-- What the menu of the tile on the phone issues. -/
def togglesNote : Step := {
  user := ann, now := lit "3", autoId := lit "n3", action := .toggleFavorite SharedTablet.annsNote }

/-- The phone marks the note, and the write lands. -/
def marked : List (WorldEvent Device) :=
  .land ⟨1, (.phone, ann), togglesNote⟩ :: .on .phone (.toggle 0 (lit "3") (lit "n3")) :: bothShow

theorem marked_valid : (worldSystem (fun _ : Device => some SharedTablet.ann)).Valid marked := by
  refine ⟨⟨.head _, fun _ => ⟨_, _, SharedTablet.annsNote, rfl, List.suffix_refl _, rfl⟩⟩, ⟨trivial, ?_⟩,
    bothShow_valid⟩
  rintro s ⟨⟩ ⟨⟩

theorem marked_clean : Trace.Always (WorldEvent.Clean fun _ : Device => some SharedTablet.ann) marked :=
  attended_clean _ marked_valid ⟨trivial, trivial, bothShow_attended⟩

end TwoDevices

open TwoDevices in
theorem marked_by_newest_write_phone :
    (worldSystem (fun _ : Device => some SharedTablet.ann)).Valid marked ∧
    ∃ later s earlier, landed (sent (fun _ : Device => some SharedTablet.ann) marked) = later ++ s :: earlier ∧
      s.action.marks = true := by
  obtain ⟨later, s, earlier, w, hland, -, -, -, hflag⟩ :=
    marked_by_newest_write _ marked marked_valid marked_clean (lit "n1") _ rfl
  exact ⟨marked_valid, later, s, earlier, hland, hflag.1 rfl⟩

end Notely
