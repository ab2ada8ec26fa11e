/-
The last write of a document. An update lays its fields over those that are there; as every writer sends the
whole note, nothing of an older write is left: a live document is the document of the newest write addressed
to it (`last_write_wins`), with that write's time and account (`stamped_by_newest_write`).
-/
import Notely.Store.Texts

namespace Notely

open DocStore

/-- The writes of a log that address the document `k`, newest first. -/
def writesTo (k : Str) (es : List Step) : List NoteWrite := (es.filterMap Step.write).filter (·.target = k)

/-! ## A document and its own writes -/

theorem writesTo_cons (k : Str) (s : Step) (es : List Step) :
    writesTo k (s :: es) = match s.write with
      | some w => if w.target = k then w :: writesTo k es else writesTo k es
      | none => writesTo k es := by
  unfold writesTo
  cases hw : s.write with
  | none => rw [List.filterMap_cons_none hw]
  | some w =>
    rw [List.filterMap_cons_some hw, List.filter_cons]
    simp only [decide_eq_true_eq]

/-! ## The newest write is all there is -/

/-- A live document is the one the newest write addressed to it carried. -/
theorem newest_of_live {es : List Step} (h : notesSystem.Valid es) :
    ∀ k e, shelf es k = some e → ∃ w, (writesTo k es).head? = some w ∧ w.doc = some (e.json k) := by
  refine h.invariant (I := fun es _ =>
    ∀ k e, shelf es k = some e → ∃ w, (writesTo k es).head? = some w ∧ w.doc = some (e.json k)) ?_ ?_
  · intro k e he; cases he
  · intro s es hv hok ih k e he
    have hw := write_of_change ⟨hok, hv⟩
    rw [writesTo_cons]
    rcases entry_cases he with ⟨hold, hne⟩ | hc | hc
    · -- the step writes nothing, or another document
      cases hc : s.change with
      | none => rw [hw, hc]; exact ih k e hold
      | some w =>
        rw [hw, hc, Option.map_some]
        dsimp only
        rw [if_neg (by simpa using Ne.symm (hne w hc))]
        exact ih k e hold
    · rw [hw, hc]
      exact ⟨_, by rw [Option.map_some]; exact congrArg List.head? (if_pos rfl), rfl⟩
    · rw [hw, hc]
      exact ⟨_, by rw [Option.map_some]; exact congrArg List.head? (if_pos rfl), rfl⟩

theorem mem_writesTo {k : Str} {es : List Step} {w : NoteWrite} :
    w ∈ writesTo k es ↔ w.target = k ∧ ∃ s ∈ es, s.write = some w := by
  simp [writesTo, and_comm]

/-- Only the delete of a tile sends a delete, for the document the tile was read from. -/
theorem delete_write_iff {s : Step} {es : List Step} (h : notesSystem.Valid (s :: es)) {k : Str} :
    s.write = some (.delete k) ↔ ∃ note, s.action = .delete note ∧ note "id" = some (.str k) := by
  rw [write_of_change h]
  cases hn : s.action.note with
  | none =>
    obtain ⟨exit, page, ha⟩ := create_of_note hn
    rcases change_of_create ha with hc | hc <;> rw [hc, ha] <;> simp [Write.encode]
  | some note =>
    obtain ⟨j, e, -, rfl⟩ := seen_entry h hn
    rcases change_of_note hn with ⟨⟨note, ha⟩, hc⟩ | ⟨hu, hc⟩
    · rw [ha] at hn
      cases hn
      rw [hc, ha]
      simp [Write.encode]
    · have hne : ∀ note, s.action ≠ .delete note := fun note ha => by rw [ha] at hu; cases hu
      constructor
      · rcases hc with hc | ⟨e', hc, -⟩ <;> rw [hc] <;> simp [Write.encode]
      · rintro ⟨note, ha, -⟩
        exact absurd ha (hne note)

theorem delete_mem_writesTo {es : List Step} (h : notesSystem.Valid es) {k : Str} :
    .delete k ∈ writesTo k es ↔ k ∈ deletedIds es := by
  refine (mem_writesTo.trans (and_iff_right rfl)).trans ?_
  refine exists_congr fun s => and_congr_right fun hs => ?_
  obtain ⟨es₁, es₂, rfl⟩ := List.append_of_mem hs
  exact delete_write_iff (h.of_suffix (List.suffix_append es₁ (s :: es₂)))

theorem created_of_write {s : Step} {es : List Step} (h : notesSystem.Valid (s :: es)) {w : NoteWrite}
    (hw : s.write = some w) : w.target ∈ createdIds (s :: es) := by
  have hseen : ∀ {k : Str} {e : Entry}, SeenEntry es s.user k e → k ∈ createdIds (s :: es) := by
    intro k e hs
    obtain ⟨fs, e₀, hfs, he, -⟩ := hs.listed
    have hlive := (live_iff (h.2.of_suffix hfs) k).1 (by rw [isSome_store (h.2.of_suffix hfs), he]; rfl)
    obtain ⟨t, ht, hk⟩ := hlive.1
    exact ⟨t, List.mem_cons_of_mem _ (hfs.subset ht), hk⟩
  have hchange := write_of_change h
  rcases change_cases h with hc | ⟨e, hc, hn, -⟩ | ⟨k, e₀, e, hs, hc, -⟩ | ⟨k, e₀, hs, hc⟩ <;>
    rw [hc, hw] at hchange <;> cases hchange
  · exact mem_createdIds_cons.2 (.inl ⟨create_of_note hn, by rw [hw]; rfl, rfl⟩)
  · exact hseen hs
  · exact hseen hs

/-- A document is there exactly when it was written to and never deleted, and then it is the one its
newest write carried. -/
theorem store_eq_some_iff {es : List Step} (h : notesSystem.Valid es) {k : Str} {d : Doc} :
    store es k = some d ↔
      .delete k ∉ writesTo k es ∧ ∃ w, (writesTo k es).head? = some w ∧ w.doc = some d := by
  rw [delete_mem_writesTo h]
  have hnewest : ∀ {d'}, store es k = some d' → ∃ w, (writesTo k es).head? = some w ∧ w.doc = some d' := by
    intro d' hd
    rw [store_eq_shelf h, notes_eq_some] at hd
    obtain ⟨e, he, rfl⟩ := hd
    exact newest_of_live h k e he
  constructor
  · intro hd
    exact ⟨((live_iff h k).1 (by rw [hd]; rfl)).2, hnewest hd⟩
  · rintro ⟨hdel, w, hw, hdoc⟩
    -- its newest write was of a created document, which is live as it was not deleted
    obtain ⟨htarget, s, hs, hsw⟩ := mem_writesTo.1 (List.mem_of_head? hw)
    obtain ⟨es₁, es₂, rfl⟩ := List.append_of_mem hs
    have hsuf := List.suffix_append es₁ (s :: es₂)
    obtain ⟨t, ht, hk⟩ := created_of_write (h.of_suffix hsuf) hsw
    have hlive := (live_iff h k).2 ⟨⟨t, hsuf.subset ht, htarget ▸ hk⟩, hdel⟩
    obtain ⟨d', hd'⟩ := Option.isSome_iff_exists.1 hlive
    obtain ⟨w', hw', hdoc'⟩ := hnewest hd'
    rw [hw] at hw'
    cases hw'
    rw [hd', ← hdoc', hdoc]

/-! ## What a step puts -/

/-- Whatever a step puts is an entry of its user and its time. -/
theorem put_entry {s : Step} {w : Write Str Entry} (h : s.change = some w) : (∃ k, w = .delete k) ∨
    ∃ k title description flag, w = .set k (s.entry title description flag) ∨
      w = .update k (s.entry title description flag) := by
  unfold Step.change at h
  split at h
  · split at h <;> cases h
    exact .inr ⟨_, _, _, _, .inl rfl⟩
  · cases h
    exact .inr ⟨_, _, _, _, .inl rfl⟩
  · split at h
    · cases h
    · obtain ⟨ke, -, rfl⟩ := Option.map_eq_some_iff.1 h
      exact .inr ⟨_, _, _, _, .inr rfl⟩
  · split at h
    · cases h
    · obtain ⟨ke, -, rfl⟩ := Option.map_eq_some_iff.1 h
      exact .inr ⟨_, _, _, _, .inr rfl⟩
  · obtain ⟨ke, -, rfl⟩ := Option.map_eq_some_iff.1 h
    exact .inr ⟨_, _, _, _, .inr rfl⟩
  · obtain ⟨ke, -, rfl⟩ := Option.map_eq_some_iff.1 h
    exact .inr ⟨_, _, _, _, .inr rfl⟩
  · obtain ⟨ke, -, rfl⟩ := Option.map_eq_some_iff.1 h
    exact .inl ⟨_, rfl⟩

theorem put_stamp {s : Step} {k : Str} {e : Entry} (hput : s.change = some (.set k e) ∨ s.change = some (.update k e)) :
    e.timeAdded = s.now ∧ e.email = s.user := by
  rcases hput with hput | hput <;>
    rcases put_entry hput with ⟨_, hw⟩ | ⟨_, _, _, _, hw | hw⟩ <;> cases hw
  · exact ⟨rfl, rfl⟩
  · exact ⟨rfl, rfl⟩

/-! ## The newest step -/

/-- The step that wrote a live entry, and none has written to it since. -/
theorem newest_step {es : List Step} (h : notesSystem.Valid es) : ∀ k e, shelf es k = some e →
    ∃ later s earlier w, es = later ++ s :: earlier ∧ s.write = some w ∧ w.target = k ∧
      (∀ t ∈ later, ∀ w', t.write = some w' → w'.target ≠ k) ∧
      (s.change = some (.set k e) ∨ s.change = some (.update k e)) := by
  induction es with
  | nil => intro k e he; cases he
  | cons s es ih =>
    intro k e he
    have hw := write_of_change h
    rcases entry_cases he with ⟨hold, hne⟩ | hput
    · obtain ⟨later, s', earlier, w, rfl, hs', hk, hlater, hput⟩ := ih h.2 k e hold
      refine ⟨s :: later, s', earlier, w, rfl, hs', hk, fun t ht w' hw' => ?_, hput⟩
      rcases List.mem_cons.1 ht with rfl | ht
      · rw [hw] at hw'
        obtain ⟨c, hc, rfl⟩ := Option.map_eq_some_iff.1 hw'
        simpa using Ne.symm (hne c hc)
      · exact hlater t ht w' hw'
    · refine ⟨[], s, es, ?_⟩
      have hnone : ∀ t ∈ ([] : List Step), ∀ w', t.write = some w' → w'.target ≠ k := fun t ht => by cases ht
      rcases hput with hc | hc <;> rw [hc] at hw
      · exact ⟨_, rfl, hw, rfl, hnone, .inl hc⟩
      · exact ⟨_, rfl, hw, rfl, hnone, .inr hc⟩

/-- The actions that mark their note: saving the editing page of the favourites, and the menu of a tile without
the mark. -/
def Action.marks : Action → Bool
  | editFavorite _ _ => true
  | toggleFavorite note => note "isFavorite" == some (.bool false)
  | _ => false

/-- With the provider as it is created, an entry has the mark its action gives. -/
theorem put_mark {s : Step} {es : List Step} (h : notesSystem.Valid (s :: es)) (hp : s.provider = {}) {k : Str}
    {e : Entry} (hput : s.change = some (.set k e) ∨ s.change = some (.update k e)) :
    e.isFavorite = s.action.marks := by
  have hedit : ∀ {note : Doc} {title body : Str} {flag : Bool},
      s.change = (Entry.decode note).map (fun ke => .update ke.1 (s.entry title body flag)) → e.isFavorite = flag := by
    intro note title body flag hc
    rw [hc, Option.map_eq_some_iff, Option.map_eq_some_iff] at hput
    rcases hput with ⟨ke, -, heq⟩ | ⟨ke, -, heq⟩ <;> cases heq
    rfl
  cases ha : s.action with
  | create exit page =>
    rcases change_of_create ha with hc | hc <;> rw [hc] at hput <;> rcases hput with heq | heq <;> cases heq
    rfl
  | edit exit page =>
    have hc : s.change = if page.titleField.isEmpty then none
        else (Entry.decode page.note).map fun ke => .update ke.1 (s.entry page.titleField page.bodyField false) := by
      rw [Step.change, ha]
    split at hc
    · rw [hc] at hput; rcases hput with heq | heq <;> cases heq
    · exact hedit hc
  | editFavorite exit page =>
    have hc : s.change = if page.titleField.isEmpty || page.bodyField.isEmpty then none
        else (Entry.decode page.note).map fun ke => .update ke.1 (s.entry page.titleField page.bodyField true) := by
      rw [Step.change, ha]
    split at hc
    · rw [hc] at hput; rcases hput with heq | heq <;> cases heq
    · exact hedit hc
  | toggleFavorite note =>
    obtain ⟨j, e₀, -, rfl⟩ := seen_entry h (by rw [ha]; rfl)
    rw [Step.change, ha] at hput
    simp only [Entry.decode_json, Option.map_some, hp] at hput
    rcases hput with heq | heq <;> cases heq
    show (if e₀.isFavorite then _ else _) = _
    cases hf : e₀.isFavorite <;>
      simp [Action.marks, hf, IsFavoriteProvider.makeFavorite, IsFavoriteProvider.removeFavorite]
  | removeFromFavorites note =>
    obtain ⟨j, e₀, -, rfl⟩ := seen_entry h (by rw [ha]; rfl)
    rw [Step.change, ha] at hput
    simp only [Entry.decode_json, Option.map_some] at hput
    rcases hput with heq | heq <;> cases heq
    rfl
  | delete note =>
    obtain ⟨j, e₀, -, rfl⟩ := seen_entry h (by rw [ha]; rfl)
    rw [Step.change, ha] at hput
    simp only [Entry.decode_json, Option.map_some] at hput
    rcases hput with heq | heq <;> cases heq

/-! ## Saved texts -/

/-- Last write wins, whole. In every run of the devices a document is there exactly when some write
addressed to it has landed and no delete has, and then it is, in all its fields, the document the newest
of these writes carried: no field of an older write is left in it, whoever sent it. -/
theorem last_write_wins {Client : Type} [DecidableEq Client] (account : Client → Str)
    (log : List (CloudEvent Client)) (h : (cloudSystem account).Valid log) (k : Str) (d : Doc) :
    (cloud account log).store k = some d ↔
      .delete k ∉ writesTo k (landed log) ∧
      ∃ w, (writesTo k (landed log)).head? = some w ∧ w.doc = some d := by
  obtain ⟨hv, hst⟩ := landed_run account h
  rw [hst]
  exact store_eq_some_iff hv

open TwoDevices in
theorem last_write_wins_editFirst :
    (cloudSystem TwoDevices.account).Valid editFirst ∧
    ∃ w d, (writesTo (lit "n1") (landed editFirst)).head? = some w ∧ w.doc = some d ∧
      (cloud TwoDevices.account editFirst).store (lit "n1") = some d := by
  have h := (last_write_wins TwoDevices.account editFirst editFirst_valid (lit "n1") _).1 rfl
  obtain ⟨-, w, hw, hd⟩ := h
  exact ⟨editFirst_valid, w, _, hw, hd, rfl⟩

/-- In every run of the devices a document that is there has the time and the account of the newest write to
it that has landed, a create, an edit or a change of the mark alike. So the time a tile shows is not the one
of the create, nor the latest of the writes when they overtake each other. -/
theorem stamped_by_newest_write {Client : Type} [DecidableEq Client] (account : Client → Str)
    (log : List (CloudEvent Client)) (h : (cloudSystem account).Valid log) (k : Str) (d : Doc)
    (hd : (cloud account log).store k = some d) :
    ∃ later s earlier w, landed log = later ++ s :: earlier ∧ s.write = some w ∧ w.target = k ∧
      (∀ t ∈ later, ∀ w', t.write = some w' → w'.target ≠ k) ∧
      d "timeAdded" = some (.str s.now) ∧ d "email" = some (.str s.user) := by
  obtain ⟨hv, hst⟩ := landed_run account h
  rw [hst, store_eq_shelf hv, notes_eq_some] at hd
  obtain ⟨e, he, rfl⟩ := hd
  obtain ⟨later, s, earlier, w, hlog, hw, hk, hlater, hput⟩ := newest_step hv k e he
  obtain ⟨htime, hemail⟩ := put_stamp hput
  refine ⟨later, s, earlier, w, hlog, hw, hk, hlater, ?_, ?_⟩
  · rw [← htime]; rfl
  · rw [← hemail]; rfl

open TwoDevices in
/-- The edit of two o'clock lands after the toggle of three, and two is what the tile shows. -/
theorem stamped_by_newest_write_toggleFirst :
    (cloudSystem TwoDevices.account).Valid toggleFirst ∧
    ∃ later s earlier, landed toggleFirst = later ++ s :: earlier ∧ s.now = lit "2" ∧ toggle ∈ earlier := by
  obtain ⟨later, s, earlier, w, hlog, hw, hk, hlater, htime, -⟩ :=
    stamped_by_newest_write TwoDevices.account toggleFirst toggleFirst_valid (lit "n1") _ rfl
  cases later with
  | nil =>
    cases hlog
    exact ⟨toggleFirst_valid, [], _, _, rfl, rfl, .head _⟩
  | cons t later =>
    obtain rfl : edit = t := (List.cons.inj hlog).1
    exact absurd rfl (hlater _ (.head _) _ rfl)

end Notely
