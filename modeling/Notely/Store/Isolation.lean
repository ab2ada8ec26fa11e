/-
Isolation between accounts. All users write to one collection and every write stamps the session's
email on a document found through a stale tile. Still the owner of an entry never changes: a step
reaches only entries its user has seen, and an id is never used twice. So what a user's lists show
does not depend on the steps of the others: it is the same in the run without them.
-/
import Notely.Store.Shelf

namespace Notely

open DocStore

/-! ## Ownership -/

/-- The owner of an entry is the same at every point of a run where its id is live. -/
theorem owner_stable {es : List Step} (h : notesSystem.Valid es) :
    ∀ fs, fs <:+ es → ∀ k e₀ e, shelf fs k = some e₀ → shelf es k = some e → e.email = e₀.email := by
  refine h.invariant (I := fun es _ =>
    ∀ fs, fs <:+ es → ∀ k e₀ e, shelf fs k = some e₀ → shelf es k = some e → e.email = e₀.email) ?_ ?_
  · intro fs hfs k e₀ e h₀ _
    rw [List.suffix_nil.1 hfs] at h₀; cases h₀
  · intro s es hv hok ih fs hfs k e₀ e h₀ he
    rcases List.suffix_cons_iff.1 hfs with rfl | hfs
    · rw [h₀] at he; cases he; rfl
    · rcases shelf_cases ⟨hok, hv⟩ k with hk | ⟨_, -, -, -, -, hfresh⟩ | ⟨_, f, e', hs, hf, hk, hm'⟩ | ⟨_, -, hk⟩
      · rw [hk] at he; exact ih fs hfs k e₀ e h₀ he
      · rw [hfresh fs hfs] at h₀; cases h₀
      · -- the replaced entry was the user's, as it was on the user's list
        obtain ⟨gs, e₁, hgs, hj, hm⟩ := hs.listed
        rw [hk] at he; cases he
        rw [hm', ← hm, ← ih gs hgs k e₁ f hj hf, ih fs hfs k e₀ f h₀ hf]
      · rw [hk] at he; cases he

theorem owner_unique {es fs gs : List Step} (h : notesSystem.Valid es) (hfs : fs <:+ es) (hgs : gs <:+ es) {k : Str}
    {e e' : Entry} (he : shelf fs k = some e) (he' : shelf gs k = some e') : e'.email = e.email := by
  rcases List.suffix_or_suffix_of_suffix hfs hgs with hsuf | hsuf
  · exact owner_stable (h.of_suffix hgs) fs hsuf k e e' he he'
  · exact (owner_stable (h.of_suffix hfs) gs hsuf k e' e he' he).symm

theorem owner_mem {es : List Step} (h : notesSystem.Valid es) :
    ∀ k e, shelf es k = some e → ∃ s ∈ es, s.user = e.email := by
  refine h.invariant (I := fun es _ => ∀ k e, shelf es k = some e → ∃ s ∈ es, s.user = e.email) ?_ ?_
  · intro k e he; cases he
  · intro s es hv hok ih k e he
    rcases shelf_cases ⟨hok, hv⟩ k with hk | ⟨e', -, -, hk, hm, -⟩ | ⟨_, _, e', -, -, hk, hm⟩ | ⟨_, -, hk⟩ <;>
      rw [hk] at he
    · obtain ⟨t, ht, hu⟩ := ih k e he
      exact ⟨t, List.mem_cons_of_mem _ ht, hu⟩
    · cases he; exact ⟨s, List.mem_cons_self .., hm.symm⟩
    · cases he; exact ⟨s, List.mem_cons_self .., hm.symm⟩
    · cases he

/-- The document a step addresses is missing, or its owner is the user of the step. -/
theorem target_owner {s : Step} {es : List Step} (h : notesSystem.Valid (s :: es)) {w : Write Str Entry}
    (hw : s.change = some w) {e : Entry} (he : shelf es w.target = some e) : e.email = s.user := by
  have hseen : ∀ {k e₀}, SeenEntry es s.user k e₀ → shelf es k = some e → e.email = s.user := by
    intro k e₀ hs he
    obtain ⟨gs, e₁, hgs, hj, hm⟩ := hs.listed
    rw [owner_stable h.2 gs hgs k e₁ e hj he, hm]
  rcases change_cases h with hc | ⟨e', hc, -, -, hfresh⟩ | ⟨j, e₁, e', hs, hc, -⟩ | ⟨j, e₁, hs, hc⟩ <;>
    rw [hc] at hw <;> cases hw
  · rw [Write.target, hfresh es (List.suffix_refl _)] at he; cases he
  · exact hseen hs he
  · exact hseen hs he

theorem written_owner {s : Step} {es : List Step} (h : notesSystem.Valid (s :: es)) {w : Write Str Entry}
    (hw : s.change = some w) {e : Entry} (he : (shelf es).write w w.target = some e) : e.email = s.user := by
  rcases change_cases h with hc | ⟨e', hc, -, hm, -⟩ | ⟨j, e₁, e', -, hc, hm⟩ | ⟨j, e₁, -, hc⟩ <;>
    rw [hc] at hw <;> cases hw
  · rw [Write.target, Shelf.write, apply_set_self] at he; cases he; exact hm
  · rw [Write.target, Shelf.write, apply_update_self, Option.map_eq_some_iff] at he
    obtain ⟨_, -, rfl⟩ := he
    exact hm
  · rw [Write.target, Shelf.write, apply_delete_self] at he; cases he

/-! ## The view of one user -/

theorem allNotes_store {es : List Step} (h : notesSystem.Valid es) (u : Str) :
    allNotes u (store es) = ((shelf es).ownedBy u).notes := by
  rw [store_eq_shelf h, allNotes_notes]

theorem notes_injective {a b : Shelf} (h : a.notes = b.notes) : a = b := by
  funext k
  have hk := congrFun h k
  cases ha : a k with
  | none => rw [notes_eq_none.2 ha, eq_comm, notes_eq_none] at hk; rw [hk]
  | some e =>
    rw [notes_eq_some.2 ⟨e, ha, rfl⟩, eq_comm, notes_eq_some] at hk
    obtain ⟨f, hf, hj⟩ := hk
    rw [hf, (Entry.json_inj hj).2]

/-- A step of another user leaves the list as it is. -/
theorem allNotes_other {s : Step} {es : List Step} (h : notesSystem.Valid (s :: es)) {u : Str}
    (hu : s.user ≠ u) : allNotes u (store (s :: es)) = allNotes u (store es) := by
  rw [allNotes_store h, allNotes_store h.2, shelf_cons, Step.moveShelf]
  cases hc : s.change with
  | none => rfl
  | some w =>
    congr 1
    refine select_apply_of_none (select_eq_none.2 fun e he => ?_) (select_eq_none.2 fun e he => ?_)
    · rw [target_owner h hc he]; simpa using hu
    · rw [written_owner h hc he]; simpa using hu

/-- On two collections with the same list, a step of the user leaves the same list. -/
theorem allNotes_own {s : Step} {es fs : List Step} (h : notesSystem.Valid (s :: es))
    (h' : notesSystem.Valid (s :: fs)) (hv : allNotes s.user (store es) = allNotes s.user (store fs)) :
    allNotes s.user (store (s :: es)) = allNotes s.user (store (s :: fs)) := by
  rw [allNotes_store h.2, allNotes_store h'.2] at hv
  have hv := notes_injective hv
  rw [allNotes_store h, allNotes_store h', shelf_cons, shelf_cons, Step.moveShelf, Step.moveShelf]
  cases hc : s.change with
  | none => exact congrArg Shelf.notes hv
  | some w =>
    congr 1
    refine select_apply_congr hv ?_
    -- whatever stands at the target is in the user's list, and there both runs agree
    have hin : ∀ {gs : List Step}, notesSystem.Valid (s :: gs) →
        shelf gs w.target = (shelf gs).ownedBy s.user w.target := by
      intro gs hg
      cases hk : shelf gs w.target with
      | none => simp [Shelf.ownedBy, select, hk]
      | some e => rw [ownedBy_eq_some.2 ⟨hk, target_owner hg hc hk⟩]
    rw [hin h, hin h', hv]

/-- Without the steps of the others, the user still may have seen the same. -/
theorem seen_purge {es : List Step} {u : Str}
    (hv : ∀ fs, fs <:+ es → allNotes u (store fs) = allNotes u (store (fs.filter (·.user == u)))) {k : Str} {d : Doc}
    (hs : Seen es u k d) : Seen (es.filter (·.user == u)) u k d := by
  induction hs with
  | result hfs hd => exact .result (hfs.filter _) (by rw [← hv _ hfs]; exact hd)
  | written _ _ hu hn hw ih ih' => exact .written ih ih' hu hn hw

/-- Without the steps of the others, a step of the user is still one that may be taken. -/
theorem ok_purge {s : Step} {es : List Step} (h : notesSystem.Valid (s :: es))
    (hp : notesSystem.Valid (es.filter (·.user == s.user)))
    (hv : ∀ fs, fs <:+ es → allNotes s.user (store fs) = allNotes s.user (store (fs.filter (·.user == s.user)))) :
    s.Ok (es.filter (·.user == s.user)) := by
  constructor
  · intro note hn
    obtain ⟨k, d, hs, rfl⟩ := h.1.seen note hn
    exact ⟨k, d, seen_purge hv hs, rfl⟩
  · -- an id live without the others is in the user's list, hence live with them
    intro hn fs hfs
    obtain ⟨gs, hgs, rfl⟩ := List.suffix_filter_iff.1 hfs
    have hval := hp.of_suffix hfs
    rw [store_eq_shelf hval, notes_eq_none]
    cases hk : shelf (gs.filter (·.user == s.user)) s.autoId with
    | none => rfl
    | some e =>
      obtain ⟨t, ht, hte⟩ := owner_mem hval _ e hk
      have htu : t.user = s.user := by simpa using (List.mem_filter.1 ht).2
      have hmem : allNotes s.user (store (gs.filter (·.user == s.user))) s.autoId = some (e.json s.autoId) := by
        rw [store_eq_shelf hval]
        exact allNotes_notes_eq_some.2 ⟨e, hk, hte ▸ htu, rfl⟩
      rw [← hv gs hgs] at hmem
      have := h.1.fresh hn gs hgs
      rw [(select_eq_some.1 hmem).1] at this; cases this

/-- Isolation. The email of a live document never changes, and at the end of a run each user's lists
are those of the run without the steps of the others, which is a run as well. -/
theorem accounts_isolated (es : List Step) (h : notesSystem.Valid es) :
    (∀ fs k d d', fs <:+ es → store fs k = some d → store es k = some d' → d' "email" = d "email") ∧
    ∀ u : Str, notesSystem.Valid (es.filter (·.user == u)) ∧
      allNotes u (store es) = allNotes u (store (es.filter (·.user == u))) ∧
      favorites u (store es) = favorites u (store (es.filter (·.user == u))) := by
  constructor
  · intro fs k d d' hfs hd hd'
    rw [store_eq_shelf (h.of_suffix hfs), notes_eq_some] at hd
    rw [store_eq_shelf h, notes_eq_some] at hd'
    obtain ⟨e, he, rfl⟩ := hd
    obtain ⟨e', he', rfl⟩ := hd'
    rw [Entry.json_email, Entry.json_email, owner_stable h fs hfs k e e' he he']
  · intro u
    obtain ⟨hp, hv⟩ := h.purge (allNotes u) (·.user == u)
      (fun s es hs hk => allNotes_other hs (by simpa using hk))
      (fun s es hs hk hp hv => by
        obtain rfl : s.user = u := by simpa using hk
        exact ok_purge hs hp hv)
      (fun s es fs hs hs' hk hv => by
        obtain rfl : s.user = u := by simpa using hk
        exact allNotes_own hs hs' hv)
    have hview := hv es (List.suffix_refl _)
    refine ⟨hp, hview, ?_⟩
    unfold favorites
    exact congrArg _ hview

/-! ## Two users -/

namespace TwoUsers

/-- Ann's email. -/
def ann : Str := lit "ann@mail.com"

/-- Ben's email. -/
def ben : Str := lit "ben@mail.com"

/-- Ann saves a note. -/
def annCreates : Step := {
  user := ann, now := lit "1", autoId := lit "n1",
  action := .create .saveIcon { title := lit "Shopping", controllerTitleText := lit "Shopping" } }

/-- Ben saves another. -/
def benCreates : Step := {
  user := ben, now := lit "2", autoId := lit "n2",
  action := .create .saveIcon { title := lit "Rent", controllerTitleText := lit "Rent" } }

/-- Ann marks hers. -/
def annToggles : Step := {
  user := ann, now := lit "3", autoId := lit "n3",
  action := .toggleFavorite (Entry.json (lit "n1") (annCreates.entry (lit "Shopping") [] false)) }

theorem valid : notesSystem.Valid [annToggles, benCreates, annCreates] := by
  refine ⟨⟨?_, ?_⟩, ⟨?_, ?_⟩, ⟨?_, ?_⟩, trivial⟩
  · rintro _ ⟨⟩
    exact ⟨lit "n1", _, .result (List.suffix_refl _) rfl, rfl⟩
  · intro h; cases h
  · intro _ h; cases h
  · intro _
    refine fresh_cons.2 ⟨rfl, fun fs hfs => ?_⟩
    rw [List.suffix_nil.1 hfs]; rfl
  · intro _ h; cases h
  · intro _ fs hfs
    rw [List.suffix_nil.1 hfs]; rfl

end TwoUsers

open TwoUsers in
theorem accounts_isolated_ann :
    notesSystem.Valid [annToggles, benCreates, annCreates] ∧
    favorites ann (store [annToggles, benCreates, annCreates]) = favorites ann (store [annToggles, annCreates]) :=
  ⟨valid, ((accounts_isolated _ valid).2 ann).2.2⟩

end Notely
