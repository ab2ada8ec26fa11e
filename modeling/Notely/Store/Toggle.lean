/-
The favourite toggle of the menu. The value it writes is not computed from the note but asked of the one
`IsFavoriteProvider` of the app, through `makeFavorite` or `removeFavorite` as the note is no favourite
or is one. Neither call changes the provider, so whatever was toggled or removed before, on any note,
the toggle writes the negation of the note's flag, changes nothing else but the time, and says what it
wrote (`toggle_correct`). The removal of the page `Favorites`, written without the provider, agrees.
-/
import Notely.Store.Clients

namespace Notely

open DocStore

/-! ## Calls through the provider -/

/-- A use of the favourite status: the menu of `SavedNotes`, or the removal on `Favorites`, on any note. -/
inductive FavoriteCall
  | toggle (env : Env) (note : Doc)
  | remove (env : Env) (note : Doc)

/-- The provider a call leaves, in an environment with the given one. -/
def FavoriteCall.provider (p : IsFavoriteProvider) : FavoriteCall → IsFavoriteProvider
  | .toggle env note => match SavedNotes.addToFavorites { env with provider := p } note with
    | .ok r => r.provider
    | .error _ => p
  | .remove env note => match Favorites.removeFromFavorites { env with provider := p } note with
    | .ok r => r.provider
    | .error _ => p

/-- The provider after a history of calls, from the one the app starts with. -/
def providerAfter (history : List FavoriteCall) : IsFavoriteProvider := Trace.after {} FavoriteCall.provider history

theorem FavoriteCall.provider_eq (p : IsFavoriteProvider) (call : FavoriteCall) : call.provider p = p := by
  cases call with
  | toggle env note =>
    simp only [FavoriteCall.provider]
    split
    · next hr => exact (SavedNotes.addToFavorites_frame hr).1
    · rfl
  | remove env note =>
    simp only [FavoriteCall.provider]
    split
    · next hr => exact (Favorites.removeFromFavorites_frame hr).1
    · rfl

theorem providerAfter_eq : ∀ history, providerAfter history = {}
  | [] => rfl
  | call :: history => (call.provider_eq _).trans (providerAfter_eq history)

/-! ## The toggle -/

/-- The text of the menu entry. -/
def SavedNotes.menuLabel (note : Doc) : String :=
  if note "isFavorite" = some (.bool false) then "Add to favorites" else "Remove from favorites"

/-- The label that announces the value a toggle will write, and the message that reports it. -/
def labelFor (written : Bool) : String := if written then "Add to favorites" else "Remove from favorites"

/-- The message that reports the value a toggle has written. -/
def messageFor (written : Bool) : String := if written then "Added to Favorites!" else "Removed from Favorites!"

/-- The menu entry chosen on the tile of a document, after a history of calls. -/
def toggleStep (history : List FavoriteCall) (user now autoId : Str) (d : Doc) : Step := {
  user := user, now := now, autoId := autoId, provider := providerAfter history, action := .toggleFavorite (tile d) }

/-- The step toggles the note `k`, whose document is `d` and whose flag is `isFavorite`. -/
structure Toggles (c : Notes) (k : Str) (d : Doc) (isFavorite : Bool) (s : Step) : Prop where
  /-- it writes the other flag and reports it, once the write is acknowledged -/
  writes : ∃ r x, s.action.react s.env = .ok r ∧ r.write = some (.update k x) ∧
    x "isFavorite" = some (.bool (!isFavorite)) ∧ r.atOnce = [] ∧
    r.onAck = [.showSnackBar (messageFor (!isFavorite))]
  label : SavedNotes.menuLabel (tile d) = labelFor (!isFavorite)
  /-- the document has the other flag and is else the note it was, still on its user's list -/
  stored : ∃ d', s.exec c k = some d' ∧ allNotes s.user (s.exec c) k = some d' ∧
    d' "isFavorite" = some (.bool (!isFavorite)) ∧
    ∀ f ∈ ["title", "description", "id", "email"], d' f = d f
  others : ∀ j, j ≠ k → s.exec c j = c j

section Toggle

variable {c : Notes} {k title description : Str} {d : Doc} {isFavorite : Bool}

/-- The note a toggle writes. -/
def toggled (s : Step) (k title description : Str) (isFavorite : Bool) : Note := {
  isFavorite := some (!isFavorite), timeAdded := some s.now, body := description, title := title, id := k,
  email := some s.user }

theorem react_toggleStep (h : HoldsNote d k title description isFavorite) (history : List FavoriteCall)
    (user now autoId : Str) :
    (toggleStep history user now autoId d).action.react (toggleStep history user now autoId d).env = .ok {
      write := some (.update k (toggled (toggleStep history user now autoId d) k title description isFavorite).toJson),
      onAck := [.showSnackBar (messageFor (!isFavorite))], provider := {} } := by
  have hr := h.addToFavorites (toggleStep history user now autoId d).env
  simp only [toggleStep, Action.react, Step.env, h.tile, providerAfter_eq] at hr ⊢
  rw [hr]
  cases isFavorite <;> rfl

theorem toggleStep_toggles (h : HoldsNote d k title description isFavorite) {user : Str}
    (hd : allNotes user c k = some d) (history : List FavoriteCall) (now autoId : Str) :
    Toggles c k d isFavorite (toggleStep history user now autoId d) := by
  obtain ⟨hc, hemail⟩ := select_eq_some.1 hd
  have hreact := react_toggleStep h history user now autoId
  have hexec : (toggleStep history user now autoId d).exec c = c.write
      (.update k (toggled (toggleStep history user now autoId d) k title description isFavorite).toJson) := by
    simp only [Step.exec, Step.write, hreact]
  have hstored := apply_update_self Fields.overlay c k
    (toggled (toggleStep history user now autoId d) k title description isFavorite).toJson
  rw [hc] at hstored
  refine ⟨⟨_, _, hreact, rfl, rfl, rfl, rfl⟩, ?_,
    ⟨d.overlay (toggled (toggleStep history user now autoId d) k title description isFavorite).toJson,
      ?_, ?_, rfl, ?_⟩, ?_⟩
  · rw [h.tile, SavedNotes.menuLabel, h.isFavorite]
    cases isFavorite <;> rfl
  · rw [hexec]; exact hstored
  · rw [hexec]
    exact select_eq_some.2 ⟨hstored, beq_self_eq_true _⟩
  · intro f hf
    simp only [List.mem_cons, List.not_mem_nil, or_false] at hf
    rcases hf with rfl | rfl | rfl | rfl
    · exact h.title.symm
    · exact h.description.symm
    · exact h.id.symm
    · exact (beq_iff_eq.1 hemail).symm
  · intro j hj
    rw [hexec]
    exact apply_of_ne Fields.overlay c hj

theorem Toggles.holdsNote {s : Step} (h : HoldsNote d k title description isFavorite)
    (hs : Toggles c k d isFavorite s) :
    ∃ d', allNotes s.user (s.exec c) k = some d' ∧ HoldsNote d' k title description (!isFavorite) := by
  obtain ⟨d', -, hall, hflag, hkeep⟩ := hs.stored
  exact ⟨d', hall, (hkeep "id" (by simp)).trans h.id, (hkeep "title" (by simp)).trans h.title,
    (hkeep "description" (by simp)).trans h.description, hflag⟩

end Toggle

/-- The favourite toggle is correct whatever was toggled or removed before, on every store and every note
of an up-to-date list. Toggled again it has its flag back; and on a favourite the removal of the page
`Favorites` writes the same document but for the time. -/
theorem toggle_correct (history : List FavoriteCall) (c : Notes) (user k : Str) (d : Doc) (n : Note)
    (isFavorite : Bool) (hd : allNotes user c k = some d) (hn : Note.fromJson (some user) d = .ok n) (hk : n.id = k)
    (hf : n.isFavorite = some isFavorite) (now autoId : Str) :
    Toggles c k d isFavorite (toggleStep history user now autoId d) ∧
    (∀ history' now' autoId', ∃ d',
      allNotes user ((toggleStep history user now autoId d).exec c) k = some d' ∧
      (((toggleStep history' user now' autoId' d').exec ((toggleStep history user now autoId d).exec c) k).map
        (· "isFavorite")) = (c k).map (· "isFavorite")) ∧
    (isFavorite = true → ∀ env, env.email = some user → ∃ r r' x x',
      (toggleStep history user now autoId d).action.react (toggleStep history user now autoId d).env = .ok r ∧
      Favorites.removeFromFavorites env (tile d) = .ok r' ∧
      r.write = some (.update k x) ∧ r'.write = some (.update k x') ∧ ∀ f, f ≠ "timeAdded" → x f = x' f) := by
  subst hk
  have hnote := fromJson_holdsNote hn hf
  have htoggle := toggleStep_toggles hnote hd history now autoId
  refine ⟨htoggle, ?_, ?_⟩
  · intro history' now' autoId'
    obtain ⟨d', hall, hnote'⟩ := htoggle.holdsNote hnote
    change allNotes user _ _ = _ at hall
    refine ⟨d', hall, ?_⟩
    obtain ⟨d'', hd'', -, hflag, -⟩ := (toggleStep_toggles hnote' hall history' now' autoId').stored
    have hc : c n.id = some d := (select_eq_some.1 hd).1
    rw [hd'', hc, Option.map_some, Option.map_some, hflag, hnote.isFavorite, Bool.not_not]
  · rintro rfl env hemail
    have hremove := hnote.removeFromFavorites env
    rw [hemail] at hremove
    rw [hnote.tile, hremove]
    refine ⟨_, _, _, _, react_toggleStep hnote history user now autoId, rfl, rfl, rfl, ?_⟩
    intro f hne
    exact (toJson_withTime (toggled (toggleStep history user now autoId d) n.id n.title n.body true)
      (some env.now) hne).symm

open TwoDevices in
/-- The created note, toggled after a toggle and a removal. -/
theorem toggle_correct_draft :
    allNotes ann (store [TwoDevices.create]) (lit "n1") = some draft ∧
    Toggles (store [TwoDevices.create]) (lit "n1") draft false
      (toggleStep [.remove TwoDevices.toggle.env draft, .toggle TwoDevices.toggle.env draft] ann (lit "3") (lit "n3")
        draft) :=
  ⟨draft_shown, (toggle_correct _ _ ann (lit "n1") draft _ false draft_shown (fromJson_toJson _ _) rfl rfl
    (lit "3") (lit "n3")).1⟩

end Notely
