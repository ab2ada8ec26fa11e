/-
What the app announces. A toggle and a removal await their write and then show their message; the delete of
the menu shows 'Delete Successful!' at once. With any number of operations in flight, acknowledged, rejected
or left unanswered in any order, every success message follows the acknowledgement of its own operation
exactly in the runs without a delete; in any run it does so for every operation but the deletes
(`announced_iff`).
-/
import Notely.Store.Documents

namespace Notely

open DocStore Trace

/-- The messages that report a success. -/
def successMessages : List String := ["Delete Successful!", "Added to Favorites!", "Removed from Favorites!"]

/-- The command shows one of them. -/
def UiCommand.Announces : UiCommand → Prop
  | .pop => False
  | .showSnackBar text => text ∈ successMessages

/-- The delete of a tile. -/
def Action.isDelete : Action → Bool
  | .delete _ => true
  | _ => false

section Announced

variable {Client : Type} [DecidableEq Client] (account : Client → Str)

/-- The server accepts the write that lands. -/
def Flight.Accepted (f : Flight Client) (store : Notes) : Prop :=
  ∃ write, f.step.write = some write ∧ accepts store write = true

/-- The server has acknowledged the write of the operation. -/
def Acknowledged (log : List (CloudEvent Client)) (op : Nat) : Prop :=
  ∃ f log', .land f :: log' <:+ log ∧ f.op = op ∧ f.Accepted (cloud account log').store

/-- It was refused on its way, or by the server: the update of a document that is gone. -/
def Rejected (log : List (CloudEvent Client)) (op : Nat) : Prop :=
  ∃ f log', f.op = op ∧ (.reject f :: log' <:+ log ∨
    .land f :: log' <:+ log ∧ ¬ f.Accepted (cloud account log').store)

/-- The step was issued as the operation. -/
def IssuedAs (log : List (CloudEvent Client)) (op : Nat) (s : Step) : Prop :=
  ∃ client older, .issue client s :: older <:+ log ∧ op = (cloud account older).issued

/-- The operation has shown no success message, or was acknowledged and not rejected. -/
def Truthful (log : List (CloudEvent Client)) (op : Nat) : Prop :=
  ∀ c, (op, c) ∈ (cloud account log).shown → c.Announces →
    Acknowledged account log op ∧ ¬ Rejected account log op

/-! ## An operation is answered once -/

theorem issued_lt_issue (w : Cloud Client) (client : Client) (s : Step) : w.issued < (w.issue client s).issued := by
  rw [(issue_frame w client s).2.2.1]
  exact Nat.lt_succ_self _

omit [DecidableEq Client] in
/-- The event answers the operation. -/
def CloudEvent.Answers (op : Nat) : CloudEvent Client → Prop
  | .land f => f.op = op
  | .reject f => f.op = op
  | _ => False

/-- The answered operations were issued and are in flight no more. -/
def Cleared (log : List (CloudEvent Client)) (w : Cloud Client) : Prop :=
  ∀ e ∈ log, ∀ op, e.Answers op → op < w.issued ∧ ∀ f ∈ w.flights, f.op ≠ op

omit [DecidableEq Client] in
/-- An event that answers nothing keeps this, when the flights it adds are of a new operation. -/
theorem Cleared.unanswered {log : List (CloudEvent Client)} {w w' : Cloud Client} (h : Cleared log w)
    {e : CloudEvent Client} (he : ∀ op, ¬ e.Answers op) (hi : w.issued ≤ w'.issued)
    (hf : ∀ f ∈ w'.flights, f.op = w.issued ∨ f ∈ w.flights) : Cleared (e :: log) w' := by
  intro e' he' op hop
  rcases List.mem_cons.1 he' with rfl | he'
  · exact absurd hop (he op)
  · obtain ⟨hlt, hgone⟩ := h e' he' op hop
    refine ⟨by omega, fun f hfl => ?_⟩
    rcases hf f hfl with hnew | hold
    · omega
    · exact hgone f hold

omit [DecidableEq Client] in
/-- So does an answer, which takes the flight away. -/
theorem Cleared.answered {log : List (CloudEvent Client)} {w w' : Cloud Client} (h : Cleared log w)
    {e : CloudEvent Client} {g : Flight Client} (he : ∀ op, e.Answers op → g.op = op) (hg : g.op < w.issued)
    (hi : w'.issued = w.issued) (hf : w'.flights = w.flights.filter (·.op != g.op)) : Cleared (e :: log) w' := by
  intro e' he' op hop
  rw [hi, hf]
  rcases List.mem_cons.1 he' with rfl | he'
  · obtain rfl := he op hop
    refine ⟨hg, fun f hfl => ?_⟩
    simpa using (List.mem_filter.1 hfl).2
  · obtain ⟨hlt, hgone⟩ := h e' he' op hop
    exact ⟨hlt, fun f hfl => hgone f (List.mem_filter.1 hfl).1⟩

theorem cleared {log : List (CloudEvent Client)} (h : (cloudSystem account).Valid log) :
    Cleared log (cloud account log) := by
  refine h.invariant (I := Cleared) (fun e he => by cases he) ?_
  intro e log hv hok ih
  cases e with
  | deliver client screen view => exact ih.unanswered (fun _ => id) (Nat.le_refl _) fun f hf => .inr hf
  | issue client s =>
    refine ih.unanswered (fun _ => id) (Nat.le_of_lt (issued_lt_issue ..)) fun f hf => ?_
    rcases mem_flights_issue hf with rfl | hf
    · exact .inl rfl
    · exact .inr hf
  | land g => exact ih.answered (fun _ => id) (flying account hok.flying).2 rfl rfl
  | reject g => exact ih.answered (fun _ => id) (flying account hok).2 rfl rfl

theorem answers_fresh {log : List (CloudEvent Client)} {e : CloudEvent Client}
    (h : (cloudSystem account).Valid (e :: log)) {op : Nat} (he : e.Answers op) :
    ∀ e' ∈ log, ¬ e'.Answers op := by
  intro e' he' hop
  have hgone := (cleared account h.2 e' he' op hop).2
  cases e with
  | deliver client screen view => exact he
  | issue client s => exact he
  | land f => exact hgone f h.1.flying he
  | reject f => exact hgone f h.1 he

/-- Two answers to one operation are the same event at the same point of the run. -/
theorem answered_once {log : List (CloudEvent Client)} (h : (cloudSystem account).Valid log)
    {e e' : CloudEvent Client} {fs fs' : List (CloudEvent Client)} (hs : e :: fs <:+ log) (hs' : e' :: fs' <:+ log)
    {op : Nat} (he : e.Answers op) (he' : e'.Answers op) : e :: fs = e' :: fs' := by
  rcases suffix_cases hs hs' with heq | hle | hle
  · exact heq
  · exact absurd he (answers_fresh account (h.of_suffix hs') he' e (hle.subset (List.mem_cons_self ..)))
  · exact absurd he' (answers_fresh account (h.of_suffix hs) he e' (hle.subset (List.mem_cons_self ..)))

theorem Acknowledged.not_rejected {log : List (CloudEvent Client)} (h : (cloudSystem account).Valid log) {op : Nat}
    (hack : Acknowledged account log op) : ¬ Rejected account log op := by
  obtain ⟨f, fs, hfs, hop, hacc⟩ := hack
  rintro ⟨g, gs, hop', hgs | ⟨hgs, hrej⟩⟩
  · cases answered_once account h hfs hgs hop hop'
  · cases answered_once account h hfs hgs hop hop'
    exact hrej hacc

theorem Acknowledged.mono {log log' : List (CloudEvent Client)} {op : Nat} (h : Acknowledged account log' op)
    (hs : log' <:+ log) : Acknowledged account log op := by
  obtain ⟨f, fs, hfs, hf⟩ := h
  exact ⟨f, fs, hfs.trans hs, hf⟩

/-! ## Operations are numbered apart -/

theorem issued_le {log log' : List (CloudEvent Client)} (h : log' <:+ log) :
    (cloud account log').issued ≤ (cloud account log).issued := by
  induction log with
  | nil => rw [List.suffix_nil.1 h]
  | cons e log ih =>
    rcases List.suffix_cons_iff.1 h with rfl | h
    · exact Nat.le_refl _
    · refine (ih h).trans ?_
      cases e with
      | issue client s => exact Nat.le_of_lt (issued_lt_issue ..)
      | _ => exact Nat.le_refl _

theorem IssuedAs.lt {log : List (CloudEvent Client)} {op : Nat} {s : Step} (h : IssuedAs account log op s) :
    op < (cloud account log).issued := by
  obtain ⟨client, older, hs, rfl⟩ := h
  exact Nat.lt_of_lt_of_le (issued_lt_issue (cloud account older) client s) (issued_le account hs)

theorem IssuedAs.mono {log log' : List (CloudEvent Client)} {op : Nat} {s : Step} (h : IssuedAs account log' op s)
    (hs : log' <:+ log) : IssuedAs account log op s := by
  obtain ⟨client, older, ho, hop⟩ := h
  exact ⟨client, older, ho.trans hs, hop⟩

theorem IssuedAs.unique {log : List (CloudEvent Client)} {op : Nat} {s s' : Step} (h : IssuedAs account log op s)
    (h' : IssuedAs account log op s') : s = s' := by
  obtain ⟨client, older, hs, hop⟩ := h
  obtain ⟨client', older', hs', hop'⟩ := h'
  rcases suffix_cases hs hs' with heq | hle | hle
  · cases heq
    rfl
  · have hlt : op < _ := IssuedAs.lt account ⟨client, older, hle, hop⟩
    omega
  · have hlt : op < _ := IssuedAs.lt account ⟨client', older', hle, hop'⟩
    omega

/-! ## What is shown, and when -/

/-- A new item on the screen was put there at once by the handler of its operation, or when its write landed. -/
theorem shown_step {w : Cloud Client} {e : CloudEvent Client} {op : Nat} {c : UiCommand}
    (h : (op, c) ∈ (w.step account e).shown) : (op, c) ∈ w.shown ∨
      (∃ client s r, e = .issue client s ∧ s.action.react s.env = .ok r ∧ op = w.issued ∧ c ∈ r.atOnce) ∨
      ∃ f, e = .land f ∧ op = f.op ∧ c ∈ w.answer f := by
  cases e with
  | deliver client screen view => exact .inl h
  | issue client s =>
    simp only [Cloud.step, Cloud.issue] at h
    split at h
    · exact .inl h
    · rename_i r hr
      rcases List.mem_append.1 h with h | h
      · obtain ⟨c', hc, heq⟩ := List.mem_map.1 (List.mem_reverse.1 h)
        cases heq
        exact .inr (.inl ⟨client, s, r, rfl, hr, rfl, hc⟩)
      · exact .inl h
  | land f =>
    rcases List.mem_append.1 h with h | h
    · obtain ⟨c', hc, heq⟩ := List.mem_map.1 (List.mem_reverse.1 h)
      cases heq
      exact .inr (.inr ⟨f, rfl, rfl, hc⟩)
    · exact .inl h
  | reject f => exact .inl h

omit [DecidableEq Client] in
theorem answer_accepted {w : Cloud Client} {f : Flight Client} {c : UiCommand} (h : c ∈ w.answer f) :
    f.Accepted w.store := by
  unfold Cloud.answer at h
  split at h
  · cases h
  · rename_i r hr
    split at h
    · rename_i write hwrite
      split at h
      · rename_i hacc
        exact ⟨write, by rw [Step.write, hr]; exact hwrite, hacc⟩
      · cases h
    · cases h

/-- At once, only a delete shows a message: every other handler at most closes its page or its dialog. -/
theorem atOnce_suffix_pop {action : Action} (hd : action.isDelete = false) {env : Env} {r : Reaction}
    (h : action.react env = .ok r) : r.atOnce <:+ [.pop] := by
  cases action with
  | create exit page =>
    cases exit with
    | backArrow =>
      cases h
      unfold NoteTakingPage.backArrow
      split <;> exact List.suffix_refl _
    | saveIcon => cases h; exact List.suffix_refl _
  | edit exit page => cases exit <;> exact saveHandler_atOnce h
  | editFavorite exit page => cases exit <;> exact saveHandler_atOnce h
  | toggleFavorite note => rw [(SavedNotes.addToFavorites_frame h).2]; exact List.nil_suffix
  | removeFromFavorites note => rw [(Favorites.removeFromFavorites_frame h).2]
  | delete note => cases hd

/-- Only a delete announces what is not acknowledged. -/
theorem announced_cases {log : List (CloudEvent Client)} {op : Nat} {c : UiCommand}
    (h : (op, c) ∈ (cloud account log).shown) (hann : c.Announces) :
    Acknowledged account log op ∨ ∃ s, IssuedAs account log op s ∧ s.action.isDelete = true := by
  induction log with
  | nil => cases h
  | cons e log ih =>
    have hsuf : log <:+ e :: log := List.suffix_cons _ _
    rcases shown_step account h with hold | ⟨client, s, r, rfl, hr, rfl, hc⟩ | ⟨f, rfl, rfl, hc⟩
    · rcases ih hold with hack | ⟨s, hs, hd⟩
      · exact .inl (hack.mono account hsuf)
      · exact .inr ⟨s, hs.mono account hsuf, hd⟩
    · refine .inr ⟨s, ⟨client, log, List.suffix_refl _, rfl⟩, ?_⟩
      by_contra hd
      -- the handler of any other action has only popped
      obtain rfl := List.mem_singleton.1 ((atOnce_suffix_pop (by simpa using hd) hr).subset hc)
      exact hann
    · exact .inl ⟨f, log, List.suffix_refl _, rfl, answer_accepted hc⟩

theorem truthful_of_not_delete {log : List (CloudEvent Client)} (h : (cloudSystem account).Valid log) {op : Nat}
    (hd : ∀ s, IssuedAs account log op s → s.action.isDelete = false) : Truthful account log op := by
  intro c hc hann
  rcases announced_cases account hc hann with hack | ⟨s, hs, hdel⟩
  · exact ⟨hack, hack.not_rejected account h⟩
  · rw [hd s hs] at hdel
    cases hdel

theorem delete_untruthful {log : List (CloudEvent Client)} {client : Client} {s : Step}
    (h : (cloudSystem account).Valid (.issue client s :: log)) (hd : s.action.isDelete = true) :
    ¬ Truthful account (.issue client s :: log) (cloud account log).issued := by
  obtain ⟨note, haction⟩ : ∃ note, s.action = .delete note := by
    cases ha : s.action with
    | delete note => exact ⟨note, rfl⟩
    | _ => rw [ha] at hd; cases hd
  obtain ⟨screen, r, k, d, hr, -, hd, rfl⟩ := h.1.tile note (by rw [haction]; rfl)
  obtain ⟨e, -, hjson⟩ := delivered_entry h.2 hr hd
  have hreact : s.action.react s.env = .ok {
      write := some (.delete k), atOnce := [.pop, .showSnackBar "Delete Successful!"],
      provider := s.env.provider } := by
    rw [haction, hjson]
    exact delete_json ..
  have hshown : ((cloud account log).issued, .showSnackBar "Delete Successful!") ∈
      ((cloud account log).issue client s).shown := by
    rw [Cloud.issue, hreact]
    exact List.mem_cons_self ..
  intro htrue
  obtain ⟨⟨f, log', hs, hop, -⟩, -⟩ := htrue _ hshown (List.mem_cons_self ..)
  -- an acknowledgement would be of an operation issued before
  rcases List.suffix_cons_iff.1 hs with heq | hs
  · cases heq
  · have hlt := (cleared account h.2 (.land f) (hs.subset (List.mem_cons_self ..)) f.op rfl).1
    omega

/-- The success messages of a run all follow the acknowledgements of their operations, and none is of a
rejected operation, exactly when no delete was confirmed in it. In any run, with the deletes of others in
flight too, the messages of one operation do so exactly when it is not a delete. -/
theorem announced_iff (log : List (CloudEvent Client)) (h : (cloudSystem account).Valid log) :
    ((∀ log', log' <:+ log → ∀ op, Truthful account log' op) ↔
      ∀ client s, .issue client s ∈ log → s.action.isDelete = false) ∧
    ∀ op s, IssuedAs account log op s →
      ((∀ log', log' <:+ log → Truthful account log' op) ↔ s.action.isDelete = false) := by
  refine ⟨⟨fun htrue client s hmem => ?_, fun hd log' hs op => ?_⟩, fun op s hop => ⟨fun htrue => ?_, ?_⟩⟩
  · obtain ⟨newer, older, rfl⟩ := List.append_of_mem hmem
    have hs : .issue client s :: older <:+ newer ++ .issue client s :: older := List.suffix_append _ _
    by_contra hd
    exact delete_untruthful account (h.of_suffix hs) (by simpa using hd) (htrue _ hs _)
  · refine truthful_of_not_delete account (h.of_suffix hs) fun s hop => ?_
    obtain ⟨client, older, ho, -⟩ := hop
    exact hd client s ((ho.trans hs).subset (List.mem_cons_self ..))
  · obtain ⟨client, older, hs, rfl⟩ := hop
    by_contra hd
    exact delete_untruthful account (h.of_suffix hs) (by simpa using hd) (htrue _ hs)
  · intro hd log' hs
    refine truthful_of_not_delete account (h.of_suffix hs) fun s' hop' => ?_
    rwa [(hop'.mono account hs).unique account hop]

end Announced

namespace TwoDevices

/-- The toggle is acknowledged and shows its message; the edit lands after it. -/
theorem announced_iff_toggleFirst : (cloudSystem account).Valid toggleFirst ∧
    (2, .showSnackBar "Added to Favorites!") ∈ (cloud account toggleFirst).shown ∧
    ∀ log', log' <:+ toggleFirst → ∀ op, Truthful account log' op := by
  refine ⟨toggleFirst_valid, .head _, (announced_iff account toggleFirst toggleFirst_valid).1.2 ?_⟩
  intro client s hs
  simp only [toggleFirst, bothSent, List.mem_cons, reduceCtorEq, CloudEvent.issue.injEq, List.not_mem_nil,
    false_or, or_false] at hs
  rcases hs with ⟨-, rfl⟩ | ⟨-, rfl⟩ | ⟨-, rfl⟩ <;> rfl

/-- The delete is rejected, and has announced its success. -/
theorem rejected_delete_announced :
    (cloudSystem account).Valid (.reject deleteFlight :: .issue .laptop delete :: bothSent) ∧
    (3, .showSnackBar "Delete Successful!") ∈
      (cloud account (.reject deleteFlight :: .issue .laptop delete :: bothSent)).shown ∧
    (cloud account (.reject deleteFlight :: .issue .laptop delete :: bothSent)).store (lit "n1") = some draft ∧
    ¬ Truthful account (.reject deleteFlight :: .issue .laptop delete :: bothSent) 3 := by
  have hshown : (3, .showSnackBar "Delete Successful!") ∈
      (cloud account (.reject deleteFlight :: .issue .laptop delete :: bothSent)).shown := .head _
  refine ⟨⟨.head _, deleteFirst_valid.of_suffix (List.suffix_append [_, _, _] _)⟩, hshown, rfl, fun htrue => ?_⟩
  exact (htrue _ hshown (.head _)).2 ⟨deleteFlight, _, rfl, .inl (List.suffix_refl _)⟩

end TwoDevices

end Notely
