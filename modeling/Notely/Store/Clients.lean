/-
The devices. A client acts on results that came to it, the last one or an older one a dialog or an open editor
still holds. A device answers a query from what it has: documents as the collection had them at some point, with
its own writes laid over them before they land, also such as are then refused. A write goes out and lands, or is
refused, at any later time and in any order with the writes of the others; only to a note whose create has not
landed nothing else does. The documents are then those of the landed steps taken one after another
(`landed_run`): the collection as a system is what the devices refine.
-/
import Notely.Store.Shelf

namespace Notely

open DocStore

/-- A write on its way: the operation that issued it, and the step whose write it is. -/
structure Flight (Client : Type) where
  op : Nat
  client : Client
  step : Step

/-- The collection, what was delivered to whom (newest first), the writes in flight, each device's
provider, the number of operations so far and what they ran on the screen (newest first). -/
structure Cloud (Client : Type) where
  store : Notes := fun _ => none
  delivered : List (Client × ListScreen × Notes) := []
  flights : List (Flight Client) := []
  provider : Client → IsFavoriteProvider := fun _ => {}
  issued : Nat := 0
  shown : List (Nat × UiCommand) := []

/-- What can happen between the devices and the collection. -/
inductive CloudEvent (Client : Type)
  /-- the query of a screen is answered from the documents `view` -/
  | deliver (client : Client) (screen : ListScreen) (view : Notes)
  /-- a handler runs -/
  | issue (client : Client) (step : Step)
  /-- a write is applied, and acknowledged unless it updates a missing document -/
  | land (flight : Flight Client)
  /-- a write is refused -/
  | reject (flight : Flight Client)

section Clients

variable {Client : Type} [DecidableEq Client] (account : Client → Str)

namespace Cloud

/-- A handler runs: what it does at once happens, its write takes off. -/
def issue (w : Cloud Client) (client : Client) (step : Step) : Cloud Client :=
  match step.action.react step.env with
  | .error _ => { w with issued := w.issued + 1 }
  | .ok r => { w with
      issued := w.issued + 1
      provider := Function.update w.provider client r.provider
      shown := (r.atOnce.map (w.issued, ·)).reverse ++ w.shown
      flights := match r.write with
        | some _ => ⟨w.issued, client, step⟩ :: w.flights
        | none => w.flights }

/-- The commands a landed write is answered with, when the server acknowledges it. -/
def answer (w : Cloud Client) (flight : Flight Client) : List UiCommand :=
  match flight.step.action.react flight.step.env with
  | .error _ => []
  | .ok r => match r.write with
    | some write => if accepts w.store write then r.onAck else []
    | none => []

/-- A write lands: it is applied, and what waits for its acknowledgement happens. -/
def land (w : Cloud Client) (flight : Flight Client) : Cloud Client := { w with
  store := flight.step.exec w.store
  flights := w.flights.filter (·.op != flight.op)
  shown := ((w.answer flight).map (flight.op, ·)).reverse ++ w.shown }

/-- What an event does. -/
def step (w : Cloud Client) : CloudEvent Client → Cloud Client
  | .deliver client screen view =>
    { w with delivered := (client, screen, screen.result (account client) view) :: w.delivered }
  | .issue client step => w.issue client step
  | .land flight => w.land flight
  | .reject flight => { w with flights := w.flights.filter (·.op != flight.op) }

end Cloud

/-- The cloud after a log. -/
def cloud (log : List (CloudEvent Client)) : Cloud Client := Trace.after {} (Cloud.step account) log

/-- What a client may have under an id: a document the collection had at some point, or a note the client created,
and either with the client's own updates laid over it, landed or not. -/
def Cached (log : List (CloudEvent Client)) (client : Client) : Str → Doc → Prop :=
  Version Fields.overlay (fun k d => ∃ fs, fs <:+ log ∧ (cloud account fs).store k = some d)
    fun w => ∃ s, .issue client s ∈ log ∧ s.write = some w

/-- A handler is run by the signed-in user, with the device's provider, on a tile of a screen that
offers it, built from a result delivered to that device; `doc()` yields an id no create was given. -/
structure IssueOk (log : List (CloudEvent Client)) (client : Client) (s : Step) : Prop where
  user : s.user = account client
  provider : s.provider = (cloud account log).provider client
  tile : ∀ note, s.action.note = some note → ∃ screen r k d, (client, screen, r) ∈ (cloud account log).delivered ∧
    s.action.offeredOn screen = true ∧ r k = some d ∧ note = tile d
  fresh : s.action.note = none → ∀ c s', CloudEvent.issue c s' ∈ log → s'.action.note = none → s'.autoId ≠ s.autoId

/-- A device sends its writes in order, so a write to a note it has created lands after the create; when the
create was refused, there is nothing to write to and the write is refused as well. -/
structure LandOk (log : List (CloudEvent Client)) (flight : Flight Client) : Prop where
  flying : flight ∈ (cloud account log).flights
  created : flight.step.action.note ≠ none →
    ∃ w fs d, flight.step.write = some w ∧ fs <:+ log ∧ (cloud account fs).store w.target = some d

/-- The events that may follow a log. -/
def CloudEvent.Ok (log : List (CloudEvent Client)) : CloudEvent Client → Prop
  | .deliver client _ view => ∀ k d, view k = some d → Cached account log client k d
  | .issue client s => IssueOk account log client s
  | .land flight => LandOk account log flight
  | .reject flight => flight ∈ (cloud account log).flights

/-- The devices as a system. -/
def cloudSystem : Trace.System (Cloud Client) (CloudEvent Client) where
  init := {}
  step := Cloud.step account
  ok := CloudEvent.Ok account

/-- The steps whose writes have landed, newest first. -/
def landed (log : List (CloudEvent Client)) : List Step :=
  log.filterMap fun
    | .land flight => some flight.step
    | _ => none

/-! ## Any log -/

omit [DecidableEq Client] in
theorem landed_suffix {log log' : List (CloudEvent Client)} (h : log' <:+ log) : landed log' <:+ landed log :=
  h.filterMap _

theorem issue_frame (w : Cloud Client) (client : Client) (s : Step) :
    (w.issue client s).store = w.store ∧ (w.issue client s).delivered = w.delivered ∧
    (w.issue client s).issued = w.issued + 1 ∧
    ((w.issue client s).flights = w.flights ∨ (w.issue client s).flights = ⟨w.issued, client, s⟩ :: w.flights) := by
  unfold Cloud.issue
  split
  · exact ⟨rfl, rfl, rfl, .inl rfl⟩
  · refine ⟨rfl, rfl, rfl, ?_⟩
    split
    · exact .inr rfl
    · exact .inl rfl

theorem mem_flights_issue {w : Cloud Client} {client : Client} {s : Step} {f : Flight Client}
    (hf : f ∈ (w.issue client s).flights) : f = ⟨w.issued, client, s⟩ ∨ f ∈ w.flights := by
  rcases (issue_frame w client s).2.2.2 with hfl | hfl <;> rw [hfl] at hf
  · exact .inr hf
  · exact List.mem_cons.1 hf

/-- The documents are the ones the landed steps lead to. -/
theorem cloud_store : ∀ log : List (CloudEvent Client), (cloud account log).store = store (landed log)
  | [] => rfl
  | e :: log => by
    have ih := cloud_store log
    cases e with
    | deliver client screen view => exact ih
    | issue client s => exact (issue_frame _ client s).1.trans ih
    | land f =>
      show f.step.exec (cloud account log).store = _
      rw [ih]; rfl
    | reject f => exact ih

theorem flying : ∀ {log : List (CloudEvent Client)} {f : Flight Client}, f ∈ (cloud account log).flights →
    CloudEvent.issue f.client f.step ∈ log ∧ f.op < (cloud account log).issued
  | [], f, hf => by cases hf
  | e :: log, f, hf => by
    have hold : f ∈ (cloud account log).flights →
        CloudEvent.issue f.client f.step ∈ e :: log ∧ f.op < (cloud account log).issued :=
      fun hf => ⟨List.mem_cons_of_mem _ (flying hf).1, (flying hf).2⟩
    cases e with
    | deliver client screen view => exact hold hf
    | issue client s =>
      have hissued : (cloud account (.issue client s :: log)).issued = (cloud account log).issued + 1 :=
        (issue_frame _ client s).2.2.1
      rw [hissued]
      rcases mem_flights_issue hf with rfl | hf
      · exact ⟨List.mem_cons_self .., Nat.lt_succ_self _⟩
      · exact ⟨(hold hf).1, Nat.lt_succ_of_lt (hold hf).2⟩
    | land g => exact hold (List.mem_filter.1 hf).1
    | reject g => exact hold (List.mem_filter.1 hf).1

/-- A delivered result is the answer of the query to some view. -/
theorem delivered_at {client : Client} {screen : ListScreen} {r : Notes} : ∀ {log : List (CloudEvent Client)},
    (client, screen, r) ∈ (cloud account log).delivered →
    ∃ view before, .deliver client screen view :: before <:+ log ∧ r = screen.result (account client) view
  | [], h => by cases h
  | e :: log, h => by
    have hrest : (client, screen, r) ∈ (cloud account log).delivered →
        ∃ view before, .deliver client screen view :: before <:+ e :: log ∧
          r = screen.result (account client) view := by
      intro h
      obtain ⟨view, before, hb, hr⟩ := delivered_at h
      exact ⟨view, before, hb.trans (List.suffix_cons e log), hr⟩
    cases e with
    | deliver c scr view =>
      rcases List.mem_cons.1 h with h | h
      · cases h
        exact ⟨view, log, List.suffix_refl _, rfl⟩
      · exact hrest h
    | issue c s =>
      have hd : (cloud account (.issue c s :: log)).delivered = (cloud account log).delivered :=
        (issue_frame _ c s).2.1
      rw [hd] at h
      exact hrest h
    | land f => exact hrest h
    | reject f => exact hrest h

theorem cached_of_store {log : List (CloudEvent Client)} {client : Client} {k : Str} {d : Doc}
    (h : (cloud account log).store k = some d) : Cached account log client k d :=
  .base ⟨log, List.suffix_refl _, h⟩

/-- What a client may have is a whole note, which the collection had or a write of the client carries. -/
theorem cached_cases {log : List (CloudEvent Client)} {client : Client} {k : Str} {d : Doc}
    (h : Cached account log client k d) : (∃ e : Entry, d = e.json k) ∧
      ((∃ fs, fs <:+ log ∧ (cloud account fs).store k = some d) ∨
        ∃ s, .issue client s ∈ log ∧ (s.write = some (.set k d) ∨ s.write = some (.update k d))) := by
  obtain ⟨hd, hcases⟩ := h.had_or_own (C := fun d => ∃ e : Entry, d = e.json k)
    (fun d ⟨fs, _, hd⟩ => store_entry (by rw [← cloud_store account fs]; exact hd))
    (fun w x ⟨s, _, hw⟩ hk hx => by
      obtain ⟨e, he, -⟩ := Step.write_doc hw hx
      exact ⟨e, hk ▸ he⟩)
    (fun d x ⟨e, he⟩ ⟨f, hf⟩ => by rw [he, hf]; exact Entry.overlay_json k e f)
  refine ⟨hd, ?_⟩
  rcases hcases with hhad | ⟨s, hs, hw⟩ | ⟨s, hs, hw⟩
  · exact .inl hhad
  · exact .inr ⟨s, hs, .inl hw⟩
  · exact .inr ⟨s, hs, .inr hw⟩

/-! ## What the documents are like -/

/-- Every document of the collection so far, every one a write has carried and every delivered one is such as
`T` says. -/
structure AllDocs (T : Str → Doc → Prop) (log : List (CloudEvent Client)) : Prop where
  stored : ∀ fs, fs <:+ log → ∀ k d, (cloud account fs).store k = some d → T k d
  written : ∀ client s, .issue client s ∈ log → ∀ w x, s.write = some w → w.doc = some x → T w.target x
  delivered : ∀ client screen r, (client, screen, r) ∈ (cloud account log).delivered → ∀ k d, r k = some d → T k d

section AllDocs

variable {account} {T : Str → Doc → Prop} {log : List (CloudEvent Client)}

/-- The documents stored so far, when an event leaves the collection as it is. -/
theorem AllDocs.stored_cons (h : AllDocs account T log) {e : CloudEvent Client}
    (hsame : (cloud account (e :: log)).store = (cloud account log).store) :
    ∀ fs, fs <:+ e :: log → ∀ k d, (cloud account fs).store k = some d → T k d :=
  Trace.forall_suffix_cons.2 ⟨hsame ▸ h.stored log (List.suffix_refl _), h.stored⟩

/-- The writes so far, when an event is no handler's. -/
theorem AllDocs.written_cons (h : AllDocs account T log) {e : CloudEvent Client} (he : ∀ c s, e ≠ .issue c s) :
    ∀ client s, .issue client s ∈ e :: log → ∀ w x, s.write = some w → w.doc = some x → T w.target x := by
  intro client s hs
  rcases List.mem_cons.1 hs with hs | hs
  · exact absurd hs.symm (he client s)
  · exact h.written client s hs

theorem AllDocs.deliver (h : AllDocs account T log) {client : Client} {screen : ListScreen} {view : Notes}
    (hview : ∀ k d, view k = some d → Cached account log client k d) :
    AllDocs account T (.deliver client screen view :: log) := by
  refine ⟨h.stored_cons rfl, h.written_cons (by rintro _ _ ⟨⟩), fun c scr r hr k d hd => ?_⟩
  rcases List.mem_cons.1 hr with hr | hr
  · cases hr
    rcases (cached_cases account (hview k d (select_eq_some.1 (result_subset hd)).1)).2 with
      ⟨fs, hfs, hst⟩ | ⟨s, hs, hw | hw⟩
    · exact h.stored fs hfs k d hst
    · exact h.written client s hs _ d hw rfl
    · exact h.written client s hs _ d hw rfl
  · exact h.delivered c scr r hr k d hd

theorem AllDocs.issue (h : AllDocs account T log) {client : Client} {s : Step}
    (hs : ∀ w x, s.write = some w → w.doc = some x → T w.target x) :
    AllDocs account T (.issue client s :: log) := by
  obtain ⟨hst, hdel, -⟩ := issue_frame (cloud account log) client s
  refine ⟨h.stored_cons hst, fun c s' hs' => ?_, fun c scr r hr => ?_⟩
  · rcases List.mem_cons.1 hs' with hs' | hs'
    · cases hs'; exact hs
    · exact h.written c s' hs'
  · have hr : (c, scr, r) ∈ ((cloud account log).issue client s).delivered := hr
    exact h.delivered c scr r (hdel ▸ hr)

theorem AllDocs.land (h : AllDocs account T log) {f : Flight Client} (hf : f ∈ (cloud account log).flights) :
    AllDocs account T (.land f :: log) := by
  refine ⟨Trace.forall_suffix_cons.2 ⟨fun k d hd => ?_, h.stored⟩, h.written_cons (by rintro _ _ ⟨⟩), h.delivered⟩
  have hwritten := h.written _ _ (flying account hf).1
  have hstored := h.stored log (List.suffix_refl _)
  change f.step.exec (cloud account log).store k = some d at hd
  rw [Step.exec] at hd
  cases hw : f.step.write with
  | none => rw [hw] at hd; exact hstored k d hd
  | some w =>
    rw [hw] at hd
    rcases apply_eq_some _ _ hd with ⟨-, hold⟩ | rfl | ⟨old, x, rfl, hold, rfl⟩
    · exact hstored k d hold
    · exact hwritten _ d hw rfl
    · -- nothing of the old document is left
      rw [cloud_store] at hold
      obtain ⟨e, rfl⟩ := store_entry hold
      obtain ⟨e', hx, -⟩ := Step.write_doc hw rfl
      have hx : x = e'.json k := hx
      rw [hx, Entry.overlay_json, ← hx]
      exact hwritten _ x hw rfl

/-- The rule for what documents are like: where results are of what the clients may have, and only what is in
flight lands, all documents are such as `T` says if each handler, run when the documents so far are, writes such
a one. -/
theorem all_docs : ∀ {log : List (CloudEvent Client)},
    (∀ client screen view fs, .deliver client screen view :: fs <:+ log →
      ∀ k d, view k = some d → Cached account fs client k d) →
    (∀ f fs, .land f :: fs <:+ log → f ∈ (cloud account fs).flights) →
    (∀ client s fs, .issue client s :: fs <:+ log → AllDocs account T fs →
      ∀ w x, s.write = some w → w.doc = some x → T w.target x) →
    AllDocs account T log
  | [], _, _, _ =>
    { stored := fun fs hfs k d hd => by rw [List.suffix_nil.1 hfs] at hd; cases hd
      written := fun client s hs => by cases hs
      delivered := fun client screen r hr => by cases hr }
  | e :: log, hdeliver, hland, hissue => by
    have hsuf : ∀ {fs : List (CloudEvent Client)}, fs <:+ log → fs <:+ e :: log :=
      fun hfs => hfs.trans (List.suffix_cons e log)
    have ih : AllDocs account T log := all_docs (fun c scr v fs hfs => hdeliver c scr v fs (hsuf hfs))
      (fun f fs hfs => hland f fs (hsuf hfs)) fun c s fs hfs => hissue c s fs (hsuf hfs)
    cases e with
    | deliver client screen view => exact ih.deliver (hdeliver client screen view log (List.suffix_refl _))
    | issue client s => exact ih.issue (hissue client s log (List.suffix_refl _) ih)
    | land f => exact ih.land (hland f log (List.suffix_refl _))
    | reject f => exact ⟨ih.stored_cons rfl, ih.written_cons (by rintro _ _ ⟨⟩), ih.delivered⟩

end AllDocs

/-! ## Runs -/

section Runs

variable {account} {log : List (CloudEvent Client)}

theorem issued_of_landed : ∀ {log : List (CloudEvent Client)}, (cloudSystem account).Valid log → ∀ {s : Step},
    s ∈ landed log → ∃ client, CloudEvent.issue client s ∈ log
  | [], _, _, hs => by cases hs
  | e :: log, h, s, hs => by
    have hrest : s ∈ landed log → ∃ client, CloudEvent.issue client s ∈ e :: log := by
      intro hs
      obtain ⟨client, hc⟩ := issued_of_landed h.2 hs
      exact ⟨client, List.mem_cons_of_mem _ hc⟩
    cases e with
    | land f =>
      rcases List.mem_cons.1 hs with rfl | hs
      · exact ⟨f.client, List.mem_cons_of_mem _ (flying account h.1.flying).1⟩
      · exact hrest hs
    | deliver client screen view => exact hrest hs
    | issue client s => exact hrest hs
    | reject f => exact hrest hs

theorem issueOk_of_mem (h : (cloudSystem account).Valid log) {client : Client} {s : Step}
    (hs : .issue client s ∈ log) : ∃ before, .issue client s :: before <:+ log ∧ IssueOk account before client s := by
  obtain ⟨later, before, rfl⟩ := List.append_of_mem hs
  have hsuf : CloudEvent.issue client s :: before <:+ later ++ .issue client s :: before := List.suffix_append _ _
  exact ⟨before, hsuf, (h.of_suffix hsuf).1⟩

theorem create_unique (h : (cloudSystem account).Valid log) {c c' : Client} {s s' : Step} (hs : .issue c s ∈ log)
    (hs' : .issue c' s' ∈ log) (hn : s.action.note = none) (hn' : s'.action.note = none)
    (hid : s.autoId = s'.autoId) : s = s' := by
  obtain ⟨before, hb, hok⟩ := issueOk_of_mem h hs
  obtain ⟨before', hb', hok'⟩ := issueOk_of_mem h hs'
  rcases Trace.suffix_cases hb hb' with heq | hle | hle
  · cases heq; rfl
  · exact absurd hid (hok'.fresh hn' c s (hle.subset (List.mem_cons_self ..)) hn)
  · exact absurd hid.symm (hok.fresh hn c' s' (hle.subset (List.mem_cons_self ..)) hn')

/-- A delivered document is one the client may have had, and is its account's. -/
theorem delivered_cached (h : (cloudSystem account).Valid log) {client : Client} {screen : ListScreen} {r : Notes}
    (hr : (client, screen, r) ∈ (cloud account log).delivered) {k : Str} {d : Doc} (hd : r k = some d) :
    (∃ before, before <:+ log ∧ Cached account before client k d) ∧ d "email" = some (.str (account client)) := by
  obtain ⟨view, before, hb, rfl⟩ := delivered_at account hr
  have hall := result_subset hd
  have hok : CloudEvent.Ok account before (.deliver client screen view) := (h.of_suffix hb).1
  exact ⟨⟨before, (List.suffix_cons _ _).trans hb, hok k d (select_eq_some.1 hall).1⟩, allNotes_email hall⟩

/-- A tile built from a delivered result is the document it was read from, a complete note. -/
theorem delivered_entry (h : (cloudSystem account).Valid log) {client : Client} {screen : ListScreen} {r : Notes}
    {k : Str} {d : Doc} (hr : (client, screen, r) ∈ (cloud account log).delivered) (hd : r k = some d) :
    ∃ e : Entry, d = e.json k ∧ tile d = e.json k := by
  obtain ⟨⟨before, -, hcached⟩, -⟩ := delivered_cached h hr hd
  obtain ⟨⟨e, rfl⟩, -⟩ := cached_cases account hcached
  exact ⟨e, rfl, Entry.tile_json k e⟩

/-- A step is started on a document of its user the client may have had before, and writes to it. -/
theorem issue_tile (h : (cloudSystem account).Valid log) {client : Client} {s : Step} (hs : .issue client s ∈ log)
    {note : Doc} (hn : s.action.note = some note) : ∃ before k d, before <:+ log ∧ before.length < log.length ∧
      Cached account before client k d ∧ d "email" = some (.str (account client)) ∧ note = tile d ∧
      ∀ w, s.write = some w → w.target = k := by
  obtain ⟨fs, hfs, hok⟩ := issueOk_of_mem h hs
  obtain ⟨screen, r, k, d, hr, -, hd, rfl⟩ := hok.tile note hn
  have hv := (h.of_suffix hfs).2
  obtain ⟨⟨before, hb, hcached⟩, hemail⟩ := delivered_cached hv hr hd
  obtain ⟨e, -, he⟩ := delivered_entry hv hr hd
  refine ⟨before, k, d, hb.trans ((List.suffix_cons _ _).trans hfs), ?_, hcached, hemail, rfl, fun w hw => ?_⟩
  · exact Nat.lt_of_le_of_lt hb.length_le (Nat.lt_of_lt_of_le (Nat.lt_succ_self _) hfs.length_le)
  · have hid : ∀ {j : Str}, doc s.env (tile d "id") = .ok j → j = k := by
      intro j hj
      rw [he, Entry.json_id] at hj
      exact (Except.ok.inj hj).symm
    cases Step.write_cases hw with
    | create hn' _ => rw [hn] at hn'; cases hn'
    | update hn' hk _ => rw [hn] at hn'; cases hn'; exact hid hk
    | delete ha hk => rw [ha] at hn; cases hn; exact hid hk

/-- What a client may have under an id that has been live, its user may have seen. -/
theorem seen_of_cached (h : (cloudSystem account).Valid log) (hl : notesSystem.Valid (landed log)) {client : Client}
    {k : Str} (hk : ¬ Fresh (landed log) k) {fs : List (CloudEvent Client)} (hfs : fs <:+ log) {d : Doc}
    (hd : Cached account fs client k d) (hemail : d "email" = some (.str (account client))) :
    Seen (landed log) (account client) k d := by
  -- an update is started on what the client had before, so the induction is on the length of the log
  induction hn : fs.length using Nat.strong_induction_on generalizing fs d with
  | _ n ih =>
    obtain ⟨⟨e, rfl⟩, ⟨gs, hgs, hst⟩ | ⟨s, hs, hw | hw⟩⟩ := cached_cases account hd
    · rw [cloud_store] at hst
      exact .result (landed_suffix (hgs.trans hfs)) (select_eq_some.2 ⟨hst, beq_iff_eq.2 hemail⟩)
    · -- the create of a live id has landed, and this was it
      obtain ⟨hcreate, rfl⟩ := Step.note_of_set hw
      obtain ⟨s', hs', hcreate', hid⟩ := create_of_not_fresh hl hk
      obtain ⟨c, hc⟩ := issued_of_landed h hs'
      obtain rfl := create_unique h hc (hfs.subset hs) hcreate' hcreate hid
      obtain ⟨later, earlier, hland⟩ := List.append_of_mem hs'
      have hst : store (s' :: earlier) s'.autoId = some (e.json s'.autoId) := by
        rw [store_cons, Step.exec, hw]
        exact apply_set_self ..
      exact .result (hland ▸ List.suffix_append _ _) (select_eq_some.2 ⟨hst, beq_iff_eq.2 hemail⟩)
    · obtain ⟨note, hnote⟩ := Step.note_of_update hw
      obtain ⟨before, j, d', hb, hlt, hd', hemail', rfl, htarget⟩ := issue_tile (h.of_suffix hfs) hs hnote
      obtain rfl : k = j := htarget _ hw
      have hseen := ih before.length (hn ▸ hlt) (hb.trans hfs) hd' hemail' rfl
      obtain ⟨_, -, hok⟩ := issueOk_of_mem h (hfs.subset hs)
      obtain ⟨e', rfl, -⟩ := hseen.entry
      have hwritten := Seen.written hseen hseen hok.user hnote hw
      rwa [Entry.overlay_json] at hwritten

end Runs

/-! ## The devices refine the collection -/

/-- What the landed steps are, and the creates that are on their way. -/
structure Linked (log : List (CloudEvent Client)) (w : Cloud Client) : Prop where
  valid : notesSystem.Valid (landed log)
  fresh : ∀ f ∈ w.flights, f.step.action.note = none → Fresh (landed log) f.step.autoId
  /-- two creates in flight have different ids -/
  apart : ∀ f ∈ w.flights, ∀ g ∈ w.flights, f.step.action.note = none → g.step.action.note = none →
    f.step.autoId = g.step.autoId → f = g

section Linked

variable {account} {log : List (CloudEvent Client)}

theorem issue_fresh (h : (cloudSystem account).Valid log) (hl : notesSystem.Valid (landed log)) {client : Client}
    {s : Step} (hok : IssueOk account log client s) (hn : s.action.note = none) : Fresh (landed log) s.autoId := by
  by_contra hf
  obtain ⟨s', hs', hn', hid⟩ := create_of_not_fresh hl hf
  obtain ⟨c, hc⟩ := issued_of_landed h hs'
  exact hok.fresh hn c s' hc hn' hid

theorem linked_issue (h : (cloudSystem account).Valid log) (hl : Linked log (cloud account log)) {client : Client}
    {s : Step} (hok : IssueOk account log client s) :
    Linked (.issue client s :: log) ((cloud account log).issue client s) := by
  refine ⟨hl.valid, fun f hf hn => ?_, fun f hf g hg hnf hng hid => ?_⟩
  · rcases mem_flights_issue hf with rfl | hf
    · exact issue_fresh h hl.valid hok hn
    · exact hl.fresh f hf hn
  · rcases mem_flights_issue hf with rfl | hf <;> rcases mem_flights_issue hg with rfl | hg
    · rfl
    · exact absurd hid.symm (hok.fresh hnf _ _ (flying account hg).1 hng)
    · exact absurd hid (hok.fresh hng _ _ (flying account hf).1 hnf)
    · exact hl.apart f hf g hg hnf hng hid

theorem land_valid (h : (cloudSystem account).Valid log) (hl : Linked log (cloud account log)) {f : Flight Client}
    (hok : LandOk account log f) : notesSystem.Valid (f.step :: landed log) := by
  refine ⟨⟨fun note hn => ?_, hl.fresh f hok.flying⟩, hl.valid⟩
  have hissued := (flying account hok.flying).1
  obtain ⟨before, k, d, hb, -, hd, hemail, rfl, htarget⟩ := issue_tile h hissued hn
  obtain ⟨w, fs, d₀, hw, hfs, hst⟩ := hok.created (by rw [hn]; exact Option.some_ne_none _)
  rw [cloud_store, htarget w hw] at hst
  have hlive : ¬ Fresh (landed log) k := fun hfresh => by
    rw [hfresh _ (landed_suffix hfs)] at hst; cases hst
  obtain ⟨_, -, hissue⟩ := issueOk_of_mem h hissued
  exact ⟨k, d, hissue.user ▸ seen_of_cached h hl.valid hlive hb hd hemail, rfl⟩

theorem linked_land (h : (cloudSystem account).Valid log) (hl : Linked log (cloud account log)) {f : Flight Client}
    (hok : LandOk account log f) : Linked (.land f :: log) ((cloud account log).land f) := by
  have hv := land_valid h hl hok
  have hmem : ∀ g ∈ ((cloud account log).land f).flights, g ∈ (cloud account log).flights ∧ g.op ≠ f.op := by
    intro g hg
    obtain ⟨hg, hop⟩ := List.mem_filter.1 hg
    exact ⟨hg, by simpa using hop⟩
  refine ⟨hv, fun g hg hn => ?_, fun g hg g' hg' => hl.apart g (hmem g hg).1 g' (hmem g' hg').1⟩
  have hfr := hl.fresh g (hmem g hg).1 hn
  refine fresh_cons.2 ⟨store_none_of_step hv (hfr _ (List.suffix_refl _)) fun hnf hid => ?_, hfr⟩
  exact (hmem g hg).2 (by rw [hl.apart g (hmem g hg).1 f hok.flying hn hnf hid])

theorem linked (h : (cloudSystem account).Valid log) : Linked log (cloud account log) := by
  refine h.invariant (I := Linked) ⟨trivial, fun f hf => (by cases hf), fun f hf => (by cases hf)⟩ ?_
  intro e log hv hok ih
  cases e with
  | deliver client screen view => exact ⟨ih.valid, ih.fresh, ih.apart⟩
  | issue client s => exact linked_issue hv ih hok
  | land f => exact linked_land hv ih hok
  | reject f =>
    have hmem : ∀ g ∈ ((cloud account log).step account (.reject f)).flights, g ∈ (cloud account log).flights :=
      fun g hg => (List.mem_filter.1 hg).1
    exact ⟨ih.valid, fun g hg => ih.fresh g (hmem g hg), fun g hg g' hg' => ih.apart g (hmem g hg) g' (hmem g' hg')⟩

end Linked

/-- Refinement: in every run of the devices the landed steps are a run of the collection, and the
documents are the ones it leads to. -/
theorem landed_run {log : List (CloudEvent Client)} (h : (cloudSystem account).Valid log) :
    notesSystem.Valid (landed log) ∧ (cloud account log).store = store (landed log) :=
  ⟨(linked h).valid, cloud_store account log⟩

end Clients

/-! ## Two devices of one account -/

namespace TwoDevices

/-- A laptop and a phone. -/
inductive Device
  | laptop
  | phone
  deriving DecidableEq

/-- Ann's email. -/
def ann : Str := lit "ann@mail.com"

/-- Both devices are Ann's. -/
def account : Device → Str := fun _ => ann

/-- The note as it was created. -/
def draft : Doc := Entry.json (lit "n1") {
  title := lit "Shopping", description := lit "milk", email := ann, timeAdded := lit "1", isFavorite := false }

/-- The note is saved on the note-taking page. -/
def create : Step := {
  user := ann, now := lit "1", autoId := lit "n1",
  action := .create .saveIcon {
    title := lit "Shopping", description := lit "milk",
    controllerTitleText := lit "Shopping", controllerBodyText := lit "milk" } }

/-- An edit, started on the note as it was created. -/
def edit : Step := {
  user := ann, now := lit "2", autoId := lit "n2",
  action := .edit .saveIcon {
    note := draft, title := lit "Shopping", description := lit "milk",
    titleField := lit "Shopping", bodyField := lit "milk, eggs" } }

/-- A toggle of the same tile. -/
def toggle : Step := { user := ann, now := lit "3", autoId := lit "n3", action := .toggleFavorite draft }

/-- The delete of the same tile. -/
def delete : Step := { user := ann, now := lit "4", autoId := lit "n4", action := .delete draft }

/-- The write of the edit on its way. -/
def editFlight : Flight Device := ⟨1, .laptop, edit⟩

/-- The write of the toggle on its way. -/
def toggleFlight : Flight Device := ⟨2, .phone, toggle⟩

/-- The delete on its way. -/
def deleteFlight : Flight Device := ⟨3, .laptop, delete⟩

/-- Both devices show the created note; the laptop saves an edit, the phone toggles the favourite, and
both writes are on their way. -/
def bothSent : List (CloudEvent Device) := [
  .issue .phone toggle, .issue .laptop edit, .deliver .phone .savedNotes (store [create]),
  .deliver .laptop .savedNotes (store [create]), .land ⟨0, .laptop, create⟩, .issue .laptop create]

theorem draft_shown : allNotes ann (store [create]) (lit "n1") = some draft := rfl

theorem bothSent_valid : (cloudSystem account).Valid bothSent := by
  refine ⟨⟨rfl, rfl, ?_, ?_⟩, ⟨rfl, rfl, ?_, ?_⟩, fun k d hd => cached_of_store account hd,
    fun k d hd => cached_of_store account hd, ⟨.head _, fun h => absurd rfl h⟩, ⟨rfl, rfl, ?_, ?_⟩, trivial⟩
  · rintro _ ⟨⟩
    exact ⟨.savedNotes, _, lit "n1", draft, .head _, rfl, draft_shown, rfl⟩
  · intro h; cases h
  · rintro _ ⟨⟩
    exact ⟨.savedNotes, _, lit "n1", draft, .tail _ (.head _), rfl, draft_shown, rfl⟩
  · intro h; cases h
  · intro _ h; cases h
  · intro _ _ _ h; cases h

/-- Since then, whatever is on its way to the note may land. -/
theorem land_ok {log : List (CloudEvent Device)} (hs : bothSent <:+ log) {f : Flight Device} {w : NoteWrite}
    (hf : f ∈ (cloud account log).flights) (hw : f.step.write = some w) (ht : w.target = lit "n1") :
    LandOk account log f :=
  ⟨hf, fun _ => ⟨w, bothSent, draft, hw, hs, ht ▸ rfl⟩⟩

/-- The toggle lands first. -/
def toggleFirst : List (CloudEvent Device) := .land editFlight :: .land toggleFlight :: bothSent

theorem toggleFirst_valid : (cloudSystem account).Valid toggleFirst :=
  ⟨land_ok (List.suffix_cons _ _) (.head _) rfl rfl, land_ok (List.suffix_refl _) (.head _) rfl rfl, bothSent_valid⟩

/-- The edit lands first. -/
def editFirst : List (CloudEvent Device) := .land toggleFlight :: .land editFlight :: bothSent

theorem editFirst_valid : (cloudSystem account).Valid editFirst :=
  ⟨land_ok (List.suffix_cons _ _) (.head _) rfl rfl, land_ok (List.suffix_refl _) (.tail _ (.head _)) rfl rfl,
    bothSent_valid⟩

/-- The laptop deletes the note before the two writes land. -/
def deleteFirst : List (CloudEvent Device) :=
  .land editFlight :: .land toggleFlight :: .land deleteFlight :: .issue .laptop delete :: bothSent

theorem deleteFirst_valid : (cloudSystem account).Valid deleteFirst := by
  refine ⟨land_ok (List.suffix_append [_, _, _] _) (.head _) rfl rfl,
    land_ok (List.suffix_append [_, _] _) (.head _) rfl rfl,
    land_ok (List.suffix_cons _ _) (.head _) rfl rfl, ⟨rfl, rfl, ?_, ?_⟩, bothSent_valid⟩
  · rintro _ ⟨⟩
    exact ⟨.savedNotes, _, lit "n1", draft, .tail _ (.head _), rfl, draft_shown, rfl⟩
  · intro h; cases h

end TwoDevices

end Notely
