/-
Signing out. The handler waits twice, and then navigates only if its drawer is still there; otherwise it
is left to the stream to take the notes off the screen, and the stream reaches only the gated routes. So
a sign-out leaves no notes behind exactly when the drawer is there at its end, or every notes route is
gated; and if besides no notes are opened while nobody is signed in, a signed-out app never shows any.
-/
import Notely.Session.Entry

namespace Notely

open Navigator (Op)

/-! ## Notes on the stack -/

/-- No route shows notes. -/
def NoNotes (w : App) : Prop := ∀ r ∈ w.stack, r.screen.isNotes = false

/-- Only routes that follow the stream show notes. -/
def NotesGated (w : App) : Prop := ∀ r ∈ w.stack, r.screen.isNotes = true → r.gate ≠ none

/-- The stream has given every gated route the current user. -/
def Settled (w : App) : Prop :=
  ∀ r ∈ w.stack, ∀ gate, r.gate = some gate → r.screen = gate.builder (.data w.currentUser)

/-- The stream gives a route the current user. -/
def Event.isDelivery : Event → Bool
  | deliver _ => true
  | _ => false

/-- The condition on a step: a sign-out ends with its drawer still there or with gated notes only, and
notes are opened only while somebody is signed in. -/
def LeavesClean (w : App) : Event → Prop
  | .signOutReply context (.ok _) => w.drawerMounted context = true ∨ NotesGated w
  | .tap .favorites => w.currentUser ≠ none
  | .tap .newNote => w.currentUser ≠ none
  | .tap .openNote => w.currentUser ≠ none
  | e => AsksFirst w e

/-- With nobody signed in, the stream takes the notes off every gated route. -/
theorem noNotes_of_settled {w : App} (hu : w.currentUser = none) (hs : Settled w) (hg : NotesGated w) : NoNotes w := by
  intro r hr
  cases hn : r.screen.isNotes with
  | false => rfl
  | true =>
    obtain ⟨gate, hgate⟩ := Option.ne_none_iff_exists'.1 (hg r hr hn)
    rw [hs r hr gate hgate, hu] at hn
    cases gate <;> cases hn

/-! ## The end of a sign-out -/

theorem notesGated_signOut {w : App} {context : Nat} :
    NotesGated (w.step (.signOutReply context (.ok ()))) ↔ w.drawerMounted context = true ∨ NotesGated w := by
  cases hd : w.drawerMounted context with
  | true =>
    refine iff_of_true ?_ (.inl rfl)
    intro r hr hn
    simp only [App.step, Event.effect, MyDrawer.signOutReply, hd, if_true, App.removeAll, Navigator.applyAll_cons,
      Navigator.apply_removeAll, Navigator.applyAll_nil, List.mem_singleton] at hr
    rw [hr] at hn; cases hn
  | false =>
    have hstack : (w.step (.signOutReply context (.ok ()))).stack = w.stack := by
      simp [App.step, Event.effect, MyDrawer.signOutReply, hd, Event.delivery, App.rebuild]
    simp [NotesGated, hstack]

theorem ungated_deliver {w : App} {page : Nat} {r : Route} (hr : r ∈ w.stack) (hg : r.gate = none) :
    r ∈ (w.step (.deliver page)).stack := by
  refine List.mem_map.2 ⟨r, hr, ?_⟩
  split
  · unfold Route.rebuild
    rw [hg]
  · rfl

theorem gated_rebuild {r : Route} {page : Nat} {snapshot : Snapshot} (h : r.screen.isNotes = true → r.gate ≠ none) :
    (r.rebuild page snapshot).screen.isNotes = true → (r.rebuild page snapshot).gate ≠ none := by
  rcases rebuild_cases r page snapshot with hc | ⟨gate, hgate, hc⟩ <;> rw [hc]
  · exact h
  · intro _
    show r.gate ≠ none
    rw [hgate]; exact Option.some_ne_none gate

theorem notesGated_deliver {w : App} {page : Nat} (he : (Event.deliver page).enabled w = true) :
    NotesGated (w.step (.deliver page)) ↔ NotesGated w := by
  constructor
  · intro h r hr hn hg
    exact h r (ungated_deliver hr hg) hn hg
  · refine forall_step (P := fun r => r.screen.isNotes = true → r.gate ≠ none) he ?_ ?_ ?_
    · intro r hr
      cases hr.1
    · intro r drawer hr
      exact hr
    · intro p snapshot _ r _ hr
      exact gated_rebuild hr

/-- Deliveries change neither who is signed in nor whether ungated routes show notes. -/
theorem deliveries {w : App} : ∀ {ds es : List Event}, (appSystem w).Valid (ds ++ es) →
    (∀ e ∈ ds, e.isDelivery = true) →
    (w.after (ds ++ es)).currentUser = (w.after es).currentUser ∧
    (NotesGated (w.after (ds ++ es)) ↔ NotesGated (w.after es))
  | [], _, _, _ => ⟨rfl, Iff.rfl⟩
  | e :: ds, es, h, hd => by
    obtain ⟨hu, hg⟩ := deliveries h.2 fun e' he' => hd e' (List.mem_cons_of_mem _ he')
    cases e with
    | deliver page => exact ⟨hu, (notesGated_deliver h.1).trans hg⟩
    | _ => exact absurd (hd _ (List.mem_cons_self ..)) (by simp [Event.isDelivery])

/-! ## Signed out and clean -/

theorem currentUser_step {w : App} {e : Event} (he : e.enabled w = true) (hu : (w.step e).currentUser = none)
    (hout : ∀ context, e ≠ .signOutReply context (.ok ())) : w.currentUser = none := by
  change (e.effect w).session.currentUser = none at hu
  cases e with
  | tap t =>
    obtain ⟨eff, heff⟩ := Option.isSome_iff_exists.1 he
    have hs := (tap_brings (P := fun _ => True) heff (fun _ _ => trivial) fun _ _ => trivial).1
    simp only [Event.effect, heff, Option.getD_some, hs] at hu
    exact hu
  | signinReply context result =>
    rcases result with ⟨_ | _⟩ | user
    · exact hu
    · exact hu
    · cases hu
  | signUpReply context email created result =>
    rcases result with ⟨_ | _⟩ | _
    · exact hu
    · exact hu
    · cases hu
  | updateDisplayNameReply email username result =>
    rcases result with _ | _
    · exact hu
    · exact Option.map_eq_none_iff.1 hu
  | googleReply button context reply =>
    simp only [Event.effect, GoogleButton.reply] at hu
    rcases resume_cases reply w.toSession with ⟨-, hr⟩ | ⟨-, s, await, hr, hs⟩ | ⟨-, user, hr⟩ <;> rw [hr] at hu
    · exact hu
    · exact hs.symm.trans hu
    · cases hu
  | signOutReply context result =>
    rcases result with _ | _
    · exact hu
    · exact absurd rfl (hout context)
  | accountCreated context email => cases hu
  | back => exact hu
  | dismiss => exact hu
  | deliver page => exact hu
  | deliverError page => exact hu
  | build page => exact hu
  | delayOver context => exact hu

/-- Under the condition no handler pushes notes while nobody is signed in. -/
theorem screens_not_notes {w : App} {e : Event} (h : LeavesClean w e) (hu : w.currentUser = none)
    (hu' : (w.step e).currentUser = none) : ∀ screen ∈ e.screens w, screen.isNotes = false := by
  intro screen hs
  cases e with
  | tap t =>
    cases t with
    | allNotes => exact absurd hu h
    | favorites => exact absurd hu h
    | newNote => exact absurd hu h
    | openNote => exact absurd hu h
    | google => cases hs
    | menu => cases hs
    | signOut => cases hs
    | _ => rw [List.mem_singleton.1 hs]; rfl
  | signinReply context result =>
    rcases result with _ | user
    · rw [List.mem_singleton.1 hs]; rfl
    · cases hu'
  | signUpReply context email created result =>
    rcases result with _ | _
    · rw [List.mem_singleton.1 hs]; rfl
    · cases hu'
  | googleReply button context reply =>
    have hasks := asksFirst_googleReply.1 h
    change (GoogleButton.reply button w context reply).session.currentUser = none at hu'
    simp only [GoogleButton.reply] at hu'
    simp only [Event.screens] at hs
    rcases resume_cases reply w.toSession with ⟨hf, hr⟩ | ⟨-, s, await, hr, -⟩ | ⟨-, user, hr⟩ <;> rw [hr] at hs hu'
    · -- the button's test fails, or somebody would be signed in
      have ht : ¬ button.test w context w.toSession = true := fun ht => hasks hf ht hu
      dsimp only at hs
      rw [if_neg ht] at hs
      rw [List.mem_singleton.1 hs]; rfl
    · cases hs
    · cases hu'
  | signOutReply context result => rw [List.mem_singleton.1 hs]; rfl
  | _ => cases hs

/-- Under the condition, with nobody signed in notes are on gated routes only. -/
theorem notesGated_step {w : App} {e : Event} (he : e.enabled w = true) (hc : LeavesClean w e)
    (ih : w.currentUser = none → NotesGated w) (hu' : (w.step e).currentUser = none) : NotesGated (w.step e) := by
  by_cases hout : ∃ context, e = .signOutReply context (.ok ())
  · obtain ⟨context, rfl⟩ := hout
    exact notesGated_signOut.2 hc
  · have hu := currentUser_step he hu' fun context hx => hout ⟨context, hx⟩
    have hnot := screens_not_notes hc hu hu'
    refine forall_step (P := fun r => r.screen.isNotes = true → r.gate ≠ none) he ?_ ?_ ?_ (ih hu)
    · intro r hr hn
      rw [hnot _ hr.1] at hn; cases hn
    · intro r drawer hr
      exact hr
    · intro page snapshot _ r _ hr
      exact gated_rebuild hr

theorem notesGated_run {user : Option User} : ∀ {log : List Event}, (appSystem (.start user)).Valid log →
    Trace.Always (fun es e => LeavesClean ((App.start user).after es) e) log →
    ((App.start user).after log).currentUser = none → NotesGated ((App.start user).after log)
  | [], _, _, _ => by
    intro r hr hn
    rw [List.mem_singleton.1 hr] at hn; cases hn
  | _ :: _, h, hc, hu => notesGated_step h.1 hc.1 (notesGated_run h.2 hc.2) hu

/-- In every run of the app: when a sign-out has ended and the stream has delivered that nobody is signed
in, no notes are on the stack exactly when the drawer was there at its end or every notes route was
gated. In a run whose steps all meet the condition no notes are on the stack whenever nobody is signed in
and the stream has delivered that. -/
theorem sign_out_leaves_no_notes (user : Option User) (log : List Event)
    (h : (appSystem (.start user)).Valid log) :
    (∀ ds context before, log = ds ++ .signOutReply context (.ok ()) :: before →
      (∀ e ∈ ds, e.isDelivery = true) → Settled ((App.start user).after log) →
      (NoNotes ((App.start user).after log) ↔
        ((App.start user).after before).drawerMounted context = true ∨ NotesGated ((App.start user).after before))) ∧
    (Trace.Always (fun es e => LeavesClean ((App.start user).after es) e) log →
      ∀ es, es <:+ log → ((App.start user).after es).currentUser = none → Settled ((App.start user).after es) →
        NoNotes ((App.start user).after es)) := by
  constructor
  · rintro ds context before rfl hds hset
    obtain ⟨hu, hg⟩ := deliveries h hds
    rw [← notesGated_signOut, ← App.after_cons, ← hg]
    constructor
    · intro hno r hr hn
      rw [hno r hr] at hn; cases hn
    · intro hgated
      exact noNotes_of_settled hu hset hgated
  · intro hc es hs hu hset
    exact noNotes_of_settled hu hset (notesGated_run (h.of_suffix hs) (hc.of_suffix hs) hu)

namespace FirstUse

/-- Ann opens the drawer and signs out. -/
def signsOut : List Event := .tap .signOut :: .tap .menu :: signsIn

/-- She waits with the drawer open. -/
def waits : List Event := .signOutReply 9 (.ok ()) :: .delayOver 9 :: signsOut

theorem waits_valid : (appSystem (.start none)).Valid waits := ⟨rfl, rfl, rfl, rfl, signsIn_valid⟩

/-- She closes the drawer while the handler waits. -/
def closesDrawer : List Event := .signOutReply 9 (.ok ()) :: .delayOver 9 :: .back :: signsOut

theorem closesDrawer_valid : (appSystem (.start none)).Valid closesDrawer := ⟨rfl, rfl, rfl, rfl, rfl, signsIn_valid⟩

/-- No route of hers follows the stream: signing in has removed the home. -/
theorem settled_of_ungated {w : App} (h : ∀ r ∈ w.stack, r.gate = none) : Settled w := by
  intro r hr gate hg
  rw [h r hr] at hg; cases hg

end FirstUse

open FirstUse in
theorem sign_out_leaves_no_notes_waits :
    (appSystem (.start none)).Valid waits ∧
    (NoNotes ((App.start none).after waits) ↔
      ((App.start none).after waits.tail).drawerMounted 9 = true ∨ NotesGated ((App.start none).after waits.tail)) ∧
    NoNotes ((App.start none).after waits) := by
  obtain ⟨hend, hrun⟩ := sign_out_leaves_no_notes none waits waits_valid
  have hset : Settled ((App.start none).after waits) := settled_of_ungated (by decide)
  have hclean : Trace.Always (fun es e => LeavesClean ((App.start none).after es) e) waits :=
    ⟨.inl rfl, trivial, trivial, trivial, trivial, trivial, trivial, trivial, trivial⟩
  refine ⟨waits_valid, hend [] 9 waits.tail rfl (fun e he => by cases he) hset, ?_⟩
  exact hrun hclean waits (List.suffix_refl _) rfl hset

open FirstUse in
/-- The handler is over and nobody is signed in, but `SavedNotes` is still there: the page she came to by
signing in is not gated, and the closed drawer keeps the handler from navigating. -/
theorem closed_drawer_leaves_notes :
    (appSystem (.start none)).Valid closesDrawer ∧ ((App.start none).after closesDrawer).tasks = [] ∧
    ((App.start none).after closesDrawer).currentUser = none ∧ Settled ((App.start none).after closesDrawer) ∧
    ¬ NoNotes ((App.start none).after closesDrawer) := by
  refine ⟨closesDrawer_valid, rfl, rfl, settled_of_ungated (by decide), fun h => ?_⟩
  exact absurd (h _ (.head _)) (by decide)

end Notely
