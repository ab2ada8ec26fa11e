/-
Logged systems: a state moved by events, a guard that may read the whole log before an event, and
the logs whose every event was allowed when it was taken. Logs are newest first, so what happened
before an event is the tail after it and an earlier state is the state of a suffix.

The library has the invariant rule, also for an invariant that a condition on the events decides, the rule
for a second condition along a run, purging (when the dropped events do not change a view and the kept ones act
on it alike, a run and the run without the dropped events show the same view), and projection: what the events
of a run count as in another system is a run there, when each is allowed and acts on the view as it does there.
-/
import Mathlib.Data.List.Infix

namespace Trace

/-- The state a log leads to. -/
def after {σ ε : Type} (init : σ) (step : σ → ε → σ) : List ε → σ
  | [] => init
  | e :: es => step (after init step es) e

/-- A system: its first state, what an event does, and which events may follow a log. -/
structure System (σ ε : Type) where
  init : σ
  step : σ → ε → σ
  ok : List ε → ε → Prop

/-- Every event of a log satisfies `P` against the log before it. -/
def Always {ε : Type} (P : List ε → ε → Prop) : List ε → Prop
  | [] => True
  | e :: es => P es e ∧ Always P es

/-! ## Conditions along a log -/

section Always

variable {ε : Type} {P Q : List ε → ε → Prop}

@[simp] theorem always_cons {e : ε} {es : List ε} : Always P (e :: es) ↔ P es e ∧ Always P es := Iff.rfl

theorem Always.of_suffix : ∀ {es fs : List ε}, Always P es → fs <:+ es → Always P fs
  | [], fs, _, hs => by rw [List.suffix_nil.1 hs]; trivial
  | e :: es, fs, h, hs => by
    rcases List.suffix_cons_iff.1 hs with rfl | hs
    · exact h
    · exact Always.of_suffix h.2 hs

theorem forall_suffix_cons {P : List ε → Prop} {e : ε} {es : List ε} :
    (∀ fs, fs <:+ e :: es → P fs) ↔ P (e :: es) ∧ ∀ fs, fs <:+ es → P fs := by
  constructor
  · intro h
    exact ⟨h _ (List.suffix_refl _), fun fs hfs => h fs (hfs.trans (List.suffix_cons e es))⟩
  · rintro ⟨h, h'⟩ fs hfs
    rcases List.suffix_cons_iff.1 hfs with rfl | hfs
    · exact h
    · exact h' fs hfs

/-- Two events of one log: the same at the same point, or one of them is in the log before the other. -/
theorem suffix_cases {es fs gs : List ε} {e f : ε} (he : e :: fs <:+ es) (hf : f :: gs <:+ es) :
    e :: fs = f :: gs ∨ e :: fs <:+ gs ∨ f :: gs <:+ fs := by
  rcases List.suffix_or_suffix_of_suffix he hf with hle | hle
  · rcases List.suffix_cons_iff.1 hle with heq | hle
    · exact .inl heq
    · exact .inr (.inl hle)
  · rcases List.suffix_cons_iff.1 hle with heq | hle
    · exact .inl heq.symm
    · exact .inr (.inr hle)

/-- Two conditions that agree at every event where a third holds agree along the log. -/
theorem always_congr {R : List ε → ε → Prop} : ∀ {es : List ε}, Always R es →
    (∀ e fs, e :: fs <:+ es → R fs e → (P fs e ↔ Q fs e)) → (Always P es ↔ Always Q es)
  | [], _, _ => Iff.rfl
  | e :: es, hR, h => by
    rw [always_cons, always_cons, h e es (List.suffix_refl _) hR.1]
    exact and_congr Iff.rfl
      (always_congr hR.2 fun f fs hs => h f fs (hs.trans (List.suffix_cons e es)))

end Always

namespace System

variable {σ ε : Type} (S : System σ ε)

/-- The state after a log. -/
def state (es : List ε) : σ := after S.init S.step es

/-- Every event of the log was allowed when it was taken. -/
def Valid (es : List ε) : Prop := Always S.ok es

@[simp] theorem state_cons (e : ε) (es : List ε) : S.state (e :: es) = S.step (S.state es) e := rfl

variable {S}

theorem Valid.of_suffix {es fs : List ε} (h : S.Valid es) (hs : fs <:+ es) : S.Valid fs :=
  Always.of_suffix h hs

/-- The invariant rule: what holds of the first state and is kept by every allowed event holds
after every valid log. -/
theorem Valid.invariant {I : List ε → σ → Prop} (h0 : I [] S.init)
    (hs : ∀ e es, S.Valid es → S.ok es e → I es (S.state es) → I (e :: es) (S.step (S.state es) e)) :
    ∀ {es : List ε}, S.Valid es → I es (S.state es)
  | [], _ => h0
  | e :: es, h => hs e es h.2 h.1 (Valid.invariant h0 hs h.2)

/-- Where a condition on each event is just what keeps `I`, a run keeps `I` at every point exactly when the
condition holds along it. -/
theorem Valid.invariant_iff {I : σ → Prop} {C : List ε → ε → Prop} (h0 : I S.init)
    (hs : ∀ e es, S.Valid (e :: es) → I (S.state es) → (I (S.state (e :: es)) ↔ C es e)) :
    ∀ {es : List ε}, S.Valid es → ((∀ fs, fs <:+ es → I (S.state fs)) ↔ Always C es)
  | [], _ => iff_of_true (fun fs hfs => by rw [List.suffix_nil.1 hfs]; exact h0) trivial
  | e :: es, h => by
    rw [always_cons, ← Valid.invariant_iff h0 hs h.2]
    constructor
    · intro hall
      have hbefore : ∀ fs, fs <:+ es → I (S.state fs) := fun fs hfs => hall fs (hfs.trans (List.suffix_cons e es))
      exact ⟨(hs e es h (hbefore es (List.suffix_refl _))).1 (hall _ (List.suffix_refl _)), hbefore⟩
    · rintro ⟨he, hbefore⟩ fs hfs
      rcases List.suffix_cons_iff.1 hfs with rfl | hfs
      · exact (hs e es h (hbefore es (List.suffix_refl _))).2 he
      · exact hbefore fs hfs

/-! ## Purging -/

/-- A view survives purging. The dropped events leave the view alone; a kept event is still allowed
after the purged log and acts alike on states with the same view. -/
theorem Valid.purge {ω : Type} (view : σ → ω) (keep : ε → Bool)
    (hdrop : ∀ e es, S.Valid (e :: es) → keep e = false → view (S.step (S.state es) e) = view (S.state es))
    (hok : ∀ e es, S.Valid (e :: es) → keep e = true → S.Valid (es.filter keep) →
      (∀ fs, fs <:+ es → view (S.state fs) = view (S.state (fs.filter keep))) → S.ok (es.filter keep) e)
    (hkeep : ∀ e es fs, S.Valid (e :: es) → S.Valid (e :: fs) → keep e = true →
      view (S.state es) = view (S.state fs) → view (S.step (S.state es) e) = view (S.step (S.state fs) e)) :
    ∀ {es : List ε}, S.Valid es →
      S.Valid (es.filter keep) ∧ ∀ fs, fs <:+ es → view (S.state fs) = view (S.state (fs.filter keep))
  | [], _ => ⟨trivial, fun fs h => by rw [List.suffix_nil.1 h]; rfl⟩
  | e :: es, h => by
    obtain ⟨hv, hview⟩ := Valid.purge view keep hdrop hok hkeep h.2
    cases hk : keep e with
    | false =>
      rw [List.filter_cons_of_neg (by simp [hk])]
      refine ⟨hv, fun fs hs => ?_⟩
      rcases List.suffix_cons_iff.1 hs with rfl | hs
      · rw [List.filter_cons_of_neg (by simp [hk]), state_cons, hdrop e es h hk]
        exact hview es (List.suffix_refl _)
      · exact hview fs hs
    | true =>
      rw [List.filter_cons_of_pos hk]
      have hv' : S.Valid (e :: es.filter keep) := ⟨hok e es h hk hv hview, hv⟩
      refine ⟨hv', fun fs hs => ?_⟩
      rcases List.suffix_cons_iff.1 hs with rfl | hs
      · rw [List.filter_cons_of_pos hk]
        exact hkeep e es _ h hv' hk (hview es (List.suffix_refl _))
      · exact hview fs hs

/-! ## Projections -/

/-- What a log is to another system: the event each of its events counts as there, if any. -/
def project {σ ε ε' : Type} (init : σ) (step : σ → ε → σ) (emit : σ → ε → Option ε') : List ε → List ε'
  | [] => []
  | e :: es => (emit (after init step es) e).elim (project init step emit es) (· :: project init step emit es)

section Project

variable {σ' ε' : Type} {emit : σ → ε → Option ε'}

theorem project_suffix : ∀ {es fs : List ε}, fs <:+ es →
    project S.init S.step emit fs <:+ project S.init S.step emit es
  | [], fs, h => by rw [List.suffix_nil.1 h]
  | e :: es, fs, h => by
    rcases List.suffix_cons_iff.1 h with rfl | h
    · exact List.suffix_refl _
    · refine (project_suffix h).trans ?_
      rw [project]
      cases emit (after S.init S.step es) e with
      | none => exact List.suffix_refl _
      | some e' => exact List.suffix_cons _ _

/-- An event of the projection is what some event of the log counted as, and what comes before it is the projection
of what came before. -/
theorem suffix_project {e' : ε'} {gs : List ε'} : ∀ {es : List ε}, e' :: gs <:+ project S.init S.step emit es →
    ∃ e fs, e :: fs <:+ es ∧ emit (S.state fs) e = some e' ∧ project S.init S.step emit fs = gs
  | [], h => by cases List.suffix_nil.1 h
  | e :: es, h => by
    have hrest : e' :: gs <:+ project S.init S.step emit es →
        ∃ f fs, f :: fs <:+ e :: es ∧ emit (S.state fs) f = some e' ∧ project S.init S.step emit fs = gs := by
      intro h
      obtain ⟨f, fs, hfs, hp⟩ := suffix_project h
      exact ⟨f, fs, hfs.trans (List.suffix_cons e es), hp⟩
    rw [project] at h
    cases hemit : emit (after S.init S.step es) e with
    | none => rw [hemit] at h; exact hrest h
    | some x =>
      rw [hemit] at h
      rcases List.suffix_cons_iff.1 h with heq | h
      · cases heq
        exact ⟨e, es, List.suffix_refl _, hemit, rfl⟩
      · exact hrest h

variable {T : System σ' ε'}

/-- Where every event acts on the view as what it counts as does, the projection leads to the view. -/
theorem state_project (view : σ → σ') (h0 : view S.init = T.init)
    (hstep : ∀ s e, view (S.step s e) = (emit s e).elim (view s) (T.step (view s))) :
    ∀ es, T.state (project S.init S.step emit es) = view (S.state es)
  | [] => h0.symm
  | e :: es => by
    have ih := state_project view h0 hstep es
    rw [project, state_cons, hstep, ← ih]
    show T.state ((emit (S.state es) e).elim _ _) = _
    cases emit (S.state es) e with
    | none => rfl
    | some e' => rfl

/-- The refinement rule: the projection of a log is a run, when what each of its events counts as is allowed. -/
theorem project_valid : ∀ {es : List ε}, (∀ e fs e', e :: fs <:+ es → T.Valid (project S.init S.step emit fs) →
      emit (S.state fs) e = some e' → T.ok (project S.init S.step emit fs) e') →
    T.Valid (project S.init S.step emit es)
  | [], _ => trivial
  | e :: es, h => by
    have ih := project_valid fun f fs e' hs => h f fs e' (hs.trans (List.suffix_cons e es))
    rw [project]
    cases hemit : emit (after S.init S.step es) e with
    | none => exact ih
    | some e' => exact ⟨h e es e' (List.suffix_refl _) ih hemit, ih⟩

end Project

end System

end Trace
