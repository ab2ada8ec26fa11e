/-
Route stacks. A navigator keeps a stack of routes, top first; a call pushes a route, replaces the top,
clears down to a route to keep, or pops. A route may hold a local history entry (an open drawer): a pop
then removes the entry and leaves the route. The library has the rule for what every route of a stack
satisfies, through one call and through the calls a handler makes one after another, the rule for the bottom
route (only a pop can leave none), and the rule for distinct keys.
-/
import Mathlib.Data.List.Basic

namespace Navigator

variable {ρ : Type}

/-- A call on the navigator. -/
inductive Op (ρ : Type)
  | push (route : ρ)
  | pushReplacement (route : ρ)
  | pushAndRemoveUntil (route : ρ) (keep : ρ → Bool)
  | addLocalHistoryEntry (enter : ρ → ρ)
  | pop

/-- A pop of the top route: `leave` removes its local history entry, if there is one. -/
def popTop (leave : ρ → Option ρ) : List ρ → List ρ
  | [] => []
  | route :: rest =>
    match leave route with
    | some route' => route' :: rest
    | none => rest

/-- The stack after a call. -/
def Op.apply (leave : ρ → Option ρ) (stack : List ρ) : Op ρ → List ρ
  | push route => route :: stack
  | pushReplacement route => route :: stack.tail
  | pushAndRemoveUntil route keep => route :: stack.dropWhile (!keep ·)
  | addLocalHistoryEntry enter => stack.modifyHead enter
  | pop => popTop leave stack

/-- The calls of a handler, in order. -/
def applyAll (leave : ρ → Option ρ) (stack : List ρ) (ops : List (Op ρ)) : List ρ :=
  ops.foldl (Op.apply leave) stack

@[simp] theorem applyAll_nil (leave : ρ → Option ρ) (stack : List ρ) : applyAll leave stack [] = stack := rfl

@[simp] theorem applyAll_cons (leave : ρ → Option ρ) (stack : List ρ) (op : Op ρ) (ops : List (Op ρ)) :
    applyAll leave stack (op :: ops) = applyAll leave (op.apply leave stack) ops := rfl

@[simp] theorem applyAll_append (leave : ρ → Option ρ) (stack : List ρ) (ops ops' : List (Op ρ)) :
    applyAll leave stack (ops ++ ops') = applyAll leave (applyAll leave stack ops) ops' :=
  List.foldl_append

@[simp] theorem apply_removeAll (leave : ρ → Option ρ) (stack : List ρ) (route : ρ) :
    (Op.pushAndRemoveUntil route fun _ => false).apply leave stack = [route] := by
  have h : stack.dropWhile (fun _ => !false) = [] := by
    induction stack with
    | nil => rfl
    | cons _ _ ih => exact ih
  rw [Op.apply, h]

theorem popTop_of_none {leave : ρ → Option ρ} {route : ρ} (h : leave route = none) (rest : List ρ) :
    popTop leave (route :: rest) = rest := by
  rw [popTop, h]

/-! ## What holds of every route -/

/-- The call brings only routes with `P`: the one it pushes, or the top after its entry is added. -/
def Op.Brings (P : ρ → Prop) : Op ρ → Prop
  | push route => P route
  | pushReplacement route => P route
  | pushAndRemoveUntil route _ => P route
  | addLocalHistoryEntry enter => ∀ route, P route → P (enter route)
  | pop => True

theorem forall_popTop {P : ρ → Prop} {leave : ρ → Option ρ}
    (hleave : ∀ route route', leave route = some route' → P route → P route') :
    ∀ {stack : List ρ}, (∀ route ∈ stack, P route) → ∀ route ∈ popTop leave stack, P route
  | [], _, route, hr => by cases hr
  | top :: rest, h, route, hr => by
    cases hl : leave top with
    | none =>
      rw [popTop, hl] at hr
      exact h route (List.mem_cons_of_mem _ hr)
    | some top' =>
      rw [popTop, hl] at hr
      rcases List.mem_cons.1 hr with rfl | hr
      · exact hleave top _ hl (h top (List.mem_cons_self ..))
      · exact h route (List.mem_cons_of_mem _ hr)

theorem forall_apply {P : ρ → Prop} {leave : ρ → Option ρ}
    (hleave : ∀ route route', leave route = some route' → P route → P route') {stack : List ρ} {op : Op ρ}
    (hop : op.Brings P) (h : ∀ route ∈ stack, P route) : ∀ route ∈ op.apply leave stack, P route := by
  intro route hr
  cases op with
  | push new =>
    rcases List.mem_cons.1 hr with rfl | hr
    · exact hop
    · exact h route hr
  | pushReplacement new =>
    rcases List.mem_cons.1 hr with rfl | hr
    · exact hop
    · exact h route (List.mem_of_mem_tail hr)
  | pushAndRemoveUntil new keep =>
    rcases List.mem_cons.1 hr with rfl | hr
    · exact hop
    · exact h route ((List.dropWhile_sublist _).subset hr)
  | addLocalHistoryEntry enter =>
    cases stack with
    | nil => cases hr
    | cons top rest =>
      rcases List.mem_cons.1 hr with rfl | hr
      · exact hop top (h top (List.mem_cons_self ..))
      · exact h route (List.mem_cons_of_mem _ hr)
  | pop => exact forall_popTop hleave h route hr

/-- The rule for a handler: routes with `P` stay, and its calls bring no others. -/
theorem forall_applyAll {P : ρ → Prop} {leave : ρ → Option ρ}
    (hleave : ∀ route route', leave route = some route' → P route → P route') :
    ∀ {ops : List (Op ρ)} {stack : List ρ}, (∀ op ∈ ops, op.Brings P) → (∀ route ∈ stack, P route) →
      ∀ route ∈ applyAll leave stack ops, P route
  | [], _, _, h => h
  | op :: ops, stack, hops, h => by
    rw [applyAll_cons]
    have hop := forall_apply hleave (hops op (List.mem_cons_self ..)) h
    exact forall_applyAll hleave (fun op' ho => hops op' (List.mem_cons_of_mem _ ho)) hop

/-! ## The bottom route -/

/-- There is a bottom route, and it satisfies `P`. -/
def Grounded (P : ρ → Prop) (stack : List ρ) : Prop := ∃ base, stack.getLast? = some base ∧ P base

/-- The call keeps a bottom route with `P`: what it may put at the bottom satisfies it, and it is no pop. -/
def Op.Lays (P : ρ → Prop) : Op ρ → Prop
  | push _ => True
  | pushReplacement route => P route
  | pushAndRemoveUntil route _ => P route
  | addLocalHistoryEntry enter => ∀ route, P route → P (enter route)
  | pop => False

section Grounded

variable {P : ρ → Prop} {leave : ρ → Option ρ} {stack rest : List ρ} {top : ρ}

theorem not_grounded_nil : ¬ Grounded P ([] : List ρ) := by
  rintro ⟨base, hb, -⟩
  cases hb

theorem grounded_singleton : Grounded P [top] ↔ P top := by
  simp [Grounded]

theorem grounded_cons_of_ne_nil (h : rest ≠ []) : Grounded P (top :: rest) ↔ Grounded P rest := by
  obtain ⟨r, rest, rfl⟩ := List.exists_cons_of_ne_nil h
  unfold Grounded
  rw [List.getLast?_cons_cons]

theorem Grounded.cons (h : Grounded P rest) (top : ρ) : Grounded P (top :: rest) := by
  refine (grounded_cons_of_ne_nil ?_).2 h
  rintro rfl
  exact not_grounded_nil h

theorem grounded_cons_of_not (h : ¬ P top) : Grounded P (top :: rest) ↔ Grounded P rest := by
  cases rest with
  | nil => exact iff_of_false (fun hg => h (grounded_singleton.1 hg)) not_grounded_nil
  | cons r rest => exact grounded_cons_of_ne_nil (List.cons_ne_nil _ _)

/-- A route with `P` grounds whatever is kept beneath it. -/
theorem Grounded.replace (h : Grounded P stack) (ht : P top) (hrest : rest <:+ stack) : Grounded P (top :: rest) := by
  cases rest with
  | nil => exact grounded_singleton.2 ht
  | cons r rest =>
    obtain ⟨above, rfl⟩ := hrest
    obtain ⟨base, hb, hp⟩ := h
    refine Grounded.cons ⟨base, ?_, hp⟩ top
    rwa [List.getLast?_append_of_ne_nil _ (List.cons_ne_nil _ _)] at hb

theorem Grounded.apply (h : Grounded P stack) {op : Op ρ} (hop : op.Lays P) : Grounded P (op.apply leave stack) := by
  cases op with
  | push route => exact h.cons route
  | pushReplacement route => exact h.replace hop (List.tail_suffix stack)
  | pushAndRemoveUntil route keep => exact h.replace hop (List.dropWhile_suffix _)
  | addLocalHistoryEntry enter =>
    cases stack with
    | nil => exact absurd h not_grounded_nil
    | cons top rest =>
      cases rest with
      | nil => exact grounded_singleton.2 (hop top (grounded_singleton.1 h))
      | cons r rest => exact ((grounded_cons_of_ne_nil (List.cons_ne_nil _ _)).1 h).cons _
  | pop => exact hop.elim

/-- The rule for a handler without a pop. -/
theorem Grounded.applyAll : ∀ {ops : List (Op ρ)} {stack : List ρ}, Grounded P stack → (∀ op ∈ ops, op.Lays P) →
    Grounded P (Navigator.applyAll leave stack ops)
  | [], _, h, _ => h
  | op :: ops, stack, h, hops => by
    rw [applyAll_cons]
    exact (h.apply (hops op (List.mem_cons_self ..))).applyAll fun op' ho => hops op' (List.mem_cons_of_mem _ ho)

/-- A pop keeps the bottom, unless the bottom is all there is and has no entry to remove. -/
theorem Grounded.popTop (h : Grounded P (top :: rest)) (hleave : ∀ r r', leave r = some r' → P r → P r') :
    Grounded P (popTop leave (top :: rest)) ↔ ¬ (rest = [] ∧ leave top = none) := by
  cases hl : leave top with
  | none =>
    rw [popTop_of_none hl]
    by_cases hr : rest = []
    · subst hr
      simp [not_grounded_nil]
    · simp [hr, (grounded_cons_of_ne_nil hr).1 h]
  | some top' =>
    simp only [Navigator.popTop, hl, reduceCtorEq, and_false, not_false_eq_true, iff_true]
    cases rest with
    | nil => exact grounded_singleton.2 (hleave top top' hl (grounded_singleton.1 h))
    | cons r rest => exact ((grounded_cons_of_ne_nil (List.cons_ne_nil _ _)).1 h).cons _

end Grounded

/-! ## Distinct keys -/

section Keys

variable {κ : Type} {key : ρ → κ} {leave : ρ → Option ρ}

/-- The key of the route a call pushes. -/
def Op.pushes (key : ρ → κ) : Op ρ → Option κ
  | push route => some (key route)
  | pushReplacement route => some (key route)
  | pushAndRemoveUntil route _ => some (key route)
  | addLocalHistoryEntry _ => none
  | pop => none

/-- Adding an entry leaves the key of a route. -/
def Op.KeepsKey (key : ρ → κ) : Op ρ → Prop
  | addLocalHistoryEntry enter => ∀ route, key (enter route) = key route
  | _ => True

/-- A call takes keys away, and brings that of the route it pushes. -/
theorem keys_apply (hleave : ∀ r r', leave r = some r' → key r' = key r) (stack : List ρ) {op : Op ρ}
    (hop : op.KeepsKey key) : ((op.apply leave stack).map key).Sublist ((op.pushes key).toList ++ stack.map key) := by
  cases op with
  | push route => exact List.Sublist.refl _
  | pushReplacement route => exact ((List.tail_sublist stack).map key).cons_cons _
  | pushAndRemoveUntil route keep => exact ((List.dropWhile_sublist _).map key).cons_cons _
  | addLocalHistoryEntry enter =>
    cases stack with
    | nil => exact List.Sublist.refl _
    | cons top rest =>
      show (key (enter top) :: rest.map key).Sublist (key top :: rest.map key)
      rw [hop top]
  | pop =>
    cases stack with
    | nil => exact List.Sublist.refl _
    | cons top rest =>
      show ((popTop leave (top :: rest)).map key).Sublist (key top :: rest.map key)
      cases hl : leave top with
      | none => rw [popTop_of_none hl]; exact List.sublist_cons_self _ _
      | some top' =>
        rw [popTop, hl, List.map_cons, hleave top top' hl]

/-- The rule for distinct keys: a handler that pushes new keys, each once, leaves them distinct. -/
theorem nodup_applyAll (hleave : ∀ r r', leave r = some r' → key r' = key r) :
    ∀ {ops : List (Op ρ)} {stack : List ρ}, (∀ op ∈ ops, op.KeepsKey key) →
      (stack.map key ++ ops.filterMap (Op.pushes key)).Nodup → ((applyAll leave stack ops).map key).Nodup
  | [], stack, _, h => by simpa using h
  | op :: ops, stack, hops, h => by
    rw [applyAll_cons]
    refine nodup_applyAll hleave (fun op' ho => hops op' (List.mem_cons_of_mem _ ho)) ?_
    have hkeys := keys_apply hleave stack (hops op (List.mem_cons_self ..))
    refine (hkeys.append_right (ops.filterMap (Op.pushes key))).nodup ?_
    -- the pushed key changes its place only
    cases hp : op.pushes key with
    | none => rw [List.filterMap_cons_none hp] at h; exact h
    | some k =>
      rw [List.filterMap_cons_some hp] at h
      exact List.perm_middle.nodup_iff.1 h

end Keys

end Navigator
