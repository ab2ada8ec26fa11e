/-
A keyed collection of documents and its three writes: `set` stores a document under its key,
`update` mixes one into the document that is there and fails on a missing one, `delete` removes the
document and is a no-op on a missing one. What `update` leaves of the old document is a parameter,
so that the same operations serve field maps, where the new fields overlay the old, and records,
which it replaces.

A query is a selection. An encoding of documents that commutes with mixing carries every write over. A client
with a cache finds a version of a document: an old one, or its own writes on top of one.
-/
import Mathlib.Logic.Function.Basic

namespace DocStore

/-! ## Field maps -/

/-- The fields of a document. -/
abbrev Fields (φ ν : Type) := φ → Option ν

/-- A map literal; the first entry of a name counts. -/
def Fields.ofList {φ ν : Type} [BEq φ] (l : List (φ × ν)) : Fields φ ν := fun f => l.lookup f

theorem Fields.isSome_ofList {φ ν : Type} [BEq φ] [LawfulBEq φ] (f : φ) : ∀ l : List (φ × ν),
    (Fields.ofList l f).isSome = true ↔ f ∈ l.map Prod.fst
  | [] => by simp [Fields.ofList]
  | (g, v) :: l => by
    have ih := Fields.isSome_ofList f l
    simp only [Fields.ofList, List.lookup_cons, List.map_cons, List.mem_cons] at ih ⊢
    by_cases h : f = g
    · rw [beq_iff_eq.2 h]
      exact iff_of_true rfl (.inl h)
    · rw [beq_false_of_ne h, or_iff_right h]
      exact ih

/-- The fields of `new` laid over those of `old`. -/
def Fields.overlay {φ ν : Type} (old new : Fields φ ν) : Fields φ ν := fun f => (new f).or (old f)

/-- Overlaying a document that has every field of the old one leaves nothing of the old. -/
theorem Fields.overlay_of_covers {φ ν : Type} {old new : Fields φ ν}
    (h : ∀ f, (old f).isSome = true → (new f).isSome = true) : old.overlay new = new := by
  funext f
  unfold overlay
  cases hn : new f with
  | some v => rfl
  | none =>
    cases ho : old f with
    | none => rfl
    | some v => have := h f (by rw [ho]; rfl); rw [hn] at this; cases this

/-! ## Collections and writes -/

/-- The documents of a collection under their keys. -/
abbrev Collection (κ δ : Type) := κ → Option δ

/-- The three writes of a collection. -/
inductive Write (κ δ : Type)
  | set (k : κ) (d : δ)
  | update (k : κ) (d : δ)
  | delete (k : κ)
  deriving DecidableEq

/-- The key a write addresses. -/
def Write.target {κ δ : Type} : Write κ δ → κ
  | .set k _ => k
  | .update k _ => k
  | .delete k => k

variable {κ δ δ' : Type} [DecidableEq κ]

/-- A write applied to the collection; `mix` is what an update makes of the old document. -/
def apply (mix : δ → δ → δ) (c : Collection κ δ) : Write κ δ → Collection κ δ
  | .set k d => Function.update c k (some d)
  | .update k d => match c k with
    | some old => Function.update c k (some (mix old d))
    | none => c
  | .delete k => Function.update c k none

/-- Whether the write is acknowledged: an update of a missing document fails. -/
def accepts (c : Collection κ δ) : Write κ δ → Bool
  | .update k _ => (c k).isSome
  | _ => true

section Apply

variable (mix : δ → δ → δ) (c : Collection κ δ)

@[simp] theorem apply_set_self (k : κ) (d : δ) : apply mix c (.set k d) k = some d := by simp [apply]

@[simp] theorem apply_delete_self (k : κ) : apply mix c (.delete k) k = none := by simp [apply]

@[simp] theorem apply_update_self (k : κ) (d : δ) :
    apply mix c (.update k d) k = (c k).map fun old => mix old d := by
  unfold apply
  cases h : c k <;> simp [h]

theorem apply_of_ne {w : Write κ δ} {k : κ} (h : k ≠ w.target) : apply mix c w k = c k := by
  cases w with
  | set j d => exact Function.update_of_ne h _ _
  | delete j => exact Function.update_of_ne h _ _
  | update j d =>
    simp only [apply]
    cases c j with
    | none => rfl
    | some old => exact Function.update_of_ne h _ _

theorem apply_update_of_none {k : κ} (d : δ) (h : c k = none) : apply mix c (.update k d) = c := by
  simp [apply, h]

theorem isSome_apply_update (j k : κ) (d : δ) : (apply mix c (.update j d) k).isSome = (c k).isSome := by
  by_cases h : k = j
  · subst h; simp
  · rw [apply_of_ne mix c (w := .update j d) h]

theorem isSome_apply_set (j k : κ) (d : δ) :
    (apply mix c (.set j d) k).isSome = true ↔ k = j ∨ (c k).isSome = true := by
  by_cases h : k = j
  · subst h; simp
  · rw [apply_of_ne mix c (w := .set j d) h]; simp [h]

theorem isSome_apply_delete (j k : κ) :
    (apply mix c (.delete j) k).isSome = true ↔ k ≠ j ∧ (c k).isSome = true := by
  by_cases h : k = j
  · subst h; simp
  · rw [apply_of_ne mix c (w := .delete j) h]; simp [h]

/-- Where a document comes from: it was there and the write went elsewhere, or the write put it there. -/
theorem apply_eq_some {w : Write κ δ} {k : κ} {d : δ} (h : apply mix c w k = some d) :
    (k ≠ w.target ∧ c k = some d) ∨ w = .set k d ∨ ∃ old x, w = .update k x ∧ c k = some old ∧ d = mix old x := by
  by_cases hk : k = w.target
  · subst hk
    cases w with
    | set j x =>
      rw [Write.target, apply_set_self] at h
      cases h
      exact .inr (.inl rfl)
    | update j x =>
      rw [Write.target, apply_update_self, Option.map_eq_some_iff] at h
      obtain ⟨old, hold, rfl⟩ := h
      exact .inr (.inr ⟨old, x, rfl, hold, rfl⟩)
    | delete j =>
      rw [Write.target, apply_delete_self] at h
      cases h
  · rw [apply_of_ne mix c hk] at h
    exact .inl ⟨hk, h⟩

end Apply

/-- The document a write carries. -/
def Write.doc {κ δ : Type} : Write κ δ → Option δ
  | .set _ d => some d
  | .update _ d => some d
  | .delete _ => none

/-! ## Caches -/

/-- What a client with a cache may find under a key: a document the collection had, or one the client set, and
either with updates of its own mixed in. Nothing is asked of the order of these writes, nor what became of them. -/
inductive Version (mix : δ → δ → δ) (had : κ → δ → Prop) (own : Write κ δ → Prop) (k : κ) : δ → Prop
  | base {d : δ} (h : had k d) : Version mix had own k d
  | set {d : δ} (h : own (.set k d)) : Version mix had own k d
  | update {d x : δ} (hd : Version mix had own k d) (h : own (.update k x)) : Version mix had own k (mix d x)

section Version

variable {mix : δ → δ → δ} {had : κ → δ → Prop} {own : Write κ δ → Prop} {k : κ} {d : δ}

omit [DecidableEq κ] in
/-- Where an update leaves nothing of the documents there are, a version is one the collection had or one that
a write of the client carries. -/
theorem Version.had_or_own {C : δ → Prop} (h : Version mix had own k d) (hhad : ∀ d, had k d → C d)
    (hown : ∀ w x, own w → w.target = k → w.doc = some x → C x) (hmix : ∀ d x, C d → C x → mix d x = x) :
    C d ∧ (had k d ∨ own (.set k d) ∨ own (.update k d)) := by
  induction h with
  | base h => exact ⟨hhad _ h, .inl h⟩
  | set h => exact ⟨hown _ _ h rfl rfl, .inr (.inl h)⟩
  | @update d x _ h ih =>
    have hx : C x := hown _ _ h rfl rfl
    rw [hmix d x ih.1 hx]
    exact ⟨hx, .inr (.inr h)⟩

end Version

/-! ## Queries -/

/-- The documents a query keeps, under their keys. -/
def select (p : δ → Bool) (c : Collection κ δ) : Collection κ δ := fun k => (c k).filter p

omit [DecidableEq κ] in
theorem select_eq_some {p : δ → Bool} {c : Collection κ δ} {k : κ} {d : δ} :
    select p c k = some d ↔ c k = some d ∧ p d = true := by
  simp [select, Option.filter_eq_some_iff]

omit [DecidableEq κ] in
theorem select_eq_none {p : δ → Bool} {c : Collection κ δ} {k : κ} :
    select p c k = none ↔ ∀ d, c k = some d → p d = false := by
  simp [select, Option.filter_eq_none_iff]

/-- A write leaves a query's result alone when its target is selected neither before nor after. -/
theorem select_apply_of_none {mix : δ → δ → δ} {p : δ → Bool} {c : Collection κ δ} {w : Write κ δ}
    (hb : select p c w.target = none) (ha : select p (apply mix c w) w.target = none) :
    select p (apply mix c w) = select p c := by
  funext k
  by_cases h : k = w.target
  · rw [h, ha, hb]
  · unfold select; rw [apply_of_ne mix c h]

/-- Two collections that agree on a query still agree after a write whose target they agree on. -/
theorem select_apply_congr {mix : δ → δ → δ} {p : δ → Bool} {c c' : Collection κ δ} {w : Write κ δ}
    (h : select p c = select p c') (hw : c w.target = c' w.target) :
    select p (apply mix c w) = select p (apply mix c' w) := by
  funext k
  by_cases hk : k = w.target
  · subst hk
    unfold select
    cases w with
    | set j d => simp [Write.target]
    | delete j => simp [Write.target]
    | update j d => simp only [Write.target] at hw ⊢; simp [hw]
  · have := congrFun h k
    unfold select at this ⊢
    rw [apply_of_ne mix c hk, apply_of_ne mix c' hk]; exact this

/-! ## Encodings -/

/-- The collection of the encoded documents; an encoding may read the key. -/
def encode (f : κ → δ → δ') (c : Collection κ δ) : Collection κ δ' := fun k => (c k).map (f k)

/-- The write of the encoded document. -/
def Write.encode (f : κ → δ → δ') : Write κ δ → Write κ δ'
  | .set k d => .set k (f k d)
  | .update k d => .update k (f k d)
  | .delete k => .delete k

omit [DecidableEq κ] in
@[simp] theorem Write.encode_target (f : κ → δ → δ') (w : Write κ δ) : (w.encode f).target = w.target := by
  cases w <;> rfl

omit [DecidableEq κ] in
theorem encode_eq_some {f : κ → δ → δ'} {c : Collection κ δ} {k : κ} {x : δ'} :
    encode f c k = some x ↔ ∃ d, c k = some d ∧ f k d = x := by
  simp [encode, Option.map_eq_some_iff]

omit [DecidableEq κ] in
@[simp] theorem encode_eq_none {f : κ → δ → δ'} {c : Collection κ δ} {k : κ} :
    encode f c k = none ↔ c k = none := by
  simp [encode]

/-- An encoding that commutes with mixing turns a write of the records into the write of their
encodings. -/
theorem encode_apply {f : κ → δ → δ'} {mix : δ → δ → δ} {mix' : δ' → δ' → δ'}
    (h : ∀ k a b, mix' (f k a) (f k b) = f k (mix a b)) (c : Collection κ δ) (w : Write κ δ) :
    apply mix' (encode f c) (w.encode f) = encode f (apply mix c w) := by
  funext k
  by_cases hk : k = w.target
  · subst hk
    cases w with
    | set j d => simp [Write.encode, Write.target, encode]
    | delete j => simp [Write.encode, Write.target, encode]
    | update j d =>
      simp only [Write.encode, Write.target, apply_update_self, encode]
      cases c j with
      | none => rfl
      | some old => simp [h]
  · rw [apply_of_ne mix' _ (by simpa using hk)]
    unfold encode
    rw [apply_of_ne mix c hk]

omit [DecidableEq κ] in
theorem select_encode {f : κ → δ → δ'} {p : δ → Bool} {q : δ' → Bool} (h : ∀ k d, q (f k d) = p d)
    (c : Collection κ δ) : select q (encode f c) = encode f (select p c) := by
  funext k
  simp only [select, encode]
  cases c k with
  | none => rfl
  | some d => by_cases hp : p d = true <;> simp [Option.filter_some, h, hp]

end DocStore
