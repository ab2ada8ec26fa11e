/-
Patterns of character classes, each taken once or one or more times, found anywhere in a text; and texts
trimmed at both ends. The matcher tries what a backtracking engine tries, and finds a match exactly when
some part of the text is a word of the pattern (`hasMatch_iff`). What begins and ends with characters that
are not trimmed is still there after the trim (`infix_trim`). Over any type of characters.
-/
import Mathlib.Data.List.DropRight
import Mathlib.Data.List.Infix

namespace Pattern

variable {α : Type}

/-! ## Patterns -/

/-- A class of characters, once or (`many`) one or more times. -/
structure Item (α : Type) where
  chars : α → Bool
  many : Bool

/-- `[c]` and `[c]+`. -/
def one (chars : α → Bool) : Item α := ⟨chars, false⟩

/-- A class one or more times. -/
def plus (chars : α → Bool) : Item α := ⟨chars, true⟩

/-- A match at the start of a text. A repeated class first tries to take another character. -/
def matchHere : List (Item α) → List α → Bool
  | [], _ => true
  | _ :: _, [] => false
  | i :: is, c :: cs => i.chars c && ((i.many && matchHere (i :: is) cs) || matchHere is cs)

/-- A match anywhere in a text. -/
def hasMatch (p : List (Item α)) (s : List α) : Bool := s.tails.any (matchHere p)

/-- The words of a pattern. -/
inductive Word : List (Item α) → List α → Prop
  | nil : Word [] []
  | next {i : Item α} {is : List (Item α)} {c : α} {w : List α} :
      i.chars c = true → Word is w → Word (i :: is) (c :: w)
  | more {i : Item α} {is : List (Item α)} {c : α} {w : List α} :
      i.many = true → i.chars c = true → Word (i :: is) w → Word (i :: is) (c :: w)

theorem matchHere_iff : ∀ {p : List (Item α)} {s : List α}, matchHere p s = true ↔ ∃ w, w <+: s ∧ Word p w
  | [], s => by
    simp only [matchHere, true_iff]
    exact ⟨[], List.nil_prefix, .nil⟩
  | i :: is, [] => by
    simp only [matchHere, Bool.false_eq_true, false_iff]
    rintro ⟨w, hw, h⟩
    rw [List.prefix_nil.1 hw] at h
    cases h
  | i :: is, c :: cs => by
    simp only [matchHere, Bool.and_eq_true, Bool.or_eq_true, matchHere_iff (s := cs)]
    constructor
    · rintro ⟨hc, ⟨hm, w, hw, h⟩ | ⟨w, hw, h⟩⟩
      · exact ⟨c :: w, List.cons_prefix_cons.2 ⟨rfl, hw⟩, .more hm hc h⟩
      · exact ⟨c :: w, List.cons_prefix_cons.2 ⟨rfl, hw⟩, .next hc h⟩
    · rintro ⟨w, hw, h⟩
      cases h with
      | next hc h =>
        obtain ⟨rfl, hw'⟩ := List.cons_prefix_cons.1 hw
        exact ⟨hc, .inr ⟨_, hw', h⟩⟩
      | more hm hc h =>
        obtain ⟨rfl, hw'⟩ := List.cons_prefix_cons.1 hw
        exact ⟨hc, .inl ⟨hm, _, hw', h⟩⟩

theorem hasMatch_iff {p : List (Item α)} {s : List α} : hasMatch p s = true ↔ ∃ w, w <:+: s ∧ Word p w := by
  simp only [hasMatch, List.any_eq_true, List.mem_tails, matchHere_iff]
  constructor
  · rintro ⟨t, ht, w, hw, h⟩
    exact ⟨w, hw.isInfix.trans ht.isInfix, h⟩
  · rintro ⟨w, hw, h⟩
    obtain ⟨t, hwt, hts⟩ := List.infix_iff_prefix_suffix.1 hw
    exact ⟨t, hts, w, hwt, h⟩

/-! ### Words by their parts -/

theorem word_one {chars : α → Bool} {is : List (Item α)} {w : List α} :
    Word (one chars :: is) w ↔ ∃ c v, w = c :: v ∧ chars c = true ∧ Word is v := by
  constructor
  · intro h
    cases h with
    | next hc h => exact ⟨_, _, rfl, hc, h⟩
    | more hm => cases hm
  · rintro ⟨c, v, rfl, hc, h⟩
    exact .next hc h

theorem word_plus {chars : α → Bool} {is : List (Item α)} : ∀ {w : List α}, Word (plus chars :: is) w ↔
    ∃ u v, w = u ++ v ∧ u ≠ [] ∧ (∀ c ∈ u, chars c = true) ∧ Word is v
  | [] => by
    constructor
    · intro h; cases h
    · rintro ⟨u, v, h, hu, -⟩
      exact absurd (List.append_eq_nil_iff.1 h.symm).1 hu
  | c :: w => by
    constructor
    · intro h
      cases h with
      | next hc h => exact ⟨[c], w, rfl, by simp, by simpa [plus] using hc, h⟩
      | more _ hc h =>
        obtain ⟨u, v, rfl, -, hu, hv⟩ := word_plus.1 h
        exact ⟨c :: u, v, rfl, by simp, by simpa [plus] using And.intro hc hu, hv⟩
    · rintro ⟨u, v, h, hne, hu, hv⟩
      cases u with
      | nil => exact absurd rfl hne
      | cons d u =>
        cases h
        have hc : chars c = true := hu c (.head _)
        by_cases hnil : u = []
        · subst hnil
          exact .next hc hv
        · exact .more rfl hc (word_plus.2 ⟨u, v, rfl, hnil, fun x hx => hu x (.tail _ hx), hv⟩)

/-! ## Trimming -/

section Trim

variable (blank : α → Bool)

/-- The text without the blank characters at its ends. -/
def trim (s : List α) : List α := (s.dropWhile blank).rdropWhile blank

/-- A trim takes blank characters off the two ends. -/
theorem trim_spec (s : List α) : ∃ a b, s = a ++ trim blank s ++ b ∧
    (∀ c ∈ a, blank c = true) ∧ (∀ c ∈ b, blank c = true) := by
  refine ⟨s.takeWhile blank, (s.dropWhile blank).rtakeWhile blank, ?_, ?_, ?_⟩
  · rw [List.append_assoc, trim, List.rdropWhile_append_rtakeWhile, List.takeWhile_append_dropWhile]
  · intro c hc; exact List.mem_takeWhile_imp hc
  · intro c hc; exact List.mem_rtakeWhile_imp hc

variable {blank}

theorem mem_trim {c : α} {s : List α} (h : c ∈ s) (hc : blank c = false) : c ∈ trim blank s := by
  obtain ⟨a, b, hs, ha, hb⟩ := trim_spec blank s
  rw [hs, List.mem_append, List.mem_append] at h
  rcases h with (h | h) | h
  · rw [ha c h] at hc; cases hc
  · exact h
  · rw [hb c h] at hc; cases hc

/-- Dropping blank characters stops at the latest where a part begins that starts with another. -/
theorem infix_dropWhile {c : α} {m s : List α} (h : c :: m <:+: s) (hc : blank c = false) :
    c :: m <:+: s.dropWhile blank := by
  obtain ⟨a, b, rfl⟩ := h
  have hdrop : (c :: m ++ b).dropWhile blank = c :: m ++ b := by simp [hc]
  rw [List.append_assoc, List.dropWhile_append]
  split
  · rw [hdrop]; exact ⟨[], b, by simp⟩
  · exact ⟨a.dropWhile blank, b, by simp⟩

theorem infix_rdropWhile {c : α} {m s : List α} (h : m ++ [c] <:+: s) (hc : blank c = false) :
    m ++ [c] <:+: s.rdropWhile blank := by
  have hrev : c :: m.reverse <:+: s.reverse := by
    rw [← List.reverse_infix]; simpa using h
  have := infix_dropWhile hrev hc
  rw [← List.reverse_infix] at this
  simpa [List.rdropWhile] using this

/-- A part that begins and ends with characters that are not blank outlives the trim. -/
theorem infix_trim {c d : α} {m s : List α} (h : c :: (m ++ [d]) <:+: s) (hc : blank c = false)
    (hd : blank d = false) : c :: (m ++ [d]) <:+: trim blank s := by
  have h' := infix_dropWhile h hc
  rw [← List.cons_append] at h' ⊢
  exact infix_rdropWhile h' hd

theorem blank_head_trim {c : α} {m s : List α} (h : trim blank s = c :: m) : blank c = false := by
  have hpre : c :: m <+: s.dropWhile blank := h ▸ List.rdropWhile_prefix blank _
  obtain ⟨t, ht⟩ := hpre
  have hne : s.dropWhile blank ≠ [] := by rw [← ht]; simp
  have hhead := List.head_dropWhile_not blank hne
  simpa [← ht] using hhead

theorem blank_last_trim {d : α} {m s : List α} (h : trim blank s = m ++ [d]) : blank d = false := by
  unfold trim at h
  have hne : (s.dropWhile blank).rdropWhile blank ≠ [] := by rw [h]; simp
  have hlast := List.rdropWhile_last_not blank _ hne
  simpa [h] using hlast

/-- No blank is left exactly when none stands between two characters that are not blank. -/
theorem trim_unblank_iff {s : List α} : (∀ c ∈ trim blank s, blank c = false) ↔
    ∀ a c b, s = a ++ c :: b → blank c = true → (∀ x ∈ a, blank x = true) ∨ (∀ x ∈ b, blank x = true) := by
  obtain ⟨l, r, hs, hl, hr⟩ := trim_spec blank s
  constructor
  · intro hno a c b hsplit hc
    rw [hs, List.append_assoc] at hsplit
    -- the blank is in the part taken off on the left, in the one on the right, or in what is left
    rcases List.append_eq_append_iff.1 hsplit with ⟨a', rfl, hmid⟩ | ⟨c', rfl, -⟩
    · rcases List.append_eq_append_iff.1 hmid with ⟨a'', rfl, rfl⟩ | ⟨c'', htrim, hcb⟩
      · exact .inr fun x hx => hr x (by simp [hx])
      · cases c'' with
        | nil =>
          rw [List.nil_append] at hcb
          exact .inr fun x hx => hr x (by rw [← hcb]; exact .tail _ hx)
        | cons d t =>
          cases hcb
          have hcfalse := hno c (by rw [htrim]; simp)
          rw [hc] at hcfalse
          cases hcfalse
    · exact .inl fun x hx => hl x (by simp [hx])
  · intro hun c hmem
    by_contra hc
    rw [Bool.not_eq_false] at hc
    obtain ⟨t₁, t₂, htrim⟩ := List.append_of_mem hmem
    have hsplit : s = (l ++ t₁) ++ c :: (t₂ ++ r) := by rw [hs, htrim]; simp
    rcases hun _ c _ hsplit hc with hleft | hright
    · -- the first character that is left is on its left
      cases t₁ with
      | nil => rw [blank_head_trim htrim] at hc; cases hc
      | cons x t₁ =>
        have hx := hleft x (by simp)
        rw [blank_head_trim htrim] at hx
        cases hx
    · -- and the last one on its right
      rcases List.eq_nil_or_concat t₂ with rfl | ⟨m, d, rfl⟩
      · rw [blank_last_trim htrim] at hc; cases hc
      · have hlast : trim blank s = (t₁ ++ c :: m) ++ [d] := by rw [htrim]; simp
        have hd := hright d (by simp)
        rw [blank_last_trim hlast] at hd
        cases hd

/-- What is left has so many characters exactly when two that are not blank stand so far apart. -/
theorem le_length_trim_iff {n : Nat} {s : List α} : n + 2 ≤ (trim blank s).length ↔
    ∃ a c m d b, s = a ++ c :: (m ++ d :: b) ∧ blank c = false ∧ blank d = false ∧ n ≤ m.length := by
  constructor
  · intro hn
    obtain ⟨a, b, hs, -⟩ := trim_spec blank s
    cases ht : trim blank s with
    | nil => rw [ht] at hn; simp at hn
    | cons c t =>
      rcases List.eq_nil_or_concat t with rfl | ⟨m, d, rfl⟩
      · rw [ht] at hn; simp at hn
      · rw [List.concat_eq_append] at ht
        have hd : blank d = false := blank_last_trim (m := c :: m) ht
        rw [ht] at hs hn
        refine ⟨a, c, m, d, b, by rw [hs]; simp, blank_head_trim ht, hd, ?_⟩
        simp at hn; omega
  · rintro ⟨a, c, m, d, b, rfl, hc, hd, hn⟩
    have hpart : c :: (m ++ [d]) <:+: a ++ c :: (m ++ d :: b) := ⟨a, b, by simp⟩
    have hle := (infix_trim hpart hc hd).length_le
    simp at hle
    omega

end Trim

end Pattern
