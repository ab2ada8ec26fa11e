/-
Texts being edited: a text with a selection in it, as a text field and its controller hold it. Offsets
are integers, -1 standing for no selection, and taking a range out of a text or putting one in fails
unless the range lies in the text. Over any type of characters.
-/
import Mathlib.Data.List.Basic

namespace TextEditing

/-! ## Ranges of a text -/

/-- A range does not lie in the text. -/
inductive RangeError
  | outOfRange
  deriving DecidableEq, Repr

section Ranges

variable {α : Type}

/-- The offsets are in order and inside the text. -/
def InRange (s : List α) (start stop : Int) : Prop := 0 ≤ start ∧ start ≤ stop ∧ stop ≤ s.length

instance (s : List α) (start stop : Int) : Decidable (InRange s start stop) :=
  inferInstanceAs (Decidable (_ ∧ _ ∧ _))

/-- The text between two offsets; throws when they are not in it. -/
def substring (s : List α) (start stop : Int) : Except RangeError (List α) :=
  if InRange s start stop then .ok ((s.drop start.toNat).take (stop - start).toNat) else .error .outOfRange

/-- The text with what is between two offsets replaced; throws when they are not in it. -/
def replaceRange (s : List α) (start stop : Int) (replacement : List α) : Except RangeError (List α) :=
  if InRange s start stop then .ok (s.take start.toNat ++ replacement ++ s.drop stop.toNat)
  else .error .outOfRange

theorem substring_of_inRange {s : List α} {start stop : Int} (h : InRange s start stop) :
    substring s start stop = .ok ((s.drop start.toNat).take (stop - start).toNat) := if_pos h

theorem substring_of_not_inRange {s : List α} {start stop : Int} (h : ¬ InRange s start stop) :
    substring s start stop = .error .outOfRange := if_neg h

theorem substring_isEmpty {s : List α} {start stop : Int} (h : InRange s start stop) :
    ((s.drop start.toNat).take (stop - start).toNat).isEmpty = true ↔ start = stop := by
  obtain ⟨h0, hle, hlen⟩ := h
  have hl : ((s.drop start.toNat).take (stop - start).toNat).length = (stop - start).toNat := by
    rw [List.length_take, List.length_drop]; omega
  rw [List.isEmpty_iff, ← List.length_eq_zero_iff, hl]
  omega

theorem replaceRange_substring {s t : List α} {start stop : Int} (h : substring s start stop = .ok t) :
    replaceRange s start stop t = .ok s := by
  unfold substring at h
  split at h
  · next hr =>
    cases h
    obtain ⟨h0, hle, -⟩ := id hr
    have hstop : s.drop stop.toNat = (s.drop start.toNat).drop (stop - start).toNat := by
      rw [List.drop_drop]; congr 1; omega
    rw [replaceRange, if_pos hr, hstop, List.append_assoc, List.take_append_drop, List.take_append_drop]
  · cases h

end Ranges

/-! ## Selections and edited texts -/

/-- A selection, from the offset where it was begun to the one where it ends now. -/
structure TextSelection where
  baseOffset : Int
  extentOffset : Int
  deriving DecidableEq, Repr

namespace TextSelection

/-- A caret. -/
def collapsed (offset : Int) : TextSelection := ⟨offset, offset⟩

/-- The beginning of the selection. -/
def start (s : TextSelection) : Int := if s.baseOffset < s.extentOffset then s.baseOffset else s.extentOffset

/-- The end of the selection; the base may come after the extent. -/
def stop (s : TextSelection) : Int := if s.baseOffset < s.extentOffset then s.extentOffset else s.baseOffset

/-- There is a selection, if only a caret. -/
def isValid (s : TextSelection) : Bool := decide (0 ≤ s.start) && decide (0 ≤ s.stop)

/-- Nothing is selected, or there is no selection. -/
def isCollapsed (s : TextSelection) : Bool := s.start == s.stop

/-- The selected part of a text. -/
def textInside {α : Type} (s : TextSelection) (text : List α) : Except RangeError (List α) :=
  substring text s.start s.stop

theorem start_le_stop (s : TextSelection) : s.start ≤ s.stop := by
  unfold start stop; split <;> omega

theorem isValid_iff {s : TextSelection} : s.isValid = true ↔ 0 ≤ s.start := by
  have := s.start_le_stop
  simp only [isValid, Bool.and_eq_true, decide_eq_true_eq]
  omega

@[simp] theorem start_collapsed (offset : Int) : (collapsed offset).start = offset := by simp [start, collapsed]
@[simp] theorem stop_collapsed (offset : Int) : (collapsed offset).stop = offset := by simp [stop, collapsed]

end TextSelection

/-- A text and the selection in it; at first there is none. -/
structure TextEditingValue (α : Type) where
  text : List α := []
  selection : TextSelection := .collapsed (-1)
  deriving DecidableEq, Repr

namespace TextEditingValue

variable {α : Type}

/-- A selection that is there lies in the text. -/
def Bounded (v : TextEditingValue α) : Prop := v.selection.isValid = true → v.selection.stop ≤ v.text.length

instance (v : TextEditingValue α) : Decidable v.Bounded := inferInstanceAs (Decidable (_ → _))

theorem bounded_untouched (text : List α) : Bounded { text := text } := by
  intro h
  rw [TextSelection.isValid_iff, TextSelection.start_collapsed] at h
  omega

/-- What is selected in a bounded text can be taken out. -/
theorem Bounded.inRange {v : TextEditingValue α} (hb : v.Bounded) (h : v.selection.isValid = true) :
    InRange v.text v.selection.start v.selection.stop :=
  ⟨TextSelection.isValid_iff.1 h, v.selection.start_le_stop, hb h⟩

/-- Where nothing is selected, not even a caret, there is no text to take out. -/
theorem not_inRange {v : TextEditingValue α} (h : v.selection.isValid = false) :
    ¬ InRange v.text v.selection.start v.selection.stop := by
  rintro ⟨h0, -⟩
  rw [TextSelection.isValid_iff.2 h0] at h
  cases h

end TextEditingValue

end TextEditing
