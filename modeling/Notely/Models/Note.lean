/-
The note of `Models/Note.dart` and the documents it is stored as: `toJson` writes six fields,
`fromJson` reads them back with the casts Dart makes, if somebody is signed in. A document is a map from
field names to values, so it may lack a field, have others, or hold a value of another type; that the
stored ones never do is proven of the writers.

Dart strings are sequences of UTF-16 code units, and so are the strings here.
-/
import Notely.Lib.DocStore

namespace Notely

open DocStore

/-! ## Values and documents -/

/-- A Dart string: its UTF-16 code units. -/
abbrev Str := List UInt16

/-- A string literal of the source (the source has only characters of one code unit). -/
def lit (s : String) : Str := s.toList.map fun c => c.val.toUInt16

/-- The values of the document fields. -/
inductive Value
  | null
  | bool (b : Bool)
  | str (s : Str)
  deriving DecidableEq, Repr

/-- `Map<String, dynamic>`: the data of a document. -/
abbrev Doc := Fields String Value

/-- The collection `notes`: its documents under their ids. -/
abbrev Notes := Collection Str Doc

/-- A write to the collection `notes`. -/
abbrev NoteWrite := Write Str Doc

/-- An update overlays the written fields. -/
def Notes.write (c : Notes) (w : NoteWrite) : Notes := apply Fields.overlay c w

/-- What a Dart expression throws: a value of another type than expected, or `!` on null. -/
inductive DartError
  | typeError
  | nullCheck
  deriving DecidableEq, Repr

/-- What returns has got past every expression that could throw. -/
theorem bind_eq_ok {α β : Type} {x : Except DartError α} {f : α → Except DartError β} {b : β}
    (h : x >>= f = .ok b) : ∃ a, x = .ok a ∧ f a = .ok b := by
  cases x with
  | error e => cases h
  | ok a => exact ⟨a, rfl, h⟩

/-- A value where a `String` is expected; absent fields read as null. -/
def asString : Option Value → Except DartError Str
  | some (.str s) => .ok s
  | _ => .error .typeError

theorem asString_eq_ok {v : Option Value} {s : Str} (h : asString v = .ok s) : v = some (.str s) := by
  unfold asString at h
  split at h <;> cases h
  rfl

/-- A value where a `String?` is expected. -/
def asStringOrNull : Option Value → Except DartError (Option Str)
  | some (.str s) => .ok (some s)
  | some (.bool _) => .error .typeError
  | _ => .ok none

/-- A value where a `bool?` is expected. -/
def asBoolOrNull : Option Value → Except DartError (Option Bool)
  | some (.bool b) => .ok (some b)
  | some (.str _) => .error .typeError
  | _ => .ok none

theorem asBoolOrNull_eq_ok {v : Option Value} {b : Bool} (h : asBoolOrNull v = .ok (some b)) :
    v = some (.bool b) := by
  unfold asBoolOrNull at h
  split at h <;> cases h
  rfl

/-- A nullable string as a field value. -/
def Value.ofString? : Option Str → Value
  | some s => .str s
  | none => .null

/-- A nullable boolean as a field value. -/
def Value.ofBool? : Option Bool → Value
  | some b => .bool b
  | none => .null

/-! ## The note -/

/-- The model class `Note`, with the defaults of its constructor. -/
structure Note where
  id : Str := []
  body : Str := []
  title : Str := []
  email : Option Str := some []
  timeAdded : Option Str := some []
  isFavorite : Option Bool := some false
  deriving DecidableEq, Repr

/-- The map that is stored for a note. -/
def Note.toJson (n : Note) : Doc := Fields.ofList [
  ("isFavorite", Value.ofBool? n.isFavorite),
  ("id", .str n.id),
  ("title", .str n.title),
  ("description", .str n.body),
  ("email", Value.ofString? n.email),
  ("timeAdded", Value.ofString? n.timeAdded)]

/-- The arguments `fromJson` calls the constructor with: the fields of the map, each cast to the type of its
parameter. -/
def Note.arguments (json : Doc) : Except DartError Note := do
  let isFavorite ← asBoolOrNull (json "isFavorite")
  let email ← asStringOrNull (json "email")
  let id ← asString (json "id")
  let title ← asString (json "title")
  let body ← asString (json "description")
  let timeAdded ← asStringOrNull (json "timeAdded")
  return { isFavorite, email, id, title, body, timeAdded }

/-- Every construction of a note runs the initialiser of its field `email`, which reads `currentUser!`, before
the argument takes its place: with nobody signed in `fromJson` throws. `currentUser` is the email of whoever is. -/
def Note.fromJson (currentUser : Option Str) (json : Doc) : Except DartError Note := do
  let note ← Note.arguments json
  let some _ := currentUser | throw .nullCheck
  return note

/-- The fields `toJson` writes. -/
def noteFields : List String := ["isFavorite", "id", "title", "description", "email", "timeAdded"]

section toJson

variable (n : Note)

@[simp] theorem toJson_isFavorite : n.toJson "isFavorite" = some (Value.ofBool? n.isFavorite) := rfl
@[simp] theorem toJson_id : n.toJson "id" = some (.str n.id) := rfl
@[simp] theorem toJson_title : n.toJson "title" = some (.str n.title) := rfl
@[simp] theorem toJson_description : n.toJson "description" = some (.str n.body) := rfl
@[simp] theorem toJson_email : n.toJson "email" = some (Value.ofString? n.email) := rfl
@[simp] theorem toJson_timeAdded : n.toJson "timeAdded" = some (Value.ofString? n.timeAdded) := rfl

theorem toJson_isSome (f : String) : (n.toJson f).isSome = true ↔ f ∈ noteFields :=
  Fields.isSome_ofList f _

theorem toJson_withTime (timeAdded : Option Str) {f : String} (h : f ≠ "timeAdded") :
    ({ n with timeAdded := timeAdded } : Note).toJson f = n.toJson f := by
  simp only [Note.toJson, Fields.ofList, List.lookup_cons, beq_false_of_ne h]

end toJson

@[simp] theorem asStringOrNull_ofString? (s : Option Str) :
    asStringOrNull (some (Value.ofString? s)) = .ok s := by
  cases s <;> rfl

@[simp] theorem asBoolOrNull_ofBool? (b : Option Bool) : asBoolOrNull (some (Value.ofBool? b)) = .ok b := by
  cases b <;> rfl

theorem arguments_toJson (n : Note) : Note.arguments n.toJson = .ok n := by
  simp only [Note.arguments, toJson_isFavorite, toJson_email, toJson_id, toJson_title, toJson_description,
    toJson_timeAdded, asBoolOrNull_ofBool?, asStringOrNull_ofString?, asString]
  rfl

theorem fromJson_toJson (user : Str) (n : Note) : Note.fromJson (some user) n.toJson = .ok n := by
  rw [Note.fromJson, arguments_toJson]
  rfl

/-- A note laid over a note leaves only the new one: all six fields are written. -/
theorem overlay_toJson (a b : Note) : a.toJson.overlay b.toJson = b.toJson :=
  Fields.overlay_of_covers fun f h => (toJson_isSome b f).2 ((toJson_isSome a f).1 h)

/-! ## Documents of notes -/

/-- The fields of a note's document that the handlers of its tile read. -/
structure HoldsNote (d : Doc) (k title description : Str) (isFavorite : Bool) : Prop where
  id : d "id" = some (.str k)
  title : d "title" = some (.str title)
  description : d "description" = some (.str description)
  isFavorite : d "isFavorite" = some (.bool isFavorite)

theorem fromJson_holdsNote {currentUser : Option Str} {d : Doc} {n : Note} {isFavorite : Bool}
    (h : Note.fromJson currentUser d = .ok n) (hf : n.isFavorite = some isFavorite) :
    HoldsNote d n.id n.title n.body isFavorite := by
  obtain ⟨n', hargs, hsome⟩ := bind_eq_ok h
  obtain rfl : n' = n := by
    cases currentUser with
    | none => cases hsome
    | some user => cases hsome; rfl
  obtain ⟨b, hb, h⟩ := bind_eq_ok hargs
  obtain ⟨email, -, h⟩ := bind_eq_ok h
  obtain ⟨id, hid, h⟩ := bind_eq_ok h
  obtain ⟨title, htitle, h⟩ := bind_eq_ok h
  obtain ⟨body, hbody, h⟩ := bind_eq_ok h
  obtain ⟨timeAdded, -, h⟩ := bind_eq_ok h
  cases h
  cases hf
  exact ⟨asString_eq_ok hid, asString_eq_ok htitle, asString_eq_ok hbody, asBoolOrNull_eq_ok hb⟩

end Notely
