import NamedSql.Error
import NamedSql.Text.CharClass

/-! # Settings

A template is read with a marker, the character that introduces a name, and a default capacity for
lists. Not every marker can be told apart from names and placeholders; settings that passed the
check are a `Dialect`. Settings can be given as a document, of which all parts may be missing
(`Settings.ofDocument?`). -/

namespace NamedSql

/-- The marker of references and the capacity of lists that have none of their own. -/
structure Settings where
  /-- The character in front of a name. -/
  marker : Char := ':'
  /-- The number of placeholders of a list. -/
  capacity : Nat := 32
  deriving DecidableEq

namespace Settings

/-- The settings unless others are chosen: names after a colon, lists of 32. -/
def standard : Settings := {}

/-- The same capacity with another marker. -/
def withMarker (settings : Settings) (marker : Char) : Settings := { settings with marker }

/-- The same marker with another capacity. -/
def withCapacity (settings : Settings) (capacity : Nat) : Settings := { settings with capacity }

/-- The character can serve as a marker: it is no letter, number, underscore, white space or
question mark. -/
def canMark (c : Char) : Bool := !(isAlphanumeric c || c == '_' || isBlank c || c == '?')

end Settings

/-- Settings that can be used. -/
structure Dialect extends Settings where
  /-- The marker can serve as one. -/
  canMark_marker : Settings.canMark marker = true
  /-- A list has room for an element. -/
  capacity_pos : 0 < capacity

/-- The dialect of the standard settings. -/
def Dialect.standard : Dialect := ⟨.standard, by decide +kernel, by decide⟩

/-- The settings as a dialect, or what is wrong with them, the marker first. -/
def Settings.check (settings : Settings) : Except Error Dialect :=
  if hm : canMark settings.marker = true then
    if hc : 0 < settings.capacity then .ok ⟨settings, hm, hc⟩
    else .error (.zeroCapacity "<default>".toList)
  else .error (.markerRefused settings.marker)

theorem Settings.check_eq_ok_iff {settings : Settings} :
    (∃ dialect, settings.check = .ok dialect) ↔
      canMark settings.marker = true ∧ 0 < settings.capacity := by
  simp only [check]
  split
  · split <;> simp_all
  · simp_all

theorem Settings.toSettings_of_check {settings : Settings} {dialect : Dialect}
    (h : settings.check = .ok dialect) : dialect.toSettings = settings := by
  simp only [check] at h
  split at h
  · split at h
    · exact (Except.ok.inj h) ▸ rfl
    · simp at h
  · simp at h

/-- A document that settings may be written in. -/
inductive Document where
  /-- Nothing. -/
  | null
  /-- A truth value. -/
  | bool (value : Bool)
  /-- A number written with digits alone. -/
  | natural (value : Nat)
  /-- Any other number. -/
  | otherNumber
  /-- A text. -/
  | text (value : Text)
  /-- A list of documents. -/
  | list (items : List Document)
  /-- Documents under keys. -/
  | fields (items : List (Text × Document))

namespace Document

/-- The only character of a text. -/
def toChar? : Document → Option Char
  | text [c] => some c
  | _ => none

/-- A number that fits 64 bits. -/
def toCapacity? : Document → Option Nat
  | natural n => if n < UInt64.size then some n else none
  | _ => none

/-- The document under the last field with the given key. -/
def field? (key : Text) (items : List (Text × Document)) : Option Document :=
  (items.reverse.find? fun item => item.1 == key).map (·.2)

end Document

namespace Settings

/-- Settings with the given parts replaced, unless a part is unreadable. -/
def ofParts? (marker capacity : Option Document) : Option Settings := do
  let settings := standard
  let settings ← match marker with
    | none => some settings
    | some document => document.toChar?.map settings.withMarker
  match capacity with
  | none => some settings
  | some document => document.toCapacity?.map settings.withCapacity

/-- The settings that a document describes, either by fields, of which unknown ones are passed over,
or by a list of marker and capacity. A part that is missing has its standard value. -/
def ofDocument? : Document → Option Settings
  | .fields items =>
    ofParts? (Document.field? "marker".toList items)
      (Document.field? "default_array_len".toList items)
  | .list [] => ofParts? none none
  | .list [marker] => ofParts? (some marker) none
  | .list [marker, capacity] => ofParts? (some marker) (some capacity)
  | _ => none

end Settings

end NamedSql
