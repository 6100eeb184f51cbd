import Mathlib.Data.List.Induction
import NamedSql.Template

/-! # The last choice counts

A template is made of a text and of choices, one after the other: another marker, other settings as
a whole, a capacity for a list. Only the last choice of each part is seen afterwards
(`settings_template`, `get?_capacities_template`): settings as a whole replace the marker and the
default capacity, but no capacity of a list. So two requests make the same template exactly if their
texts are the same and their last choices agree (`template_eq_iff`), whatever they chose before and
in whatever order. -/

namespace NamedSql

/-- A change to the way a template is read. -/
inductive Choice where
  /-- Another marker. -/
  | marker (marker : Char)
  /-- Other settings. -/
  | settings (settings : Settings)
  /-- A capacity for the list of the given name. -/
  | capacity (name : Text) (capacity : Nat)
  deriving DecidableEq

namespace Choice

/-- The template with the change. -/
def apply (template : Template) : Choice → Template
  | marker c => template.withMarker c
  | settings s => template.withSettings s
  | capacity name n => template.withCapacity name n

/-- The marker that is chosen. -/
def marker? : Choice → Option Char
  | marker c => some c
  | settings s => some s.marker
  | capacity _ _ => none

/-- The default capacity that is chosen. -/
def default? : Choice → Option Nat
  | marker _ => none
  | settings s => some s.capacity
  | capacity _ _ => none

/-- The capacity that is chosen for a list. -/
def own? (name : Text) : Choice → Option Nat
  | marker _ => none
  | settings _ => none
  | capacity other n => if name = other then some n else none

end Choice

/-- A text with choices in the order in which they were made. -/
structure Request where
  /-- The text. -/
  text : Text
  /-- The choices. -/
  choices : List Choice
  deriving DecidableEq

namespace Request

/-- The template that is requested. -/
def template (request : Request) : Template :=
  request.choices.foldl Choice.apply (.ofText request.text)

/-- What the last choice of some part is. -/
def last? {α : Type} (request : Request) (part : Choice → Option α) : Option α :=
  request.choices.reverse.findSome? part

/-- Two requests for the same text have the same marker, the same default capacity and the same own
capacities, as the last choices say. -/
structure Agree (a b : Request) : Prop where
  /-- The text is the same. -/
  text : a.text = b.text
  /-- The last marker is the same. -/
  marker : (a.last? Choice.marker?).getD Settings.standard.marker =
    (b.last? Choice.marker?).getD Settings.standard.marker
  /-- The last default capacity is the same. -/
  default : (a.last? Choice.default?).getD Settings.standard.capacity =
    (b.last? Choice.default?).getD Settings.standard.capacity
  /-- The last capacity of each list is the same. -/
  own : ∀ name, a.last? (Choice.own? name) = b.last? (Choice.own? name)

section

variable (text : Text) (choices : List Choice) (choice : Choice)

theorem template_concat : template ⟨text, choices ++ [choice]⟩ =
    choice.apply (template ⟨text, choices⟩) := by
  rw [template, List.foldl_append]
  rfl

/-- A choice hides those that were made before. -/
theorem last?_concat {α : Type} (part : Choice → Option α) :
    last? ⟨text, choices ++ [choice]⟩ part = (part choice).or (last? ⟨text, choices⟩ part) := by
  rw [last?, List.reverse_append, List.reverse_singleton, List.singleton_append,
    List.findSome?_cons]
  cases part choice <;> rfl

end

theorem text_template (request : Request) : request.template.text = request.text := by
  obtain ⟨text, choices⟩ := request
  induction choices using List.reverseRecOn with
  | nil => rfl
  | append_singleton choices choice ih =>
    rw [template_concat]
    cases choice <;> exact ih

/-- **The settings** are the last marker and the last default capacity. -/
theorem settings_template (request : Request) : request.template.settings =
    ⟨(request.last? Choice.marker?).getD Settings.standard.marker,
      (request.last? Choice.default?).getD Settings.standard.capacity⟩ := by
  obtain ⟨text, choices⟩ := request
  induction choices using List.reverseRecOn with
  | nil => rfl
  | append_singleton choices choice ih =>
    rw [template_concat, last?_concat, last?_concat]
    cases choice with
    | marker c =>
      rw [Choice.apply, Template.withMarker, Template.withSettings, ih]
      rfl
    | settings s => rfl
    | capacity name n => exact ih

/-- **The capacity of a list** is the last one chosen for its name. -/
theorem get?_capacities_template (request : Request) (name : Text) :
    request.template.capacities.get? name = request.last? (Choice.own? name) := by
  obtain ⟨text, choices⟩ := request
  induction choices using List.reverseRecOn with
  | nil => rfl
  | append_singleton choices choice ih =>
    rw [template_concat, last?_concat]
    cases choice with
    | marker c => exact ih
    | settings s => exact ih
    | capacity other n =>
      rw [Choice.apply, Template.withCapacity, Dict.get?_insert, Choice.own?, ih]
      split_ifs <;> rfl

/-- Requests make the same template exactly if they agree. -/
theorem template_eq_iff {a b : Request} : a.template = b.template ↔ a.Agree b := by
  constructor
  · intro h
    have hsettings := congrArg Template.settings h
    rw [settings_template, settings_template] at hsettings
    refine ⟨?_, congrArg Settings.marker hsettings, congrArg Settings.capacity hsettings,
      fun name => ?_⟩
    · rw [← text_template, ← text_template, h]
    · rw [← get?_capacities_template, ← get?_capacities_template, h]
  · intro h
    refine Template.mk.injEq .. |>.mpr ⟨?_, ?_, Dict.ext_get? fun name => ?_⟩
    · exact (text_template a).trans (h.text.trans (text_template b).symm)
    · exact (settings_template a).trans ((Settings.mk.injEq .. |>.mpr ⟨h.marker, h.default⟩).trans
        (settings_template b).symm)
    · exact (get?_capacities_template a name).trans ((h.own name).trans
        (get?_capacities_template b name).symm)

end Request

end NamedSql
