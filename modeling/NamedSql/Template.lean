import NamedSql.Event
import NamedSql.Plan

/-! # Templates

A template is a text with the settings to read it with and the capacities of its lists. `compile`
makes a plan of it; `events` says what a log shows of the compilation, also of one that fails. -/

namespace NamedSql

/-- A text with named references, and how to read it. -/
structure Template where
  /-- The text. -/
  text : Text
  /-- The marker and the default capacity. -/
  settings : Settings
  /-- The lists that have a capacity of their own. -/
  capacities : Dict Nat
  deriving DecidableEq

/-- Compiles a text. Every name with a capacity of its own must turn out to be a list; of those
that do not occur the least one is reported. -/
def Dialect.compile (dialect : Dialect) (text : Text) (capacities : Dict Nat) :
    Except Error Plan :=
  match (dialect.run capacities (.ofText text)).2 with
  | .error e => .error e
  | .ok draft =>
    match capacities.names.find? fun name => (draft.layout.param? name).isNone with
    | some name => .error (.listRequired name)
    | none => .ok ⟨text, draft.text, draft.layout⟩

/-- The events of a compilation. -/
def Dialect.events (dialect : Dialect) (text : Text) (capacities : Dict Nat) : List Event :=
  (dialect.run capacities (.ofText text)).1.map .visited ++
    match dialect.compile text capacities with
    | .error _ => []
    | .ok plan => [.compiled text.byteLength plan.placeholders plan.params.length]

namespace Template

/-- A text with the standard settings. -/
def ofText (text : Text) : Template := ⟨text, .standard, .empty⟩

/-- The template with all settings replaced. -/
def withSettings (template : Template) (settings : Settings) : Template :=
  { template with settings }

/-- The template with another marker. -/
def withMarker (template : Template) (marker : Char) : Template :=
  template.withSettings (template.settings.withMarker marker)

/-- The template with a capacity for one of its lists; a later one for the same name counts. -/
def withCapacity (template : Template) (name : Text) (capacity : Nat) : Template :=
  { template with capacities := template.capacities.insert name capacity }

/-- Compiles a template into a plan. -/
def compile (template : Template) : Except Error Plan :=
  match template.settings.check with
  | .error e => .error e
  | .ok dialect => dialect.compile template.text template.capacities

/-- Compiles a template with a dialect in place of its own settings. -/
def compileIn (template : Template) (dialect : Dialect) : Except Error Plan :=
  dialect.compile template.text template.capacities

/-- The events of a compilation. -/
def events (template : Template) : List Event :=
  match template.settings.check with
  | .error _ => []
  | .ok dialect => dialect.events template.text template.capacities

end Template

/-- The SQL of a text with the standard settings. -/
def compileToSql (text : Text) : Except Error Text := (Template.ofText text).compile.map (·.sql)

end NamedSql
