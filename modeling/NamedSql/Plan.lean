import NamedSql.Layout

/-! # Plans

A plan is what a template is compiled into: SQL with positional placeholders, and the layout
that tells where each parameter landed. -/

namespace NamedSql

/-- A compiled template. -/
structure Plan where
  /-- The text of the template. -/
  source : Text
  /-- The SQL with its placeholders. -/
  sql : Text
  /-- The parameters and their positions. -/
  layout : Layout
  deriving DecidableEq

namespace Plan

/-- The number of placeholders that stand for parameters. -/
def placeholders (plan : Plan) : Nat := plan.layout.placeholders

/-- The parameters in order of discovery. -/
def params (plan : Plan) : List Param := plan.layout.params

/-- The keys with their positions, in order of discovery. -/
def entries (plan : Plan) : List (Text × List Nat) := plan.layout.entries

/-- The parameter of the given name. -/
def param? (plan : Plan) (name : Text) : Option Param := plan.layout.param? name

/-- The template refers to the name. -/
def isParam (plan : Plan) (name : Text) : Bool := (plan.param? name).isSome

/-- The template refers to the name, as a list. -/
def isList (plan : Plan) (name : Text) : Bool :=
  (plan.param? name).any fun param => param.capacity?.isSome

/-- The room of a list parameter. -/
def capacity (plan : Plan) (name : Text) : Except Error Nat :=
  match plan.param? name with
  | none => .error (.unknownParameter name)
  | some param =>
    match param.capacity? with
    | none => .error (.listRequired name)
    | some capacity => .ok capacity

/-- The positions of a key, a scalar name or the slot key of a list element. -/
def positions (plan : Plan) (key : Text) : Except Error (List Nat) :=
  match plan.layout.positions? key with
  | none => .error (.unknownParameter key)
  | some positions => .ok positions

end Plan

end NamedSql
