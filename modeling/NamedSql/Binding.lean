import NamedSql.Dict
import NamedSql.Event
import NamedSql.Plan
import NamedSql.Value.Basic

/-! # Binding values to placeholders

A plan is bound to values by name, and the result holds a value for each placeholder. A scalar is
written at every position of its name. A list fills its slots in order, and the slots left over are
padded: with NULL, which no comparison finds equal to anything, or where the parameter is negated
somewhere with the last element again, since NULL would make the negated condition unknown. -/

namespace NamedSql

/-- Values by name. -/
abbrev Bindings := Dict Value

/-- The same names with equal values. -/
def Bindings.equal (a b : Bindings) : Bool := Dict.agree Value.equal a b

/-- Values in the order of the placeholders. -/
structure Arguments where
  /-- The values. -/
  values : List Value

namespace Arguments

/-- The value at a position, counted from 1. -/
def get? (arguments : Arguments) : Nat → Option Value
  | 0 => none
  | n + 1 => arguments.values[n]?

/-- The number of values. -/
def size (arguments : Arguments) : Nat := arguments.values.length

/-- There are no values. -/
def isEmpty (arguments : Arguments) : Bool := arguments.values.isEmpty

/-- Equal values at the same positions. -/
def equal (a b : Arguments) : Bool := Value.equalItems a.values b.values

end Arguments

namespace Param

/-- What the slots after the last element are filled with. -/
def padding (param : Param) (items : List Value) : Value :=
  if param.negated then items.getLast?.getD .null else .null

/-- The values for the slots of a parameter, each with the key that the layout has it under. -/
def slots (param : Param) (value : Value) : Except Error (List (Text × Value)) :=
  match param.kind, value with
  | .scalar, .list _ => .error (.wrongShape param.name .single)
  | .scalar, value => .ok [(param.name, value)]
  | .list capacity, .list items =>
    if items.any Value.isList then .error (.wrongShape param.name .listOfSingles)
    else if capacity < items.length then
      .error (.tooManyElements param.name items.length capacity)
    else
      let padded := items ++ List.replicate (capacity - items.length) (param.padding items)
      .ok (padded.zipIdx.map fun (item, i) => (slotKey param.name i, item))
  | .list _, _ => .error (.wrongShape param.name .list)

/-- The values for the slots of a parameter, which must be bound. -/
def slotsIn (bindings : Bindings) (param : Param) : Except Error (List (Text × Value)) :=
  match bindings.get? param.name with
  | none => .error (.unbound param.name)
  | some value => param.slots value

/-- The parameter is negated and bound to a list without elements. -/
def isEmptyNegated (bindings : Bindings) (param : Param) : Bool :=
  match param.kind, bindings.get? param.name with
  | .list _, some (.list []) => param.negated
  | _, _ => false

end Param

namespace Plan

/-- Writes a value at every position of a key. -/
def fill (plan : Plan) (row : List (Option Value)) (slot : Text × Value) :
    Except Error (List (Option Value)) :=
  match plan.positions slot.1 with
  | .error e => .error e
  | .ok positions =>
    .ok (positions.foldl (fun row position => row.set (position - 1) (some slot.2)) row)

/-- Writes the values of one parameter. -/
def fillParam (plan : Plan) (bindings : Bindings) (row : List (Option Value)) (param : Param) :
    Except Error (List (Option Value)) :=
  match param.slotsIn bindings with
  | .error e => .error e
  | .ok slots => slots.foldlM plan.fill row

/-- A name with a value that the template does not refer to. -/
def unknownName? (plan : Plan) (bindings : Bindings) : Option Text :=
  bindings.names.find? fun name => !plan.isParam name

/-- The arguments for a plan. The names must be known; then the parameters are taken in order of
discovery, and the first that has no value, or one that does not fit, is reported. -/
def bind (plan : Plan) (bindings : Bindings) : Except Error Arguments :=
  match plan.unknownName? bindings with
  | some name => .error (.unknownParameter name)
  | none =>
    match plan.params.foldlM (plan.fillParam bindings) (List.replicate plan.placeholders none) with
    | .error e => .error e
    | .ok row => .ok ⟨row.map (·.getD .null)⟩

/-- The warnings of a binding: empty negated lists among the parameters in front of the first one
that does not fit. -/
def bindEvents (plan : Plan) (bindings : Bindings) : List Event :=
  match plan.unknownName? bindings with
  | some _ => []
  | none =>
    let fitting := plan.params.takeWhile fun param => (param.slotsIn bindings).toBool
    (fitting.filter (Param.isEmptyNegated bindings)).map fun param => .emptyNegatedList param.name

end Plan

end NamedSql
