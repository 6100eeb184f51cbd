import NamedSql.Dict
import NamedSql.Layout

/-! # The registry of parameters and keys

A registry holds what a layout holds, spread over five fields that have to agree. The parameters are
a list, and a name is not searched for in it: `lookup` maps the name to an index in the list. The
positions of the keys are the entries of a dictionary, `indexes`, which knows no order of discovery,
so the keys are listed once more in `keys`.

Nothing about the fields makes them agree. A parameter is read at the index that `lookup` gives, and
the positions of a key in `keys` are read from `indexes`, without a check; where there is nothing to
be read, the operation or the query has slipped and gives `none`. An operation that is refused
leaves a registry behind as well (`Outcome.refused`), the one that the next operation finds. -/

namespace NamedSql

/-- Parameters, and the positions of their placeholders by keys. -/
structure Registry where
  /-- The number of placeholders so far. -/
  placeholders : Nat
  /-- The parameters in order of discovery. -/
  params : List Param
  /-- The index of each parameter by its name. -/
  lookup : Dict Nat
  /-- The positions of each key. -/
  indexes : Dict (List Nat)
  /-- The keys in order of discovery. -/
  keys : List Text
  deriving DecidableEq

namespace Registry

/-- The registry before the first reference. -/
def empty : Registry := ⟨0, [], .empty, .empty, []⟩

/-- What an operation comes to, with the registry as the operation leaves it. -/
inductive Outcome where
  /-- The operation was carried out. -/
  | done (registry : Registry)
  /-- The operation was refused. -/
  | refused (registry : Registry) (e : Error)
  deriving DecidableEq

namespace Outcome

/-- The registry behind the operation. -/
def registry : Outcome → Registry
  | done registry => registry
  | refused registry _ => registry

/-- Goes on with a registry, unless the operation was refused. -/
def andThen (next : Registry → Registry) : Outcome → Outcome
  | done registry => done (next registry)
  | refused registry e => refused registry e

end Outcome

/-- Adds a parameter, or one more use of it, which must be of the same kind. -/
def declare (registry : Registry) (name : Text) (kind : Kind) (negated : Bool) : Option Outcome :=
  match registry.lookup.get? name with
  | some i =>
    registry.params[i]?.map fun param =>
      if param.kind = kind then
        .done { registry with
          params := registry.params.set i { param with negated := param.negated || negated } }
      else .refused registry (.conflictingKinds name)
  | none =>
    some (.done { registry with
      lookup := registry.lookup.insert name registry.params.length
      params := registry.params ++ [⟨name, kind, negated⟩] })

/-- Adds the next placeholder, under the given key. -/
def push (registry : Registry) (key : Text) : Registry :=
  match registry.indexes.get? key with
  | some positions =>
    { registry with
      placeholders := registry.placeholders + 1
      indexes := registry.indexes.insert key (positions ++ [registry.placeholders + 1]) }
  | none =>
    { registry with
      placeholders := registry.placeholders + 1
      indexes := registry.indexes.insert key [registry.placeholders + 1]
      keys := registry.keys ++ [key] }

/-- Adds a reference to a scalar. -/
def addScalar (registry : Registry) (name : Text) : Option Outcome :=
  (registry.declare name .scalar false).map (.andThen fun registry => registry.push name)

/-- Adds a reference to a list. -/
def addList (registry : Registry) (name : Text) (capacity : Nat) (negated : Bool) :
    Option Outcome :=
  (registry.declare name (.list capacity) negated).map
    (.andThen fun registry => ((List.range capacity).map (slotKey name)).foldl push registry)

/-- Carries out an operation. -/
def apply (registry : Registry) : Layout.Operation → Option Outcome
  | .scalar name => registry.addScalar name
  | .list name capacity negated => registry.addList name capacity negated

/-- The registry after some operations on the empty one. A refused operation does not end them. -/
def run (history : List Layout.Operation) : Option Registry :=
  history.foldlM (fun registry operation => (registry.apply operation).map Outcome.registry) empty

/-! ### Queries -/

/-- The parameter of the given name, if there is one. -/
def param? (registry : Registry) (name : Text) : Option (Option Param) :=
  match registry.lookup.get? name with
  | none => some none
  | some i => registry.params[i]?.map some

/-- The kind of the parameter of the given name, if there is one. -/
def kind? (registry : Registry) (name : Text) : Option (Option Kind) :=
  (registry.param? name).map fun found => found.map (·.kind)

/-- The keys with their positions, in order of discovery. -/
def entries? (registry : Registry) : Option (List (Text × List Nat)) :=
  registry.keys.mapM fun key => (registry.indexes.get? key).map (key, ·)

end Registry

end NamedSql
