import NamedSql.Binding

/-! # Values in a store

A dictionary keeps its entries in the order of the names. A store keeps them in any order, as a hash
table does, and may bring all of them into another one whenever a value is inserted
(`Store.Inserts`). So nothing but the names and their values is known of a store with a given
history of insertions (`Store.Built`); what is read from it in its own order may differ from store
to store.

A binding of a store looks for names that the template does not refer to in the order of the store.
A dictionary is the store in the order of the names. -/

namespace NamedSql

/-- The value that was inserted last under the name. -/
def lastValue? (history : List (Text × Value)) (name : Text) : Option Value :=
  Dict.lookup name history.reverse

/-- Values under distinct names, in some order. -/
structure Store where
  /-- The names with their values. -/
  entries : List (Text × Value)
  /-- No name is there twice. -/
  distinct : (entries.map (·.1)).Nodup

namespace Store

/-- The store without entries. -/
def empty : Store := ⟨[], List.nodup_nil⟩

/-- The names that have a value, in the order of the store. -/
def names (store : Store) : List Text := store.entries.map (·.1)

/-- The value of a name. -/
def get? (store : Store) (name : Text) : Option Value := Dict.lookup name store.entries

/-- The number of names that have a value. -/
def size (store : Store) : Nat := store.entries.length

/-- No name has a value. -/
def isEmpty (store : Store) : Bool := store.entries.isEmpty

/-- As many names, and each of the one store has an equal value in the other. -/
def equal (a b : Store) : Bool :=
  a.size == b.size && a.entries.all fun entry => (b.get? entry.1).any entry.2.equal

/-- An insertion puts an entry in place of the one with its name, and brings the entries into some
order. -/
def Inserts (store : Store) (name : Text) (value : Value) (next : Store) : Prop :=
  next.entries.Perm ((name, value) :: store.entries.filter fun entry => entry.1 != name)

/-- A store that some insertions may lead to, the first one being that into the empty store. -/
inductive Built : List (Text × Value) → Store → Prop
  | empty : Built [] empty
  | insert {history : List (Text × Value)} {store next : Store} {name : Text} {value : Value}
      (hstore : Built history store) (h : store.Inserts name value next) :
      Built (history ++ [(name, value)]) next

/-- The dictionary of a store. -/
def bindings (store : Store) : Bindings := Dict.ofList store.entries

/-- The store that keeps the order of the names. -/
def ofBindings (bindings : Bindings) : Store := ⟨bindings.entries, bindings.nodup_names⟩

end Store

namespace Plan

/-- A name with a value that the template does not refer to, the first one in the order of the
store. -/
def unknownIn? (plan : Plan) (store : Store) : Option Text :=
  store.names.find? fun name => !plan.isParam name

/-- The arguments for a plan from a store. -/
def bindStore (plan : Plan) (store : Store) : Except Error Arguments :=
  match plan.unknownIn? store with
  | some name => .error (.unknownParameter name)
  | none =>
    match plan.params.foldlM (plan.fillParam store.bindings)
        (List.replicate plan.placeholders none) with
    | .error e => .error e
    | .ok row => .ok ⟨row.map (·.getD .null)⟩

end Plan

end NamedSql
