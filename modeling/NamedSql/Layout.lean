import NamedSql.Error

/-! # The layout of placeholders

While references are expanded, a layout records which parameters there are, in order of discovery,
and at which placeholders each of them landed. Placeholders are numbered from 1. A scalar is
recorded under its name, element `i` of a list under its slot key, the name, two underscores and
`i`. -/

namespace NamedSql

/-- The key of element `index` of a list parameter. -/
def slotKey (name : Text) (index : Nat) : Text := name ++ ['_', '_'] ++ Text.decimal index

/-- How a parameter is expanded. -/
inductive Kind where
  /-- Into one placeholder. -/
  | scalar
  /-- Into a fixed number of placeholders, one for each element. -/
  | list (capacity : Nat)
  deriving DecidableEq

/-- A parameter of a template. -/
structure Param where
  /-- The name, without the marker. -/
  name : Text
  /-- How it is expanded. -/
  kind : Kind
  /-- It stands after NOT at least once. -/
  negated : Bool
  deriving DecidableEq

/-- The room of a list parameter. -/
def Param.capacity? (param : Param) : Option Nat :=
  match param.kind with
  | .scalar => none
  | .list capacity => some capacity

/-- Parameters and the positions of their placeholders. -/
structure Layout where
  /-- The number of placeholders so far. -/
  placeholders : Nat
  /-- The parameters in order of discovery. -/
  params : List Param
  /-- The keys in order of discovery, each with its positions in ascending order. -/
  entries : List (Text × List Nat)
  deriving DecidableEq

namespace Layout

/-- The layout without placeholders. -/
def empty : Layout := ⟨0, [], []⟩

/-- The parameter of the given name. -/
def param? (layout : Layout) (name : Text) : Option Param :=
  layout.params.find? fun param => param.name == name

/-- The positions of the given key. -/
def positions? (layout : Layout) (key : Text) : Option (List Nat) :=
  (layout.entries.find? fun entry => entry.1 == key).map (·.2)

/-- Adds a parameter, or one more use of it, which must be of the same kind. -/
def declare (name : Text) (kind : Kind) (negated : Bool) :
    List Param → Except Error (List Param)
  | [] => .ok [⟨name, kind, negated⟩]
  | param :: rest =>
    if param.name = name then
      if param.kind = kind then .ok ({ param with negated := param.negated || negated } :: rest)
      else .error (.conflictingKinds name)
    else (declare name kind negated rest).map (param :: ·)

/-- Adds a position to those of a key. -/
def record (key : Text) (position : Nat) : List (Text × List Nat) → List (Text × List Nat)
  | [] => [(key, [position])]
  | (other, positions) :: rest =>
    if other = key then (other, positions ++ [position]) :: rest
    else (other, positions) :: record key position rest

/-- Adds the next placeholder, under the given key. -/
def push (layout : Layout) (key : Text) : Layout :=
  { layout with
    placeholders := layout.placeholders + 1
    entries := record key (layout.placeholders + 1) layout.entries }

/-- Adds a reference to a scalar. -/
def addScalar (layout : Layout) (name : Text) : Except Error Layout :=
  match declare name .scalar false layout.params with
  | .error e => .error e
  | .ok params => .ok (push { layout with params } name)

/-- Adds a reference to a list. -/
def addList (layout : Layout) (name : Text) (capacity : Nat) (negated : Bool) :
    Except Error Layout :=
  match declare name (.list capacity) negated layout.params with
  | .error e => .error e
  | .ok params =>
    .ok (((List.range capacity).map (slotKey name)).foldl push { layout with params })

/-- What can be done to a layout. -/
inductive Operation where
  /-- A reference to a scalar is added. -/
  | scalar (name : Text)
  /-- A reference to a list is added. -/
  | list (name : Text) (capacity : Nat) (negated : Bool)
  deriving DecidableEq

/-- The use that an operation makes of its parameter. -/
def Operation.use : Operation → Param
  | scalar name => ⟨name, .scalar, false⟩
  | list name capacity negated => ⟨name, .list capacity, negated⟩

/-- Carries out an operation. -/
def apply (layout : Layout) : Operation → Except Error Layout
  | .scalar name => layout.addScalar name
  | .list name capacity negated => layout.addList name capacity negated

@[simp] theorem placeholders_push (layout : Layout) (key : Text) :
    (layout.push key).placeholders = layout.placeholders + 1 := rfl

@[simp] theorem params_push (layout : Layout) (key : Text) :
    (layout.push key).params = layout.params := rfl

@[simp] theorem placeholders_foldl_push (keys : List Text) (layout : Layout) :
    (keys.foldl push layout).placeholders = layout.placeholders + keys.length := by
  induction keys generalizing layout with
  | nil => rfl
  | cons key keys ih => simp [ih, Nat.add_assoc, Nat.add_comm 1]

@[simp] theorem params_foldl_push (keys : List Text) (layout : Layout) :
    (keys.foldl push layout).params = layout.params := by
  induction keys generalizing layout with
  | nil => rfl
  | cons key keys ih => simp [ih]

theorem find?_record (key other : Text) (position : Nat) (entries : List (Text × List Nat)) :
    ((record key position entries).find? fun entry => entry.1 == other).map (·.2) =
      if other = key then
        some (((entries.find? fun entry => entry.1 == key).map (·.2)).getD [] ++ [position])
      else (entries.find? fun entry => entry.1 == other).map (·.2) := by
  induction entries with
  | nil =>
    by_cases h : other = key
    · simp [record, h]
    · simp [record, h, Ne.symm h]
  | cons entry rest ih =>
    obtain ⟨first, positions⟩ := entry
    by_cases hfirst : first = key
    · subst hfirst
      by_cases h : other = first
      · simp [record, h]
      · simp [record, h, Ne.symm h]
    · simp only [record, hfirst, if_false]
      by_cases h : first = other
      · subst h
        simp [hfirst]
      · have hb : (first == other) = false := by simpa using h
        have hk : (first == key) = false := by simpa using hfirst
        simp only [List.find?_cons, hb, hk, ih]

/-- A new placeholder is added to the positions of its own key and no other. -/
theorem positions?_push (layout : Layout) (key other : Text) :
    (layout.push key).positions? other =
      if other = key then
        some ((layout.positions? key).getD [] ++ [layout.placeholders + 1])
      else layout.positions? other :=
  find?_record key other _ _

end Layout

end NamedSql
