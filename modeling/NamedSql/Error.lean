import NamedSql.Text.Quoted

/-! # Errors

What can go wrong with settings, templates, values and the database, and how it is worded. -/

namespace NamedSql

/-- The shape of value that a parameter takes. -/
inductive Shape where
  /-- One value. -/
  | single
  /-- A list. -/
  | list
  /-- A list whose elements are single values. -/
  | listOfSingles
  deriving DecidableEq

/-- The shape in words. -/
def Shape.describe : Shape → Text
  | single => "a single value, not an array".toList
  | list => "an array".toList
  | listOfSingles => "an array of single values".toList

/-- Why a database refuses to answer a statement. -/
inductive Refusal where
  /-- A row was asked for and there is none. -/
  | rowNotFound
  /-- The connections are closed. -/
  | poolClosed
  /-- No connection became free in time. -/
  | poolTimedOut
  /-- The worker that holds the connection has died. -/
  | workerCrashed
  /-- The answer has no such column. -/
  | columnNotFound (column : Text)
  /-- The answer makes no sense. -/
  | invalidData (detail : Text)
  deriving DecidableEq

/-- The refusal in words. -/
def Refusal.message : Refusal → Text
  | rowNotFound => "no rows returned by a query that expected to return at least one row".toList
  | poolClosed => "attempted to acquire a connection on a closed pool".toList
  | poolTimedOut => "pool timed out while waiting for an open connection".toList
  | workerCrashed => "attempted to communicate with a crashed background worker".toList
  | columnNotFound column => "no column found for name: ".toList ++ column
  | invalidData detail => "encountered unexpected or invalid data: ".toList ++ detail

/-- The causes of failure. -/
inductive Error where
  /-- A capacity is set or asked for, but the parameter is no list. -/
  | listRequired (name : Text)
  /-- A list has no room at all. -/
  | zeroCapacity (name : Text)
  /-- The marker could be taken for part of a name or for a placeholder. -/
  | markerRefused (marker : Char)
  /-- The field in front of LIKE_ANY holds a placeholder, so it cannot be repeated. -/
  | placeholderInField (name : Text)
  /-- The name is used for a single value and for a list, or for lists of different capacity. -/
  | conflictingKinds (name : Text)
  /-- The template has no parameter of this name. -/
  | unknownParameter (name : Text)
  /-- A list has more elements than there is room for. -/
  | tooManyElements (name : Text) (length capacity : Nat)
  /-- A parameter has no value. -/
  | unbound (name : Text)
  /-- A value has the wrong shape for its parameter. -/
  | wrongShape (name : Text) (expected : Shape)
  /-- The database refused the statement. -/
  | database (refusal : Refusal)
  deriving DecidableEq

namespace Error

private def named (name : Text) : Text := ['\x27'] ++ name ++ ['\x27']

/-- The error in words. Names stand in the message as they are. -/
def message : Error → Text
  | listRequired name => "array parameter required: ".toList ++ named name
  | zeroCapacity name =>
    "invalid array length 0 for ".toList ++ named name ++ ": must be greater than zero".toList
  | markerRefused marker => "invalid parameter marker ".toList ++ Quoted.char marker
  | placeholderInField name =>
    "invalid array context for ".toList ++ named name ++
      ": the field before LIKE_ANY contains a placeholder".toList
  | conflictingKinds name =>
    "parameter ".toList ++ named name ++ " is used both as a scalar and as an array".toList
  | unknownParameter name => "unknown parameter ".toList ++ named name
  | tooManyElements name length capacity =>
    "array parameter ".toList ++ named name ++ " has ".toList ++ Text.decimal length ++
      " elements but capacity is ".toList ++ Text.decimal capacity
  | unbound name => "Placeholder ".toList ++ named name ++ " was not bound".toList
  | wrongShape name expected =>
    "parameter ".toList ++ named name ++ " expects ".toList ++ expected.describe
  | database refusal => "Database error: ".toList ++ refusal.message

end Error

end NamedSql
