import NamedSql.Prepared

/-! # Queries of the client library

A prepared plan is run through a query of the client library, which takes its arguments one after
the other and encodes each of them when it takes it. A query that is run for its effect takes them
itself, and a query that is run for rows hands them on to the query inside it. -/

namespace NamedSql

/-- The arguments that a query has taken. -/
structure Packet where
  /-- The type of each, and whether it is NULL. -/
  columns : List (ColumnType × Bool)
  /-- The bytes of all of them, one after the other. -/
  bytes : List UInt8
  deriving DecidableEq

namespace Packet

/-- No arguments. -/
def empty : Packet := ⟨[], []⟩

/-- One more argument. -/
def add (packet : Packet) (cell : Cell) : Packet :=
  ⟨packet.columns ++ [(cell.type, cell.isNull)], packet.bytes ++ cell.bytes⟩

end Packet

/-- A query that is run for its effect. -/
structure Query where
  /-- The SQL. -/
  sql : Text
  /-- The arguments taken so far. -/
  packet : Packet
  deriving DecidableEq

/-- A query that is run for rows. -/
structure QueryAs where
  /-- The query that is sent. -/
  inner : Query
  deriving DecidableEq

/-- Queries that take arguments one after the other. -/
class TakesArguments (q : Type) where
  /-- The query with one more argument. -/
  bindOne : q → Cell → q

instance : TakesArguments Query where
  bindOne query cell := { query with packet := query.packet.add cell }

instance : TakesArguments QueryAs where
  bindOne query cell := ⟨TakesArguments.bindOne query.inner cell⟩

section

variable {q : Type} [TakesArguments q]

/-- A query with one more value. -/
def bindValue (query : q) (value : Value) : q := TakesArguments.bindOne query (.ofValue value)

/-- A query with the values for all placeholders. -/
def bindArguments (query : q) (arguments : Arguments) : q := arguments.values.foldl bindValue query

end

/-- A query without arguments. -/
def Query.ofText (sql : Text) : Query := ⟨sql, .empty⟩

/-- A query for rows without arguments. -/
def QueryAs.ofText (sql : Text) : QueryAs := ⟨.ofText sql⟩

/-- A statement as a query that has taken all arguments. -/
def Query.ofStatement (statement : Statement) : Query :=
  ⟨statement.sql, statement.cells.map (fun cell => (cell.type, cell.isNull)), statement.bytes⟩

namespace Prepared

/-- The query that is run for the effect. -/
def query (prepared : Prepared) : Query :=
  bindArguments (.ofText prepared.plan.sql) prepared.arguments

/-- The query that is run for rows. -/
def queryAs (prepared : Prepared) : QueryAs :=
  bindArguments (.ofText prepared.plan.sql) prepared.arguments

/-- The query that is sent if the plan is run in the given way. -/
def sent (prepared : Prepared) : Mode → Query
  | .execute => prepared.query
  | .fetchAll => prepared.queryAs.inner
  | .fetchOne => prepared.queryAs.inner
  | .fetchOptional => prepared.queryAs.inner

end Prepared

end NamedSql
