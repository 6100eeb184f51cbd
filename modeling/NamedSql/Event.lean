import NamedSql.Draft

/-! # Events

What happens while templates are compiled, looked up, bound and executed, as a log shows it: a
level, a message and named fields. -/

namespace NamedSql

/-- How much an event matters. -/
inductive Level where
  /-- Of interest when the library itself is examined. -/
  | trace
  /-- Of interest when a program that uses the library is examined. -/
  | debug
  /-- Probably not what was meant. -/
  | warning
  deriving DecidableEq

/-- The level in words. -/
def Level.describe : Level → Text
  | trace => "TRACE".toList
  | debug => "DEBUG".toList
  | warning => "WARN".toList

/-- Something that happened. -/
inductive Event where
  /-- A reference was found and its context read. -/
  | visited (visit : Visit)
  /-- A template was compiled. -/
  | compiled (sourceLength placeholders params : Nat)
  /-- A template is not in the cache and is about to be compiled. -/
  | cacheMiss (template : Text)
  /-- A negated list without elements is filled up with NULL. -/
  | emptyNegatedList (param : Text)
  /-- A statement is sent to the database. -/
  | executed (sql : Text) (arguments : Nat)
  deriving DecidableEq

namespace Event

/-- The level of an event. -/
def level : Event → Level
  | visited _ => .trace
  | emptyNegatedList _ => .warning
  | _ => .debug

/-- The event in words. -/
def message : Event → Text
  | visited _ => "classified parameter".toList
  | compiled .. => "compiled SQL template".toList
  | cacheMiss _ => "template cache miss".toList
  | emptyNegatedList _ => "empty array in a negated context is padded with NULL".toList
  | executed .. => "executing query".toList

/-- The details of an event. -/
def fields : Event → List (Text × Text)
  | visited visit =>
    [("param".toList, visit.name), ("context".toList, visit.context.describe),
      ("offset".toList, Text.decimal visit.offset)]
  | compiled sourceLength placeholders params =>
    [("source_len".toList, Text.decimal sourceLength),
      ("placeholders".toList, Text.decimal placeholders),
      ("params".toList, Text.decimal params)]
  | cacheMiss template => [("template".toList, template)]
  | emptyNegatedList param => [("param".toList, param)]
  | executed sql arguments =>
    [("sql".toList, sql), ("args".toList, Text.decimal arguments)]

end Event

end NamedSql
