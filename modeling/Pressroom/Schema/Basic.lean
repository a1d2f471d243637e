import Pressroom.Json.Basic

/-!
The shape of a database: tables with their columns, and indexes over them. A schema changes by
statements that create and drop; a statement that cannot be carried out changes nothing.
-/
namespace Pressroom

/-- A column. `default` is the text that the schema gives for missing values. -/
structure Column where
  name : String
  type : String
  notNull : Bool
  default : Option String
  primary : Bool
  deriving DecidableEq

namespace Column

/-- A column that may be empty. -/
def plain (name type : String) : Column := ⟨name, type, false, none, false⟩

/-- A column that has to be filled. -/
def filled (name type : String) : Column := ⟨name, type, true, none, false⟩

end Column

/-- How an index compares texts: code point by code point, or with ASCII letters of both cases taken
as the same. -/
inductive Collation where
  | exact
  | noCase
  deriving DecidableEq

/-- An index. One that is `liveOnly` covers the rows that are not deleted. -/
structure Index where
  name : String
  table : String
  columns : List String
  collation : Collation
  unique : Bool
  liveOnly : Bool
  deriving DecidableEq

namespace Index

/-- An index that only helps to search. -/
def search (name table column : String) : Index := ⟨name, table, [column], .exact, false, false⟩

end Index

/-- A table: its columns in order, and the lists of columns that are unique together. -/
structure TableShape where
  name : String
  columns : List Column
  unique : List (List String)
  deriving DecidableEq

structure Schema where
  tables : List TableShape
  indexes : List Index
  deriving DecidableEq

namespace Schema

def empty : Schema := ⟨[], []⟩

def hasTable (s : Schema) (name : String) : Bool := s.tables.any fun t => t.name == name

def hasIndex (s : Schema) (name : String) : Bool := s.indexes.any fun i => i.name == name

/-- A change of the schema. What exists already is left alone if the statement says so. -/
inductive Statement where
  | createTable (ifMissing : Bool) (table : TableShape)
  | createIndex (ifMissing : Bool) (index : Index)
  | dropTable (name : String)

/-- Carries out a statement, if it can be. A table that is dropped takes its indexes along. -/
def carryOut? (s : Schema) : Statement → Option Schema
  | .createTable ifMissing table =>
    if s.hasTable table.name then (if ifMissing then some s else none)
    else some { s with tables := s.tables ++ [table] }
  | .createIndex ifMissing index =>
    if s.hasIndex index.name then (if ifMissing then some s else none)
    else if s.hasTable index.table then some { s with indexes := s.indexes ++ [index] }
    else none
  | .dropTable name =>
    if s.hasTable name then
      some ⟨s.tables.filter fun t => t.name != name, s.indexes.filter fun i => i.table != name⟩
    else none

/-- Carries out statements one after the other, all of them or none. -/
def carryOutAll? (s : Schema) : List Statement → Option Schema
  | [] => some s
  | statement :: rest =>
    match s.carryOut? statement with
    | none => none
    | some s => s.carryOutAll? rest

/-- How the unique index over the live rows of a table compares a column, if there is one. -/
def liveUnique? (s : Schema) (table column : String) : Option Collation :=
  (s.indexes.find? fun i =>
    i.table == table && i.columns == [column] && i.unique && i.liveOnly).map (·.collation)

/-! ### Description -/

def describeColumn (c : Column) : Json :=
  .ofFields [("name", .string c.name), ("type", .string c.type), ("notnull", .bool c.notNull),
    ("default", c.default.elim .null .string), ("pk", .bool c.primary)]

def describeNames (names : List String) : Json := .list (names.map .string)

def describeIndex (i : Index) : Json :=
  .ofFields [("name", .string i.name), ("unique", .bool i.unique), ("partial", .bool i.liveOnly),
    ("columns", describeNames i.columns)]

/-- A table with its indexes in the order of their names. -/
def describeTable (s : Schema) (t : TableShape) : Json :=
  let indexes := (s.indexes.filter fun i => i.table == t.name).mergeSort
    fun a b => decide (a.name ≤ b.name)
  .ofFields [("columns", .list (t.columns.map describeColumn)),
    ("indexes", .list (indexes.map describeIndex)),
    ("unique", .list (t.unique.map describeNames))]

/-- The tables of a schema by name. -/
def describe (s : Schema) : Json := .ofFields (s.tables.map fun t => (t.name, s.describeTable t))

end Schema

end Pressroom
