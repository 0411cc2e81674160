/-
  Filters: which rows a statement reads.

  A filter is a conjunction of factors.  A factor is one test of a column, or several tests of the
  same dimension in parentheses, of which any or all must hold.  Every value stands in the filter
  as a value, never as text, so that writing a filter out turns each into exactly one placeholder
  with the value beside it.
-/
import Rollup.Ranking
import Rollup.Sql.Clause
import Rollup.Table

namespace Rollup.Sql

/-! ## Columns and tests -/

/-- A column by which rows are filtered. -/
inductive Column
  | identity
  | name
  | host
  | app
  | instanceId
  | time
  deriving DecidableEq

/-- The name of a column in statements. -/
def Column.text : Column → String
  | identity => "UUID"
  | name => "METRIC_NAME"
  | host => "HOSTNAME"
  | app => "APP_ID"
  | instanceId => "INSTANCE_ID"
  | time => "SERVER_TIME"

/-- How a column is compared with a value. -/
inductive Relation
  | equal
  | unequal
  | like
  | unlike
  | atLeast
  | below
  deriving DecidableEq

/-- The operator of a relation. -/
def Relation.text : Relation → String
  | equal => "="
  | unequal => "<>"
  | like => "LIKE"
  | unlike => "NOT LIKE"
  | atLeast => ">="
  | below => "<"

/-- A test of one column. -/
inductive Test
  | compare (column : Column) (relation : Relation) (value : Value)
  | member (column : Column) (negated : Bool) (values : List Value)
  deriving DecidableEq

namespace Test

/-- The test whether the column equals the value, or whether it does not. -/
def equals (negated : Bool) (column : Column) (value : Value) : Test :=
  compare column (if negated then .unequal else .equal) value

/-- The test whether the column matches the pattern, or whether it does not. -/
def likes (negated : Bool) (column : Column) (value : Value) : Test :=
  compare column (if negated then .unlike else .like) value

/-- A list of `n` placeholders. -/
def placeholderList (n : Nat) : String :=
  String.intercalate ", " (List.replicate n placeholder.toString)

/-- A test as a clause. -/
def clause : Test → Clause
  | compare column relation value =>
    { text := column.text ++ " " ++ relation.text ++ " ?", values := [value] }
  | member column negated values =>
    { text := column.text ++ (if negated then " NOT IN (" else " IN (")
        ++ placeholderList values.length ++ ")"
      values := values }

end Test

/-! ## Factors and filters -/

/-- One dimension of a filter. -/
inductive Factor
  | one (test : Test)
  | anyOf (tests : List Test)
  | allOf (tests : List Test)
  deriving DecidableEq

namespace Factor

/-- Several tests of one dimension: any of them must hold, or all of them if they are negated. -/
def group (negated : Bool) (tests : List Test) : Factor :=
  if negated then allOf tests else anyOf tests

/-- Tests in parentheses with a word between them. -/
def enclosed (word : String) (tests : List Test) : Clause :=
  { text := "(" ++ String.intercalate word (tests.map fun t => t.clause.text) ++ ")"
    values := tests.flatMap fun t => t.clause.values }

/-- A factor as a clause. -/
def clause : Factor → Clause
  | one test => test.clause
  | anyOf tests => enclosed " OR " tests
  | allOf tests => enclosed " AND " tests

end Factor

/-- Factors that must all hold; none at all lets every row pass. -/
abbrev Filter := List Factor

/-- A filter as a clause. -/
def Filter.clause (f : Filter) : Clause := Clause.all (f.map Factor.clause)

/-! ## Filters by rank -/

/-- The best series of those that a filter lets pass, within a window. -/
structure RankedFilter where
  ranking : Ranking
  source : Table
  candidates : Filter
  window : Filter
  deriving DecidableEq

/-- The test for being among the best: the identities of the ranked candidates in a query of their
    own. -/
def RankedFilter.membership (f : RankedFilter) : Clause :=
  { text := "UUID IN (SELECT UUID FROM " ++ f.source.name ++ f.candidates.clause.whereText
      ++ " GROUP BY UUID ORDER BY " ++ f.ranking.expression ++ " " ++ f.ranking.direction
      ++ " LIMIT " ++ toString f.ranking.count ++ ")"
    values := f.candidates.clause.values }

/-- A filter by rank as a clause. -/
def RankedFilter.clause (f : RankedFilter) : Clause := f.membership.and f.window.clause

/-- What decides whether a row is read. -/
inductive Predicate
  | plain (filter : Filter)
  | ranked (filter : RankedFilter)
  deriving DecidableEq

/-- A predicate as a clause. -/
def Predicate.clause : Predicate → Clause
  | plain filter => filter.clause
  | ranked filter => filter.clause

end Rollup.Sql
