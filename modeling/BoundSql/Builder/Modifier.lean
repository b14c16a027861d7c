import BoundSql.Builder

/-!
# Modifiers

A modifier is one change of the statement that a builder holds, as data: a joined table, a step on
the predicates, an expression to group or order by, a limit, an offset, or another source of page
numbers. Only a step on the predicates can fail.
-/

namespace BoundSql

/-- One change of a builder. -/
inductive Modifier where
  | join (kind : JoinKind) (fragment : String)
  | filter (step : Step)
  | groupBy (expression : String)
  | orderBy (expression : String)
  | limit (text : String)
  | offset (n : UInt64)
  | pageSource (source : PageSource)

namespace Builder

/-- The builder after a modifier. -/
def modify (builder : Builder) : Modifier → Except Error Builder
  | .join kind fragment => .ok (builder.join kind fragment)
  | .filter step => builder.filter step
  | .groupBy expression => .ok (builder.groupBy expression)
  | .orderBy expression => .ok (builder.orderBy expression)
  | .limit text => .ok (builder.limit text)
  | .offset n => .ok (builder.offset n)
  | .pageSource source => .ok (builder.withPageSource source)

/-- The builder after modifiers, or the first error. -/
def modifyAll (builder : Builder) : List Modifier → Except Error Builder
  | [] => .ok builder
  | modifier :: rest => do
    let builder ← builder.modify modifier
    builder.modifyAll rest

end Builder

end BoundSql
