import SampleLibrary.Query.Condition

/-!
# Queries

A query is a list of conditions. Any text is a query: words that make no sense are dropped.
-/

namespace SampleLibrary.Query

def parse (text : String) : List Condition := (splitLenient text).filterMap Condition.ofWord?

/-- The number of words of a text that make no sense. -/
def dropped (text : String) : Nat :=
  (splitLenient text).countP fun word => (Condition.ofWord? word).isNone

def render (conditions : List Condition) : String := Text.join " " (conditions.map Condition.toText)

end SampleLibrary.Query
