/-
This file holds the verbs of operations.
-/

namespace GraphQuery

inductive Method where
  | query
  | mutation
deriving DecidableEq, Repr, Inhabited

def Method.keyword : Method → String
  | query => "query"
  | mutation => "mutation"

end GraphQuery
