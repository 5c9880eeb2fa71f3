import BoundQuery.GraphQuery.Basic
import BoundQuery.Statement.Query

/-!
# Writing graph queries

The clauses in the fixed order of the grammar, and the parameters of the pieces that were placed,
in the order in which they are written.
-/

namespace BoundQuery

structure CypherQuery where
  query : Str
  params : Bindings

namespace GraphQuery

/-- One clause of the query, with the pieces it is made of. -/
structure Clause where
  text : Str
  pieces : List Pattern := []

/-- A clause for each pattern. -/
def eachPattern (keyword : Str) (ps : List Pattern) : List Clause :=
  ps.map fun p => { text := keyword ++ p.text, pieces := [p] }

/-- One clause for all patterns, if there are any. -/
def joinedPatterns (keyword separator : Str) : List Pattern → List Clause
  | [] => []
  | ps => [{ text := keyword ++ Str.intercalate separator (ps.map (·.text)), pieces := ps }]

/-- One clause for all texts, if there are any. -/
def joinedTexts (keyword : Str) : List Str → List Clause
  | [] => []
  | texts => [{ text := keyword ++ commaSeparated texts }]

def clauses (q : GraphQuery) : Result (List Clause) := do
  let withTexts ← spellings 0 q.withItems
  let returnTexts ← spellings 0 q.returnItems
  return eachPattern "MATCH " (q.patterns .matching) ++
    eachPattern "OPTIONAL MATCH " (q.patterns .optional) ++
    eachPattern "" (q.patterns .unwind) ++
    joinedPatterns "WHERE " " AND " (q.patterns .condition) ++
    joinedTexts "WITH " withTexts ++
    eachPattern "CREATE " (q.patterns .create) ++
    eachPattern "MERGE " (q.patterns .merge) ++
    joinedPatterns "SET " ", " (q.patterns .assign) ++
    joinedTexts "DETACH DELETE " (q.detachDeletes.map Text.spelling) ++
    joinedTexts "DELETE " (q.deletes.map Text.spelling) ++
    joinedTexts "RETURN " returnTexts ++
    joinedTexts "ORDER BY " q.orders ++
    eachPattern "" q.skip.toList ++
    eachPattern "" q.limit.toList

def separator (config : Config) : Result Str :=
  match config.clauseSeparator with
  | .text t => .ok t.spelling
  | v => .error (.misuse (.noMember v "join"))

/-- The parameters of all pieces, a name that comes again keeping its first place. -/
def params (cs : List Clause) : Bindings :=
  (cs.flatMap (·.pieces)).foldl (fun made p => made.merge p.params) []

def build (q : GraphQuery) : Result CypherQuery := do
  let cs ← q.clauses
  let separator ← separator q.config
  return { query := Str.intercalate separator (cs.map (·.text)), params := params cs }

end GraphQuery
end BoundQuery
