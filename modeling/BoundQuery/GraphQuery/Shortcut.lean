import BoundQuery.GraphQuery.Build

/-!
# Queries in one call

The common queries on a single node or a single relationship. A relationship is created between
two nodes that are looked up first; the path that creates it names them again and asks for nothing.
-/

namespace BoundQuery.GraphQuery

inductive Shortcut where
  | findNode (label properties : Value)
  | createNode (label properties : Value)
  | updateNode (label idProperty idValue properties : Value)
  | deleteNode (label idProperty idValue detach : Value)
  | createRelationship (startLabel startIdProperty startId endLabel endIdProperty endId type
      properties : Value)

namespace Shortcut

open Building

/-- The node that has the label and the given value of one property. -/
def lookUp (name : Str) (label idProperty idValue : Value) : Building Unit := do
  let properties ← Value.singleton idProperty idValue
  let node ← makePattern (.node (.str name) (.list [label]) properties)
  call (.matching node.toValue)

/-- A node that has been looked up before. -/
def known (name : Str) : Building Pattern :=
  makePattern (.node (.str name) .null .null)

def returning (name : Str) : Building Unit :=
  call (.returnItems [.str name])

def steps : Shortcut → Building Unit
  | findNode label properties => do
    let node ← makePattern (.node (.str "n") (.list [label]) properties)
    call (.matching node.toValue)
    returning "n"
  | createNode label properties => do
    let node ← makePattern (.node (.str "n") (.list [label]) properties)
    call (.create node.toValue)
    returning "n"
  | updateNode label idProperty idValue properties => do
    lookUp "n" label idProperty idValue
    if properties.isTruthy then call (.setProperties (.str "n") properties)
    returning "n"
  | deleteNode label idProperty idValue detach => do
    lookUp "n" label idProperty idValue
    call (if detach.isTruthy then .detachDelete [.str "n"] else .delete [.str "n"])
  | createRelationship startLabel startIdProperty startId endLabel endIdProperty endId type
      properties => do
    lookUp "start" startLabel startIdProperty startId
    lookUp "end" endLabel endIdProperty endId
    let first ← known "start"
    let between ←
      makePattern (.relationship (.str "r") type properties (.str RelDirection.outward.spelling))
    let last ← known "end"
    let path ← makePattern (.path (.list [first.toValue, between.toValue, last.toValue]))
    call (.create path.toValue)
    returning "r"

def run (config : Config) (s : Shortcut) : Result CypherQuery := do
  let ((), q) ← s.steps.run { config }
  q.build

end Shortcut
end BoundQuery.GraphQuery
