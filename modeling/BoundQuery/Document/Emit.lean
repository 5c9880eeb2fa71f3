import BoundQuery.Digest.Sha256
import BoundQuery.Document.Graph
import BoundQuery.Document.Registry
import BoundQuery.Document.Relational
import BoundQuery.Json.Text

/-!
# Rendering documents

A document is rendered in the dialect that is asked for, or else in the one that it names itself.
What is emitted carries a fingerprint, the digest of its text and parameters, which tells apart
what may share a prepared statement.
-/

namespace BoundQuery.Document

/-- A rendered statement of either family. -/
inductive Rendered where
  | sql (query : SqlQuery) (statement : Str)
  | cypher (query : CypherQuery)

structure Emitted where
  rendered : Rendered
  dialect : RegisteredDialect
  fingerprint : Str

namespace Rendered

def text : Rendered → Str
  | sql query _ => query.text
  | cypher query => query.query

def textKey : Rendered → Str
  | sql _ _ => "text"
  | cypher _ => "query"

def params : Rendered → Value
  | sql query _ => .list query.params
  | cypher query => .record query.params

/-- The text and the parameters as a record. -/
def fields (r : Rendered) : List (Str × Value) :=
  [(r.textKey, .str r.text), ("params", r.params)]

end Rendered

/-- The digest of a record without its metadata. -/
def fingerprint (output : Value) : Result Str := do
  match ← output.toMapping with
  | .map entries =>
    let kept := entries.filter fun entry => !entry.1.isText "metadata"
    return Sha256.hexDigest (← Json.canonicalBytes (.map kept))
  | v => throw (.misuse (.notIterable v))

namespace Emitted

def statementField (e : Emitted) : List (Str × Value) :=
  match e.rendered with
  | .sql _ statement => [("statement", .str statement)]
  | .cypher _ => []

def metadata (e : Emitted) : Value :=
  .record (("dialect", .text e.dialect.name) :: ("paramstyle", .str e.dialect.paramstyle) ::
    (e.statementField ++ [(("fingerprint" : Str), .str e.fingerprint)]))

def fields (e : Emitted) : List (Str × Value) :=
  e.rendered.fields ++ [(("metadata" : Str), e.metadata)]

end Emitted

def renderAs (config : Config) (document : Value) : Dialect → Result Rendered
  | .relational => do
    let (query, statement) ← Relational.render config (← document.entriesFor "get")
    return .sql query statement
  | .graph => do
    return .cypher (← Graph.render config (← document.entriesFor "get"))

/-- The dialect asked for, or the one that the document names. -/
def dialectName (document dialect : Value) : Result Value := do
  let name ← if dialect.isTruthy then pure dialect
    else (document.entriesFor "get").map (Value.field · "dialect")
  if name.isTruthy then return name else throw (.argument .missingDialect)

def emit (config : Config) (document dialect : Value) : Result Emitted := do
  let found ← Registry.get (← dialectName document dialect) Registry.standard
  match found.family with
  | some family =>
    let rendered ← renderAs config document family
    return { rendered, dialect := found, fingerprint := ← fingerprint (.record rendered.fields) }
  | none => throw (.misuse (.noMember document "render"))

end BoundQuery.Document
