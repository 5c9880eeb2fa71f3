import BoundQuery.Document.Section
import BoundQuery.Statement.Insert
import BoundQuery.Statement.Modify
import BoundQuery.Statement.Select
import BoundQuery.Value.Display

/-!
# Documents of relational statements

A document names its statement, or means a selection, and its table. The other sections are turned
into calls on the statement in a fixed order, whatever the order of the keys.
-/

namespace BoundQuery.Document.Relational

/-- Runs calls on a selection that stop at the first that is turned down. -/
abbrev Selecting := StateT Select Result

def call (c : Select.Call) : Selecting Unit := do
  let (s, fault?) := (← get).step c
  match fault? with
  | some fault => throw fault
  | none => set s

def joinCall (join : Value) : Result Select.Call := do
  let table ← require join "table" "join"
  let condition ← require join "on" "join"
  return .join table (fieldOr (entriesOf join) "type" (.str "INNER")) condition

/-- An aggregate is named by its expression; a field will do where there is no expression. -/
def havingKey (entry : Value) : Str :=
  let entries := entriesOf entry
  if !hasKey entries "expression" && hasKey entries "field" then "field" else "expression"

def havingCall (entry : Value) : Result Select.Call := do
  let expression ← require entry (havingKey entry) "having entry"
  let entries := entriesOf entry
  return .having expression (fieldOr entries "op" (.str "=")) (Value.field entries "value")

def orderCall (entry : Value) : Result Select.Call := do
  let (field, direction) ← sortEntry entry
  return .orderBy field direction

/-- A call for each element of a section, if the section is given. -/
def callEach (entries : Entries) (key : Str) (toCall : Value → Result Select.Call) :
    Selecting Unit := do
  (← (Value.field entries key).elementsOrNone).forM fun element => do call (← toCall element)

def callIfTruthy (entries : Entries) (key : Str) (toCall : Value → Select.Call) :
    Selecting Unit :=
  let v := Value.field entries key
  if v.isTruthy then call (toCall v) else return ()

def callIfGiven (entries : Entries) (key : Str) (toCall : Value → Select.Call) :
    Selecting Unit :=
  let v := Value.field entries key
  if v.isNull then return () else call (toCall v)

def selecting (entries : Entries) : Selecting Unit := do
  callEach entries "joins" joinCall
  callIfTruthy entries "where" fun filters => .restrict (.filters filters)
  callIfTruthy entries "group_by" .groupBy
  callEach entries "having" havingCall
  callEach entries "order_by" orderCall
  if hasKey entries "page" || hasKey entries "page_size" then
    call (.paginate (fieldOr entries "page" (.int 1)) (Value.field entries "page_size"))
  callIfGiven entries "limit" .limit
  callIfGiven entries "offset" .offset

def select (config : Config) (entries : Entries) (table : Value) : Result SqlQuery := do
  let start ← Select.make config table (Value.field entries "fields")
  let ((), s) ← (selecting entries).run start
  if (Value.field entries "count").isTruthy then s.buildCount else s.build

def insert (entries : Entries) (table : Value) (place : Str) : Result SqlQuery := do
  let s ← Insert.make table (← require (.map entries) "rows" place)
  let returning := Value.field entries "returning"
  if returning.isTruthy then
    match s.step (.returning returning) with
    | (_, some fault) => throw fault
    | (s, none) => return s.build
  else return s.build

def modifyCall (s : Modify) (c : Modify.Call) : Result Modify :=
  match s.step c with
  | (_, some fault) => .error fault
  | (s, none) => .ok s

/-- The restriction and the returned fields of a change of rows. -/
def modify (entries : Entries) (s : Modify) : Result SqlQuery := do
  let filters := Value.field entries "where"
  let s ← if filters.isTruthy then modifyCall s (.restrict (.filters filters)) else pure s
  let returning := Value.field entries "returning"
  let s ← if returning.isTruthy then modifyCall s (.returning returning) else pure s
  s.build

def update (config : Config) (entries : Entries) (table : Value) (place : Str) :
    Result SqlQuery := do
  modify entries (← Modify.makeUpdate config table (← require (.map entries) "set" place))

def delete (config : Config) (entries : Entries) (table : Value) : Result SqlQuery := do
  modify entries (← Modify.makeDelete config table)

/-- The kind of statement that a document asks for, in lower case. -/
def statementOf (entries : Entries) : Str :=
  Chars.lower (fieldOr entries "statement" (.str "select")).shown

/-- The statement of a document and the kind it is of. -/
def render (config : Config) (entries : Entries) : Result (SqlQuery × Str) := do
  let statement := statementOf entries
  let place := statement ++ " document"
  let table ← require (.map entries) "table" place
  let query ← match statement.string? with
    | some "select" => select config entries table
    | some "insert" => insert entries table place
    | some "update" => update config entries table place
    | some "delete" => delete config entries table
    | _ => throw (.argument (.unknownStatement statement))
  return (query, statement)

end BoundQuery.Document.Relational
