import BoundQuery.Template

/-!
# Named parameters

Placeholders `$param1`, `$props2`, …: a name is a stem and the next number of a counter. The stores
of one family count together, so that no number is given twice, but each keeps its own values.
-/

namespace BoundQuery

/-- Parameters by name, in the order in which the names first came. -/
abbrev Bindings := List (Str × Value)

namespace Bindings

/-- Puts an entry into a list of named values: a name that is there keeps its place. -/
def put (name : Str) (value : Value) : Bindings → Bindings
  | [] => [(name, value)]
  | (n, v) :: rest => if n == name then (name, value) :: rest else (n, v) :: put name value rest

/-- Puts the entries of `b` after those of `a`; a name that comes again keeps its place and takes
the later value. -/
def merge (a b : Bindings) : Bindings :=
  b.foldl (fun made entry => put entry.1 entry.2 made) a

end Bindings

structure Named where
  counter : Nat := 0
  values : Bindings := []

namespace Named

/-- The stem of a parameter that is named after nothing in particular. -/
def defaultStem : Str :=
  "param"

def generateName (stem : Str) (p : Named) : Str × Named :=
  (stem ++ Str.ofNat (p.counter + 1), { p with counter := p.counter + 1 })

/-- Keeps a value under a new name. -/
def addNamed (stem : Str) (v : Value) (p : Named) : Str × Named :=
  let (name, p) := p.generateName stem
  (name, { p with values := Bindings.put name v p.values })

def add (stem : Str) (v : Value) (p : Named) : Str × Named :=
  let (name, p) := p.addNamed stem v
  ("$" ++ name, p)

def fill (t : Template) (p : Named) : Str × Named :=
  t.fill (add defaultStem) p

/-- A store of the same family without values. -/
def scope (p : Named) : Named :=
  { counter := p.counter }

end Named

/-- The stores that share one counter, in the order in which they were made. -/
structure Family where
  counter : Nat := 0
  stores : List Bindings := [[]]

namespace Family

def store (f : Family) (i : Nat) : Named :=
  ⟨f.counter, f.stores[i]?.getD []⟩

def update (f : Family) (i : Nat) (p : Named) : Family :=
  ⟨p.counter, f.stores.set i p.values⟩

/-- Makes a new store and gives its place. -/
def scope (f : Family) : Nat × Family :=
  (f.stores.length, { f with stores := f.stores ++ [[]] })

end Family
end BoundQuery
