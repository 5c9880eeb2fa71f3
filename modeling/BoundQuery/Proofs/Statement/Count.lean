import BoundQuery.Proofs.Statement.Numbering
import BoundQuery.Proofs.Statement.Reordering

/-!
# Counting the rows of a selection

A selection is built as the statement that gives its rows and as the one that counts them. Both
share everything after their select list but the order and the window of the rows, which come last
and so leave the numbers of the other placeholders alone.

## Main definitions

* `Select.tailText`, `Select.windowValues` — what only the statement that gives the rows says and
  binds.
* `Select.unpaged` — the selection that has no order and no window.

## Main statements

* `Select.unpaged_after` — calls for the order and the window change nothing else.
* `Select.build_with_buildCount` — how the two statements hang together.
-/

namespace BoundQuery

theorem spellings_texts (index : Nat) (names : List Text) :
    spellings index (names.map Value.text) = .ok (names.map Text.spelling) := by
  induction names generalizing index with
  | nil => rfl
  | cons t names ih =>
    rw [List.map_cons, spellings, ih]
    rfl

namespace Select

/-! ## Two statements -/

/-- A clause for a number of rows that is the parameter of the given number. -/
def countText (keyword : Str) (number : Nat) : Option Int → Str
  | some _ => keyword ++ Positional.placeholder number
  | none => ""

def countValues : Option Int → List Value
  | some count => [.int count]
  | none => []

/-- The limit and the offset, if they are set. -/
def windowValues (s : Select) : List Value :=
  countValues s.limit ++ countValues s.offset

/-- The order and the window of rows, after `bound` parameters. -/
def tailText (s : Select) (bound : Nat) : Str :=
  sortText s.sorts ++ countText " LIMIT " (bound + 1) s.limit ++
    countText " OFFSET " (bound + (countValues s.limit).length + 1) s.offset

theorem values_countClause (keyword : Str) (count : Option Int) :
    (countClause keyword count).values = countValues count := by
  cases count <;> rfl

theorem written_countClause (keyword : Str) (bound : Nat) (count : Option Int) :
    ((countClause keyword count).inscribe "" bound).written =
      countText keyword (bound + 1) count := by
  cases count with
  | none => rfl
  | some n => simp [countClause, countText, Template.inscribe, Positional.placeholder, Mark.word]

theorem values_tail (s : Select) : s.tail.values = s.windowValues := by
  simp [tail, windowValues, Template.values, values_countClause]

theorem written_tail (s : Select) (bound : Nat) :
    (s.tail.inscribe "" bound).written = s.tailText bound := by
  simp [tail, tailText, Template.inscribe, Template.inscribe_append, values_countClause,
    written_countClause, Str.append_assoc]

theorem build_of_body {s : Select} {names : List Text} (texts : s.fields = names.map .text)
    {body : Template} (made : s.body = .ok body) :
    s.build = .ok
      { text := "SELECT " ++ commaSeparated (names.map Text.spelling) ++
          (body.inscribe "" 0).written ++ s.tailText body.values.length
        params := body.values ++ s.windowValues } := by
  rw [build, texts, spellings_texts, made]
  change Except.ok (SqlQuery.ofTemplate (head _ :: (body ++ s.tail))) = _
  rw [SqlQuery.ofTemplate_eq]
  simp [head, Template.inscribe, Template.inscribe_append, Template.values, written_tail,
    values_tail, Str.append_assoc]

theorem buildCount_of_body {s : Select} {body : Template} (made : s.body = .ok body) :
    s.buildCount = .ok
      { text := "SELECT COUNT(*) AS total" ++ (body.inscribe "" 0).written
        params := body.values } := by
  rw [buildCount, made]
  change Except.ok (SqlQuery.ofTemplate (head _ :: body)) = _
  rw [SqlQuery.ofTemplate_eq]
  have heading : Str.of "SELECT " ++ Str.of "COUNT(*) AS total" = "SELECT COUNT(*) AS total" := rfl
  simp [head, Template.inscribe, Template.values, heading]

/-! ## Calls for the order and the window -/

/-- Whether what is collected says which of the rows are given, and in which order. -/
def Bucket.isPaging : Bucket → Bool
  | sorts | page => true
  | _ => false

/-- The calls that say which of the rows are given, and in which order. -/
def Call.isPaging : Call → Bool
  | orderBy _ _ | limit _ | offset _ | paginate _ _ => true
  | _ => false

theorem isPaging_bucket (call : Call) : call.bucket.isPaging = call.isPaging := by
  cases call <;> rfl

/-- The selection without an order and a window. -/
def unpaged (s : Select) : Select :=
  { s with sorts := [], limit := none, offset := none }

theorem buildCount_unpaged (s : Select) : s.unpaged.buildCount = s.buildCount := rfl

theorem unpaged_apply (s : Select) (e : Edit) :
    (s.apply e).unpaged = if e.bucket.isPaging then s.unpaged else s.unpaged.apply e := by
  cases e <;> rfl

theorem unpaged_foldl_apply {b : Bucket} {edits : List Edit} (same : ∀ e ∈ edits, e.bucket = b)
    (s : Select) :
    (edits.foldl apply s).unpaged =
      if b.isPaging then s.unpaged else edits.foldl apply s.unpaged := by
  induction edits generalizing s with
  | nil => simp
  | cons e edits ih =>
    have first := same e List.mem_cons_self
    have rest := ih fun e mem => same e (List.mem_cons_of_mem _ mem)
    rw [List.foldl_cons, List.foldl_cons, rest, unpaged_apply, first]
    cases b.isPaging <;> rfl

/-- A call for the order or the window changes nothing else, and the other calls do not see it. -/
theorem unpaged_step (s : Select) (call : Call) :
    (s.step call).1.unpaged = if call.isPaging then s.unpaged else (s.unpaged.step call).1 := by
  rw [← isPaging_bucket]
  exact unpaged_foldl_apply (bucket_of_mem_effect s.config call) s

theorem unpaged_after (s : Select) (calls : List Call) :
    (Run.after step s calls).unpaged =
      Run.after step s.unpaged (calls.filter fun call => !call.isPaging) := by
  induction calls generalizing s with
  | nil => rfl
  | cons call calls ih =>
    change (Run.after step (s.step call).1 calls).unpaged = _
    rw [ih, unpaged_step]
    cases paging : call.isPaging <;> simp [paging, Run.after]

/-- Both statements are turned down for the same reason, or they agree up to the select list and
the end of the text, where only the order and the window stand; the parameters of the one begin
with those of the other, and end with the limit and the offset. Calls for the order and the window,
wherever they are made, leave the count as it is. -/
theorem build_with_buildCount :
    (∀ (s : Select) (names : List Text), s.fields = names.map .text →
      (∃ fault, s.build = .error fault ∧ s.buildCount = .error fault) ∨
      ∃ body params,
        s.build = .ok
          { text := "SELECT " ++ commaSeparated (names.map Text.spelling) ++ body ++
              s.tailText params.length
            params := params ++ s.windowValues } ∧
        s.buildCount = .ok { text := "SELECT COUNT(*) AS total" ++ body, params }) ∧
    ∀ (s : Select) (calls calls' : List Call),
      (calls.filter fun call => !call.isPaging) = (calls'.filter fun call => !call.isPaging) →
      (Run.after step s calls).buildCount = (Run.after step s calls').buildCount := by
  constructor
  · intro s names texts
    cases made : s.body with
    | error fault =>
      refine .inl ⟨fault, ?_, ?_⟩
      · rw [build, texts, spellings_texts, made]
        rfl
      · rw [buildCount, made]
        rfl
    | ok body =>
      exact .inr ⟨_, _, build_of_body texts made, buildCount_of_body made⟩
  · intro s calls calls' same
    rw [← buildCount_unpaged, unpaged_after, same, ← unpaged_after, buildCount_unpaged]

/-- The third page of the elders, by age. -/
def browsing : List Call :=
  [.orderBy (.str "age") (.str "DESC"),
    .restrict (.compare (.str "age") (.str ">=") (.int 60)),
    .paginate (.int 3) (.int 10)]

/-- All the elders. -/
def browsingAll : List Call :=
  [.restrict (.compare (.str "age") (.str ">=") (.int 60))]

theorem build_with_buildCount_browsing :
    (∃ body params,
      (Run.after step Statement.bare browsing).build = .ok
        { text := "SELECT " ++ "role" ++ body ++ " ORDER BY age DESC LIMIT $2 OFFSET $3"
          params := params ++ [.int 10, .int 20] } ∧
      (Run.after step Statement.bare browsing).buildCount =
        .ok { text := "SELECT COUNT(*) AS total" ++ body, params }) ∧
    (Run.after step Statement.bare browsing).buildCount =
      (Run.after step Statement.bare browsingAll).buildCount := by
  constructor
  · have built : (Run.after step Statement.bare browsing).buildCount = .ok
        { text := "SELECT COUNT(*) AS total FROM users WHERE age >= $1", params := [.int 60] } := by
      rfl
    rcases build_with_buildCount.1 (Run.after step Statement.bare browsing) [.plain "role"] (by rfl)
      with ⟨fault, _, failed⟩ | ⟨body, params, rows, count⟩
    · rw [built] at failed
      cases failed
    · have values : [.int 60] = params := by
        rw [built] at count
        exact congrArg SqlQuery.params (Except.ok.inj count)
      subst values
      exact ⟨body, _, rows, count⟩
  · exact build_with_buildCount.2 Statement.bare browsing browsingAll (by rfl)

end Select
end BoundQuery
