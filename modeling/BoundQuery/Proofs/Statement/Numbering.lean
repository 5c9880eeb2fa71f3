import BoundQuery.Proofs.Statement.Clean

/-!
# Numbers of placeholders

The placeholders of a relational statement are numbered in the order of its text: whatever clauses
they stand in, the numbers that are read from left to right are 1, 2 and so on up to the number of
parameters.

## Main statements

* `Statement.names_of_builds` — the placeholders of every statement that calls can reach.
-/

namespace BoundQuery

namespace SqlQuery

theorem text_ofTemplate (t : Template) : (ofTemplate t).text = (t.inscribe "" 0).written := by
  simp [ofTemplate, Positional.fill_eq]

theorem ofTemplate_eq (t : Template) :
    ofTemplate t = ⟨(t.inscribe "" 0).written, t.values⟩ := by
  rw [← text_ofTemplate, ← params_ofTemplate]

theorem names_text_ofTemplate {t : Template} (h : t.IsClean .relational) :
    Placeholder.names .relational (ofTemplate t).text =
      (List.range' 1 (ofTemplate t).params.length).map Str.ofNat := by
  have clean : (t.inscribe "" 0).IsClean .relational := h.inscribe (by simp) 0
  rw [text_ofTemplate, Inscription.names_written clean, Template.names_inscribe, params_ofTemplate]
  refine List.map_congr_left fun n _ => ?_
  simp [Mark.word]

end SqlQuery

namespace Statement

/-- In a statement that calls have led to, the numbers after dollar signs are 1, 2, … up to the
number of parameters: each stands there once and in this order. -/
theorem names_of_builds {data : Value} {st : Statement} {outcome : Outcome} {q : SqlQuery}
    (reached : st.Reached data) (clean : st.CallerTextIsClean) (built : st.Builds outcome q) :
    Placeholder.names .relational q.text = (List.range' 1 q.params.length).map Str.ofNat := by
  obtain ⟨t, writes, rfl⟩ := built.exists_writes
  exact SqlQuery.names_text_ofTemplate (writes.isClean reached.wellNamed clean)

/-- A selection with a list, a marker in quotes, another marker, and a limit. -/
def elders : Select where
  config := .standard
  table := .plain "users"
  fields := [.str "id"]
  conditions := [.field ⟨.plain "role", .member false [.str "admin", .str "owner"]⟩,
    .raw (.plain "note <> '?' OR age > ?") [.int 60]]
  limit := some 5

theorem reached_elders : Reached (.str "id") (.select elders) := by
  have made : Select.make .standard (.str "users") (.str "id") = .ok
      { config := .standard, table := .plain "users", fields := [.str "id"] } := rfl
  exact (((Reached.select made).selectCall
    (.restrict (.member (.str "role") (.list [.str "admin", .str "owner"])))).selectCall
    (.limit (.int 5))).selectCall
    (.restrict (.raw (.str "note <> '?' OR age > ?") (.list [.int 60])))

theorem isClean_note :
    Marker.IsClean .relational ['?'] (.plain "note <> '?' OR age > ?") where
  dollar_notMem := by simp [Text.chars, Text.spelling]
  heads pieces cut piece mem := by
    cases cut
    cases List.mem_singleton.1 mem
    simp

theorem callerTextIsClean_elders : CallerTextIsClean (.select elders) where
  fields v mem := by
    cases List.mem_singleton.1 mem
    simp [Value.IsDollarFree, Text.chars, Text.spelling]
  joins := by simp [elders]
  conditions c mem := by
    rcases List.mem_pair.1 mem with rfl | rfl
    · trivial
    · exact isClean_note

theorem builds_elders : Builds (.select elders) .whole
    { text := "SELECT id FROM users WHERE role IN ($1, $2) AND note <> '?' OR age > $3 LIMIT $4"
      params := [.str "admin", .str "owner", .int 60, .int 5] } :=
  .select (by rfl)

/-- The marker in quotes gets no number. -/
theorem names_of_builds_elders :
    Reached (.str "id") (.select elders) ∧ CallerTextIsClean (.select elders) ∧
    Placeholder.names .relational
      "SELECT id FROM users WHERE role IN ($1, $2) AND note <> '?' OR age > $3 LIMIT $4" =
        (["1", "2", "3", "4"] : List Str) :=
  ⟨reached_elders, callerTextIsClean_elders,
    names_of_builds reached_elders callerTextIsClean_elders builds_elders⟩

end Statement
end BoundQuery
