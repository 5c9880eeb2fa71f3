import BoundQuery.Proofs.Name.Characters
import BoundQuery.Proofs.Result
import BoundQuery.Statement.Query

/-!
# Lists of texts

A text that is put together from others holds a dollar sign only where one of them does.

## Main statements

* `dollar_notMem_of_spellings` — the texts that a list of values is spelled with.
* `dollar_notMem_intercalate`, `dollar_notMem_join` — texts that are put together.
-/

namespace BoundQuery

theorem dollar_notMem_join {texts : List Str} (h : ∀ s ∈ texts, .scalar '$' ∉ s.toList) :
    .scalar '$' ∉ (Str.join texts).toList := by
  rw [Str.toList_join, List.mem_flatMap]
  rintro ⟨s, mem, inText⟩
  exact h s mem inText

theorem dollar_notMem_intercalate {separator : Str} {texts : List Str}
    (apart : .scalar '$' ∉ separator.toList) (h : ∀ s ∈ texts, .scalar '$' ∉ s.toList) :
    .scalar '$' ∉ (Str.intercalate separator texts).toList := by
  induction texts with
  | nil => simp
  | cons s rest ih =>
    have first := h s List.mem_cons_self
    have others := ih fun s mem => h s (List.mem_cons_of_mem _ mem)
    cases rest with
    | nil => simpa using first
    | cons s' rest =>
      rw [Str.intercalate_cons_cons]
      simp only [Str.toList_append, List.mem_append, not_or]
      exact ⟨⟨first, apart⟩, others⟩

theorem dollar_notMem_spellings {texts : List Text} (h : ∀ t ∈ texts, .scalar '$' ∉ t.chars) :
    .scalar '$' ∉ (commaSeparated (texts.map Text.spelling)).toList := by
  refine dollar_notMem_intercalate (by decide) fun s mem => ?_
  obtain ⟨t, inTexts, rfl⟩ := List.mem_map.1 mem
  exact h t inTexts

theorem dollar_notMem_of_spellings {vs : List Value} {index : Nat} {texts : List Str}
    (h : spellings index vs = .ok texts) (clean : ∀ v ∈ vs, v.IsDollarFree) :
    ∀ s ∈ texts, .scalar '$' ∉ s.toList := by
  induction vs generalizing index texts with
  | nil =>
    cases h
    simp
  | cons v vs ih =>
    cases v with
    | text t =>
      obtain ⟨rest, read, rfl⟩ := Result.map_eq_ok.1 h
      intro s mem
      rcases List.mem_cons.1 mem with rfl | mem
      · exact clean (.text t) List.mem_cons_self
      · exact ih read (fun v inRest => clean v (List.mem_cons_of_mem _ inRest)) s mem
    | _ => cases h

end BoundQuery
