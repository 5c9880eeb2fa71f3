import BoundQuery.Config.Mapping
import BoundQuery.Proofs.Chars.Case
import BoundQuery.Proofs.Statement.Tiling

/-!
# Configurations in normal form

What a mapping sets is brought to the form it needs before it is checked: texts by showing them,
sizes by taking them for whole numbers, the level of the log by writing it in upper case. So a
configuration that is read from a mapping is in a normal form, which is read back as it is, and its
page size is one that a page can have.

## Main definitions

* `Config.IsNormal` — a configuration whose settings are of the kinds that they are used as.
* `Config.toValue` — the mapping that spells a configuration out.

## Main statements

* `Config.ofValue_toValue` — a configuration in normal form is read back.
* `Config.isNormal_of_ofValue` — every mapping that is accepted gives a normal form, which
  selections can page with.
-/

namespace BoundQuery

namespace Config

/-- The settings are of the kinds that they are used as, and pass their checks. -/
structure IsNormal (c : Config) : Prop where
  marker : ∃ text, c.rawMarker = .plain text ∧ Chars.isAllBlank text = false ∧
    .scalar '$' ∉ text.toList
  separator : ∃ text, c.clauseSeparator = .str text
  pages : ∃ size : Int, c.defaultPageSize = .int size ∧ 1 ≤ size ∧
    (c.maxPageSize = .null ∨ ∃ most : Int, c.maxPageSize = .int most ∧ size ≤ most)
  level : ∃ name ∈ logLevels, c.logLevel = .plain name

/-- The mapping whose `builder` section has an entry for each setting. -/
def toValue (c : Config) : Value :=
  .record [("builder", .record [
    ("raw_marker", .text c.rawMarker),
    ("graph_clause_separator", c.clauseSeparator),
    ("default_page_size", c.defaultPageSize),
    ("max_page_size", c.maxPageSize),
    ("log_level", .text c.logLevel)])]

variable {settings : Settings} {c : Config}

/-! ## The checks -/

@[simp] theorem isBelow_int (i j : Int) : isBelow (.int i) (.int j) = .ok (decide (i < j)) := by
  rw [isBelow_eq_ok]
  exact ⟨_, _, rfl, rfl, Measure.lt_ofInt i j⟩

theorem checkDefaultPageSize_int {size : Int} :
    checkDefaultPageSize (.int size) = .ok () ↔ 1 ≤ size := by
  rw [checkDefaultPageSize, isBelow_int, ← Int.not_lt]
  cases below : decide (size < 1) with
  | true => exact iff_of_false nofun (not_not.2 (of_decide_eq_true below))
  | false => exact iff_of_true rfl (of_decide_eq_false below)

theorem checkMaxPageSize_int {most size : Int} :
    checkMaxPageSize (.int most) (.int size) = .ok () ↔ size ≤ most := by
  rw [checkMaxPageSize, isBelow_int, ← Int.not_lt]
  cases below : decide (most < size) with
  | true => exact iff_of_false nofun (not_not.2 (of_decide_eq_true below))
  | false => exact iff_of_true rfl (of_decide_eq_false below)

/-- A marker that is not blank is not empty either. -/
theorem checkMarker_str {text : Str} {t : Text} :
    checkMarker (.str text) = .ok t ↔
      t = .plain text ∧ Chars.isAllBlank text = false ∧ .scalar '$' ∉ text.toList := by
  constructor
  · intro checked
    have same : t = .plain text := by
      rw [checkMarker] at checked
      split at checked
      · cases checked
      · split at checked
        · cases checked
        · exact (Except.ok.inj checked).symm
    subst same
    exact ⟨rfl, checkMarker_eq_ok checked⟩
  · rintro ⟨rfl, nonblank, dollar⟩
    have given : text.isEmpty = false := by
      rw [← Bool.not_eq_true, Str.isEmpty_iff]
      rintro rfl
      cases nonblank
    have absent : text.toList.contains '$' = false := by simpa using dollar
    rw [checkMarker, Text.isEmpty, Text.chars, Text.spelling, given, nonblank, absent]
    rfl

/-- The names of the levels are in upper case. -/
theorem upper_of_mem_logLevels {name : Str} (mem : name ∈ logLevels) :
    Chars.upper name = name := by
  have all : ∀ name ∈ logLevels, Chars.upper name = name := by decide +kernel
  exact all name mem

theorem checkLogLevel_str {name : Str} (known : name ∈ logLevels) :
    checkLogLevel (.str name) = .ok (.plain name) := by
  refine if_pos ?_
  rw [Text.spelling, upper_of_mem_logLevels known]
  exact List.contains_iff_mem.2 known

/-- What is in upper case is looked up among the names as it is. -/
theorem mem_logLevels_of_checkLogLevel {written : Str} {level : Text}
    (checked : checkLogLevel (.str (Chars.upper written)) = .ok level) :
    Chars.upper written ∈ logLevels ∧ level = .plain (Chars.upper written) := by
  rw [checkLogLevel, Text.spelling, Chars.upper_upper] at checked
  split at checked
  · next known => exact ⟨List.contains_iff_mem.1 known, (Except.ok.inj checked).symm⟩
  · cases checked

/-- What passes the checks is kept as it is. -/
theorem ofSettings_eq_ok :
    ofSettings settings = .ok c ↔
      checkMarker settings.rawMarker = .ok c.rawMarker ∧
        checkDefaultPageSize settings.defaultPageSize = .ok () ∧
        checkMaxPageSize settings.maxPageSize settings.defaultPageSize = .ok () ∧
        checkLogLevel settings.logLevel = .ok c.logLevel ∧
        c.clauseSeparator = settings.clauseSeparator ∧
        c.defaultPageSize = settings.defaultPageSize ∧ c.maxPageSize = settings.maxPageSize := by
  simp only [ofSettings, Result.bind_eq_ok]
  constructor
  · rintro ⟨marker, checked, _, sized, _, bounded, level, known, same⟩
    cases same
    exact ⟨checked, sized, bounded, known, rfl, rfl, rfl⟩
  · rintro ⟨checked, sized, bounded, known, separator, size, most⟩
    refine ⟨_, checked, _, sized, _, bounded, _, known, ?_⟩
    rw [← separator, ← size, ← most]
    rfl

/-! ## Normal forms -/

theorem IsNormal.accepted (normal : c.IsNormal) : ofSettings c.toSettings = .ok c := by
  obtain ⟨⟨text, marker, nonblank, dollar⟩, _, ⟨size, default, positive, largest⟩,
    ⟨name, known, level⟩⟩ := normal
  rw [ofSettings_eq_ok, toSettings, marker, default, level]
  refine ⟨checkMarker_str.2 ⟨rfl, nonblank, dollar⟩, checkDefaultPageSize_int.2 positive, ?_,
    checkLogLevel_str known, rfl, rfl, rfl⟩
  obtain unbounded | ⟨most, bounded, within⟩ := largest
  · rw [unbounded]
    rfl
  · rw [bounded]
    exact checkMaxPageSize_int.2 within

/-- The settings that the entries spell out. -/
theorem settingsOf_spelled (marker separator level : Str) (size : Int) {most : Value}
    (largest : most = .null ∨ ∃ n, most = .int n) :
    settingsOf [(.str "raw_marker", .str marker), (.str "graph_clause_separator", .str separator),
        (.str "default_page_size", .int size), (.str "max_page_size", most),
        (.str "log_level", .str level)] =
      .ok ⟨.str marker, .str separator, .int size, most, .str (Chars.upper level)⟩ := by
  obtain rfl | ⟨n, rfl⟩ := largest <;> rfl

theorem ofValue_toValue (normal : c.IsNormal) : ofValue c.toValue = .ok c := by
  have accepted := normal.accepted
  obtain ⟨⟨text, marker, _⟩, ⟨clause, separator⟩, ⟨size, default, _, largest⟩,
    ⟨name, known, level⟩⟩ := normal
  have spelled := settingsOf_spelled text clause name size
    (largest.imp_right fun ⟨most, bounded, _⟩ => ⟨most, bounded⟩)
  rw [upper_of_mem_logLevels known] at spelled
  rw [toSettings, marker, separator, default, level] at accepted
  rw [toValue, marker, separator, default, level]
  exact Result.bind_eq_ok.2 ⟨_, rfl, Result.bind_eq_ok.2 ⟨_, rfl,
    Result.bind_eq_ok.2 ⟨_, spelled, accepted⟩⟩⟩

/-- Each setting is brought to the kind that it is used as. -/
theorem settingsOf_eq_ok {entries : List (Value × Value)}
    (read : settingsOf entries = .ok settings) :
    (∃ text, settings.rawMarker = .str text) ∧ (∃ text, settings.clauseSeparator = .str text) ∧
      (∃ size, settings.defaultPageSize = .int size) ∧
      (settings.maxPageSize = .null ∨ ∃ most, settings.maxPageSize = .int most) ∧
      ∃ text, settings.logLevel = .str (Chars.upper text) := by
  obtain ⟨size, _, read⟩ := Result.bind_eq_ok.1 read
  dsimp only at read
  split at read
  · cases read
    exact ⟨⟨_, rfl⟩, ⟨_, rfl⟩, ⟨size, rfl⟩, .inl rfl, ⟨_, rfl⟩⟩
  · obtain ⟨largest, converted, read⟩ := Result.bind_eq_ok.1 read
    obtain ⟨most, _, rfl⟩ := Result.map_eq_ok.1 converted
    cases read
    exact ⟨⟨_, rfl⟩, ⟨_, rfl⟩, ⟨size, rfl⟩, .inr ⟨most, rfl⟩, ⟨_, rfl⟩⟩

theorem isNormal_of_ofSettings {entries : List (Value × Value)}
    (read : settingsOf entries = .ok settings) (accepted : ofSettings settings = .ok c) :
    c.IsNormal := by
  obtain ⟨⟨text, marker⟩, ⟨clause, separator⟩, ⟨size, default⟩, largest, ⟨written, level⟩⟩ :=
    settingsOf_eq_ok read
  obtain ⟨checked, sized, bounded, known, sameSeparator, sameSize, sameMost⟩ :=
    ofSettings_eq_ok.1 accepted
  rw [marker] at checked
  rw [default] at sized bounded sameSize
  rw [level] at known
  obtain ⟨mem, sameLevel⟩ := mem_logLevels_of_checkLogLevel known
  have positive := checkDefaultPageSize_int.1 sized
  refine ⟨⟨text, checkMarker_str.1 checked⟩, ⟨clause, sameSeparator.trans separator⟩,
    ⟨size, sameSize, positive, ?_⟩, ⟨_, mem, sameLevel⟩⟩
  rw [sameMost]
  obtain unbounded | ⟨most, given⟩ := largest
  · exact .inl unbounded
  · rw [given] at bounded
    exact .inr ⟨most, given, checkMaxPageSize_int.1 bounded⟩

/-- The page size is one that every page can have that asks for none. -/
theorem IsNormal.exists_isPage (normal : c.IsNormal) :
    ∃ size : Int, c.defaultPageSize = .int size ∧
      ∀ page : Int, 1 ≤ page → Select.IsPage c (.int page) .null page size := by
  obtain ⟨_, _, ⟨size, default, positive, largest⟩, _⟩ := normal
  refine ⟨size, default, fun page first => ⟨rfl, first, default, positive, ?_⟩⟩
  obtain unbounded | ⟨most, bounded, within⟩ := largest
  · exact isTooLarge_of_null unbounded size
  · rw [isTooLarge_of_int bounded]
    exact Int.not_lt.2 within

/-- A mapping that is accepted gives a configuration in normal form. It is the configuration of the
mapping that spells it out, and no selection that has it turns a page down for its size. -/
theorem isNormal_of_ofValue {v : Value} (loaded : ofValue v = .ok c) :
    c.IsNormal ∧ ofValue c.toValue = .ok c ∧
      ∃ size : Int, c.defaultPageSize = .int size ∧
        ∀ s : Select, s.config = c → ∀ page : Int, 1 ≤ page →
          s.step (.paginate (.int page) .null) = (s.windowed size ((page - 1) * size), none) := by
  obtain ⟨_, _, h⟩ := Result.bind_eq_ok.1 loaded
  obtain ⟨_, _, h⟩ := Result.bind_eq_ok.1 h
  obtain ⟨_, read, accepted⟩ := Result.bind_eq_ok.1 h
  have normal := isNormal_of_ofSettings read accepted
  obtain ⟨size, default, pages⟩ := normal.exists_isPage
  refine ⟨normal, ofValue_toValue normal, size, default, ?_⟩
  rintro s rfl page first
  exact (Select.step_paginate_eq_iff normal.accepted).2 ⟨page, size, pages page first, rfl⟩

/-- Settings of other kinds, and a level whose name has a letter that only upper case makes one of
ASCII. -/
def loosely : Value :=
  .record [("builder", .record [("raw_marker", .int 7), ("default_page_size", .bool true),
    ("max_page_size", .str " 5_0 "), ("log_level", .str "warnıng")])]

theorem isNormal_of_ofValue_loosely :
    ofValue loosely = .ok ⟨.plain "7", .str "\n", .int 1, .int 50, .plain "WARNING"⟩ ∧
      ofValue (.record [("builder", .record [("raw_marker", .str "7"),
        ("graph_clause_separator", .str "\n"), ("default_page_size", .int 1),
        ("max_page_size", .int 50), ("log_level", .str "WARNING")])]) = ofValue loosely ∧
      ∀ s : Select, s.config = ⟨.plain "7", .str "\n", .int 1, .int 50, .plain "WARNING"⟩ →
        s.step (.paginate (.int 3) .null) = (s.windowed 1 2, none) := by
  have loaded :
      ofValue loosely = .ok ⟨.plain "7", .str "\n", .int 1, .int 50, .plain "WARNING"⟩ := by
    rfl
  obtain ⟨_, spelled, size, default, pages⟩ := isNormal_of_ofValue loaded
  cases default
  exact ⟨loaded, spelled.trans loaded.symm, fun s same => pages s same 3 (by decide)⟩

end Config
end BoundQuery
