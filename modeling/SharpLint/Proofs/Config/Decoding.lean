import Mathlib.Data.List.Forall2
import SharpLint.Config.Json

/-!
# Decoding configurations

There are many ways to write one configuration. Each of its records, the whole one and the sections
in it, may be an object or an array, and leave out what has its default (`Gives`). Decoding accepts
all of these and nothing else:

* `gives_iff`: what a value gives is what the decoder finds in it, setting by setting;
* `ofJson?_eq_some_iff`: a value decodes to a configuration if and only if it gives its settings;
* `decoding_inverts_encoding`: in particular, the object that encodes a configuration decodes to it,
  and arrays that are too long are rejected.
-/

namespace SharpLint

/-! ## Records -/

/-- A setting of a record: its key, the values that stand for it, and whether it has its default. -/
structure Setting where
  key : String
  Stands : Json → Prop
  IsDefault : Prop

/-- A setting is given by a value that stands for it, or left out because it has its default. -/
def Setting.Given (setting : Setting) : Option Json → Prop
  | none => setting.IsDefault
  | some value => setting.Stands value

/-- The value gives the settings of a record: each under its own key, in any order and among other
fields; or one after another, those at the end left out. -/
inductive Gives : List Setting → Json → Prop where
  | byName {settings : List Setting} {fields : List (String × Json)}
      (given : ∀ setting ∈ settings, ∃ value : Option Json, setting.Given value ∧
        fields.filter (·.1 == setting.key) = value.toList.map (setting.key, ·)) :
      Gives settings (.object fields)
  | byPosition {first last : List Setting} {items : List Json}
      (stand : List.Forall₂ Setting.Stands first items)
      (defaults : ∀ setting ∈ last, setting.IsDefault) :
      Gives (first ++ last) (.array items)

section

variable {α β : Type}

theorem mapM_eq_some_iff {read : α → Option β} {values : List α} {results : List β} :
    values.mapM read = some results ↔
      List.Forall₂ (fun value result => read value = some result) values results := by
  induction values generalizing results with
  | nil => simp [eq_comm]
  | cons value values ih =>
      simp only [List.mapM_cons, List.forall₂_cons_left_iff, Option.bind_eq_bind,
        Option.bind_eq_some_iff, Option.pure_def, Option.some.injEq, ih]
      constructor
      · rintro ⟨result, first, results, others, rfl⟩
        exact ⟨result, results, first, others, rfl⟩
      · rintro ⟨result, results, first, others, rfl⟩
        exact ⟨result, first, results, others, rfl⟩

theorem forall₂_replicate {relation : α → β → Prop} {values : List α} {result : β} {count : Nat} :
    List.Forall₂ relation values (List.replicate count result) ↔
      values.length = count ∧ ∀ value ∈ values, relation value result := by
  have same : List.Forall₂ relation values (List.replicate values.length result) ↔
      ∀ value ∈ values, relation value result := by
    rw [← List.map_const', List.forall₂_map_right_iff, List.forall₂_same]
  constructor
  · intro related
    obtain rfl : values.length = count := by simpa using related.length_eq
    exact ⟨rfl, same.mp related⟩
  · rintro ⟨rfl, each⟩
    exact same.mpr each

theorem exists_forall₂_iff {relation : α → β → Prop} {values : List α} :
    (∃ results, List.Forall₂ relation values results) ↔
      ∀ value ∈ values, ∃ result, relation value result := by
  induction values with
  | nil => simp
  | cons value values ih =>
      rw [List.forall_mem_cons, ← ih]
      constructor
      · rintro ⟨_, first | ⟨first, others⟩⟩
        exact ⟨⟨_, first⟩, _, others⟩
      · rintro ⟨⟨result, first⟩, results, others⟩
        exact ⟨result :: results, .cons first others⟩

end

theorem settings?_object {names : List String} {fields : List (String × Json)}
    {given : List (Option Json)} :
    Json.format.settings? names (.object fields) = some given ↔
      List.Forall₂ (fun name (value : Option Json) =>
        fields.filter (·.1 == name) = value.toList.map (name, ·)) names given := by
  rw [DataFormat.settings?, Json.format, Option.bind_some]
  dsimp only
  rw [mapM_eq_some_iff]
  apply iff_of_eq
  congr! 3 with name value
  -- What the decoder takes from a field is its value alone; that its key is the name is known.
  have named : ∀ field ∈ fields.filter (·.1 == name), field.1 = name := by simp
  generalize fields.filter (·.1 == name) = found at named ⊢
  cases found with
  | nil => cases value <;> simp
  | cons field others =>
      obtain ⟨key, first⟩ := field
      obtain rfl : key = name := named _ List.mem_cons_self
      cases others <;> cases value <;> simp

theorem settings?_array {names : List String} {items : List Json} {given : List (Option Json)} :
    Json.format.settings? names (.array items) = some given ↔ items.length ≤ names.length ∧
      items.map some ++ List.replicate (names.length - items.length) none = given := by
  rw [DataFormat.settings?, Json.format, Option.bind_some]
  dsimp only
  rw [Option.ite_none_right_eq_some, Option.some.injEq]

section

variable {settings : List Setting}

theorem gives_object_iff {fields : List (String × Json)} :
    Gives settings (.object fields) ↔
      ∃ given, Json.format.settings? (settings.map Setting.key) (.object fields) = some given ∧
        List.Forall₂ Setting.Given settings given := by
  simp only [settings?_object, List.forall₂_map_left_iff]
  constructor
  · intro gives
    cases gives with
    | byName given =>
        obtain ⟨values, related⟩ := exists_forall₂_iff.mpr given
        exact ⟨values, related.imp fun _ _ => And.right, related.imp fun _ _ => And.left⟩
  · rintro ⟨given, found, related⟩
    exact .byName (exists_forall₂_iff.mp ⟨given, related.mp (fun _ _ => And.intro) found⟩)

theorem gives_array_iff {items : List Json} :
    Gives settings (.array items) ↔
      ∃ given, Json.format.settings? (settings.map Setting.key) (.array items) = some given ∧
        List.Forall₂ Setting.Given settings given := by
  simp only [settings?_array, List.length_map]
  constructor
  · intro gives
    cases gives with
    | byPosition stand defaults =>
        rename_i first last
        have length := stand.length_eq
        have front : List.Forall₂ Setting.Given first (items.map some) :=
          List.forall₂_map_right_iff.mpr stand
        have back : List.Forall₂ Setting.Given last
            (List.replicate ((first ++ last).length - items.length) none) :=
          forall₂_replicate.mpr ⟨by simp [length], defaults⟩
        exact ⟨_, ⟨by simp [length], rfl⟩, List.rel_append front back⟩
  · rintro ⟨given, ⟨short, rfl⟩, related⟩
    -- The items belong to the first settings; the padding says that the others have defaults.
    have front := List.forall₂_take_append _ _ _ related
    have back := List.forall₂_drop_append _ _ _ related
    rw [List.forall₂_map_right_iff] at front
    rw [← List.take_append_drop (items.map some).length settings]
    exact .byPosition front (forall₂_replicate.mp back).2

theorem gives_iff {value : Json} :
    Gives settings value ↔
      ∃ given, Json.format.settings? (settings.map Setting.key) value = some given ∧
        List.Forall₂ Setting.Given settings given := by
  cases value with
  | object fields => exact gives_object_iff
  | array items => exact gives_array_iff
  | _ => exact ⟨nofun, nofun⟩

end

theorem filter_key {fields : List (String × Json)} (distinct : (fields.map Prod.fst).Nodup)
    {field : String × Json} (member : field ∈ fields) :
    fields.filter (·.1 == field.1) = [field] := by
  induction fields with
  | nil => cases member
  | cons first fields ih =>
      rw [List.map_cons, List.nodup_cons] at distinct
      obtain ⟨fresh, distinct⟩ := distinct
      rcases List.mem_cons.mp member with rfl | later
      · rw [List.filter_cons_of_pos (by simp), List.filter_eq_nil_iff.mpr]
        intro other listed same
        exact fresh (List.mem_map.mpr ⟨other, listed, beq_iff_eq.mp same⟩)
      · rw [List.filter_cons_of_neg, ih distinct later]
        intro same
        exact fresh (List.mem_map.mpr ⟨field, later, (beq_iff_eq.mp same).symm⟩)

theorem gives_of_all {settings : List Setting} {fields : List (String × Json)}
    (distinct : (fields.map Prod.fst).Nodup)
    (stand : List.Forall₂ (fun setting field => setting.key = field.1 ∧ setting.Stands field.2)
      settings fields) :
    Gives settings (.object fields) := by
  have each : ∀ setting ∈ settings, ∃ field ∈ fields,
      setting.key = field.1 ∧ setting.Stands field.2 := by
    clear distinct
    induction stand with
    | nil => simp
    | cons first _ ih => simp_all
  refine .byName ?_
  intro setting listed
  obtain ⟨field, member, key, stands⟩ := each setting listed
  rw [key, filter_key distinct member]
  exact ⟨some field.2, stands, rfl⟩

theorem length_le_of_gives {settings : List Setting} {items : List Json}
    (gives : Gives settings (.array items)) : items.length ≤ settings.length := by
  cases gives with
  | byPosition stand defaults => simp [stand.length_eq]

/-- The value of a record with the given keys has another one for a key. -/
inductive Contains (keys : List String) (key : String) (inner : Json) : Json → Prop where
  | byName {fields : List (String × Json)} (member : (key, inner) ∈ fields) :
      Contains keys key inner (.object fields)
  | byPosition {items : List Json} {index : Nat} (named : keys[index]? = some key)
      (item : items[index]? = some inner) :
      Contains keys key inner (.array items)

theorem stands_of_contains {settings : List Setting} {key : String} {inner value : Json}
    (gives : Gives settings value) (known : key ∈ settings.map Setting.key)
    (contains : Contains (settings.map Setting.key) key inner value) :
    ∃ setting ∈ settings, setting.key = key ∧ setting.Stands inner := by
  cases gives with
  | byName given =>
      rename_i fields
      cases contains with
      | byName member =>
          obtain ⟨setting, listed, rfl⟩ := List.mem_map.mp known
          obtain ⟨written, is, found⟩ := given setting listed
          have here : (setting.key, inner) ∈ fields.filter (·.1 == setting.key) :=
            List.mem_filter.mpr ⟨member, by simp⟩
          obtain rfl : written = some inner := by
            rw [found] at here
            simpa using here
          exact ⟨setting, listed, rfl, is⟩
  | byPosition stand defaults =>
      rename_i first last items
      cases contains with
      | byPosition named item =>
          obtain ⟨below, rfl⟩ := List.getElem?_eq_some_iff.mp item
          have inside := stand.length_eq ▸ below
          rw [List.getElem?_map, List.getElem?_append_left inside, List.getElem?_eq_getElem inside,
            Option.map_some, Option.some.injEq] at named
          exact ⟨_, List.mem_append_left last (List.getElem_mem inside), named,
            stand.get inside below⟩

/-! ## Settings -/

namespace Setting

def bool (key : String) (value default : Bool) : Setting :=
  ⟨key, (· = .bool value), value = default⟩

def count (key : String) (value default : Nat) : Setting :=
  ⟨key, fun written => written = .count value ∧ value < UInt64.size, value = default⟩

def strings (key : String) (values default : List String) : Setting :=
  ⟨key, (· = .strings values), values = default⟩

def record (key : String) (settings : List Setting) (isDefault : Prop) : Setting :=
  ⟨key, Gives settings, isDefault⟩

/-- A reader that falls back to a default reads the setting as the result. -/
structure Reads {α : Type} (setting : Setting) (default : α) (read : Json → Option α)
    (result : α) : Prop where
  stands : ∀ value, read value = some result ↔ setting.Stands value
  isDefault : result = default ↔ setting.IsDefault

theorem Reads.orDefault {α : Type} {setting : Setting} {default result : α}
    {read : Json → Option α} (reads : setting.Reads default read result) (given : Option Json) :
    DataFormat.orDefault default read given = some result ↔ setting.Given given := by
  cases given with
  | none => rw [DataFormat.orDefault, Option.some.injEq, eq_comm, reads.isDefault, Given]
  | some value => exact reads.stands value

theorem bool_reads (key : String) (value default : Bool) :
    (bool key value default).Reads default Json.format.bool? value := by
  refine ⟨fun written => ?_, Iff.rfl⟩
  cases written <;> simp [Json.format, Json.bool?, bool]

theorem count_reads (key : String) (value default : Nat) :
    (count key value default).Reads default Json.format.count? value := by
  refine ⟨fun written => ?_, Iff.rfl⟩
  cases written with
  | count other =>
      simp only [Json.format, Json.count?, Option.ite_none_right_eq_some, Option.some.injEq, count,
        Json.count.injEq]
      constructor
      · rintro ⟨fits, rfl⟩
        exact ⟨rfl, fits⟩
      · rintro ⟨rfl, fits⟩
        exact ⟨fits, rfl⟩
  | _ => simp [Json.format, Json.count?, count]

theorem strings_reads (key : String) (values default : List String) :
    (strings key values default).Reads default Json.format.strings? values := by
  refine ⟨fun written => ?_, Iff.rfl⟩
  have text (item : Json) (value : String) : item.string? = some value ↔ item = .string value := by
    cases item <;> simp [Json.string?]
  cases written with
  | array items =>
      simp only [DataFormat.strings?, Json.format, Json.array?, Option.bind_some,
        mapM_eq_some_iff, text, strings, Json.strings, Json.array.injEq]
      rw [← List.forall₂_eq_eq_eq, List.forall₂_map_right_iff]
  | _ => simp [DataFormat.strings?, Json.format, Json.array?, strings, Json.strings]

theorem single?_iff {α : Type} {setting : Setting} {default result : α} {read : Json → Option α}
    (reads : setting.Reads default read result) (value : Json) :
    Json.format.single? setting.key default read value = some result ↔ Gives [setting] value := by
  rw [gives_iff, DataFormat.single?]
  constructor
  · intro read
    split at read
    · rename_i given found
      exact ⟨_, found, .cons ((reads.orDefault given).mp read) .nil⟩
    · cases read
  · rintro ⟨_, found, _ | ⟨given, _ | _⟩⟩
    rw [List.map_singleton] at found
    rw [found]
    exact (reads.orDefault _).mpr given

theorem counts?_iff {first second default other : Nat} (key name : String) (value : Json) :
    Json.format.counts? (key, default) (name, other) value = some (first, second) ↔
      Gives [count key first default, count name second other] value := by
  have one := (count_reads key first default).orDefault
  have two := (count_reads name second other).orDefault
  rw [gives_iff, DataFormat.counts?]
  constructor
  · intro read
    split at read
    · rename_i written alsoWritten found
      split at read
      · rename_i readOne readTwo
        cases read
        exact ⟨_, found, .cons ((one _).mp readOne) (.cons ((two _).mp readTwo) .nil)⟩
      · cases read
    · cases read
  · rintro ⟨_, found, _ | ⟨written, _ | ⟨alsoWritten, _ | _⟩⟩⟩
    have readOne := (one _).mpr written
    have readTwo := (two _).mpr alsoWritten
    simp only [List.map_cons, List.map_nil, count] at found
    simp only [found, readOne, readTwo]

theorem limits_iff {α : Type} {make : Nat × Nat → α} (injective : Function.Injective make)
    (limits : Nat × Nat) (one two : String × Nat) (value : Json) :
    (Json.format.counts? one two value).map make = some (make limits) ↔
      Gives [count one.1 limits.1 one.2, count two.1 limits.2 two.2] value := by
  rw [← Option.map_some, (Option.map_injective injective).eq_iff]
  exact counts?_iff one.1 two.1 value

end Setting

namespace Config

open Setting

def complexitySettings (limits : Check.ComplexityLimits) : List Setting :=
  let defaults : Check.ComplexityLimits := {}
  [count "max_complexity" limits.maxComplexity defaults.maxComplexity,
   count "low_threshold" limits.lowThreshold defaults.lowThreshold]

def sizeSettings (limits : Check.SizeLimits) : List Setting :=
  let defaults : Check.SizeLimits := {}
  [count "max_lines" limits.maxLines defaults.maxLines,
   count "max_parameters" limits.maxParameters defaults.maxParameters]

def duplicationSettings (limits : Check.DuplicationLimits) : List Setting :=
  let defaults : Check.DuplicationLimits := {}
  [count "min_statements" limits.minStatements defaults.minStatements,
   count "preview_chars" limits.previewCharacters defaults.previewCharacters]

def settings (config : Config) : List Setting :=
  let defaults : Config := {}
  let parser := [bool "allow_partial" config.allowPartial defaults.allowPartial]
  let naming := [strings "extra_keywords" config.extraKeywords defaults.extraKeywords]
  [bool "parallel" config.parallel defaults.parallel,
   record "parser" parser (config.allowPartial = defaults.allowPartial),
   record "complexity" (complexitySettings config.complexity)
    (config.complexity = defaults.complexity),
   record "size" (sizeSettings config.size) (config.size = defaults.size),
   record "duplication" (duplicationSettings config.duplication)
    (config.duplication = defaults.duplication),
   record "naming" naming (config.extraKeywords = defaults.extraKeywords),
   strings "disabled_analyzers" config.disabledAnalyzers defaults.disabledAnalyzers,
   strings "excluded_paths" config.excludedPaths defaults.excludedPaths]

theorem complexityOf?_iff (limits : Check.ComplexityLimits) (value : Json) :
    complexityOf? Json.format value = some limits ↔ Gives (complexitySettings limits) value :=
  limits_iff (by rintro ⟨_, _⟩ ⟨_, _⟩ ⟨⟩; rfl) (limits.maxComplexity, limits.lowThreshold) _ _ value

theorem sizeOf?_iff (limits : Check.SizeLimits) (value : Json) :
    sizeOf? Json.format value = some limits ↔ Gives (sizeSettings limits) value :=
  limits_iff (by rintro ⟨_, _⟩ ⟨_, _⟩ ⟨⟩; rfl) (limits.maxLines, limits.maxParameters) _ _ value

theorem duplicationOf?_iff (limits : Check.DuplicationLimits) (value : Json) :
    duplicationOf? Json.format value = some limits ↔ Gives (duplicationSettings limits) value :=
  limits_iff (by rintro ⟨_, _⟩ ⟨_, _⟩ ⟨⟩; rfl) (limits.minStatements, limits.previewCharacters) _ _
    value

theorem forall₂_settings_iff (config : Config)
    (parallel parser complexity size duplication naming disabled excluded : Option Json) :
    List.Forall₂ Given config.settings
        [parallel, parser, complexity, size, duplication, naming, disabled, excluded] ↔
      DataFormat.orDefault ({} : Config).parallel Json.format.bool? parallel =
          some config.parallel ∧
        DataFormat.orDefault ({} : Config).allowPartial
          (Json.format.single? "allow_partial" ({} : Config).allowPartial Json.format.bool?)
          parser = some config.allowPartial ∧
        DataFormat.orDefault ({} : Config).complexity (complexityOf? Json.format) complexity =
          some config.complexity ∧
        DataFormat.orDefault ({} : Config).size (sizeOf? Json.format) size = some config.size ∧
        DataFormat.orDefault ({} : Config).duplication (duplicationOf? Json.format) duplication =
          some config.duplication ∧
        DataFormat.orDefault ({} : Config).extraKeywords
          (Json.format.single? "extra_keywords" ({} : Config).extraKeywords Json.format.strings?)
          naming = some config.extraKeywords ∧
        DataFormat.orDefault ({} : Config).disabledAnalyzers Json.format.strings? disabled =
          some config.disabledAnalyzers ∧
        DataFormat.orDefault ({} : Config).excludedPaths Json.format.strings? excluded =
          some config.excludedPaths := by
  simp only [settings, List.forall₂_cons, List.forall₂_nil_left_iff, and_true]
  refine and_congr ?_ (and_congr ?_ (and_congr ?_ (and_congr ?_ (and_congr ?_ (and_congr ?_
    (and_congr ?_ ?_))))))
  · exact ((bool_reads _ _ _).orDefault parallel).symm
  · exact (Reads.orDefault ⟨single?_iff (bool_reads "allow_partial" _ _), Iff.rfl⟩ parser).symm
  · exact (Reads.orDefault ⟨complexityOf?_iff _, Iff.rfl⟩ complexity).symm
  · exact (Reads.orDefault ⟨sizeOf?_iff _, Iff.rfl⟩ size).symm
  · exact (Reads.orDefault ⟨duplicationOf?_iff _, Iff.rfl⟩ duplication).symm
  · exact (Reads.orDefault ⟨single?_iff (strings_reads "extra_keywords" _ _), Iff.rfl⟩ naming).symm
  · exact ((strings_reads _ _ _).orDefault disabled).symm
  · exact ((strings_reads _ _ _).orDefault excluded).symm

theorem keys_settings (config : Config) : config.settings.map Setting.key = keys := rfl

theorem ofJson?_eq_some_iff (config : Config) (value : Json) :
    ofJson? value = some config ↔ Gives config.settings value := by
  rw [gives_iff, ofJson?, decode?, keys_settings]
  constructor
  · intro read
    split at read
    · rename_i found
      simp only [Option.bind_eq_bind, Option.bind_eq_some_iff, Option.pure_def,
        Option.some.injEq] at read
      obtain ⟨_, parallel, _, parser, _, complexity, _, size, _, duplication, _, naming, _,
        disabled, _, excluded, rfl⟩ := read
      exact ⟨_, found, (forall₂_settings_iff _ _ _ _ _ _ _ _ _).mpr
        ⟨parallel, parser, complexity, size, duplication, naming, disabled, excluded⟩⟩
    · cases read
  · rintro ⟨given, found, related⟩
    match given, related with
    | [_, _, _, _, _, _, _, _], related =>
        obtain ⟨parallel, parser, complexity, size, duplication, naming, disabled, excluded⟩ :=
          (forall₂_settings_iff _ _ _ _ _ _ _ _ _).mp related
        rw [found]
        simp [parallel, parser, complexity, size, duplication, naming, disabled, excluded]

/-! ## Encoded configurations -/

/-- The limits are machine words. -/
structure Fits (config : Config) : Prop where
  maxComplexity : config.complexity.maxComplexity < UInt64.size
  lowThreshold : config.complexity.lowThreshold < UInt64.size
  maxLines : config.size.maxLines < UInt64.size
  maxParameters : config.size.maxParameters < UInt64.size
  minStatements : config.duplication.minStatements < UInt64.size
  previewCharacters : config.duplication.previewCharacters < UInt64.size

theorem gives_toJson {config : Config} (fits : config.Fits) :
    Gives config.settings config.toJson := by
  have parser : Gives [bool "allow_partial" config.allowPartial ({} : Config).allowPartial]
      (.object [("allow_partial", .bool config.allowPartial)]) :=
    gives_of_all (by simp) (.cons ⟨rfl, rfl⟩ .nil)
  have naming : Gives [strings "extra_keywords" config.extraKeywords ({} : Config).extraKeywords]
      (.object [("extra_keywords", .strings config.extraKeywords)]) :=
    gives_of_all (by simp) (.cons ⟨rfl, rfl⟩ .nil)
  have limits {one two : String} {first second default other : Nat} (different : one ≠ two)
      (fits : first < UInt64.size) (alsoFits : second < UInt64.size) :
      Gives [count one first default, count two second other]
        (.object [(one, .count first), (two, .count second)]) :=
    gives_of_all (by simpa using different)
      (.cons ⟨rfl, rfl, fits⟩ (.cons ⟨rfl, rfl, alsoFits⟩ .nil))
  refine gives_of_all (by simp) (.cons ⟨rfl, rfl⟩ (.cons ⟨rfl, parser⟩ (.cons ⟨rfl, ?_⟩
    (.cons ⟨rfl, ?_⟩ (.cons ⟨rfl, ?_⟩ (.cons ⟨rfl, naming⟩ (.cons ⟨rfl, rfl⟩
      (.cons ⟨rfl, rfl⟩ .nil))))))))
  · exact limits (by decide) fits.maxComplexity fits.lowThreshold
  · exact limits (by decide) fits.maxLines fits.maxParameters
  · exact limits (by decide) fits.minStatements fits.previewCharacters

/-! ## Arrays that are too long -/

def sections : List (String × List String) :=
  [("parser", ["allow_partial"]), ("complexity", ["max_complexity", "low_threshold"]),
   ("size", ["max_lines", "max_parameters"]),
   ("duplication", ["min_statements", "preview_chars"]), ("naming", ["extra_keywords"])]

theorem length_le_of_mem_sections {config : Config} {setting : Setting} {names : List String}
    {items : List Json} (member : setting ∈ config.settings)
    (listed : (setting.key, names) ∈ sections) (stands : setting.Stands (.array items)) :
    items.length ≤ names.length := by
  simp only [settings, List.mem_cons, List.not_mem_nil, or_false] at member
  rcases member with rfl | rfl | rfl | rfl | rfl | rfl | rfl | rfl
  all_goals
    simp only [sections, Setting.bool, record, strings, List.mem_cons, Prod.mk.injEq,
      String.reduceEq, false_and, List.not_mem_nil, or_false, false_or, true_and] at listed
  all_goals
    subst listed
    exact length_le_of_gives stands

/-- Decoding is the inverse of encoding. It gives the configuration back in whatever way its records
are written, and only then. An array with more items than its record has settings is rejected. -/
theorem decoding_inverts_encoding (config : Config) (fits : config.Fits) :
    ofJson? config.toJson = some config ∧
      (∀ value, ofJson? value = some config ↔ Gives config.settings value) ∧
      (∀ items, keys.length < items.length → ofJson? (.array items) = none) ∧
      ∀ key names, (key, names) ∈ sections → ∀ items : List Json, names.length < items.length →
        ∀ value, Contains keys key (.array items) value → ofJson? value = none := by
  refine ⟨?_, ofJson?_eq_some_iff config, ?_, ?_⟩
  · exact (ofJson?_eq_some_iff _ _).mpr (gives_toJson fits)
  · intro items tooLong
    rw [Option.eq_none_iff_forall_ne_some]
    intro other decoded
    have short := length_le_of_gives ((ofJson?_eq_some_iff _ _).mp decoded)
    exact absurd tooLong (Nat.not_lt.mpr short)
  · intro key names listed items tooLong value contains
    rw [Option.eq_none_iff_forall_ne_some]
    intro other decoded
    have known : ∀ entry ∈ sections, entry.1 ∈ keys := by decide
    have gives := (ofJson?_eq_some_iff _ _).mp decoded
    rw [← keys_settings other] at contains known
    obtain ⟨setting, member, rfl, stands⟩ :=
      stands_of_contains gives (known _ listed) contains
    exact absurd tooLong (Nat.not_lt.mpr (length_le_of_mem_sections member listed stands))

namespace Sample

def tuned : Config :=
  { parallel := false, complexity := { maxComplexity := 7 }, extraKeywords := ["Id"] }

def written : Json :=
  .object
    [("naming", .object [("owner", .null), ("extra_keywords", .array [.string "Id"])]),
     ("version", .numeral "1.0"), ("complexity", .array [.count 7]), ("parallel", .bool false),
     ("size", .object [])]

end Sample

open Sample in
theorem decoding_inverts_encoding_written :
    tuned.Fits ∧ ofJson? tuned.toJson = some tuned ∧ ofJson? written = some tuned := by
  have fits : tuned.Fits := ⟨by decide, by decide, by decide, by decide, by decide, by decide⟩
  obtain ⟨encoded, decoded, -⟩ := decoding_inverts_encoding tuned fits
  refine ⟨fits, encoded, (decoded written).mpr (.byName ?_)⟩
  have complexity : Gives ([count "max_complexity" 7 10] ++ [count "low_threshold" 5 5])
      (.array [.count 7]) :=
    .byPosition (.cons ⟨rfl, by decide⟩ .nil) (by simp [count])
  have size : Gives (sizeSettings {}) (.object []) := .byName (by simp [sizeSettings, count, Given])
  have naming : Gives [strings "extra_keywords" ["Id"] []]
      (.object [("owner", .null), ("extra_keywords", .array [.string "Id"])]) :=
    .byName (List.forall_mem_singleton.mpr ⟨some _, rfl, rfl⟩)
  simp only [settings, List.forall_mem_cons]
  exact ⟨⟨some _, rfl, rfl⟩, ⟨none, rfl, rfl⟩, ⟨some _, complexity, rfl⟩, ⟨some _, size, rfl⟩,
    ⟨none, rfl, rfl⟩, ⟨some _, naming, rfl⟩, ⟨none, rfl, rfl⟩, ⟨none, rfl, rfl⟩, by simp⟩

end Config

end SharpLint
