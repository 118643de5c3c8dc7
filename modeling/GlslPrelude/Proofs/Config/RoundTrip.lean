import GlslPrelude.Proofs.Config.Reading
import GlslPrelude.Proofs.Data.EnumSets
import GlslPrelude.Proofs.Json.Reference

/-!
# Settings written and read back

With any JSON library that can be relied on, settings are read back from the text that they are
written as (`Config.roundTrips`), which is three arrays and objects deep at most. An environment
that is described by a list of features is made of the list, whatever its order and its repetitions,
and is written with each of the features once, in the order of declaration
(`Environment.write_ofFeatures`).
-/

namespace GlslPrelude

open Json (IsPlain IsRecord Spells)

variable {lib : JsonLibrary} {depth : Nat}

/-! ## Round trips of the declared forms -/

/-- No key of an API needs escapes. -/
theorem Api.isPlain_key (api : Api) : IsPlain api.key.toList := by
  cases api <;> decide

/-- No key of a stage needs escapes. -/
theorem Stage.isPlain_key (stage : Stage) : IsPlain stage.key.toList := by
  cases stage <;> decide

/-- No key of a feature needs escapes. -/
theorem Feature.isPlain_key (feature : Feature) : IsPlain feature.key.toList := by
  cases feature <;> decide

/-- Sets of features are read back. -/
theorem FeatureSet.roundTrips (h : lib.IsDocumented) :
    (FeatureSet.codec lib).RoundTrips (depth + 1) := by
  apply h.convert_roundTrips
  · exact h.list_roundTrips (h.choice_roundTrips Feature.key_injective Feature.isPlain_key)
  · exact EnumSet.ofList_toList

/-- Environments are read back. -/
theorem Environment.roundTrips (h : lib.IsDocumented) :
    (lib.record (Environment.form lib)).RoundTrips (depth + 2) := by
  apply h.record_roundTrips
  all_goals
    simp only [form, List.forall_mem_cons, List.not_mem_nil, false_imp_iff, implies_true, and_true]
  · decide
  · exact ⟨h.choice_roundTrips Api.key_injective Api.isPlain_key,
      h.choice_roundTrips Stage.key_injective Stage.isPlain_key, FeatureSet.roundTrips h⟩
  · simp

/-- The settings of caches are read back. -/
theorem CacheConfig.roundTrips (h : lib.IsDocumented) :
    (lib.record (CacheConfig.form lib)).RoundTrips (depth + 1) := by
  apply h.record_roundTrips
  all_goals rw [form, List.forall_mem_singleton]
  · exact (by decide : IsPlain "capacity".toList)
  · exact h.word_roundTrips
  · simp

/-- Settings are read back. -/
theorem Config.roundTrips (h : lib.IsDocumented) :
    (lib.record (Config.form lib)).RoundTrips (depth + 3) := by
  -- null stands for no environment, so no environment may be written so
  have hnull : ∀ env, (lib.record (Environment.form lib)).write env ≠ .null := by
    intro env
    rw [h.write_record]
    exact Json.noConfusion
  apply h.record_roundTrips
  all_goals
    simp only [form, List.forall_mem_cons, List.not_mem_nil, false_imp_iff, implies_true, and_true]
  · decide
  · exact ⟨CacheConfig.roundTrips h, h.option_roundTrips (Environment.roundTrips h) hnull⟩
  · -- only an environment that is missing is left out, and that is the default
    refine ⟨by simp, fun env? hnone => ?_⟩
    exact ⟨trivial, Option.isNone_iff_eq_none.1 hnone⟩

/-! ## Written environments -/

/-- An environment is written with its API, its stage and the list of its features. -/
theorem Environment.write_eq (h : lib.IsDocumented) (env : Environment) :
    (lib.record (Environment.form lib)).write env =
      .ofMembers
        [("api", .ofString env.api.key), ("stage", .ofString env.stage.key),
          ("features", .array (env.features.toList.map fun feature => .ofString feature.key))] := by
  have hmembers : (form lib).members env =
      [("api", (lib.choice Api.key).write env.api),
        ("stage", (lib.choice Stage.key).write env.stage),
        ("features", (FeatureSet.codec lib).write env.features)] := rfl
  have hfeatures : (FeatureSet.codec lib).write env.features =
      .array (env.features.toList.map fun feature => .ofString feature.key) := by
    rw [FeatureSet.codec, h.write_convert, h.write_list]
    exact congrArg Json.array (List.map_congr_left fun feature _ => h.write_choice _ feature)
  rw [h.write_record, hmembers, h.write_choice, h.write_choice, hfeatures]

/-- An environment that is made of a list of features is written with each of them once, in the
order of declaration. -/
theorem Environment.write_ofFeatures (h : lib.IsDocumented) (api : Api) (stage : Stage)
    (features : List Feature) :
    ∃ listed : List Feature,
      listed.Nodup ∧ (∀ f, f ∈ listed ↔ f ∈ features) ∧ listed.Sublist (elements Feature) ∧
      (lib.record (Environment.form lib)).write (.ofFeatures api stage features) =
        .ofMembers
          [("api", .ofString api.key), ("stage", .ofString stage.key),
            ("features", .array (listed.map fun feature => .ofString feature.key))] := by
  refine ⟨(EnumSet.ofList features).toList, EnumSet.nodup_toList _, fun f => ?_,
    List.filter_sublist, write_eq h _⟩
  rw [EnumSet.mem_toList, EnumSet.mem_ofList]

namespace Config

/-- With any JSON library that can be relied on, settings are read back from their text. From every
text of an object that describes an environment by a list of features, in whatever order and with
whatever repetitions, the environment with these features is read, on its own and among settings,
unless other members are too deep; and this environment is written as an object that lists each of
the features once, in the order of declaration. -/
theorem settings_are_read_back (h : lib.IsDocumented) :
    (∀ config : Config, parse? lib (config.render lib) = some config) ∧
    ∀ (api : Api) (stage : Stage) (features : List Feature),
      (∀ json, DescribesEnvironment json api stage features →
        (∀ text space, json.IsWithin JsonLibrary.maxDepth → Spells text json →
          Json.IsBlank space →
          Environment.parse? lib (.ofList (text ++ space)) =
            some (.ofFeatures api stage features)) ∧
        ∀ members cache whole text space, CacheField members cache →
          IsRecord ["cache", "environment"] whole (members ++ [("environment", json)]) →
          whole.IsWithin JsonLibrary.maxDepth → Spells text whole → Json.IsBlank space →
          parse? lib (.ofList (text ++ space)) =
            some { cache, environment := some (.ofFeatures api stage features) }) ∧
      ∃ listed : List Feature,
        listed.Nodup ∧ (∀ f, f ∈ listed ↔ f ∈ features) ∧ listed.Sublist (elements Feature) ∧
        Spells ((Environment.ofFeatures api stage features).render lib).toList
          (.ofMembers
            [("api", .ofString api.key), ("stage", .ofString stage.key),
              ("features", .array (listed.map fun feature => .ofString feature.key))]) := by
  constructor
  · intro config
    exact h.ofText?_toText (Config.roundTrips h) config
  intro api stage features
  refine ⟨fun json hjson => ⟨?_, ?_⟩, ?_⟩
  · intro text space hdepth htext hspace
    rw [Environment.parse?, h.ofText?_of_spells _ htext hspace hdepth]
    exact Environment.read?_of_describes h hjson
  · intro members cache whole text space hcache hrecord hdepth htext hspace
    rw [parse?, h.ofText?_of_spells _ htext hspace hdepth]
    exact Config.read?_of_describes h ⟨members, _, hcache, .given hjson, hrecord⟩
  · obtain ⟨listed, hnodup, hmem, hsublist, hwrite⟩ :=
      Environment.write_ofFeatures h api stage features
    refine ⟨listed, hnodup, hmem, hsublist, ?_⟩
    have hwritable : Json.IsWritable 2
        ((lib.record (Environment.form lib)).write (.ofFeatures api stage features)) :=
      (Environment.roundTrips h).isWritable _
    rw [← hwrite]
    exact h.spells_toText _ hwritable

/-- Features are listed twice and out of order, one of them is spelled with an escape, and there are
another member and white space. -/
theorem settings_are_read_back_of_repeated_features :
    ∃ json whole text,
      DescribesEnvironment json .vulkan .mesh [.rayQuery, .float16Type, .rayQuery] ∧
      CacheField [] .default ∧ IsRecord ["cache", "environment"] whole [("environment", json)] ∧
      whole.IsWithin JsonLibrary.maxDepth ∧ Spells text whole ∧ Json.IsBlank ['\n'] ∧
      text = ("\x7b \"environment\":\x7b\"features\":[\"rayQuery\",\"\\u0066loat16Type\"," ++
        "\"rayQuery\"],\"note\":null,\"api\":\"vulkan\",\"stage\":\"mesh\"\x7d\x7d").toList ∧
      parse? .reference (.ofList (text ++ ['\n'])) =
        some ⟨.default, some (.ofFeatures .vulkan .mesh [.float16Type, .rayQuery])⟩ := by
  have hplain {text : String} (h : IsPlain text.toList) :
      Spells ('"' :: text.toList ++ ['"']) (.ofString text) :=
    .string Json.isBlank_nil h.spellsString
  have hmember {name : String} (h : IsPlain name.toList) {text more : List Char} {value : Json}
      {members : List (JsonString × Json)} (hvalue : Spells text value)
      (hmembers : Json.SpellsMembers more members) :
      Json.SpellsMembers ('"' :: name.toList ++ '"' :: ':' :: text ++ ',' :: more)
        ((JsonString.units name, value) :: members) := by
    simpa [JsonString.units] using Json.SpellsMembers.cons Json.isBlank_nil h.spellsString
      Json.isBlank_nil hvalue Json.isBlank_nil hmembers
  -- the list of features
  let query := Json.ofString "rayQuery"
  let float := Json.ofString "float16Type"
  have hquery : Spells _ query := hplain (by decide : IsPlain "rayQuery".toList)
  have hfloat : Spells "\"\\u0066loat16Type\"".toList float := by
    have hstring : Json.SpellsString "\\u0066loat16Type".toList (JsonString.units "float16Type") :=
      .code (by decide) (Json.IsPlain.spellsString (by decide))
    exact .string Json.isBlank_nil hstring
  have hlist : Spells _ (.array [query, float, query]) :=
    .array Json.isBlank_nil (.cons hquery Json.isBlank_nil
      (.cons hfloat Json.isBlank_nil (.last hquery Json.isBlank_nil)))
  -- the environment, with another member among the fields
  let api : String × Json := ("api", .ofString "vulkan")
  let stage : String × Json := ("stage", .ofString "mesh")
  let features : String × Json := ("features", .array [query, float, query])
  let note : String × Json := ("note", .null)
  let json := Json.ofMembers [features, note, api, stage]
  have hstage : IsPlain "stage".toList := by decide
  have hjson : Spells _ json :=
    .object Json.isBlank_nil (hmember (by decide : IsPlain "features".toList) hlist
      (hmember (by decide : IsPlain "note".toList) (.nullWord Json.isBlank_nil)
        (hmember (by decide : IsPlain "api".toList) (hplain (by decide))
          (.last Json.isBlank_nil hstage.spellsString Json.isBlank_nil (hplain (by decide))
            Json.isBlank_nil))))
  have horder : ([features, note] ++ [api, stage]).Perm ([api, stage] ++ [features, note]) :=
    List.perm_append_comm
  have hrecord : IsRecord ["api", "stage", "features"] json [api, stage, features] :=
    Json.isRecord_ofMembers horder (by simp [note])
  have hfeatures : List.Forall₂ (fun value feature => Json.IsText value (Feature.key feature))
      [query, float, query] [.rayQuery, .float16Type, .rayQuery] :=
    .cons (Json.isText_ofString _) (.cons (Json.isText_ofString _)
      (.cons (Json.isText_ofString _) .nil))
  have hdescribes : DescribesEnvironment json .vulkan .mesh [.rayQuery, .float16Type, .rayQuery] :=
    .listed (Json.isText_ofString _) (Json.isText_ofString _) hfeatures hrecord
  -- the settings, with white space
  have hspace : Json.IsBlank [' '] := by simp [Json.IsBlank, Json.isSpace]
  have henvironment : IsPlain "environment".toList := by decide
  have hwhole : Spells _ (.ofMembers [("environment", json)]) :=
    .object Json.isBlank_nil
      (.last hspace henvironment.spellsString Json.isBlank_nil hjson Json.isBlank_nil)
  have hend : Json.IsBlank ['\n'] := by simp [Json.IsBlank, Json.isSpace]
  -- the settings, the environment and the list stand in one another
  have hdepth : (Json.ofMembers [("environment", json)]).IsWithin JsonLibrary.maxDepth := by
    refine .object (List.forall_mem_singleton.2 (.object ?_))
    simp only [Json.withUnits, List.map_cons, List.forall_mem_cons]
    refine ⟨.array ?_, .null, .string _, .string _, by simp⟩
    simp only [List.forall_mem_cons]
    exact ⟨.string _, .string _, .string _, by simp⟩
  have hsettings := Json.isRecord_ofMembers_self ["cache", "environment"] [("environment", json)]
  obtain ⟨-, hread⟩ := (settings_are_read_back JsonLibrary.reference_isDocumented).2 .vulkan .mesh
    [.rayQuery, .float16Type, .rayQuery] |>.1 json hdescribes
  refine ⟨json, _, _, hdescribes, .missing, hsettings, hdepth, hwhole, hend, ?_, ?_⟩
  · simp
  · exact (hread [] .default _ _ _ .missing hsettings hdepth hwhole hend).trans (by decide)

end Config

end GlslPrelude
