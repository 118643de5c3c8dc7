import GlslPrelude.Config
import GlslPrelude.Proofs.Json.Codec

/-!
# Descriptions of settings

What a JSON value says about the settings of a host: `Config.Describes` relates it to them. A record
is an object that gives its fields in any order, among members with other names. Some fields may be
missing. With any library that can be relied on, settings are read from every value that describes
them (`Config.read?_of_describes`).
-/

namespace GlslPrelude

open Json (IsRecord)

/-- The value is a record that gives an environment: its API, its stage and a list of features. -/
inductive DescribesEnvironment (json : Json) (api : Api) (stage : Stage) : List Feature → Prop
  | listed {apiValue stageValue : Json} {values : List Json} {features : List Feature} :
    apiValue.IsText api.key → stageValue.IsText stage.key →
    List.Forall₂ (fun value feature => value.IsText feature.key) values features →
    IsRecord ["api", "stage", "features"] json
      [("api", apiValue), ("stage", stageValue), ("features", .array values)] →
    DescribesEnvironment json api stage features
  /-- There may be no list. -/
  | unlisted {apiValue stageValue : Json} :
    apiValue.IsText api.key → stageValue.IsText stage.key →
    IsRecord ["api", "stage", "features"] json [("api", apiValue), ("stage", stageValue)] →
    DescribesEnvironment json api stage []

/-- The value is a record that gives the settings of a cache. -/
inductive DescribesCache (json : Json) : CacheConfig → Prop
  | given {capacity : UInt64} :
    IsRecord ["capacity"] json [("capacity", .number (Nat.toDigits 10 capacity.toNat))] →
    DescribesCache json { capacity }
  /-- There may be no number. -/
  | missing : IsRecord ["capacity"] json [] → DescribesCache json .default

/-- The field for the cache, which may be missing, and the settings that it gives. -/
inductive CacheField : List (String × Json) → CacheConfig → Prop
  | missing : CacheField [] .default
  | given {json : Json} {cache : CacheConfig} :
    DescribesCache json cache → CacheField [("cache", json)] cache

/-- The field for the environment, which may be missing or null, and the environment that it
gives. -/
inductive EnvironmentField : List (String × Json) → Option Environment → Prop
  | missing : EnvironmentField [] none
  | null : EnvironmentField [("environment", .null)] none
  | given {json : Json} {api : Api} {stage : Stage} {features : List Feature} :
    DescribesEnvironment json api stage features →
    EnvironmentField [("environment", json)] (some (.ofFeatures api stage features))

/-- The value is a record that gives the settings. -/
def Config.Describes (json : Json) (config : Config) : Prop :=
  ∃ cache environment,
    CacheField cache config.cache ∧ EnvironmentField environment config.environment ∧
    IsRecord ["cache", "environment"] json (cache ++ environment)

variable {lib : JsonLibrary} {json : Json} {api : Api} {stage : Stage} {features : List Feature}

/-! ## Keys -/

/-- No two elements have one key, if the list of all keys repeats none. -/
theorem key_injective {α : Type} [DecidableEq α] [Enumeration α] {key : α → String}
    (h : ((elements α).map key).Nodup) : key.Injective :=
  fun a b hab => List.inj_on_of_nodup_map h (mem_elements a) (mem_elements b) hab

/-- Different APIs have different keys. -/
theorem Api.key_injective : Api.key.Injective :=
  GlslPrelude.key_injective (by decide)

/-- Different stages have different keys. -/
theorem Stage.key_injective : Stage.key.Injective :=
  GlslPrelude.key_injective (by decide)

/-- Different features have different keys. -/
theorem Feature.key_injective : Feature.key.Injective :=
  GlslPrelude.key_injective (by decide)

/-! ## Fields -/

namespace RecordField

variable {ρ : Type} {field : RecordField ρ} {defaults r : ρ} {known : List (String × Json)}

/-- A field is given by the member with its name. -/
theorem isGiven_of_lookup {json : Json} (hlookup : known.lookup field.key = some json)
    (hread : field.codec.read? json = some (field.get r)) : field.IsGiven defaults known r := by
  rw [IsGiven, hlookup]
  exact hread

/-- A field that may be missing is given by no member if it has its default. -/
theorem isGiven_of_lookup_eq_none (hlookup : known.lookup field.key = none)
    (hrequired : field.isRequired = false) (hdefault : field.get r = field.get defaults) :
    field.IsGiven defaults known r := by
  rw [IsGiven, hlookup]
  exact ⟨hrequired, hdefault⟩

end RecordField

open RecordField (isGiven_of_lookup isGiven_of_lookup_eq_none)

/-! ## Records -/

/-- A list of keys is read as the set of the features. -/
theorem FeatureSet.read?_of_forall₂ (h : lib.IsDocumented) {values : List Json}
    (hvalues : List.Forall₂ (fun value feature => value.IsText feature.key) values features) :
    (FeatureSet.codec lib).read? (.array values) = some (EnumSet.ofList features) := by
  apply h.read?_convert
  apply h.read?_list
  exact hvalues.imp fun _ _ hvalue => h.read?_choice Feature.key_injective hvalue

/-- The environment that a record gives is read. -/
theorem Environment.read?_of_describes (h : lib.IsDocumented)
    (hdescribes : DescribesEnvironment json api stage features) :
    (lib.record (Environment.form lib)).read? json = some (.ofFeatures api stage features) := by
  cases hdescribes with
  | listed hapi hstage hfeatures hrecord =>
      -- one goal for each of the declared fields
      apply h.read?_record (form lib) hrecord (by simp)
      simp only [form, List.forall_mem_cons, List.not_mem_nil, false_imp_iff, implies_true,
        and_true]
      refine ⟨isGiven_of_lookup rfl ?_, isGiven_of_lookup rfl ?_, isGiven_of_lookup rfl ?_⟩
      · exact h.read?_choice Api.key_injective hapi
      · exact h.read?_choice Stage.key_injective hstage
      · exact FeatureSet.read?_of_forall₂ h hfeatures
  | unlisted hapi hstage hrecord =>
      -- without a list, the features are those of the default
      apply h.read?_record (form lib) hrecord (by simp)
      simp only [form, List.forall_mem_cons, List.not_mem_nil, false_imp_iff, implies_true,
        and_true]
      refine ⟨isGiven_of_lookup rfl ?_, isGiven_of_lookup rfl ?_,
        isGiven_of_lookup_eq_none rfl rfl rfl⟩
      · exact h.read?_choice Api.key_injective hapi
      · exact h.read?_choice Stage.key_injective hstage

/-- The settings of a cache that a record gives are read. -/
theorem CacheConfig.read?_of_describes (h : lib.IsDocumented) {cache : CacheConfig}
    (hdescribes : DescribesCache json cache) :
    (lib.record (CacheConfig.form lib)).read? json = some cache := by
  cases hdescribes with
  | given hrecord =>
      apply h.read?_record (form lib) hrecord (by simp)
      rw [form, List.forall_mem_singleton]
      exact isGiven_of_lookup rfl (h.read?_word _)
  | missing hrecord =>
      apply h.read?_record (form lib) hrecord (by simp)
      rw [form, List.forall_mem_singleton]
      exact isGiven_of_lookup_eq_none rfl rfl rfl

/-- What describes an environment is an object. -/
theorem DescribesEnvironment.ne_null (h : DescribesEnvironment json api stage features) :
    json ≠ .null := by
  rintro rfl
  cases h with
  | listed _ _ _ hrecord | unlisted _ _ hrecord =>
      obtain ⟨members, _, _, hnull, _⟩ := hrecord
      cases hnull

/-- The settings that a record gives are read. -/
theorem Config.read?_of_describes (h : lib.IsDocumented) {config : Config}
    (hdescribes : Describes json config) :
    (lib.record (Config.form lib)).read? json = some config := by
  obtain ⟨cache, environment, hcache, henvironment, hrecord⟩ := hdescribes
  obtain ⟨settings, env?⟩ := config
  have hnames : ((cache ++ environment).map Prod.fst).Nodup := by
    cases hcache <;> cases henvironment <;> simp
  apply h.read?_record (form lib) hrecord hnames
  simp only [form, List.forall_mem_cons, List.not_mem_nil, false_imp_iff, implies_true, and_true]
  constructor
  · cases hcache with
    | missing =>
        cases henvironment <;> exact isGiven_of_lookup_eq_none rfl rfl rfl
    | given hjson =>
        exact isGiven_of_lookup rfl (CacheConfig.read?_of_describes h hjson)
  · -- the field stands behind that for the cache, if there is one
    have hlookup :
        (cache ++ environment).lookup "environment" = environment.lookup "environment" := by
      cases hcache <;> rfl
    cases henvironment with
    | missing => exact isGiven_of_lookup_eq_none hlookup rfl rfl
    | null => exact isGiven_of_lookup hlookup (h.read?_option_null _)
    | given hjson =>
        apply isGiven_of_lookup hlookup
        exact h.read?_option _ hjson.ne_null (Environment.read?_of_describes h hjson)

end GlslPrelude
