import GlslPrelude.Environment.Basic
import GlslPrelude.Json.Codec

/-!
# Configuration

The settings that a host keeps for its tables, and their declared JSON forms. The fields of the
settings may be missing where they have their defaults; an environment may only leave out its
features.
-/

namespace GlslPrelude

/-- Settings of a cache. -/
structure CacheConfig where
  /-- Number of tables that are kept; zero means all of them. -/
  capacity : UInt64
deriving DecidableEq

/-- Settings of a host. -/
structure Config where
  /-- Settings of its cache. -/
  cache : CacheConfig
  /-- Environment to assume when none can be told from a shader. -/
  environment : Option Environment
deriving DecidableEq

namespace CacheConfig

/-- Number of tables that a cache keeps if nothing else is said. -/
def defaultCapacity : UInt64 :=
  16

/-- The settings if nothing is said. -/
def default : CacheConfig :=
  { capacity := defaultCapacity }

/-- Declared form of the settings. -/
def form (lib : JsonLibrary) : RecordForm CacheConfig where
  fields :=
    [{ key := "capacity"
       codec := lib.word
       get := capacity
       set := fun capacity cache => { cache with capacity }
       isRequired := false }]
  defaults := default
  nodup_keys := by simp
  foldl_set _ := rfl

end CacheConfig

/-- Declared form of a set of features: the list of its features. -/
def FeatureSet.codec (lib : JsonLibrary) : Codec FeatureSet :=
  lib.convert EnumSet.ofList EnumSet.toList (lib.list (lib.choice Feature.key))

namespace Environment

/-- Declared form of an environment. -/
def form (lib : JsonLibrary) : RecordForm Environment where
  fields :=
    [{ key := "api"
       codec := lib.choice Api.key
       get := api
       set := fun api env => { env with api }
       isRequired := true },
     { key := "stage"
       codec := lib.choice Stage.key
       get := stage
       set := fun stage env => { env with stage }
       isRequired := true },
     { key := "features"
       codec := FeatureSet.codec lib
       get := features
       set := fun features env => { env with features }
       isRequired := false }]
  defaults := default
  nodup_keys := by simp
  foldl_set _ := rfl

/-- The environment that a text gives. -/
def parse? (lib : JsonLibrary) (text : String) : Option Environment :=
  lib.ofText? (lib.record (form lib)) text

/-- The text of an environment. -/
def render (lib : JsonLibrary) (env : Environment) : String :=
  lib.toText (lib.record (form lib)) env

end Environment

namespace Config

/-- The settings if nothing is said. -/
def default : Config :=
  { cache := .default, environment := none }

/-- Declared form of the settings. -/
def form (lib : JsonLibrary) : RecordForm Config where
  fields :=
    [{ key := "cache"
       codec := lib.record (CacheConfig.form lib)
       get := cache
       set := fun cache config => { config with cache }
       isRequired := false },
     { key := "environment"
       codec := lib.option (lib.record (Environment.form lib))
       get := environment
       set := fun environment config => { config with environment }
       isRequired := false
       skips := Option.isNone }]
  defaults := default
  nodup_keys := by simp
  foldl_set _ := rfl

/-- The settings that a text gives. -/
def parse? (lib : JsonLibrary) (text : String) : Option Config :=
  lib.ofText? (lib.record (form lib)) text

/-- The text of settings. -/
def render (lib : JsonLibrary) (config : Config) : String :=
  lib.toText (lib.record (form lib)) config

end Config

end GlslPrelude
