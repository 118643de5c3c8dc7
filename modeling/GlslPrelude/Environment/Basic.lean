import GlslPrelude.Environment.Flag

/-!
# Environments

The context that a table of builtins is built for. Two environments with the same flags are equal.
-/

namespace GlslPrelude

/-- A target API, a shader stage and the enabled features. -/
structure Environment where
  /-- Targeted API. -/
  api : Api
  /-- Stage of the shader. -/
  stage : Stage
  /-- Enabled features. -/
  features : FeatureSet
deriving DecidableEq, Inhabited

namespace Environment

/-- The environment with the features of a list enabled. -/
def ofFeatures (api : Api) (stage : Stage) (features : List Feature) : Environment :=
  { api, stage, features := EnumSet.ofList features }

/-- Whether a flag is set. -/
def isSet (env : Environment) : Flag → Bool
  | .api a => env.api = a
  | .stage s => env.stage = s
  | .feature f => env.features.contains f

/-- The flags that are set: the API, the stage, then the features. -/
def flags (env : Environment) : List Flag :=
  (elements Flag).filter env.isSet

/-- The environment with a feature enabled. -/
def enable (env : Environment) (feature : Feature) : Environment :=
  { env with features := env.features.insert feature }

/-- The environment with a feature disabled. -/
def disable (env : Environment) (feature : Feature) : Environment :=
  { env with features := env.features.erase feature }

/-- Environments are ordered by API, then by stage, then by the bits of the feature set. -/
def le (a b : Environment) : Bool :=
  let key (env : Environment) := (position env.api, position env.stage, env.features.bits.toNat)
  (compareLex (compareOn (·.1)) (compareLex (compareOn (·.2.1)) (compareOn (·.2.2)))
    (key a) (key b)).isLE

/-- The environments of a list in ascending order, each once. -/
def sortDistinct (envs : List Environment) : List Environment :=
  (envs.mergeSort le).foldr (fun env rest => if rest.head? = some env then rest else env :: rest) []

/-- Names of the enabled features, separated by commas. -/
def featureLabels (features : FeatureSet) : String :=
  ", ".intercalate (features.toList.map Feature.label)

/-- Description for people, for instance `Vulkan fragment shader with [RayQuery]`. -/
def describe (env : Environment) : String :=
  env.api.label ++ " " ++ env.stage.label ++ " shader" ++
    if env.features.isEmpty then "" else " with [" ++ featureLabels env.features ++ "]"

end Environment

/-- Description of a feature set for people, for instance `{RayQuery}` in braces. -/
def FeatureSet.describe (features : FeatureSet) : String :=
  "\x7b" ++ Environment.featureLabels features ++ "\x7d"

end GlslPrelude
