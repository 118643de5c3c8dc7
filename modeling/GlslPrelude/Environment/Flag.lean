import GlslPrelude.Data.EnumSet

/-!
# Flags

What a prelude declaration may depend on: the target API, the shader stage and the optional
language features. Each of them is a `Flag` with one macro name, under which the conditions of the
prelude text refer to it.
-/

namespace GlslPrelude

/-- Graphics API that a shader is written for. -/
inductive Api where
  /-- OpenGL and OpenGL ES. -/
  | openGl
  /-- Vulkan. -/
  | vulkan
deriving DecidableEq, Repr, Inhabited

instance : Enumeration Api where
  all := [.openGl, .vulkan]
  nodup_all := by decide
  mem_all := by intro a; cases a <;> decide

namespace Api

/-- Macro that is set when this API is targeted. -/
def macroName : Api → String
  | .openGl => "__GLSLD_TARGET_API_OPENGL"
  | .vulkan => "__GLSLD_TARGET_API_VULKAN"

/-- Name for people. -/
def label : Api → String
  | .openGl => "OpenGL"
  | .vulkan => "Vulkan"

/-- Name in a configuration. -/
def key : Api → String
  | .openGl => "opengl"
  | .vulkan => "vulkan"

end Api

/-- Stage of the graphics, compute or ray tracing pipeline that a shader runs in. -/
inductive Stage where
  | vertex
  | fragment
  | compute
  | geometry
  | tessControl
  | tessEval
  | rayGen
  | anyHit
  | closestHit
  | intersect
  | miss
  | callable
  | task
  | mesh
deriving DecidableEq, Repr, Inhabited

instance : Enumeration Stage where
  all := [.vertex, .fragment, .compute, .geometry, .tessControl, .tessEval, .rayGen, .anyHit,
    .closestHit, .intersect, .miss, .callable, .task, .mesh]
  nodup_all := by decide
  mem_all := by intro a; cases a <;> decide

namespace Stage

/-- Macro that is set when a shader of this stage is analysed. -/
def macroName : Stage → String
  | .vertex => "__GLSLD_SHADER_STAGE_VERTEX"
  | .fragment => "__GLSLD_SHADER_STAGE_FRAGMENT"
  | .compute => "__GLSLD_SHADER_STAGE_COMPUTE"
  | .geometry => "__GLSLD_SHADER_STAGE_GEOMETRY"
  | .tessControl => "__GLSLD_SHADER_STAGE_TESS_CTRL"
  | .tessEval => "__GLSLD_SHADER_STAGE_TESS_EVAL"
  | .rayGen => "__GLSLD_SHADER_STAGE_RAY_GEN"
  | .anyHit => "__GLSLD_SHADER_STAGE_ANY_HIT"
  | .closestHit => "__GLSLD_SHADER_STAGE_CLOSEST_HIT"
  | .intersect => "__GLSLD_SHADER_STAGE_RAY_INTERSECT"
  | .miss => "__GLSLD_SHADER_STAGE_RAY_MISS"
  | .callable => "__GLSLD_SHADER_STAGE_RAY_CALLABLE"
  | .task => "__GLSLD_SHADER_STAGE_TASK"
  | .mesh => "__GLSLD_SHADER_STAGE_MESH"

/-- Name for people. -/
def label : Stage → String
  | .vertex => "vertex"
  | .fragment => "fragment"
  | .compute => "compute"
  | .geometry => "geometry"
  | .tessControl => "tessellation control"
  | .tessEval => "tessellation evaluation"
  | .rayGen => "ray generation"
  | .anyHit => "any hit"
  | .closestHit => "closest hit"
  | .intersect => "intersection"
  | .miss => "miss"
  | .callable => "callable"
  | .task => "task"
  | .mesh => "mesh"

/-- Name in a configuration. -/
def key : Stage → String
  | .vertex => "vertex"
  | .fragment => "fragment"
  | .compute => "compute"
  | .geometry => "geometry"
  | .tessControl => "tessControl"
  | .tessEval => "tessEval"
  | .rayGen => "rayGen"
  | .anyHit => "anyHit"
  | .closestHit => "closestHit"
  | .intersect => "intersect"
  | .miss => "miss"
  | .callable => "callable"
  | .task => "task"
  | .mesh => "mesh"

/-- Whether the stage belongs to the ray tracing pipeline. -/
def isRayTracing : Stage → Bool
  | .rayGen | .anyHit | .closestHit | .intersect | .miss | .callable => true
  | _ => false

end Stage

/-- Optional language feature that gates part of the prelude. -/
inductive Feature where
  | float16Type
  | int8Type
  | int16Type
  | int64Type
  | uint8Type
  | uint16Type
  | uint64Type
  | rayTracingExt
  | rayTracingNv
  | rayQuery
  | memoryScopeSemantics
  | shaderSmBuiltinNv
deriving DecidableEq, Repr, Inhabited

instance : Enumeration Feature where
  all := [.float16Type, .int8Type, .int16Type, .int64Type, .uint8Type, .uint16Type, .uint64Type,
    .rayTracingExt, .rayTracingNv, .rayQuery, .memoryScopeSemantics, .shaderSmBuiltinNv]
  nodup_all := by decide
  mem_all := by intro a; cases a <;> decide

namespace Feature

/-- Macro that is set when the feature is enabled. -/
def macroName : Feature → String
  | .float16Type => "__GLSLD_FEATURE_ENABLE_FLOAT16_TYPE"
  | .int8Type => "__GLSLD_FEATURE_ENABLE_INT8_TYPE"
  | .int16Type => "__GLSLD_FEATURE_ENABLE_INT16_TYPE"
  | .int64Type => "__GLSLD_FEATURE_ENABLE_INT64_TYPE"
  | .uint8Type => "__GLSLD_FEATURE_ENABLE_UINT8_TYPE"
  | .uint16Type => "__GLSLD_FEATURE_ENABLE_UINT16_TYPE"
  | .uint64Type => "__GLSLD_FEATURE_ENABLE_UINT64_TYPE"
  | .rayTracingExt => "__GLSLD_FEATURE_ENABLE_RAY_TRACING_EXT"
  | .rayTracingNv => "__GLSLD_FEATURE_ENABLE_RAY_TRACING_NV"
  | .rayQuery => "__GLSLD_FEATURE_ENABLE_RAY_QUERY"
  | .memoryScopeSemantics => "__GLSLD_FEATURE_ENABLE_MEMORY_SCOPE_SEMANTICS"
  | .shaderSmBuiltinNv => "__GLSLD_FEATURE_ENABLE_SHADER_SM_BUILTIN_NV"

/-- Name for people. -/
def label : Feature → String
  | .float16Type => "Float16Type"
  | .int8Type => "Int8Type"
  | .int16Type => "Int16Type"
  | .int64Type => "Int64Type"
  | .uint8Type => "Uint8Type"
  | .uint16Type => "Uint16Type"
  | .uint64Type => "Uint64Type"
  | .rayTracingExt => "RayTracingExt"
  | .rayTracingNv => "RayTracingNv"
  | .rayQuery => "RayQuery"
  | .memoryScopeSemantics => "MemoryScopeSemantics"
  | .shaderSmBuiltinNv => "ShaderSmBuiltinNv"

/-- Name in a configuration. -/
def key : Feature → String
  | .float16Type => "float16Type"
  | .int8Type => "int8Type"
  | .int16Type => "int16Type"
  | .int64Type => "int64Type"
  | .uint8Type => "uint8Type"
  | .uint16Type => "uint16Type"
  | .uint64Type => "uint64Type"
  | .rayTracingExt => "rayTracingExt"
  | .rayTracingNv => "rayTracingNv"
  | .rayQuery => "rayQuery"
  | .memoryScopeSemantics => "memoryScopeSemantics"
  | .shaderSmBuiltinNv => "shaderSmBuiltinNv"

end Feature

/-- A set of enabled features. -/
abbrev FeatureSet := EnumSet Feature

/-- One yes-or-no fact about an environment. -/
inductive Flag where
  /-- The shader targets this API. -/
  | api (api : Api)
  /-- The shader runs in this stage. -/
  | stage (stage : Stage)
  /-- The feature is enabled. -/
  | feature (feature : Feature)
deriving DecidableEq, Repr

instance : Enumeration Flag where
  all := (elements Api).map .api ++ (elements Stage).map .stage ++ (elements Feature).map .feature
  nodup_all := by decide
  mem_all := by intro a; cases a <;> simp

namespace Flag

/-- Macro that refers to the flag. -/
def macroName : Flag → String
  | .api a => a.macroName
  | .stage s => s.macroName
  | .feature f => f.macroName

/-- The flag that a macro refers to. -/
def ofMacroName? (name : String) : Option Flag :=
  (elements Flag).find? (·.macroName == name)

end Flag

end GlslPrelude
