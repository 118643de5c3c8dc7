import GlslPrelude.Prelude.Layout

/-!
# Ray queries

Functions and constants of ray queries, memory scopes and multiprocessor numbers.
-/

namespace GlslPrelude

namespace Prelude

open Section

/-- Functions and constants of ray queries, memory scopes and multiprocessor numbers. -/
def rayQuery : Chapter where
  notes := []
  sections := [
    .lines [""],
    .when (enabled .rayQuery) [
      .lines [
        "",
        "const uint gl_RayFlagsNoneEXT = 0U;",
        "const uint gl_RayFlagsOpaqueEXT = 1U;",
        "const uint gl_RayFlagsNoOpaqueEXT = 2U;",
        "const uint gl_RayFlagsTerminateOnFirstHitEXT = 4U;",
        "const uint gl_RayFlagsSkipClosestHitShaderEXT = 8U;",
        "const uint gl_RayFlagsCullBackFacingTrianglesEXT = 16U;",
        "const uint gl_RayFlagsCullFrontFacingTrianglesEXT = 32U;",
        "const uint gl_RayFlagsCullOpaqueEXT = 64U;",
        "const uint gl_RayFlagsCullNoOpaqueEXT = 128U;",
        "const uint gl_RayFlagsSkipTrianglesEXT = 256U;",
        "const uint gl_RayFlagsSkipAABBEXT = 512U;",
        "const uint gl_RayFlagsForceOpacityMicromap2StateEXT = 1024U;",
        "const uint gl_HitKindFrontFacingTriangleEXT = 254U;",
        "const uint gl_HitKindBackFacingTriangleEXT = 255U;",
        "",
        "const uint gl_RayQueryCandidateIntersectionEXT = 0U;",
        "const uint gl_RayQueryCommittedIntersectionEXT = 1U;",
        "const uint gl_RayQueryCommittedIntersectionNoneEXT = 0U;",
        "const uint gl_RayQueryCommittedIntersectionTriangleEXT = 1U;",
        "const uint gl_RayQueryCommittedIntersectionGeneratedEXT = 2U;",
        "const uint gl_RayQueryCandidateIntersectionTriangleEXT = 0U;",
        "const uint gl_RayQueryCandidateIntersectionAABBEXT = 1U;",
        "",
        "void rayQueryInitializeEXT(rayQueryEXT rayQuery, accelerationStructureEXT topLevel, " ++
          "uint rayFlags, uint cullMask, vec3 origin, float tMin, vec3 direction, float tMax);",
        "void rayQueryTerminateEXT(rayQueryEXT rayQuery);",
        "void rayQueryGenerateIntersectionEXT(rayQueryEXT rayQuery, float tHit);",
        "void rayQueryConfirmIntersectionEXT(rayQueryEXT rayQuery);",
        "bool rayQueryProceedEXT(rayQueryEXT rayQuery);",
        "uint rayQueryGetIntersectionTypeEXT(rayQueryEXT rayQuery, bool committed);",
        "float rayQueryGetRayTMinEXT(rayQueryEXT rayQuery);",
        "uint rayQueryGetRayFlagsEXT(rayQueryEXT rayQuery);",
        "vec3 rayQueryGetWorldRayOriginEXT(rayQueryEXT rayQuery);",
        "vec3 rayQueryGetWorldRayDirectionEXT(rayQueryEXT rayQuery);",
        "float rayQueryGetIntersectionTEXT(rayQueryEXT rayQuery, bool committed);",
        "int rayQueryGetIntersectionInstanceCustomIndexEXT(rayQueryEXT rayQuery, bool committed);",
        "int rayQueryGetIntersectionInstanceIdEXT(rayQueryEXT rayQuery, bool committed);",
        "uint rayQueryGetIntersectionInstanceShaderBindingTableRecordOffsetEXT(rayQueryEXT " ++
          "rayQuery, bool committed);",
        "int rayQueryGetIntersectionGeometryIndexEXT(rayQueryEXT rayQuery, bool committed);",
        "int rayQueryGetIntersectionPrimitiveIndexEXT(rayQueryEXT rayQuery, bool committed);",
        "vec2 rayQueryGetIntersectionBarycentricsEXT(rayQueryEXT rayQuery, bool committed);",
        "bool rayQueryGetIntersectionFrontFaceEXT(rayQueryEXT rayQuery, bool committed);",
        "bool rayQueryGetIntersectionCandidateAABBOpaqueEXT(rayQueryEXT rayQuery, bool " ++
          "committed);",
        "vec3 rayQueryGetIntersectionObjectRayDirectionEXT(rayQueryEXT rayQuery, bool committed);",
        "vec3 rayQueryGetIntersectionObjectRayOriginEXT(rayQueryEXT rayQuery, bool committed);",
        "mat4x3 rayQueryGetIntersectionObjectToWorldEXT(rayQueryEXT rayQuery, bool committed);",
        "mat4x3 rayQueryGetIntersectionWorldToObjectEXT(rayQueryEXT rayQuery, bool committed);",
        ""]],
    .lines ["", ""],
    .when (enabled .memoryScopeSemantics) [
      .lines [
        "",
        "const int gl_ScopeDevice      = 1;",
        "const int gl_ScopeWorkgroup   = 2;",
        "const int gl_ScopeSubgroup    = 3;",
        "const int gl_ScopeInvocation  = 4;",
        "const int gl_ScopeQueueFamily = 5;",
        "const int gl_ScopeShaderCallEXT = 6;",
        "",
        "const int gl_SemanticsRelaxed         = 0x0;",
        "const int gl_SemanticsAcquire         = 0x2;",
        "const int gl_SemanticsRelease         = 0x4;",
        "const int gl_SemanticsAcquireRelease  = 0x8;",
        "const int gl_SemanticsMakeAvailable   = 0x2000;",
        "const int gl_SemanticsMakeVisible     = 0x4000;",
        "const int gl_SemanticsVolatile        = 0x8000;",
        "",
        "const int gl_StorageSemanticsNone     = 0x0;",
        "const int gl_StorageSemanticsBuffer   = 0x40;",
        "const int gl_StorageSemanticsShared   = 0x100;",
        "const int gl_StorageSemanticsImage    = 0x800;",
        "const int gl_StorageSemanticsOutput   = 0x1000;",
        ""]],
    .lines ["", ""],
    .when (enabled .shaderSmBuiltinNv) [
      .lines [""],
      .when (inStage [.vertex, .geometry, .tessControl, .tessEval, .compute, .task, .mesh]) [
        .lines [
          "in highp   uint  gl_WarpsPerSMNV;",
          "in highp   uint  gl_SMCountNV;",
          "in highp   uint  gl_WarpIDNV;",
          "in highp   uint  gl_SMIDNV;"]],
      .lines [""],
      .when (inStage [.fragment]) [
        .lines [
          "flat in highp   uint  gl_WarpsPerSMNV;",
          "flat in highp   uint  gl_SMCountNV;",
          "flat in highp   uint  gl_WarpIDNV;",
          "flat in highp   uint  gl_SMIDNV;"]],
      .lines [""],
      .when (inStage [.rayGen, .anyHit, .closestHit, .intersect, .miss, .callable]) [
        .lines [
          "in highp    uint  gl_WarpsPerSMNV;",
          "in highp    uint  gl_SMCountNV;",
          "in highp volatile uint  gl_WarpIDNV;",
          "in highp volatile uint  gl_SMIDNV;"]],
      .lines [""]]]

end Prelude

end GlslPrelude
