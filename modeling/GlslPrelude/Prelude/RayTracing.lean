import GlslPrelude.Prelude.Layout

/-!
# Ray tracing

The variables, constants and functions of the ray tracing stages, in both dialects.
-/

namespace GlslPrelude

namespace Prelude

open Section

/-- The variables, constants and functions of the ray tracing stages, in both dialects. -/
def rayTracing : Chapter where
  notes := []
  sections := [
    .lines [""],
    .when (enabled .rayTracingExt) [
      .lines [""],
      .when (inStage [.rayGen, .anyHit, .closestHit, .intersect, .miss, .callable]) [
        .lines [
          "const uint gl_RayFlagsNoneEXT = 0U;",
          "const uint gl_RayFlagsOpaqueEXT = 1U;",
          "const uint gl_RayFlagsNoOpaqueEXT = 2U;",
          "const uint gl_RayFlagsTerminateOnFirstHitEXT = 4U;",
          "const uint gl_RayFlagsSkipClosestHitShaderEXT = 8U;",
          "const uint gl_RayFlagsCullBackFacingTrianglesEXT = 16U;",
          "const uint gl_RayFlagsCullFrontFacingTrianglesEXT = 32U;",
          "const uint gl_RayFlagsCullOpaqueEXT = 64U;",
          "const uint gl_RayFlagsCullNoOpaqueEXT = 128U;",
          "const uint gl_RayFlagsSkipTrianglesEXT = 256U;",
          "const uint gl_RayFlagsSkipAABBEXT = 512U;",
          "const uint gl_RayFlagsForceOpacityMicromap2StateEXT = 1024U;",
          "const uint gl_HitKindFrontFacingTriangleEXT = 254U;",
          "const uint gl_HitKindBackFacingTriangleEXT = 255U;",
          "",
          "in    uvec3  gl_LaunchIDEXT;",
          "in    uvec3  gl_LaunchSizeEXT;"]],
      .lines [""],
      .when (inStage [.rayGen, .closestHit, .miss, .callable]) [
        .lines [
          "void executeCallableEXT(uint sbtRecordIndex, int callable);"]],
      .lines [""],
      .when (inStage [.rayGen, .closestHit, .miss]) [
        .lines [
          "void traceRayEXT(accelerationStructureEXT topLevel,uint rayFlags,uint " ++
            "cullMask,uint sbtRecordOffset,uint sbtRecordStride,uint missIndex,vec3 " ++
            "origin,float tMin,vec3 direction,float tMax,int payload);"]],
      .lines [""],
      .when (inStage [.anyHit, .closestHit, .intersect, .miss]) [
        .lines [
          "in    vec3   gl_WorldRayOriginEXT;",
          "in    vec3   gl_WorldRayDirectionEXT;",
          "in    float  gl_RayTminEXT;",
          "in    float  gl_RayTmaxEXT;",
          "in    uint   gl_IncomingRayFlagsEXT;",
          "in    uint   gl_CullMaskEXT;"]],
      .lines [""],
      .when (inStage [.anyHit, .closestHit, .intersect]) [
        .lines [
          "in     int   gl_PrimitiveID;",
          "in     int   gl_InstanceID;",
          "in     int   gl_InstanceCustomIndexEXT;",
          "in     int   gl_GeometryIndexEXT;",
          "in    vec3   gl_ObjectRayOriginEXT;",
          "in    vec3   gl_ObjectRayDirectionEXT;",
          "in    float  gl_HitTEXT;",
          "in    uint   gl_HitKindEXT;",
          "in    mat4x3 gl_ObjectToWorldEXT;",
          "in    mat3x4 gl_ObjectToWorld3x4EXT;",
          "in    mat4x3 gl_WorldToObjectEXT;",
          "in    mat3x4 gl_WorldToObject3x4EXT;"]],
      .lines [""],
      .when (inStage [.intersect]) [
        .lines [
          "bool reportIntersectionEXT(float hitT, uint hitKind);"]],
      .lines [""]],
    .lines ["", "", ""],
    .when (enabled .rayTracingNv) [
      .lines [""],
      .when (inStage [.rayGen, .anyHit, .closestHit, .intersect, .miss, .callable]) [
        .lines [
          "const uint gl_RayFlagsNoneNV = 0U;",
          "const uint gl_RayFlagsOpaqueNV = 1U;",
          "const uint gl_RayFlagsNoOpaqueNV = 2U;",
          "const uint gl_RayFlagsTerminateOnFirstHitNV = 4U;",
          "const uint gl_RayFlagsSkipClosestHitShaderNV = 8U;",
          "const uint gl_RayFlagsCullBackFacingTrianglesNV = 16U;",
          "const uint gl_RayFlagsCullFrontFacingTrianglesNV = 32U;",
          "const uint gl_RayFlagsCullOpaqueNV = 64U;",
          "const uint gl_RayFlagsCullNoOpaqueNV = 128U;",
          "",
          "in    uvec3  gl_LaunchIDNV;",
          "in    uvec3  gl_LaunchSizeNV;"]],
      .lines [""],
      .when (inStage [.rayGen, .closestHit, .miss, .callable]) [
        .lines [
          "void executeCallableNV(uint sbtRecordIndex, int callable);"]],
      .lines [""],
      .when (inStage [.rayGen, .closestHit, .miss]) [
        .lines [
          "void traceNV(accelerationStructureNV topLevel,uint rayFlags,uint cullMask,uint " ++
            "sbtRecordOffset,uint sbtRecordStride,uint missIndex,vec3 origin,float tMin,vec3 " ++
            "direction,float tMax,int payload);",
          "void traceRayMotionNV(accelerationStructureNV topLevel,uint rayFlags,uint " ++
            "cullMask,uint sbtRecordOffset,uint sbtRecordStride,uint missIndex,vec3 " ++
            "origin,float tMin,vec3 direction,float tMax,float currentTime,int payload);"]],
      .lines [""],
      .when (inStage [.anyHit, .closestHit, .intersect, .miss]) [
        .lines [
          "in    vec3   gl_WorldRayOriginNV;",
          "in    vec3   gl_WorldRayDirectionNV;",
          "in    vec3   gl_ObjectRayOriginNV;",
          "in    vec3   gl_ObjectRayDirectionNV;",
          "in    float  gl_RayTminNV;",
          "in    float  gl_RayTmaxNV;",
          "in    uint   gl_IncomingRayFlagsNV;",
          "in    float  gl_CurrentRayTimeNV;"]],
      .lines [""],
      .when (inStage [.anyHit, .closestHit, .intersect]) [
        .lines [
          "in     int   gl_PrimitiveID;",
          "in     int   gl_InstanceID;",
          "in     int   gl_InstanceCustomIndexNV;",
          "in    float  gl_HitTNV;",
          "in    uint   gl_HitKindNV;",
          "in    mat4x3 gl_ObjectToWorldNV;",
          "in    mat4x3 gl_WorldToObjectNV;"]],
      .lines [""],
      .when (inStage [.anyHit]) [
        .lines [
          "void ignoreIntersectionNV();",
          "void terminateRayNV();"]],
      .lines ["", ""],
      .when (inStage [.intersect]) [
        .lines [
          "bool reportIntersectionNV(float hitT, uint hitKind);"]],
      .lines [""]],
    .lines [""]]

end Prelude

end GlslPrelude
