import GlslPrelude.Prelude.Layout

/-!
# Stage variables

The variables by which the stages of the graphics and compute pipelines talk to their surroundings.
-/

namespace GlslPrelude

namespace Prelude

open Section

/-- The variables by which the stages of the graphics and compute pipelines talk to their
surroundings. -/
def stages : Chapter where
  notes := []
  sections := [
    .lines [""],
    .when (inStage [.vertex]) [
      .lines [""],
      .when (targeting .openGl) [
        .lines [
          "in int gl_VertexID;",
          "in int gl_InstanceID;"]],
      .lines [""],
      .when (targeting .vulkan) [
        .lines [
          "in int gl_VertexIndex;",
          "in int gl_InstanceIndex;"]],
      .lines [
        "",
        "in int gl_DrawID;",
        "in int gl_BaseVertex;",
        "in int gl_BaseInstance;",
        "",
        "out gl_PerVertex \x7b",
        "    vec4 gl_Position;",
        "    float gl_PointSize;",
        "    float gl_ClipDistance[];",
        "    float gl_CullDistance[];",
        "\x7d;",
        ""]],
    .lines ["", "", ""],
    .when (inStage [.fragment]) [
      .lines [
        "",
        "in vec4  gl_FragCoord;",
        "in bool  gl_FrontFacing;",
        "in float gl_ClipDistance[];",
        "in float gl_CullDistance[];",
        "in vec2 gl_PointCoord;",
        "flat in int gl_PrimitiveID;",
        "flat in  int  gl_SampleID;",
        "in  vec2 gl_SamplePosition;",
        "flat in  int  gl_SampleMaskIn[];",
        "flat in int gl_Layer;",
        "flat in int gl_ViewportIndex;",
        "in bool gl_HelperInvocation;",
        "",
        "out float gl_FragDepth;",
        "out int  gl_SampleMask[];",
        ""]],
    .lines ["", ""],
    .when (inStage [.compute]) [
      .lines [
        "",
        "in    highp uvec3 gl_NumWorkGroups;",
        "const highp uvec3 gl_WorkGroupSize = uvec3(1,1,1);",
        "in highp uvec3 gl_WorkGroupID;",
        "in highp uvec3 gl_LocalInvocationID;",
        "in highp uvec3 gl_GlobalInvocationID;",
        "in highp uint gl_LocalInvocationIndex;",
        ""]],
    .lines ["", ""],
    .when (inStage [.geometry]) [
      .lines [
        "",
        "",
        "in gl_PerVertex \x7b",
        "    vec4 gl_Position;",
        "    float gl_PointSize;",
        "    float gl_ClipDistance[];",
        "    float gl_CullDistance[];",
        "    // vec4 gl_SecondaryPositionNV;",
        "    // vec4 gl_PositionPerViewNV[];",
        "\x7d gl_in[];",
        "in int gl_PrimitiveIDIn;",
        "out gl_PerVertex \x7b",
        "    vec4 gl_Position;",
        "    float gl_PointSize;",
        "    float gl_ClipDistance[];",
        "    float gl_CullDistance[];",
        "\x7d;",
        "out int gl_PrimitiveID;",
        "out int gl_Layer;",
        "out int gl_ViewportIndex;",
        ""]],
    .lines ["", ""],
    .when (inStage [.tessControl]) [
      .lines [
        "",
        "in gl_PerVertex \x7b",
        "    vec4 gl_Position;",
        "    float gl_PointSize;",
        "    float gl_ClipDistance[];",
        "    float gl_CullDistance[];",
        "\x7d gl_in[gl_MaxPatchVertices];",
        "",
        "in int gl_PatchVerticesIn;",
        "in int gl_PrimitiveID;",
        "in int gl_InvocationID;",
        "",
        "out gl_PerVertex \x7b",
        "    vec4 gl_Position;",
        "    float gl_PointSize;",
        "    float gl_ClipDistance[];",
        "    float gl_CullDistance[];",
        "    // int  gl_ViewportMask[];",
        "    // vec4 gl_SecondaryPositionNV;",
        "    // int  gl_SecondaryViewportMaskNV[];",
        "    // vec4 gl_PositionPerViewNV[];",
        "    // int  gl_ViewportMaskPerViewNV[];",
        "\x7d gl_out[];",
        "patch out float gl_TessLevelOuter[4];",
        "patch out float gl_TessLevelInner[2];",
        ""]],
    .lines ["", ""],
    .when (inStage [.tessEval]) [
      .lines [
        "",
        "in gl_PerVertex \x7b",
        "    vec4 gl_Position;",
        "    float gl_PointSize;",
        "    float gl_ClipDistance[];",
        "    float gl_CullDistance[];",
        "\x7d gl_in[gl_MaxPatchVertices];",
        "",
        "in int gl_PatchVerticesIn;",
        "in int gl_PrimitiveID;",
        "in vec3 gl_TessCoord;",
        "patch in float gl_TessLevelOuter[4];",
        "patch in float gl_TessLevelInner[2];",
        "",
        "out gl_PerVertex \x7b",
        "    vec4 gl_Position;",
        "    float gl_PointSize;",
        "    float gl_ClipDistance[];",
        "    float gl_CullDistance[];",
        "\x7d;",
        ""]],
    .lines [""]]

end Prelude

end GlslPrelude
