import GlslPrelude.Prelude.TextureNotes

/-!
# Floating-point textures

Look-ups in textures of floating-point numbers.
-/

namespace GlslPrelude

namespace Prelude

open Section

/-- Look-ups in textures of floating-point numbers. -/
def textureFloat : Chapter where
  notes := textureNotes
  sections := [
    .overloads [
      "float textureSize(sampler1D sampler_, int lod);",
      "vec2 textureQueryLod(sampler1D sampler_, float P);",
      "int textureQueryLevels(sampler1D sampler_);",
      "vec4 texture(sampler1D sampler_, float P);",
      "vec4 textureProj(sampler1D sampler_, float P);",
      "vec4 textureLod(sampler1D sampler_, float P, float lod);",
      "vec4 textureOffset(sampler1D sampler_, float P, int offset);",
      "vec4 texelFetch(sampler1D sampler_, int P, int lod);",
      "vec4 texelFetchOffset(sampler1D sampler_, int P, int lod, int offset);",
      "vec4 textureProjOffset(sampler1D sampler_, float P, int offset);",
      "vec4 textureLodOffset(sampler1D sampler_, float P, float lod, int offset);",
      "vec4 textureProjLod(sampler1D sampler_, vec2 P, float lod);",
      "vec4 textureProjLodOffset(sampler1D sampler_, vec2 P, float lod, int offset);",
      "vec4 textureGrad(sampler1D sampler_, float P, float dPdx, float dPdy);",
      "vec4 textureGradOffset(sampler1D sampler_, float P, float dPdx, float dPdy, int offset);",
      "vec4 textureProjGrad(sampler1D sampler_, float P, float lod, float dPdx, float dPdy);",
      "vec4 textureProjGradOffset(sampler1D sampler_, float P, float lod, float dPdx, float " ++
        "dPdy, int offset);",
      "float textureSize(sampler1DArray sampler_, int lod);",
      "vec2 textureQueryLod(sampler1DArray sampler_, float P);",
      "int textureQueryLevels(sampler1DArray sampler_);",
      "vec4 texture(sampler1DArray sampler_, vec2 P);",
      "vec4 textureLod(sampler1DArray sampler_, vec2 P, float lod);",
      "vec4 textureOffset(sampler1DArray sampler_, vec2 P, int offset);",
      "vec4 texelFetch(sampler1DArray sampler_, ivec2 P, int lod);",
      "vec4 texelFetchOffset(sampler1DArray sampler_, ivec2 P, int lod, int offset);",
      "vec4 textureLodOffset(sampler1DArray sampler_, vec2 P, float lod, int offset);",
      "vec4 textureGrad(sampler1DArray sampler_, vec2 P, float dPdx, float dPdy);",
      "vec4 textureGradOffset(sampler1DArray sampler_, vec2 P, float dPdx, float dPdy, int " ++
        "offset);",
      "float textureSize(sampler1DShadow sampler_, int lod);",
      "vec2 textureQueryLod(sampler1DShadow sampler_, float P);",
      "int textureQueryLevels(sampler1DShadow sampler_);",
      "float texture(sampler1DShadow sampler_, vec3 P);",
      "float textureProj(sampler1DShadow sampler_, vec3 P);",
      "float textureLod(sampler1DShadow sampler_, vec3 P, float lod);",
      "float textureOffset(sampler1DShadow sampler_, vec3 P, int offset);",
      "float textureProjOffset(sampler1DShadow sampler_, vec3 P, int offset);",
      "float textureLodOffset(sampler1DShadow sampler_, vec3 P, float lod, int offset);",
      "float textureProjLod(sampler1DShadow sampler_, vec4 P, float lod);",
      "float textureProjLodOffset(sampler1DShadow sampler_, vec4 P, float lod, int offset);",
      "float textureGrad(sampler1DShadow sampler_, vec3 P, float dPdx, float dPdy);",
      "float textureGradOffset(sampler1DShadow sampler_, vec3 P, float dPdx, float dPdy, int " ++
        "offset);",
      "float textureProjGrad(sampler1DShadow sampler_, vec3 P, float lod, float dPdx, float " ++
        "dPdy);",
      "float textureProjGradOffset(sampler1DShadow sampler_, vec3 P, float lod, float dPdx, " ++
        "float dPdy, int offset);",
      "float textureSize(sampler1DArrayShadow sampler_, int lod);",
      "vec2 textureQueryLod(sampler1DArrayShadow sampler_, float P);",
      "int textureQueryLevels(sampler1DArrayShadow sampler_);",
      "float texture(sampler1DArrayShadow sampler_, vec3 P);",
      "float textureLod(sampler1DArrayShadow sampler_, vec3 P, float lod);",
      "float textureOffset(sampler1DArrayShadow sampler_, vec3 P, int offset);",
      "float textureLodOffset(sampler1DArrayShadow sampler_, vec3 P, float lod, int offset);",
      "float textureGrad(sampler1DArrayShadow sampler_, vec3 P, float dPdx, float dPdy);",
      "float textureGradOffset(sampler1DArrayShadow sampler_, vec3 P, float dPdx, float dPdy, " ++
        "int offset);",
      "vec2 textureSize(sampler2D sampler_, int lod);",
      "vec2 textureQueryLod(sampler2D sampler_, vec2 P);",
      "int textureQueryLevels(sampler2D sampler_);",
      "vec4 texture(sampler2D sampler_, vec2 P);",
      "vec4 textureProj(sampler2D sampler_, vec2 P);",
      "vec4 textureLod(sampler2D sampler_, vec2 P, float lod);",
      "vec4 textureOffset(sampler2D sampler_, vec2 P, ivec2 offset);",
      "vec4 texelFetch(sampler2D sampler_, ivec2 P, int lod);",
      "vec4 texelFetchOffset(sampler2D sampler_, ivec2 P, int lod, ivec2 offset);",
      "vec4 textureProjOffset(sampler2D sampler_, vec2 P, ivec2 offset);",
      "vec4 textureLodOffset(sampler2D sampler_, vec2 P, float lod, ivec2 offset);",
      "vec4 textureProjLod(sampler2D sampler_, vec3 P, float lod);",
      "vec4 textureProjLodOffset(sampler2D sampler_, vec3 P, float lod, ivec2 offset);",
      "vec4 textureGrad(sampler2D sampler_, vec2 P, vec2 dPdx, vec2 dPdy);",
      "vec4 textureGradOffset(sampler2D sampler_, vec2 P, vec2 dPdx, vec2 dPdy, ivec2 offset);",
      "vec4 textureProjGrad(sampler2D sampler_, vec2 P, float lod, vec2 dPdx, vec2 dPdy);",
      "vec4 textureProjGradOffset(sampler2D sampler_, vec2 P, float lod, vec2 dPdx, vec2 " ++
        "dPdy, ivec2 offset);",
      "vec4 textureGather(sampler2D sampler_, vec2 P);",
      "vec4 textureGather(sampler2D sampler_, vec2 P, int comp);",
      "vec4 textureGatherOffset(sampler2D sampler_, vec2 P, ivec2 offset);",
      "vec4 textureGatherOffsets(sampler2D sampler_, vec2 P, ivec2 offset[4]);",
      "vec2 textureSize(sampler2DArray sampler_, int lod);",
      "vec2 textureQueryLod(sampler2DArray sampler_, vec2 P);",
      "int textureQueryLevels(sampler2DArray sampler_);",
      "vec4 texture(sampler2DArray sampler_, vec3 P);",
      "vec4 textureLod(sampler2DArray sampler_, vec3 P, float lod);",
      "vec4 textureOffset(sampler2DArray sampler_, vec3 P, ivec2 offset);",
      "vec4 texelFetch(sampler2DArray sampler_, ivec3 P, int lod);",
      "vec4 texelFetchOffset(sampler2DArray sampler_, ivec3 P, int lod, ivec2 offset);",
      "vec4 textureLodOffset(sampler2DArray sampler_, vec3 P, float lod, ivec2 offset);",
      "vec4 textureGrad(sampler2DArray sampler_, vec3 P, vec2 dPdx, vec2 dPdy);",
      "vec4 textureGradOffset(sampler2DArray sampler_, vec3 P, vec2 dPdx, vec2 dPdy, ivec2 " ++
        "offset);",
      "vec4 textureGather(sampler2DArray sampler_, vec3 P);",
      "vec4 textureGather(sampler2DArray sampler_, vec3 P, int comp);",
      "vec4 textureGatherOffset(sampler2DArray sampler_, vec3 P, ivec2 offset);",
      "vec4 textureGatherOffsets(sampler2DArray sampler_, vec3 P, ivec2 offset[4]);",
      "vec2 textureSize(sampler2DShadow sampler_, int lod);",
      "vec2 textureQueryLod(sampler2DShadow sampler_, vec2 P);",
      "int textureQueryLevels(sampler2DShadow sampler_);",
      "float texture(sampler2DShadow sampler_, vec3 P);",
      "float textureProj(sampler2DShadow sampler_, vec3 P);",
      "float textureLod(sampler2DShadow sampler_, vec3 P, float lod);",
      "float textureOffset(sampler2DShadow sampler_, vec3 P, ivec2 offset);",
      "float textureProjOffset(sampler2DShadow sampler_, vec3 P, ivec2 offset);",
      "float textureLodOffset(sampler2DShadow sampler_, vec3 P, float lod, ivec2 offset);",
      "float textureProjLod(sampler2DShadow sampler_, vec4 P, float lod);",
      "float textureProjLodOffset(sampler2DShadow sampler_, vec4 P, float lod, ivec2 offset);",
      "float textureGrad(sampler2DShadow sampler_, vec3 P, vec2 dPdx, vec2 dPdy);",
      "float textureGradOffset(sampler2DShadow sampler_, vec3 P, vec2 dPdx, vec2 dPdy, ivec2 " ++
        "offset);",
      "float textureProjGrad(sampler2DShadow sampler_, vec3 P, float lod, vec2 dPdx, vec2 dPdy);",
      "float textureProjGradOffset(sampler2DShadow sampler_, vec3 P, float lod, vec2 dPdx, " ++
        "vec2 dPdy, ivec2 offset);",
      "vec4 textureGather(sampler2DShadow sampler_, vec2 P, float refZ);",
      "vec4 textureGatherOffset(sampler2DShadow sampler_, vec2 P, float refZ, ivec2 offset);",
      "vec4 textureGatherOffsets(sampler2DShadow sampler_, vec2 P, float refZ, ivec2 offset[4]);",
      "vec2 textureSize(sampler2DArrayShadow sampler_, int lod);",
      "vec2 textureQueryLod(sampler2DArrayShadow sampler_, vec2 P);",
      "int textureQueryLevels(sampler2DArrayShadow sampler_);",
      "float texture(sampler2DArrayShadow sampler_, vec4 P);",
      "float textureLod(sampler2DArrayShadow sampler_, vec4 P, float lod);",
      "float textureOffset(sampler2DArrayShadow sampler_, vec4 P, ivec2 offset);",
      "float textureLodOffset(sampler2DArrayShadow sampler_, vec4 P, float lod, ivec2 offset);",
      "float textureGrad(sampler2DArrayShadow sampler_, vec4 P, vec2 dPdx, vec2 dPdy);",
      "float textureGradOffset(sampler2DArrayShadow sampler_, vec4 P, vec2 dPdx, vec2 dPdy, " ++
        "ivec2 offset);",
      "vec4 textureGather(sampler2DArrayShadow sampler_, vec3 P, float refZ);",
      "vec4 textureGatherOffset(sampler2DArrayShadow sampler_, vec3 P, float refZ, ivec2 offset);",
      "vec4 textureGatherOffsets(sampler2DArrayShadow sampler_, vec3 P, float refZ, ivec2 " ++
        "offset[4]);",
      "vec3 textureSize(samplerCube sampler_, int lod);",
      "vec2 textureQueryLod(samplerCube sampler_, vec3 P);",
      "int textureQueryLevels(samplerCube sampler_);",
      "vec4 texture(samplerCube sampler_, vec3 P);",
      "vec4 textureLod(samplerCube sampler_, vec3 P, float lod);",
      "vec4 textureGrad(samplerCube sampler_, vec3 P, vec3 dPdx, vec3 dPdy);",
      "vec4 textureGather(samplerCube sampler_, vec3 P);",
      "vec4 textureGather(samplerCube sampler_, vec3 P, int comp);",
      "vec3 textureSize(samplerCubeArray sampler_, int lod);",
      "vec2 textureQueryLod(samplerCubeArray sampler_, vec3 P);",
      "int textureQueryLevels(samplerCubeArray sampler_);",
      "vec4 texture(samplerCubeArray sampler_, vec4 P);",
      "vec4 textureLod(samplerCubeArray sampler_, vec4 P, float lod);",
      "vec4 textureGrad(samplerCubeArray sampler_, vec4 P, vec3 dPdx, vec3 dPdy);",
      "vec4 textureGather(samplerCubeArray sampler_, vec4 P);",
      "vec4 textureGather(samplerCubeArray sampler_, vec4 P, int comp);",
      "vec3 textureSize(samplerCubeShadow sampler_, int lod);",
      "vec2 textureQueryLod(samplerCubeShadow sampler_, vec3 P);",
      "int textureQueryLevels(samplerCubeShadow sampler_);",
      "float texture(samplerCubeShadow sampler_, vec4 P);",
      "float textureLod(samplerCubeShadow sampler_, vec4 P, float lod);",
      "float textureGrad(samplerCubeShadow sampler_, vec4 P, vec3 dPdx, vec3 dPdy);",
      "vec4 textureGather(samplerCubeShadow sampler_, vec3 P, float refZ);",
      "vec3 textureSize(samplerCubeArrayShadow sampler_, int lod);",
      "vec2 textureQueryLod(samplerCubeArrayShadow sampler_, vec3 P);",
      "int textureQueryLevels(samplerCubeArrayShadow sampler_);",
      "float texture(samplerCubeArrayShadow sampler_, vec4 P, float compare);",
      "float textureLod(samplerCubeArrayShadow sampler_, vec4 P, float lod);",
      "float textureGrad(samplerCubeArrayShadow sampler_, vec4 P, vec3 dPdx, vec3 dPdy);",
      "vec4 textureGather(samplerCubeArrayShadow sampler_, vec4 P, float refZ);",
      "vec3 textureSize(sampler3D sampler_, int lod);",
      "vec2 textureQueryLod(sampler3D sampler_, vec3 P);",
      "int textureQueryLevels(sampler3D sampler_);",
      "vec4 texture(sampler3D sampler_, vec3 P);",
      "vec4 textureProj(sampler3D sampler_, vec3 P);",
      "vec4 textureLod(sampler3D sampler_, vec3 P, float lod);",
      "vec4 textureOffset(sampler3D sampler_, vec3 P, ivec3 offset);",
      "vec4 texelFetch(sampler3D sampler_, ivec3 P, int lod);",
      "vec4 texelFetchOffset(sampler3D sampler_, ivec3 P, int lod, ivec3 offset);",
      "vec4 textureProjOffset(sampler3D sampler_, vec3 P, ivec3 offset);",
      "vec4 textureLodOffset(sampler3D sampler_, vec3 P, float lod, ivec3 offset);",
      "vec4 textureProjLod(sampler3D sampler_, vec4 P, float lod);",
      "vec4 textureProjLodOffset(sampler3D sampler_, vec4 P, float lod, ivec3 offset);",
      "vec4 textureGrad(sampler3D sampler_, vec3 P, vec3 dPdx, vec3 dPdy);",
      "vec4 textureGradOffset(sampler3D sampler_, vec3 P, vec3 dPdx, vec3 dPdy, ivec3 offset);",
      "vec4 textureProjGrad(sampler3D sampler_, vec3 P, float lod, vec3 dPdx, vec3 dPdy);",
      "vec4 textureProjGradOffset(sampler3D sampler_, vec3 P, float lod, vec3 dPdx, vec3 " ++
        "dPdy, ivec3 offset);",
      "vec2 textureSize(sampler2DRect sampler_, int lod);",
      "vec4 texture(sampler2DRect sampler_, vec2 P);",
      "vec4 textureProj(sampler2DRect sampler_, vec2 P);",
      "vec4 textureOffset(sampler2DRect sampler_, vec2 P, ivec2 offset);",
      "vec4 texelFetch(sampler2DRect sampler_, ivec2 P, int lod);",
      "vec4 texelFetchOffset(sampler2DRect sampler_, ivec2 P, ivec2 offset);",
      "vec4 textureProjOffset(sampler2DRect sampler_, vec2 P, ivec2 offset);",
      "vec4 textureGrad(sampler2DRect sampler_, vec2 P, vec2 dPdx, vec2 dPdy);",
      "vec4 textureGradOffset(sampler2DRect sampler_, vec2 P, vec2 dPdx, vec2 dPdy, ivec2 " ++
        "offset);",
      "vec4 textureProjGrad(sampler2DRect sampler_, vec2 P, float lod, vec2 dPdx, vec2 dPdy);",
      "vec4 textureProjGradOffset(sampler2DRect sampler_, vec2 P, float lod, vec2 dPdx, vec2 " ++
        "dPdy, ivec2 offset);",
      "vec4 textureGather(sampler2DRect sampler_, vec2 P);",
      "vec4 textureGather(sampler2DRect sampler_, vec2 P, int comp);",
      "vec4 textureGatherOffset(sampler2DRect sampler_, vec2 P, ivec2 offset);",
      "vec4 textureGatherOffsets(sampler2DRect sampler_, vec2 P, ivec2 offset[4]);",
      "vec2 textureSize(sampler2DRectShadow sampler_, int lod);",
      "float texture(sampler2DRectShadow sampler_, vec3 P);",
      "float textureProj(sampler2DRectShadow sampler_, vec3 P);",
      "float textureOffset(sampler2DRectShadow sampler_, vec3 P, ivec2 offset);",
      "float textureProjOffset(sampler2DRectShadow sampler_, vec3 P, ivec2 offset);",
      "float textureGrad(sampler2DRectShadow sampler_, vec3 P, vec2 dPdx, vec2 dPdy);",
      "float textureGradOffset(sampler2DRectShadow sampler_, vec3 P, vec2 dPdx, vec2 dPdy, " ++
        "ivec2 offset);",
      "float textureProjGrad(sampler2DRectShadow sampler_, vec3 P, float lod, vec2 dPdx, vec2 " ++
        "dPdy);",
      "float textureProjGradOffset(sampler2DRectShadow sampler_, vec3 P, float lod, vec2 " ++
        "dPdx, vec2 dPdy, ivec2 offset);",
      "vec4 textureGather(sampler2DRectShadow sampler_, vec2 P, float refZ);",
      "vec4 textureGatherOffset(sampler2DRectShadow sampler_, vec2 P, float refZ, ivec2 offset);",
      "vec4 textureGatherOffsets(sampler2DRectShadow sampler_, vec2 P, float refZ, ivec2 " ++
        "offset[4]);",
      "float textureSize(samplerBuffer sampler_, int lod);",
      "vec4 texelFetch(samplerBuffer sampler_, int P, int lod);",
      "vec2 textureSize(sampler2DMS sampler_, int lod);",
      "int textureSamples(sampler2DMS sampler_);",
      "vec4 texelFetch(sampler2DMS sampler_, ivec2 P, int sample);",
      "vec2 textureSize(sampler2DMSArray sampler_, int lod);",
      "int textureSamples(sampler2DMSArray sampler_);",
      "vec4 texelFetch(sampler2DMSArray sampler_, ivec3 P, int sample);"]]

end Prelude

end GlslPrelude
