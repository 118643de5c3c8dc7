import GlslPrelude.Prelude.TextureNotes

/-!
# Signed textures

Look-ups in textures of signed integers.
-/

namespace GlslPrelude

namespace Prelude

open Section

/-- Look-ups in textures of signed integers. -/
def textureInt : Chapter where
  notes := textureNotes
  sections := [
    .overloads [
      "int textureSize(isampler1D sampler_, int lod);",
      "vec2 textureQueryLod(isampler1D sampler_, int P);",
      "int textureQueryLevels(isampler1D sampler_);",
      "ivec4 texture(isampler1D sampler_, int P);",
      "ivec4 textureProj(isampler1D sampler_, int P);",
      "ivec4 textureLod(isampler1D sampler_, int P, float lod);",
      "ivec4 textureOffset(isampler1D sampler_, int P, int offset);",
      "ivec4 texelFetch(isampler1D sampler_, int P, int lod);",
      "ivec4 texelFetchOffset(isampler1D sampler_, int P, int lod, int offset);",
      "ivec4 textureProjOffset(isampler1D sampler_, int P, int offset);",
      "ivec4 textureLodOffset(isampler1D sampler_, int P, float lod, int offset);",
      "ivec4 textureProjLod(isampler1D sampler_, ivec2 P, float lod);",
      "ivec4 textureProjLodOffset(isampler1D sampler_, ivec2 P, float lod, int offset);",
      "ivec4 textureGrad(isampler1D sampler_, int P, int dPdx, int dPdy);",
      "ivec4 textureGradOffset(isampler1D sampler_, int P, int dPdx, int dPdy, int offset);",
      "ivec4 textureProjGrad(isampler1D sampler_, int P, float lod, int dPdx, int dPdy);",
      "ivec4 textureProjGradOffset(isampler1D sampler_, int P, float lod, int dPdx, int dPdy, " ++
        "int offset);",
      "int textureSize(isampler1DArray sampler_, int lod);",
      "vec2 textureQueryLod(isampler1DArray sampler_, int P);",
      "int textureQueryLevels(isampler1DArray sampler_);",
      "ivec4 texture(isampler1DArray sampler_, ivec2 P);",
      "ivec4 textureLod(isampler1DArray sampler_, ivec2 P, float lod);",
      "ivec4 textureOffset(isampler1DArray sampler_, ivec2 P, int offset);",
      "ivec4 texelFetch(isampler1DArray sampler_, ivec2 P, int lod);",
      "ivec4 texelFetchOffset(isampler1DArray sampler_, ivec2 P, int lod, int offset);",
      "ivec4 textureLodOffset(isampler1DArray sampler_, ivec2 P, float lod, int offset);",
      "ivec4 textureGrad(isampler1DArray sampler_, ivec2 P, int dPdx, int dPdy);",
      "ivec4 textureGradOffset(isampler1DArray sampler_, ivec2 P, int dPdx, int dPdy, int " ++
        "offset);",
      "ivec2 textureSize(isampler2D sampler_, int lod);",
      "vec2 textureQueryLod(isampler2D sampler_, ivec2 P);",
      "int textureQueryLevels(isampler2D sampler_);",
      "ivec4 texture(isampler2D sampler_, ivec2 P);",
      "ivec4 textureProj(isampler2D sampler_, ivec2 P);",
      "ivec4 textureLod(isampler2D sampler_, ivec2 P, float lod);",
      "ivec4 textureOffset(isampler2D sampler_, ivec2 P, ivec2 offset);",
      "ivec4 texelFetch(isampler2D sampler_, ivec2 P, int lod);",
      "ivec4 texelFetchOffset(isampler2D sampler_, ivec2 P, int lod, ivec2 offset);",
      "ivec4 textureProjOffset(isampler2D sampler_, ivec2 P, ivec2 offset);",
      "ivec4 textureLodOffset(isampler2D sampler_, ivec2 P, float lod, ivec2 offset);",
      "ivec4 textureProjLod(isampler2D sampler_, ivec3 P, float lod);",
      "ivec4 textureProjLodOffset(isampler2D sampler_, ivec3 P, float lod, ivec2 offset);",
      "ivec4 textureGrad(isampler2D sampler_, ivec2 P, ivec2 dPdx, ivec2 dPdy);",
      "ivec4 textureGradOffset(isampler2D sampler_, ivec2 P, ivec2 dPdx, ivec2 dPdy, ivec2 " ++
        "offset);",
      "ivec4 textureProjGrad(isampler2D sampler_, ivec2 P, float lod, ivec2 dPdx, ivec2 dPdy);",
      "ivec4 textureProjGradOffset(isampler2D sampler_, ivec2 P, float lod, ivec2 dPdx, ivec2 " ++
        "dPdy, ivec2 offset);",
      "ivec4 textureGather(isampler2D sampler_, ivec2 P);",
      "ivec4 textureGather(isampler2D sampler_, ivec2 P, int comp);",
      "ivec4 textureGatherOffset(isampler2D sampler_, ivec2 P, ivec2 offset);",
      "ivec4 textureGatherOffsets(isampler2D sampler_, ivec2 P, ivec2 offset[4]);",
      "ivec2 textureSize(isampler2DArray sampler_, int lod);",
      "vec2 textureQueryLod(isampler2DArray sampler_, ivec2 P);",
      "int textureQueryLevels(isampler2DArray sampler_);",
      "ivec4 texture(isampler2DArray sampler_, ivec3 P);",
      "ivec4 textureLod(isampler2DArray sampler_, ivec3 P, float lod);",
      "ivec4 textureOffset(isampler2DArray sampler_, ivec3 P, ivec2 offset);",
      "ivec4 texelFetch(isampler2DArray sampler_, ivec3 P, int lod);",
      "ivec4 texelFetchOffset(isampler2DArray sampler_, ivec3 P, int lod, ivec2 offset);",
      "ivec4 textureLodOffset(isampler2DArray sampler_, ivec3 P, float lod, ivec2 offset);",
      "ivec4 textureGrad(isampler2DArray sampler_, ivec3 P, ivec2 dPdx, ivec2 dPdy);",
      "ivec4 textureGradOffset(isampler2DArray sampler_, ivec3 P, ivec2 dPdx, ivec2 dPdy, " ++
        "ivec2 offset);",
      "ivec4 textureGather(isampler2DArray sampler_, ivec3 P);",
      "ivec4 textureGather(isampler2DArray sampler_, ivec3 P, int comp);",
      "ivec4 textureGatherOffset(isampler2DArray sampler_, ivec3 P, ivec2 offset);",
      "ivec4 textureGatherOffsets(isampler2DArray sampler_, ivec3 P, ivec2 offset[4]);",
      "ivec3 textureSize(isamplerCube sampler_, int lod);",
      "vec2 textureQueryLod(isamplerCube sampler_, ivec3 P);",
      "int textureQueryLevels(isamplerCube sampler_);",
      "ivec4 texture(isamplerCube sampler_, ivec3 P);",
      "ivec4 textureLod(isamplerCube sampler_, ivec3 P, float lod);",
      "ivec4 textureGrad(isamplerCube sampler_, ivec3 P, ivec3 dPdx, ivec3 dPdy);",
      "ivec4 textureGather(isamplerCube sampler_, ivec3 P);",
      "ivec4 textureGather(isamplerCube sampler_, ivec3 P, int comp);",
      "ivec3 textureSize(isamplerCubeArray sampler_, int lod);",
      "vec2 textureQueryLod(isamplerCubeArray sampler_, ivec3 P);",
      "int textureQueryLevels(isamplerCubeArray sampler_);",
      "ivec4 texture(isamplerCubeArray sampler_, ivec4 P);",
      "ivec4 textureLod(isamplerCubeArray sampler_, ivec4 P, float lod);",
      "ivec4 textureGrad(isamplerCubeArray sampler_, ivec4 P, ivec3 dPdx, ivec3 dPdy);",
      "ivec4 textureGather(isamplerCubeArray sampler_, ivec4 P);",
      "ivec4 textureGather(isamplerCubeArray sampler_, ivec4 P, int comp);",
      "ivec3 textureSize(isampler3D sampler_, int lod);",
      "vec2 textureQueryLod(isampler3D sampler_, ivec3 P);",
      "int textureQueryLevels(isampler3D sampler_);",
      "ivec4 texture(isampler3D sampler_, ivec3 P);",
      "ivec4 textureProj(isampler3D sampler_, ivec3 P);",
      "ivec4 textureLod(isampler3D sampler_, ivec3 P, float lod);",
      "ivec4 textureOffset(isampler3D sampler_, ivec3 P, ivec3 offset);",
      "ivec4 texelFetch(isampler3D sampler_, ivec3 P, int lod);",
      "ivec4 texelFetchOffset(isampler3D sampler_, ivec3 P, int lod, ivec3 offset);",
      "ivec4 textureProjOffset(isampler3D sampler_, ivec3 P, ivec3 offset);",
      "ivec4 textureLodOffset(isampler3D sampler_, ivec3 P, float lod, ivec3 offset);",
      "ivec4 textureProjLod(isampler3D sampler_, ivec4 P, float lod);",
      "ivec4 textureProjLodOffset(isampler3D sampler_, ivec4 P, float lod, ivec3 offset);",
      "ivec4 textureGrad(isampler3D sampler_, ivec3 P, ivec3 dPdx, ivec3 dPdy);",
      "ivec4 textureGradOffset(isampler3D sampler_, ivec3 P, ivec3 dPdx, ivec3 dPdy, ivec3 " ++
        "offset);",
      "ivec4 textureProjGrad(isampler3D sampler_, ivec3 P, float lod, ivec3 dPdx, ivec3 dPdy);",
      "ivec4 textureProjGradOffset(isampler3D sampler_, ivec3 P, float lod, ivec3 dPdx, ivec3 " ++
        "dPdy, ivec3 offset);",
      "ivec2 textureSize(isampler2DRect sampler_, int lod);",
      "ivec4 texture(isampler2DRect sampler_, ivec2 P);",
      "ivec4 textureProj(isampler2DRect sampler_, ivec2 P);",
      "ivec4 textureOffset(isampler2DRect sampler_, ivec2 P, ivec2 offset);",
      "ivec4 texelFetch(isampler2DRect sampler_, ivec2 P, int lod);",
      "ivec4 texelFetchOffset(isampler2DRect sampler_, ivec2 P, ivec2 offset);",
      "ivec4 textureProjOffset(isampler2DRect sampler_, ivec2 P, ivec2 offset);",
      "ivec4 textureGrad(isampler2DRect sampler_, ivec2 P, ivec2 dPdx, ivec2 dPdy);",
      "ivec4 textureGradOffset(isampler2DRect sampler_, ivec2 P, ivec2 dPdx, ivec2 dPdy, " ++
        "ivec2 offset);",
      "ivec4 textureProjGrad(isampler2DRect sampler_, ivec2 P, float lod, ivec2 dPdx, ivec2 " ++
        "dPdy);",
      "ivec4 textureProjGradOffset(isampler2DRect sampler_, ivec2 P, float lod, ivec2 dPdx, " ++
        "ivec2 dPdy, ivec2 offset);",
      "ivec4 textureGather(isampler2DRect sampler_, ivec2 P);",
      "ivec4 textureGather(isampler2DRect sampler_, ivec2 P, int comp);",
      "ivec4 textureGatherOffset(isampler2DRect sampler_, ivec2 P, ivec2 offset);",
      "ivec4 textureGatherOffsets(isampler2DRect sampler_, ivec2 P, ivec2 offset[4]);",
      "int textureSize(isamplerBuffer sampler_, int lod);",
      "ivec4 texelFetch(isamplerBuffer sampler_, int P, int lod);",
      "ivec2 textureSize(isampler2DMS sampler_, int lod);",
      "int textureSamples(isampler2DMS sampler_);",
      "ivec4 texelFetch(isampler2DMS sampler_, ivec2 P, int sample);",
      "ivec2 textureSize(isampler2DMSArray sampler_, int lod);",
      "int textureSamples(isampler2DMSArray sampler_);",
      "ivec4 texelFetch(isampler2DMSArray sampler_, ivec3 P, int sample);"]]

end Prelude

end GlslPrelude
