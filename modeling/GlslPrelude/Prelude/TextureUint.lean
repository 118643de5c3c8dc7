import GlslPrelude.Prelude.TextureNotes

/-!
# Unsigned textures

Look-ups in textures of unsigned integers.
-/

namespace GlslPrelude

namespace Prelude

open Section

/-- Look-ups in textures of unsigned integers. -/
def textureUint : Chapter where
  notes := textureNotes
  sections := [
    .overloads [
      "uint textureSize(usampler1D sampler_, int lod);",
      "vec2 textureQueryLod(usampler1D sampler_, uint P);",
      "int textureQueryLevels(usampler1D sampler_);",
      "uvec4 texture(usampler1D sampler_, uint P);",
      "uvec4 textureProj(usampler1D sampler_, uint P);",
      "uvec4 textureLod(usampler1D sampler_, uint P, float lod);",
      "uvec4 textureOffset(usampler1D sampler_, uint P, int offset);",
      "uvec4 texelFetch(usampler1D sampler_, int P, int lod);",
      "uvec4 texelFetchOffset(usampler1D sampler_, int P, int lod, int offset);",
      "uvec4 textureProjOffset(usampler1D sampler_, uint P, int offset);",
      "uvec4 textureLodOffset(usampler1D sampler_, uint P, float lod, int offset);",
      "uvec4 textureProjLod(usampler1D sampler_, uvec2 P, float lod);",
      "uvec4 textureProjLodOffset(usampler1D sampler_, uvec2 P, float lod, int offset);",
      "uvec4 textureGrad(usampler1D sampler_, uint P, uint dPdx, uint dPdy);",
      "uvec4 textureGradOffset(usampler1D sampler_, uint P, uint dPdx, uint dPdy, int offset);",
      "uvec4 textureProjGrad(usampler1D sampler_, uint P, float lod, uint dPdx, uint dPdy);",
      "uvec4 textureProjGradOffset(usampler1D sampler_, uint P, float lod, uint dPdx, uint " ++
        "dPdy, int offset);",
      "uint textureSize(usampler1DArray sampler_, int lod);",
      "vec2 textureQueryLod(usampler1DArray sampler_, uint P);",
      "int textureQueryLevels(usampler1DArray sampler_);",
      "uvec4 texture(usampler1DArray sampler_, uvec2 P);",
      "uvec4 textureLod(usampler1DArray sampler_, uvec2 P, float lod);",
      "uvec4 textureOffset(usampler1DArray sampler_, uvec2 P, int offset);",
      "uvec4 texelFetch(usampler1DArray sampler_, ivec2 P, int lod);",
      "uvec4 texelFetchOffset(usampler1DArray sampler_, ivec2 P, int lod, int offset);",
      "uvec4 textureLodOffset(usampler1DArray sampler_, uvec2 P, float lod, int offset);",
      "uvec4 textureGrad(usampler1DArray sampler_, uvec2 P, uint dPdx, uint dPdy);",
      "uvec4 textureGradOffset(usampler1DArray sampler_, uvec2 P, uint dPdx, uint dPdy, int " ++
        "offset);",
      "uvec2 textureSize(usampler2D sampler_, int lod);",
      "vec2 textureQueryLod(usampler2D sampler_, uvec2 P);",
      "int textureQueryLevels(usampler2D sampler_);",
      "uvec4 texture(usampler2D sampler_, uvec2 P);",
      "uvec4 textureProj(usampler2D sampler_, uvec2 P);",
      "uvec4 textureLod(usampler2D sampler_, uvec2 P, float lod);",
      "uvec4 textureOffset(usampler2D sampler_, uvec2 P, ivec2 offset);",
      "uvec4 texelFetch(usampler2D sampler_, ivec2 P, int lod);",
      "uvec4 texelFetchOffset(usampler2D sampler_, ivec2 P, int lod, ivec2 offset);",
      "uvec4 textureProjOffset(usampler2D sampler_, uvec2 P, ivec2 offset);",
      "uvec4 textureLodOffset(usampler2D sampler_, uvec2 P, float lod, ivec2 offset);",
      "uvec4 textureProjLod(usampler2D sampler_, uvec3 P, float lod);",
      "uvec4 textureProjLodOffset(usampler2D sampler_, uvec3 P, float lod, ivec2 offset);",
      "uvec4 textureGrad(usampler2D sampler_, uvec2 P, uvec2 dPdx, uvec2 dPdy);",
      "uvec4 textureGradOffset(usampler2D sampler_, uvec2 P, uvec2 dPdx, uvec2 dPdy, ivec2 " ++
        "offset);",
      "uvec4 textureProjGrad(usampler2D sampler_, uvec2 P, float lod, uvec2 dPdx, uvec2 dPdy);",
      "uvec4 textureProjGradOffset(usampler2D sampler_, uvec2 P, float lod, uvec2 dPdx, uvec2 " ++
        "dPdy, ivec2 offset);",
      "uvec4 textureGather(usampler2D sampler_, uvec2 P);",
      "uvec4 textureGather(usampler2D sampler_, uvec2 P, int comp);",
      "uvec4 textureGatherOffset(usampler2D sampler_, uvec2 P, ivec2 offset);",
      "uvec4 textureGatherOffsets(usampler2D sampler_, uvec2 P, ivec2 offset[4]);",
      "uvec2 textureSize(usampler2DArray sampler_, int lod);",
      "vec2 textureQueryLod(usampler2DArray sampler_, uvec2 P);",
      "int textureQueryLevels(usampler2DArray sampler_);",
      "uvec4 texture(usampler2DArray sampler_, uvec3 P);",
      "uvec4 textureLod(usampler2DArray sampler_, uvec3 P, float lod);",
      "uvec4 textureOffset(usampler2DArray sampler_, uvec3 P, ivec2 offset);",
      "uvec4 texelFetch(usampler2DArray sampler_, ivec3 P, int lod);",
      "uvec4 texelFetchOffset(usampler2DArray sampler_, ivec3 P, int lod, ivec2 offset);",
      "uvec4 textureLodOffset(usampler2DArray sampler_, uvec3 P, float lod, ivec2 offset);",
      "uvec4 textureGrad(usampler2DArray sampler_, uvec3 P, uvec2 dPdx, uvec2 dPdy);",
      "uvec4 textureGradOffset(usampler2DArray sampler_, uvec3 P, uvec2 dPdx, uvec2 dPdy, " ++
        "ivec2 offset);",
      "uvec4 textureGather(usampler2DArray sampler_, uvec3 P);",
      "uvec4 textureGather(usampler2DArray sampler_, uvec3 P, int comp);",
      "uvec4 textureGatherOffset(usampler2DArray sampler_, uvec3 P, ivec2 offset);",
      "uvec4 textureGatherOffsets(usampler2DArray sampler_, uvec3 P, ivec2 offset[4]);",
      "uvec3 textureSize(usamplerCube sampler_, int lod);",
      "vec2 textureQueryLod(usamplerCube sampler_, uvec3 P);",
      "int textureQueryLevels(usamplerCube sampler_);",
      "uvec4 texture(usamplerCube sampler_, uvec3 P);",
      "uvec4 textureLod(usamplerCube sampler_, uvec3 P, float lod);",
      "uvec4 textureGrad(usamplerCube sampler_, uvec3 P, uvec3 dPdx, uvec3 dPdy);",
      "uvec4 textureGather(usamplerCube sampler_, uvec3 P);",
      "uvec4 textureGather(usamplerCube sampler_, uvec3 P, int comp);",
      "uvec3 textureSize(usamplerCubeArray sampler_, int lod);",
      "vec2 textureQueryLod(usamplerCubeArray sampler_, uvec3 P);",
      "int textureQueryLevels(usamplerCubeArray sampler_);",
      "uvec4 texture(usamplerCubeArray sampler_, uvec4 P);",
      "uvec4 textureLod(usamplerCubeArray sampler_, uvec4 P, float lod);",
      "uvec4 textureGrad(usamplerCubeArray sampler_, uvec4 P, uvec3 dPdx, uvec3 dPdy);",
      "uvec4 textureGather(usamplerCubeArray sampler_, uvec4 P);",
      "uvec4 textureGather(usamplerCubeArray sampler_, uvec4 P, int comp);",
      "uvec3 textureSize(usampler3D sampler_, int lod);",
      "vec2 textureQueryLod(usampler3D sampler_, uvec3 P);",
      "int textureQueryLevels(usampler3D sampler_);",
      "uvec4 texture(usampler3D sampler_, uvec3 P);",
      "uvec4 textureProj(usampler3D sampler_, uvec3 P);",
      "uvec4 textureLod(usampler3D sampler_, uvec3 P, float lod);",
      "uvec4 textureOffset(usampler3D sampler_, uvec3 P, ivec3 offset);",
      "uvec4 texelFetch(usampler3D sampler_, ivec3 P, int lod);",
      "uvec4 texelFetchOffset(usampler3D sampler_, ivec3 P, int lod, ivec3 offset);",
      "uvec4 textureProjOffset(usampler3D sampler_, uvec3 P, ivec3 offset);",
      "uvec4 textureLodOffset(usampler3D sampler_, uvec3 P, float lod, ivec3 offset);",
      "uvec4 textureProjLod(usampler3D sampler_, uvec4 P, float lod);",
      "uvec4 textureProjLodOffset(usampler3D sampler_, uvec4 P, float lod, ivec3 offset);",
      "uvec4 textureGrad(usampler3D sampler_, uvec3 P, uvec3 dPdx, uvec3 dPdy);",
      "uvec4 textureGradOffset(usampler3D sampler_, uvec3 P, uvec3 dPdx, uvec3 dPdy, ivec3 " ++
        "offset);",
      "uvec4 textureProjGrad(usampler3D sampler_, uvec3 P, float lod, uvec3 dPdx, uvec3 dPdy);",
      "uvec4 textureProjGradOffset(usampler3D sampler_, uvec3 P, float lod, uvec3 dPdx, uvec3 " ++
        "dPdy, ivec3 offset);",
      "uvec2 textureSize(usampler2DRect sampler_, int lod);",
      "uvec4 texture(usampler2DRect sampler_, uvec2 P);",
      "uvec4 textureProj(usampler2DRect sampler_, uvec2 P);",
      "uvec4 textureOffset(usampler2DRect sampler_, uvec2 P, ivec2 offset);",
      "uvec4 texelFetch(usampler2DRect sampler_, ivec2 P, int lod);",
      "uvec4 texelFetchOffset(usampler2DRect sampler_, ivec2 P, ivec2 offset);",
      "uvec4 textureProjOffset(usampler2DRect sampler_, uvec2 P, ivec2 offset);",
      "uvec4 textureGrad(usampler2DRect sampler_, uvec2 P, uvec2 dPdx, uvec2 dPdy);",
      "uvec4 textureGradOffset(usampler2DRect sampler_, uvec2 P, uvec2 dPdx, uvec2 dPdy, " ++
        "ivec2 offset);",
      "uvec4 textureProjGrad(usampler2DRect sampler_, uvec2 P, float lod, uvec2 dPdx, uvec2 " ++
        "dPdy);",
      "uvec4 textureProjGradOffset(usampler2DRect sampler_, uvec2 P, float lod, uvec2 dPdx, " ++
        "uvec2 dPdy, ivec2 offset);",
      "uvec4 textureGather(usampler2DRect sampler_, uvec2 P);",
      "uvec4 textureGather(usampler2DRect sampler_, uvec2 P, int comp);",
      "uvec4 textureGatherOffset(usampler2DRect sampler_, uvec2 P, ivec2 offset);",
      "uvec4 textureGatherOffsets(usampler2DRect sampler_, uvec2 P, ivec2 offset[4]);",
      "uint textureSize(usamplerBuffer sampler_, int lod);",
      "uvec4 texelFetch(usamplerBuffer sampler_, int P, int lod);",
      "uvec2 textureSize(usampler2DMS sampler_, int lod);",
      "int textureSamples(usampler2DMS sampler_);",
      "uvec4 texelFetch(usampler2DMS sampler_, ivec2 P, int sample);",
      "uvec2 textureSize(usampler2DMSArray sampler_, int lod);",
      "int textureSamples(usampler2DMSArray sampler_);",
      "uvec4 texelFetch(usampler2DMSArray sampler_, ivec3 P, int sample);"]]

end Prelude

end GlslPrelude
