import GlslPrelude.Prelude.Layout

/-!
# Documentation of texture functions

The functions of textures are the same for all kinds of components, and so is their documentation.
-/

namespace GlslPrelude

namespace Prelude

/-- Documentation of the functions of textures. -/
def textureNotes : List Note := [
    { function := "textureSize"
      text := "Returns the dimensions of level lod (if present) for the texture bound to " ++
        "sampler, as described in section 11.1.3.4 “Texture Queries” of the OpenGL " ++
        "Specification.\n" ++
        "The components in the return value are filled in, in order, with the width, " ++
        "height, and depth of the texture.\n" ++
        "\n" ++
        "For the array forms, the last component of the return value is the number of " ++
        "layers in the texture array, or the number of cubes in the texture cube map " ++
        "array." },
    { function := "textureQueryLod"
      text := "Returns the mipmap array(s) that would be accessed in the x component of the " ++
        "return value.\n" ++
        "\n" ++
        "Returns the computed level-of-detail relative to the base level in the y " ++
        "component of the return value.\n" ++
        "\n" ++
        "If called on an incomplete texture, the results are undefined." },
    { function := "textureQueryLevels"
      text := "Returns the number of mipmap levels accessible in the texture associated with " ++
        "sampler, as defined in the OpenGL Specification.\n" ++
        "\n" ++
        "The value zero will be returned if no texture or an incomplete texture is " ++
        "associated with sampler.\n" ++
        "\n" ++
        "Available in all shader stages." },
    { function := "texture"
      text := "Use the texture coordinate P to do a texture lookup in the texture currently " ++
        "bound to sampler.\n" ++
        "\n" ++
        "For shadow forms: When compare is present, it is used as Dref and the array " ++
        "layer comes from the last component of P. When compare is not present, the last " ++
        "component of P is used as Dref and the array layer comes from the second to last " ++
        "component of P. (The second component of P is unused for 1D shadow lookups.)\n" ++
        "\n" ++
        "For non-shadow forms: the array layer comes from the last component of P." },
    { function := "textureProj"
      text := "Do a texture lookup with projection. The texture coordinates consumed from P, " ++
        "not including the last component of P, are divided by the last component of P to " ++
        "form projected coordinates P'. The resulting third component of P in the shadow " ++
        "forms is used as Dref. The third component of P is ignored when sampler has " ++
        "type gsampler2D and P has type vec4. After these values are computed, texture " ++
        "lookup proceeds as in texture." },
    { function := "textureLod"
      text := "Do a texture lookup as in texture but with explicit level-of-detail; lod " ++
        "specifies λ_base and sets the partial derivatives as follows:\n" ++
        "(See section 8.14 “Texture Minification” and equations 8.4-8.6 of the OpenGL " ++
        "Specification.)\n" ++
        "\n" ++
        "∂u / ∂x = ∂v / ∂x = ∂w / ∂x = 0\n" ++
        "∂u / ∂y = ∂v / ∂y = ∂w / ∂y = 0" },
    { function := "textureOffset"
      text := "Do a texture lookup as in texture but with offset added to the (u,v,w) texel " ++
        "coordinates before looking up each texel. The offset value must be a constant " ++
        "expression. A limited range of offset values are supported; the minimum and " ++
        "maximum offset values are implementation-dependent and given by " ++
        "gl_MinProgramTexelOffset and gl_MaxProgramTexelOffset, respectively.\n" ++
        "\n" ++
        "Note that offset does not apply to the layer coordinate for texture arrays. This " ++
        "is explained in detail in section 8.14.2 “Coordinate Wrapping and Texel " ++
        "Selection” of the OpenGL Specification, where offset is (δu, δv, δw).\n" ++
        "Note that texel offsets are also not supported for cube maps." },
    { function := "texelFetch"
      text := "Use integer texture coordinate P to lookup a single texel from sampler. The " ++
        "array layer comes from the last component of P for the array forms. The " ++
        "level-of-detail lod (if present) is as described in sections 11.1.3.2 “Texel " ++
        "Fetches” and 8.14.1 “Scale Factor and Level of Detail” of the OpenGL " ++
        "Specification." },
    { function := "texelFetchOffset"
      text := "Fetch a single texel as in texelFetch, offset by offset as described in " ++
        "textureOffset." },
    { function := "textureProjOffset"
      text := "Do a projective texture lookup as described in textureProj, offset by offset as " ++
        "described in textureOffset." },
    { function := "textureLodOffset"
      text := "Do an offset texture lookup with explicit level-of-detail. See textureLod and " ++
        "textureOffset." },
    { function := "textureProjLod"
      text := "Do a projective texture lookup with explicit level-of-detail. See textureProj " ++
        "and textureLod." },
    { function := "textureProjLodOffset"
      text := "Do an offset projective texture lookup with explicit level-of-detail. See " ++
        "textureProj, textureLod, and textureOffset." },
    { function := "textureGrad"
      text := "Do a texture lookup as in texture but with explicit gradients as shown below. " ++
        "The partial derivatives of P are with respect to window x and window y. For the " ++
        "cube version, the partial derivatives of P are assumed to be in the coordinate " ++
        "system used before texture coordinates are projected onto the appropriate cube " ++
        "face." },
    { function := "textureGradOffset"
      text := "Do a texture lookup with both explicit gradient and offset, as described in " ++
        "textureGrad and textureOffset." },
    { function := "textureProjGrad"
      text := "Do a texture lookup both projectively, as described in textureProj, and with " ++
        "explicit gradient as described in textureGrad. The partial derivatives dPdx and " ++
        "dPdy are assumed to be already projected." },
    { function := "textureProjGradOffset"
      text := "Do a texture lookup projectively and with explicit gradient as described in " ++
        "textureProjGrad, as well as with offset, as described in textureOffset." },
    { function := "textureGather"
      text := "Returns the value\n" ++
        "\n" ++
        "```\n" ++
        "vec4(Sample_i0_j1(P, base).comp,\n" ++
        "Sample_i1_j1(P, base).comp,\n" ++
        "Sample_i1_j0(P, base).comp,\n" ++
        "Sample_i0_j0(P, base).comp)\n" ++
        "```\n" ++
        "\n" ++
        "If specified, the value of comp must be a constant integer expression with a " ++
        "value of 0, 1, 2, or 3, identifying the x, y, z, or w post-swizzled component of " ++
        "the four-component vector lookup result for each texel, respectively. If comp " ++
        "is not specified, it is treated as 0, selecting the x component of each texel to " ++
        "generate the result." },
    { function := "textureGatherOffset"
      text := "Perform a texture gather operation as in textureGather by offset as described in " ++
        "textureOffset except that the offset can be variable (non constant) and the " ++
        "implementation-dependent minimum and maximum offset values are given by " ++
        "MIN_PROGRAM_TEXTURE_GATHER_OFFSET and MAX_PROGRAM_TEXTURE_GATHER_OFFSET, " ++
        "respectively." },
    { function := "textureGatherOffsets"
      text := "Operate identically to textureGatherOffset except that offsets is used to " ++
        "determine the location of the four texels to sample. Each of the four texels is " ++
        "obtained by applying the corresponding offset in offsets as a (u, v) coordinate " ++
        "offset to P, identifying the four-texel LINEAR footprint, and then selecting the " ++
        "texel i0 j0 of that footprint. The specified values in offsets must be constant " ++
        "integral expressions." },
    { function := "textureSamples"
      text := "Returns the number of samples of the texture or textures bound to sampler." }]

end Prelude

end GlslPrelude
