import GlslPrelude.Prelude.Layout

/-!
# Fragments

Derivatives and interpolation in fragment shaders.
-/

namespace GlslPrelude

namespace Prelude

open Section

/-- Documentation of the functions of `fragment`. -/
def fragmentNotes : List Note := [
    { function := "dFdx"
      text := "Returns either **dFdxFine**(*p*) or **dFdxCoarse**(*p*), based on implementation " ++
        "choice, presumably whichever is the faster, or by whichever is selected in the " ++
        "API through quality-versus-speed hints." },
    { function := "dFdy"
      text := "Returns either **dFdyFine**(*p*) or **dFdyCoarse**(*p*), based on implementation " ++
        "choice, presumably whichever is the faster, or by whichever is selected in the " ++
        "API through quality-versus-speed hints." },
    { function := "dFdxFine"
      text := "Returns the partial derivative of *p* with respect to the window x coordinate. " ++
        "Will use local differencing based on the value of *p* for the current fragment " ++
        "and its immediate neighbor(s)." },
    { function := "dFdyFine"
      text := "Returns the partial derivative of *p* with respect to the window y coordinate. " ++
        "Will use local differencing based on the value of *p* for the current fragment " ++
        "and its immediate neighbor(s)." },
    { function := "dFdxCoarse"
      text := "Returns the partial derivative of *p* with respect to the window x coordinate. " ++
        "Will use local differencing based on the value of *p* for the current fragment's " ++
        "neighbors, and will possibly, but not necessarily, include the value of *p* for " ++
        "the current fragment. That is, over a given area, the implementation can x " ++
        "compute derivatives in fewer unique locations than would be allowed for " ++
        "**dFdxFine**(*p*)." },
    { function := "dFdyCoarse"
      text := "Returns the partial derivative of *p* with respect to the window y coordinate. " ++
        "Will use local differencing based on the value of *p* for the current fragment's " ++
        "neighbors, and will possibly, but not necessarily, include the value of *p* for " ++
        "the current fragment. That is, over a given area, the implementation can " ++
        "compute y derivatives in fewer unique locations than would be allowed for " ++
        "**dFdyFine**(*p*)." },
    { function := "fwidth"
      text := "Returns **abs**(**dFdx**(*p*)) + **abs**(**dFdy**(*p*))." },
    { function := "fwidthFine"
      text := "Returns **abs**(**dFdxFine**(*p*)) + **abs**(**dFdyFine**(*p*))." },
    { function := "fwidthCoarse"
      text := "Returns **abs**(**dFdxCoarse**(*p*)) + **abs**(**dFdyCoarse**(*p*))." },
    { function := "interpolateAtCentroid"
      text := "Returns the value of the input *interpolant* sampled at a location inside both " ++
        "the pixel and the primitive being processed. The value obtained would be the " ++
        "same value assigned to the input variable if declared with the **centroid** " ++
        "qualifier." },
    { function := "interpolateAtSample"
      text := "Returns the value of the input *interpolant* variable at the location of sample " ++
        "number *sample*. If multisample buffers are not available, the input variable " ++
        "will be evaluated at the center of the pixel. If sample *sample* does not exist, " ++
        "the position used to interpolate the input variable is undefined." },
    { function := "interpolateAtOffset"
      text := "Returns the value of the input *interpolant* variable sampled at an offset from " ++
        "the center of the pixel specified by *offset*. The two floating-point components " ++
        "of *offset*, give the offset in pixels in the *x* and *y* directions, " ++
        "respectively. An offset of (0, 0) identifies the center of the pixel. The range " ++
        "and granularity of offsets supported by this function is " ++
        "implementation-dependent." }]

/-- Derivatives and interpolation in fragment shaders. -/
def fragment : Chapter where
  notes := fragmentNotes
  sections := [
    .overloads [
      "float dFdx(float p);",
      "float dFdy(float p);",
      "float dFdxFine(float p);",
      "float dFdyFine(float p);",
      "float dFdxCoarse(float p);",
      "float dFdyCoarse(float p);",
      "float fwidth(float p);",
      "float fwidthFine(float p);",
      "float fwidthCoarse(float p);",
      "float16_t dFdx(float16_t p);",
      "float16_t dFdy(float16_t p);",
      "float16_t dFdxFine(float16_t p);",
      "float16_t dFdyFine(float16_t p);",
      "float16_t dFdxCoarse(float16_t p);",
      "float16_t dFdyCoarse(float16_t p);",
      "float16_t fwidth(float16_t p);",
      "float16_t fwidthFine(float16_t p);",
      "float16_t fwidthCoarse(float16_t p);",
      "vec2 dFdx(vec2 p);",
      "vec2 dFdy(vec2 p);",
      "vec2 dFdxFine(vec2 p);",
      "vec2 dFdyFine(vec2 p);",
      "vec2 dFdxCoarse(vec2 p);",
      "vec2 dFdyCoarse(vec2 p);",
      "vec2 fwidth(vec2 p);",
      "vec2 fwidthFine(vec2 p);",
      "vec2 fwidthCoarse(vec2 p);",
      "f16vec2 dFdx(f16vec2 p);",
      "f16vec2 dFdy(f16vec2 p);",
      "f16vec2 dFdxFine(f16vec2 p);",
      "f16vec2 dFdyFine(f16vec2 p);",
      "f16vec2 dFdxCoarse(f16vec2 p);",
      "f16vec2 dFdyCoarse(f16vec2 p);",
      "f16vec2 fwidth(f16vec2 p);",
      "f16vec2 fwidthFine(f16vec2 p);",
      "f16vec2 fwidthCoarse(f16vec2 p);",
      "vec3 dFdx(vec3 p);",
      "vec3 dFdy(vec3 p);",
      "vec3 dFdxFine(vec3 p);",
      "vec3 dFdyFine(vec3 p);",
      "vec3 dFdxCoarse(vec3 p);",
      "vec3 dFdyCoarse(vec3 p);",
      "vec3 fwidth(vec3 p);",
      "vec3 fwidthFine(vec3 p);",
      "vec3 fwidthCoarse(vec3 p);",
      "f16vec3 dFdx(f16vec3 p);",
      "f16vec3 dFdy(f16vec3 p);",
      "f16vec3 dFdxFine(f16vec3 p);",
      "f16vec3 dFdyFine(f16vec3 p);",
      "f16vec3 dFdxCoarse(f16vec3 p);",
      "f16vec3 dFdyCoarse(f16vec3 p);",
      "f16vec3 fwidth(f16vec3 p);",
      "f16vec3 fwidthFine(f16vec3 p);",
      "f16vec3 fwidthCoarse(f16vec3 p);",
      "vec4 dFdx(vec4 p);",
      "vec4 dFdy(vec4 p);",
      "vec4 dFdxFine(vec4 p);",
      "vec4 dFdyFine(vec4 p);",
      "vec4 dFdxCoarse(vec4 p);",
      "vec4 dFdyCoarse(vec4 p);",
      "vec4 fwidth(vec4 p);",
      "vec4 fwidthFine(vec4 p);",
      "vec4 fwidthCoarse(vec4 p);",
      "f16vec4 dFdx(f16vec4 p);",
      "f16vec4 dFdy(f16vec4 p);",
      "f16vec4 dFdxFine(f16vec4 p);",
      "f16vec4 dFdyFine(f16vec4 p);",
      "f16vec4 dFdxCoarse(f16vec4 p);",
      "f16vec4 dFdyCoarse(f16vec4 p);",
      "f16vec4 fwidth(f16vec4 p);",
      "f16vec4 fwidthFine(f16vec4 p);",
      "f16vec4 fwidthCoarse(f16vec4 p);",
      "float interpolateAtCentroid(float interpolant);",
      "float interpolateAtSample(float interpolant, int sample);",
      "float interpolateAtOffset(float interpolant, vec2 offset);",
      "vec2 interpolateAtCentroid(vec2 interpolant);",
      "vec2 interpolateAtSample(vec2 interpolant, int sample);",
      "vec2 interpolateAtOffset(vec2 interpolant, vec2 offset);",
      "vec3 interpolateAtCentroid(vec3 interpolant);",
      "vec3 interpolateAtSample(vec3 interpolant, int sample);",
      "vec3 interpolateAtOffset(vec3 interpolant, vec2 offset);",
      "vec4 interpolateAtCentroid(vec4 interpolant);",
      "vec4 interpolateAtSample(vec4 interpolant, int sample);",
      "vec4 interpolateAtOffset(vec4 interpolant, vec2 offset);"]]

end Prelude

end GlslPrelude
