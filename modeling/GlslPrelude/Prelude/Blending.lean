import GlslPrelude.Prelude.Layout

/-!
# Blending

Blends and steps between two values.
-/

namespace GlslPrelude

namespace Prelude

open Section

/-- Documentation of the functions of `blending`. -/
def blendingNotes : List Note := [
    { function := "mix"
      about := ", b"
      text := "Selects which vector each returned component comes from. For a component of a " ++
        "that is false, the corresponding component of x is returned. For a component of " ++
        "a that is true, the corresponding component of y is returned. Components of x " ++
        "and y that are not selected are allowed to be invalid floating-point values and " ++
        "will have no effect on the results. Thus, this provides different functionality " ++
        "than, for example, `genFType mix(genFType x, genFType y, genFType(a))` where a " ++
        "is a Boolean vector." },
    { function := "mix"
      text := "Returns the linear blend of x and y, i.e., x * (1 - a) + y * a." },
    { function := "step"
      text := "Returns 0.0 if x < edge; otherwise it returns 1.0." },
    { function := "smoothstep"
      text := "Returns 0.0 if x ≤ edge0 and 1.0 if x ≥ edge1, and performs smooth Hermite " ++
        "interpolation between 0 and 1 when edge0 < x < edge1. This is useful in cases " ++
        "where you would want a threshold function with a smooth transition. This is " ++
        "equivalent to:\n" ++
        "\n" ++
        "```\n" ++
        "genFType t;\n" ++
        "t = clamp ((x - edge0) / (edge1 - edge0), 0, 1);\n" ++
        "return t * t * (3 - 2 * t);\n" ++
        "```\n" ++
        "\n" ++
        "(And similarly for doubles.) Results are undefined if edge0 ≥ edge1." }]

/-- Blends and steps between two values. -/
def blending : Chapter where
  notes := blendingNotes
  sections := [
    .overloads [
      "float mix(float x, float y, float a);",
      "float mix(float x, float y, float a);",
      "float step(float edge, float x);",
      "float step(float edge, float x);",
      "float smoothstep(float edge0, float edge1, float x);",
      "float smoothstep(float edge0, float edge1, float x);",
      "float16_t mix(float16_t x, float16_t y, float16_t a);",
      "float16_t mix(float16_t x, float16_t y, float16_t a);",
      "float16_t step(float16_t edge, float16_t x);",
      "float16_t step(float16_t edge, float16_t x);",
      "float16_t smoothstep(float16_t edge0, float16_t edge1, float16_t x);",
      "float16_t smoothstep(float16_t edge0, float16_t edge1, float16_t x);",
      "double mix(double x, double y, double a);",
      "double mix(double x, double y, double a);",
      "double step(double edge, double x);",
      "double step(double edge, double x);",
      "double smoothstep(double edge0, double edge1, double x);",
      "double smoothstep(double edge0, double edge1, double x);",
      "vec2 mix(vec2 x, vec2 y, vec2 a);",
      "vec2 mix(vec2 x, vec2 y, float a);",
      "vec2 step(vec2 edge, vec2 x);",
      "vec2 step(float edge, vec2 x);",
      "vec2 smoothstep(vec2 edge0, vec2 edge1, vec2 x);",
      "vec2 smoothstep(float edge0, float edge1, vec2 x);",
      "f16vec2 mix(f16vec2 x, f16vec2 y, f16vec2 a);",
      "f16vec2 mix(f16vec2 x, f16vec2 y, float16_t a);",
      "f16vec2 step(f16vec2 edge, f16vec2 x);",
      "f16vec2 step(float16_t edge, f16vec2 x);",
      "f16vec2 smoothstep(f16vec2 edge0, f16vec2 edge1, f16vec2 x);",
      "f16vec2 smoothstep(float16_t edge0, float16_t edge1, f16vec2 x);",
      "dvec2 mix(dvec2 x, dvec2 y, dvec2 a);",
      "dvec2 mix(dvec2 x, dvec2 y, double a);",
      "dvec2 step(dvec2 edge, dvec2 x);",
      "dvec2 step(double edge, dvec2 x);",
      "dvec2 smoothstep(dvec2 edge0, dvec2 edge1, dvec2 x);",
      "dvec2 smoothstep(double edge0, double edge1, dvec2 x);",
      "vec3 mix(vec3 x, vec3 y, vec3 a);",
      "vec3 mix(vec3 x, vec3 y, float a);",
      "vec3 step(vec3 edge, vec3 x);",
      "vec3 step(float edge, vec3 x);",
      "vec3 smoothstep(vec3 edge0, vec3 edge1, vec3 x);",
      "vec3 smoothstep(float edge0, float edge1, vec3 x);",
      "f16vec3 mix(f16vec3 x, f16vec3 y, f16vec3 a);",
      "f16vec3 mix(f16vec3 x, f16vec3 y, float16_t a);",
      "f16vec3 step(f16vec3 edge, f16vec3 x);",
      "f16vec3 step(float16_t edge, f16vec3 x);",
      "f16vec3 smoothstep(f16vec3 edge0, f16vec3 edge1, f16vec3 x);",
      "f16vec3 smoothstep(float16_t edge0, float16_t edge1, f16vec3 x);",
      "dvec3 mix(dvec3 x, dvec3 y, dvec3 a);",
      "dvec3 mix(dvec3 x, dvec3 y, double a);",
      "dvec3 step(dvec3 edge, dvec3 x);",
      "dvec3 step(double edge, dvec3 x);",
      "dvec3 smoothstep(dvec3 edge0, dvec3 edge1, dvec3 x);",
      "dvec3 smoothstep(double edge0, double edge1, dvec3 x);",
      "vec4 mix(vec4 x, vec4 y, vec4 a);",
      "vec4 mix(vec4 x, vec4 y, float a);",
      "vec4 step(vec4 edge, vec4 x);",
      "vec4 step(float edge, vec4 x);",
      "vec4 smoothstep(vec4 edge0, vec4 edge1, vec4 x);",
      "vec4 smoothstep(float edge0, float edge1, vec4 x);",
      "f16vec4 mix(f16vec4 x, f16vec4 y, f16vec4 a);",
      "f16vec4 mix(f16vec4 x, f16vec4 y, float16_t a);",
      "f16vec4 step(f16vec4 edge, f16vec4 x);",
      "f16vec4 step(float16_t edge, f16vec4 x);",
      "f16vec4 smoothstep(f16vec4 edge0, f16vec4 edge1, f16vec4 x);",
      "f16vec4 smoothstep(float16_t edge0, float16_t edge1, f16vec4 x);",
      "dvec4 mix(dvec4 x, dvec4 y, dvec4 a);",
      "dvec4 mix(dvec4 x, dvec4 y, double a);",
      "dvec4 step(dvec4 edge, dvec4 x);",
      "dvec4 step(double edge, dvec4 x);",
      "dvec4 smoothstep(dvec4 edge0, dvec4 edge1, dvec4 x);",
      "dvec4 smoothstep(double edge0, double edge1, dvec4 x);",
      "float mix(float x, bool y, bool a);",
      "float16_t mix(float16_t x, bool y, bool a);",
      "double mix(double x, bool y, bool a);",
      "int mix(int x, bool y, bool a);",
      "int8_t mix(int8_t x, bool y, bool a);",
      "int16_t mix(int16_t x, bool y, bool a);",
      "int64_t mix(int64_t x, bool y, bool a);",
      "uint mix(uint x, bool y, bool a);",
      "uint8_t mix(uint8_t x, bool y, bool a);",
      "uint16_t mix(uint16_t x, bool y, bool a);",
      "uint64_t mix(uint64_t x, bool y, bool a);",
      "bool mix(bool x, bool y, bool a);",
      "vec2 mix(vec2 x, bvec2 y, bvec2 a);",
      "f16vec2 mix(f16vec2 x, bvec2 y, bvec2 a);",
      "dvec2 mix(dvec2 x, bvec2 y, bvec2 a);",
      "ivec2 mix(ivec2 x, bvec2 y, bvec2 a);",
      "i8vec2 mix(i8vec2 x, bvec2 y, bvec2 a);",
      "i16vec2 mix(i16vec2 x, bvec2 y, bvec2 a);",
      "i64vec2 mix(i64vec2 x, bvec2 y, bvec2 a);",
      "uvec2 mix(uvec2 x, bvec2 y, bvec2 a);",
      "u8vec2 mix(u8vec2 x, bvec2 y, bvec2 a);",
      "u16vec2 mix(u16vec2 x, bvec2 y, bvec2 a);",
      "u64vec2 mix(u64vec2 x, bvec2 y, bvec2 a);",
      "bvec2 mix(bvec2 x, bvec2 y, bvec2 a);",
      "vec3 mix(vec3 x, bvec3 y, bvec3 a);",
      "f16vec3 mix(f16vec3 x, bvec3 y, bvec3 a);",
      "dvec3 mix(dvec3 x, bvec3 y, bvec3 a);",
      "ivec3 mix(ivec3 x, bvec3 y, bvec3 a);",
      "i8vec3 mix(i8vec3 x, bvec3 y, bvec3 a);",
      "i16vec3 mix(i16vec3 x, bvec3 y, bvec3 a);",
      "i64vec3 mix(i64vec3 x, bvec3 y, bvec3 a);",
      "uvec3 mix(uvec3 x, bvec3 y, bvec3 a);",
      "u8vec3 mix(u8vec3 x, bvec3 y, bvec3 a);",
      "u16vec3 mix(u16vec3 x, bvec3 y, bvec3 a);",
      "u64vec3 mix(u64vec3 x, bvec3 y, bvec3 a);",
      "bvec3 mix(bvec3 x, bvec3 y, bvec3 a);",
      "vec4 mix(vec4 x, bvec4 y, bvec4 a);",
      "f16vec4 mix(f16vec4 x, bvec4 y, bvec4 a);",
      "dvec4 mix(dvec4 x, bvec4 y, bvec4 a);",
      "ivec4 mix(ivec4 x, bvec4 y, bvec4 a);",
      "i8vec4 mix(i8vec4 x, bvec4 y, bvec4 a);",
      "i16vec4 mix(i16vec4 x, bvec4 y, bvec4 a);",
      "i64vec4 mix(i64vec4 x, bvec4 y, bvec4 a);",
      "uvec4 mix(uvec4 x, bvec4 y, bvec4 a);",
      "u8vec4 mix(u8vec4 x, bvec4 y, bvec4 a);",
      "u16vec4 mix(u16vec4 x, bvec4 y, bvec4 a);",
      "u64vec4 mix(u64vec4 x, bvec4 y, bvec4 a);",
      "bvec4 mix(bvec4 x, bvec4 y, bvec4 a);"]]

end Prelude

end GlslPrelude
