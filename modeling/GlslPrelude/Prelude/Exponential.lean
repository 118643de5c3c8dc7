import GlslPrelude.Prelude.Layout

/-!
# Exponential functions

Powers, logarithms and roots.
-/

namespace GlslPrelude

namespace Prelude

open Section

/-- Documentation of the functions of `exponential`. -/
def exponentialNotes : List Note := [
    { function := "pow"
      text := "Returns x raised to the y power, i.e., x^y. Results are undefined if x < 0. " ++
        "Results are undefined if x = 0 and y <= 0." },
    { function := "exp"
      text := "Returns the natural exponentiation of x, i.e., e^x." },
    { function := "log"
      text := "Returns the natural logarithm of x, i.e., returns the value y which satisfies " ++
        "the equation x = e^y. Results are undefined if x <= 0." },
    { function := "exp2"
      text := "Returns 2 raised to the x power, i.e., 2^x." },
    { function := "log2"
      text := "Returns the base 2 logarithm of x, i.e., returns the value y which satisfies the " ++
        "equation x = 2^y. Results are undefined if x <= 0." },
    { function := "sqrt"
      text := "Returns sqrt(x). Results are undefined if x < 0." },
    { function := "inversesqrt"
      text := "Returns 1 / sqrt(x). Results are undefined if x <= 0." }]

/-- Powers, logarithms and roots. -/
def exponential : Chapter where
  notes := exponentialNotes
  sections := [
    .overloads [
      "float pow(float x, float y);",
      "float exp(float x);",
      "float log(float x);",
      "float exp2(float x);",
      "float log2(float x);",
      "float sqrt(float x);",
      "float inversesqrt(float x);",
      "float16_t pow(float16_t x, float16_t y);",
      "float16_t exp(float16_t x);",
      "float16_t log(float16_t x);",
      "float16_t exp2(float16_t x);",
      "float16_t log2(float16_t x);",
      "float16_t sqrt(float16_t x);",
      "float16_t inversesqrt(float16_t x);",
      "vec2 pow(vec2 x, vec2 y);",
      "vec2 exp(vec2 x);",
      "vec2 log(vec2 x);",
      "vec2 exp2(vec2 x);",
      "vec2 log2(vec2 x);",
      "vec2 sqrt(vec2 x);",
      "vec2 inversesqrt(vec2 x);",
      "f16vec2 pow(f16vec2 x, f16vec2 y);",
      "f16vec2 exp(f16vec2 x);",
      "f16vec2 log(f16vec2 x);",
      "f16vec2 exp2(f16vec2 x);",
      "f16vec2 log2(f16vec2 x);",
      "f16vec2 sqrt(f16vec2 x);",
      "f16vec2 inversesqrt(f16vec2 x);",
      "vec3 pow(vec3 x, vec3 y);",
      "vec3 exp(vec3 x);",
      "vec3 log(vec3 x);",
      "vec3 exp2(vec3 x);",
      "vec3 log2(vec3 x);",
      "vec3 sqrt(vec3 x);",
      "vec3 inversesqrt(vec3 x);",
      "f16vec3 pow(f16vec3 x, f16vec3 y);",
      "f16vec3 exp(f16vec3 x);",
      "f16vec3 log(f16vec3 x);",
      "f16vec3 exp2(f16vec3 x);",
      "f16vec3 log2(f16vec3 x);",
      "f16vec3 sqrt(f16vec3 x);",
      "f16vec3 inversesqrt(f16vec3 x);",
      "vec4 pow(vec4 x, vec4 y);",
      "vec4 exp(vec4 x);",
      "vec4 log(vec4 x);",
      "vec4 exp2(vec4 x);",
      "vec4 log2(vec4 x);",
      "vec4 sqrt(vec4 x);",
      "vec4 inversesqrt(vec4 x);",
      "f16vec4 pow(f16vec4 x, f16vec4 y);",
      "f16vec4 exp(f16vec4 x);",
      "f16vec4 log(f16vec4 x);",
      "f16vec4 exp2(f16vec4 x);",
      "f16vec4 log2(f16vec4 x);",
      "f16vec4 sqrt(f16vec4 x);",
      "f16vec4 inversesqrt(f16vec4 x);",
      "double sqrt(double x);",
      "double inversesqrt(double x);",
      "dvec2 sqrt(dvec2 x);",
      "dvec2 inversesqrt(dvec2 x);",
      "dvec3 sqrt(dvec3 x);",
      "dvec3 inversesqrt(dvec3 x);",
      "dvec4 sqrt(dvec4 x);",
      "dvec4 inversesqrt(dvec4 x);"]]

end Prelude

end GlslPrelude
