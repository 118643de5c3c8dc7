import GlslPrelude.Prelude.Layout

/-!
# Rounding

Absolute values, signs and the rounding of numbers.
-/

namespace GlslPrelude

namespace Prelude

open Section

/-- Documentation of the functions of `rounding`. -/
def roundingNotes : List Note := [
    { function := "abs"
      text := "Returns x if x >= 0; otherwise it returns -x." },
    { function := "sign"
      text := "Returns 1.0 if x > 0, 0.0 if x = 0, or -1.0 if x < 0." },
    { function := "floor"
      text := "Returns a value equal to the nearest integer that is less than or equal to x." },
    { function := "trunc"
      text := "Returns a value equal to the nearest integer to x whose absolute value is not " ++
        "larger than the absolute value of x." },
    { function := "round"
      text := "Returns a value equal to the nearest integer to x. The fraction 0.5 will round " ++
        "in a direction chosen by the implementation, presumably the direction that is " ++
        "fastest. This includes the possibility that round(x) returns the same value as " ++
        "roundEven(x) for all values of x." },
    { function := "roundEven"
      text := "Returns a value equal to the nearest integer to x. A fractional part of 0.5 will " ++
        "round toward the nearest even integer. (Both 3.5 and 4.5 for x will return " ++
        "4.0.)" },
    { function := "ceil"
      text := "Returns a value equal to the nearest integer that is greater than or equal to x." },
    { function := "fract"
      text := "Returns x - floor(x)." },
    { function := "mod"
      text := "Modulus. Returns x - y · floor(x / y).\n" ++
        "\n" ++
        "Note that implementations may use a cheap approximation to the remainder, and " ++
        "the error can be large due to the discontinuity in floor. This can produce " ++
        "mathematically unexpected results in some cases, such as mod(x,x) computing x " ++
        "rather than 0, and can also cause the result to have a different sign than the " ++
        "infinitely precise result." },
    { function := "modf"
      text := "Returns the fractional part of x and sets i to the integer part (as a whole " ++
        "number floating-point value). Both the return value and the output parameter " ++
        "will have the same sign as x." }]

/-- Absolute values, signs and the rounding of numbers. -/
def rounding : Chapter where
  notes := roundingNotes
  sections := [
    .overloads [
      "float abs(float x);",
      "float sign(float x);",
      "float16_t abs(float16_t x);",
      "float16_t sign(float16_t x);",
      "double abs(double x);",
      "double sign(double x);",
      "int abs(int x);",
      "int sign(int x);",
      "int8_t abs(int8_t x);",
      "int8_t sign(int8_t x);",
      "int16_t abs(int16_t x);",
      "int16_t sign(int16_t x);",
      "int64_t abs(int64_t x);",
      "int64_t sign(int64_t x);",
      "vec2 abs(vec2 x);",
      "vec2 sign(vec2 x);",
      "f16vec2 abs(f16vec2 x);",
      "f16vec2 sign(f16vec2 x);",
      "dvec2 abs(dvec2 x);",
      "dvec2 sign(dvec2 x);",
      "ivec2 abs(ivec2 x);",
      "ivec2 sign(ivec2 x);",
      "i8vec2 abs(i8vec2 x);",
      "i8vec2 sign(i8vec2 x);",
      "i16vec2 abs(i16vec2 x);",
      "i16vec2 sign(i16vec2 x);",
      "i64vec2 abs(i64vec2 x);",
      "i64vec2 sign(i64vec2 x);",
      "vec3 abs(vec3 x);",
      "vec3 sign(vec3 x);",
      "f16vec3 abs(f16vec3 x);",
      "f16vec3 sign(f16vec3 x);",
      "dvec3 abs(dvec3 x);",
      "dvec3 sign(dvec3 x);",
      "ivec3 abs(ivec3 x);",
      "ivec3 sign(ivec3 x);",
      "i8vec3 abs(i8vec3 x);",
      "i8vec3 sign(i8vec3 x);",
      "i16vec3 abs(i16vec3 x);",
      "i16vec3 sign(i16vec3 x);",
      "i64vec3 abs(i64vec3 x);",
      "i64vec3 sign(i64vec3 x);",
      "vec4 abs(vec4 x);",
      "vec4 sign(vec4 x);",
      "f16vec4 abs(f16vec4 x);",
      "f16vec4 sign(f16vec4 x);",
      "dvec4 abs(dvec4 x);",
      "dvec4 sign(dvec4 x);",
      "ivec4 abs(ivec4 x);",
      "ivec4 sign(ivec4 x);",
      "i8vec4 abs(i8vec4 x);",
      "i8vec4 sign(i8vec4 x);",
      "i16vec4 abs(i16vec4 x);",
      "i16vec4 sign(i16vec4 x);",
      "i64vec4 abs(i64vec4 x);",
      "i64vec4 sign(i64vec4 x);",
      "float floor(float x);",
      "float trunc(float x);",
      "float round(float x);",
      "float roundEven(float x);",
      "float ceil(float x);",
      "float fract(float x);",
      "float mod(float x, float y);",
      "float mod(float x, float y);",
      "float modf(float x, out float i);",
      "float16_t floor(float16_t x);",
      "float16_t trunc(float16_t x);",
      "float16_t round(float16_t x);",
      "float16_t roundEven(float16_t x);",
      "float16_t ceil(float16_t x);",
      "float16_t fract(float16_t x);",
      "float16_t mod(float16_t x, float16_t y);",
      "float16_t mod(float16_t x, float16_t y);",
      "float16_t modf(float16_t x, out float16_t i);",
      "double floor(double x);",
      "double trunc(double x);",
      "double round(double x);",
      "double roundEven(double x);",
      "double ceil(double x);",
      "double fract(double x);",
      "double mod(double x, double y);",
      "double mod(double x, double y);",
      "double modf(double x, out double i);",
      "vec2 floor(vec2 x);",
      "vec2 trunc(vec2 x);",
      "vec2 round(vec2 x);",
      "vec2 roundEven(vec2 x);",
      "vec2 ceil(vec2 x);",
      "vec2 fract(vec2 x);",
      "vec2 mod(vec2 x, float y);",
      "vec2 mod(vec2 x, vec2 y);",
      "vec2 modf(vec2 x, out vec2 i);",
      "f16vec2 floor(f16vec2 x);",
      "f16vec2 trunc(f16vec2 x);",
      "f16vec2 round(f16vec2 x);",
      "f16vec2 roundEven(f16vec2 x);",
      "f16vec2 ceil(f16vec2 x);",
      "f16vec2 fract(f16vec2 x);",
      "f16vec2 mod(f16vec2 x, float16_t y);",
      "f16vec2 mod(f16vec2 x, f16vec2 y);",
      "f16vec2 modf(f16vec2 x, out f16vec2 i);",
      "dvec2 floor(dvec2 x);",
      "dvec2 trunc(dvec2 x);",
      "dvec2 round(dvec2 x);",
      "dvec2 roundEven(dvec2 x);",
      "dvec2 ceil(dvec2 x);",
      "dvec2 fract(dvec2 x);",
      "dvec2 mod(dvec2 x, double y);",
      "dvec2 mod(dvec2 x, dvec2 y);",
      "dvec2 modf(dvec2 x, out dvec2 i);",
      "vec3 floor(vec3 x);",
      "vec3 trunc(vec3 x);",
      "vec3 round(vec3 x);",
      "vec3 roundEven(vec3 x);",
      "vec3 ceil(vec3 x);",
      "vec3 fract(vec3 x);",
      "vec3 mod(vec3 x, float y);",
      "vec3 mod(vec3 x, vec3 y);",
      "vec3 modf(vec3 x, out vec3 i);",
      "f16vec3 floor(f16vec3 x);",
      "f16vec3 trunc(f16vec3 x);",
      "f16vec3 round(f16vec3 x);",
      "f16vec3 roundEven(f16vec3 x);",
      "f16vec3 ceil(f16vec3 x);",
      "f16vec3 fract(f16vec3 x);",
      "f16vec3 mod(f16vec3 x, float16_t y);",
      "f16vec3 mod(f16vec3 x, f16vec3 y);",
      "f16vec3 modf(f16vec3 x, out f16vec3 i);",
      "dvec3 floor(dvec3 x);",
      "dvec3 trunc(dvec3 x);",
      "dvec3 round(dvec3 x);",
      "dvec3 roundEven(dvec3 x);",
      "dvec3 ceil(dvec3 x);",
      "dvec3 fract(dvec3 x);",
      "dvec3 mod(dvec3 x, double y);",
      "dvec3 mod(dvec3 x, dvec3 y);",
      "dvec3 modf(dvec3 x, out dvec3 i);",
      "vec4 floor(vec4 x);",
      "vec4 trunc(vec4 x);",
      "vec4 round(vec4 x);",
      "vec4 roundEven(vec4 x);",
      "vec4 ceil(vec4 x);",
      "vec4 fract(vec4 x);",
      "vec4 mod(vec4 x, float y);",
      "vec4 mod(vec4 x, vec4 y);",
      "vec4 modf(vec4 x, out vec4 i);",
      "f16vec4 floor(f16vec4 x);",
      "f16vec4 trunc(f16vec4 x);",
      "f16vec4 round(f16vec4 x);",
      "f16vec4 roundEven(f16vec4 x);",
      "f16vec4 ceil(f16vec4 x);",
      "f16vec4 fract(f16vec4 x);",
      "f16vec4 mod(f16vec4 x, float16_t y);",
      "f16vec4 mod(f16vec4 x, f16vec4 y);",
      "f16vec4 modf(f16vec4 x, out f16vec4 i);",
      "dvec4 floor(dvec4 x);",
      "dvec4 trunc(dvec4 x);",
      "dvec4 round(dvec4 x);",
      "dvec4 roundEven(dvec4 x);",
      "dvec4 ceil(dvec4 x);",
      "dvec4 fract(dvec4 x);",
      "dvec4 mod(dvec4 x, double y);",
      "dvec4 mod(dvec4 x, dvec4 y);",
      "dvec4 modf(dvec4 x, out dvec4 i);"]]

end Prelude

end GlslPrelude
