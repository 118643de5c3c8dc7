import GlslPrelude.Prelude.Layout

/-!
# Trigonometry

Angles and trigonometric functions.
-/

namespace GlslPrelude

namespace Prelude

open Section

/-- Documentation of the functions of `trigonometry`. -/
def trigonometryNotes : List Note := [
    { function := "radians"
      text := "Converts degrees to radians, i.e. π / 180 * degrees." },
    { function := "degrees"
      text := "Converts radians to degrees, i.e. 180 / π * radians." },
    { function := "sin"
      text := "The standard trigonometric sine function." },
    { function := "cos"
      text := "The standard trigonometric cosine function." },
    { function := "tan"
      text := "The standard trigonometric tangent function." },
    { function := "asin"
      text := "Arc sine. Returns an angle whose sine is x. The range of values returned by this " ++
        "function is [-π / 2, π / 2]. Results are undefined if |x| > 1." },
    { function := "acos"
      text := "Arc cosine. Returns an angle whose cosine is x. The range of values returned by " ++
        "this function is [0, π]. Results are undefined if |x| > 1." },
    { function := "atan"
      text := "Arc tangent. Returns an angle whose tangent is y / x. The signs of x and y are " ++
        "used to determine what quadrant the angle is in. The range of values returned by " ++
        "this function is [-π, π]. Results are undefined if x and y are both 0." },
    { function := "sinh"
      text := "Returns the hyperbolic sine function (e^x - e^-x) / 2." },
    { function := "cosh"
      text := "Returns the hyperbolic cosine function (e^x + e^-x) / 2." },
    { function := "tanh"
      text := "Returns the hyperbolic tangent function sinh(x) / cosh(x)." },
    { function := "asinh"
      text := "Arc hyperbolic sine; returns the inverse of sinh." },
    { function := "acosh"
      text := "Arc hyperbolic cosine; returns the inverse of cosh." },
    { function := "atanh"
      text := "Arc hyperbolic tangent; returns the inverse of tanh." }]

/-- Angles and trigonometric functions. -/
def trigonometry : Chapter where
  notes := trigonometryNotes
  sections := [
    .lines [""],
    .overloads [
      "float radians(float degrees);",
      "float degrees(float radians);",
      "float sin(float x);",
      "float cos(float x);",
      "float tan(float x);",
      "float asin(float x);",
      "float acos(float x);",
      "float atan(float x);",
      "float sinh(float x);",
      "float cosh(float x);",
      "float tanh(float x);",
      "float asinh(float x);",
      "float acosh(float x);",
      "float atanh(float x);",
      "float16_t radians(float16_t degrees);",
      "float16_t degrees(float16_t radians);",
      "float16_t sin(float16_t x);",
      "float16_t cos(float16_t x);",
      "float16_t tan(float16_t x);",
      "float16_t asin(float16_t x);",
      "float16_t acos(float16_t x);",
      "float16_t atan(float16_t x);",
      "float16_t sinh(float16_t x);",
      "float16_t cosh(float16_t x);",
      "float16_t tanh(float16_t x);",
      "float16_t asinh(float16_t x);",
      "float16_t acosh(float16_t x);",
      "float16_t atanh(float16_t x);",
      "vec2 radians(vec2 degrees);",
      "vec2 degrees(vec2 radians);",
      "vec2 sin(vec2 x);",
      "vec2 cos(vec2 x);",
      "vec2 tan(vec2 x);",
      "vec2 asin(vec2 x);",
      "vec2 acos(vec2 x);",
      "vec2 atan(vec2 x);",
      "vec2 sinh(vec2 x);",
      "vec2 cosh(vec2 x);",
      "vec2 tanh(vec2 x);",
      "vec2 asinh(vec2 x);",
      "vec2 acosh(vec2 x);",
      "vec2 atanh(vec2 x);",
      "f16vec2 radians(f16vec2 degrees);",
      "f16vec2 degrees(f16vec2 radians);",
      "f16vec2 sin(f16vec2 x);",
      "f16vec2 cos(f16vec2 x);",
      "f16vec2 tan(f16vec2 x);",
      "f16vec2 asin(f16vec2 x);",
      "f16vec2 acos(f16vec2 x);",
      "f16vec2 atan(f16vec2 x);",
      "f16vec2 sinh(f16vec2 x);",
      "f16vec2 cosh(f16vec2 x);",
      "f16vec2 tanh(f16vec2 x);",
      "f16vec2 asinh(f16vec2 x);",
      "f16vec2 acosh(f16vec2 x);",
      "f16vec2 atanh(f16vec2 x);",
      "vec3 radians(vec3 degrees);",
      "vec3 degrees(vec3 radians);",
      "vec3 sin(vec3 x);",
      "vec3 cos(vec3 x);",
      "vec3 tan(vec3 x);",
      "vec3 asin(vec3 x);",
      "vec3 acos(vec3 x);",
      "vec3 atan(vec3 x);",
      "vec3 sinh(vec3 x);",
      "vec3 cosh(vec3 x);",
      "vec3 tanh(vec3 x);",
      "vec3 asinh(vec3 x);",
      "vec3 acosh(vec3 x);",
      "vec3 atanh(vec3 x);",
      "f16vec3 radians(f16vec3 degrees);",
      "f16vec3 degrees(f16vec3 radians);",
      "f16vec3 sin(f16vec3 x);",
      "f16vec3 cos(f16vec3 x);",
      "f16vec3 tan(f16vec3 x);",
      "f16vec3 asin(f16vec3 x);",
      "f16vec3 acos(f16vec3 x);",
      "f16vec3 atan(f16vec3 x);",
      "f16vec3 sinh(f16vec3 x);",
      "f16vec3 cosh(f16vec3 x);",
      "f16vec3 tanh(f16vec3 x);",
      "f16vec3 asinh(f16vec3 x);",
      "f16vec3 acosh(f16vec3 x);",
      "f16vec3 atanh(f16vec3 x);",
      "vec4 radians(vec4 degrees);",
      "vec4 degrees(vec4 radians);",
      "vec4 sin(vec4 x);",
      "vec4 cos(vec4 x);",
      "vec4 tan(vec4 x);",
      "vec4 asin(vec4 x);",
      "vec4 acos(vec4 x);",
      "vec4 atan(vec4 x);",
      "vec4 sinh(vec4 x);",
      "vec4 cosh(vec4 x);",
      "vec4 tanh(vec4 x);",
      "vec4 asinh(vec4 x);",
      "vec4 acosh(vec4 x);",
      "vec4 atanh(vec4 x);",
      "f16vec4 radians(f16vec4 degrees);",
      "f16vec4 degrees(f16vec4 radians);",
      "f16vec4 sin(f16vec4 x);",
      "f16vec4 cos(f16vec4 x);",
      "f16vec4 tan(f16vec4 x);",
      "f16vec4 asin(f16vec4 x);",
      "f16vec4 acos(f16vec4 x);",
      "f16vec4 atan(f16vec4 x);",
      "f16vec4 sinh(f16vec4 x);",
      "f16vec4 cosh(f16vec4 x);",
      "f16vec4 tanh(f16vec4 x);",
      "f16vec4 asinh(f16vec4 x);",
      "f16vec4 acosh(f16vec4 x);",
      "f16vec4 atanh(f16vec4 x);"]]

end Prelude

end GlslPrelude
