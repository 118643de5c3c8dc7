import GlslPrelude.Prelude.Layout

/-!
# Encodings

Classification of floating-point numbers, and their bits.
-/

namespace GlslPrelude

namespace Prelude

open Section

/-- Documentation of the functions of `encoding`. -/
def encodingNotes : List Note := [
    { function := "isnan"
      text := "Returns true if x holds a NaN. Returns false otherwise." },
    { function := "isinf"
      text := "Returns true if x holds a positive infinity or negative infinity. Returns false " ++
        "otherwise." },
    { function := "floatBitsToInt"
      text := "Returns a signed integer value representing the encoding of a floating-point " ++
        "value. The float value's bit-level representation is preserved." },
    { function := "floatBitsToUint"
      text := "Returns an unsigned integer value representing the encoding of a floating-point " ++
        "value. The float value's bit-level representation is preserved." },
    { function := "intBitsToFloat"
      text := "Returns a floating-point value corresponding to a signed or unsigned integer " ++
        "encoding of a floating-point value. If a NaN is passed in, it will not signal, " ++
        "and the resulting value is unspecified. If an Inf is passed in, the resulting " ++
        "value is the corresponding Inf. If a subnormal number is passed in, the result " ++
        "might be flushed to 0. Otherwise, the bit-level representation is preserved." },
    { function := "uintBitsToFloat"
      text := "Returns a floating-point value corresponding to a signed or unsigned integer " ++
        "encoding of a floating-point value. If a NaN is passed in, it will not signal, " ++
        "and the resulting value is unspecified. If an Inf is passed in, the resulting " ++
        "value is the corresponding Inf. If a subnormal number is passed in, the result " ++
        "might be flushed to 0. Otherwise, the bit-level representation is preserved." },
    { function := "int16BitsToFloat16"
      text := "Returns a floating-point value corresponding to a signed or unsigned integer " ++
        "encoding of a floating-point value. If a NaN is passed in, it will not signal, " ++
        "and the resulting value is unspecified. If an Inf is passed in, the resulting " ++
        "value is the corresponding Inf. If a subnormal number is passed in, the result " ++
        "might be flushed to 0. Otherwise, the bit-level representation is preserved." },
    { function := "uint16BitsToFloat16"
      text := "Returns a floating-point value corresponding to a signed or unsigned integer " ++
        "encoding of a floating-point value. If a NaN is passed in, it will not signal, " ++
        "and the resulting value is unspecified. If an Inf is passed in, the resulting " ++
        "value is the corresponding Inf. If a subnormal number is passed in, the result " ++
        "might be flushed to 0. Otherwise, the bit-level representation is preserved." },
    { function := "fma"
      text := "Computes and returns a * b + c. In uses where the return value is eventually " ++
        "consumed by a variable declared as precise:\n" ++
        "\n" ++
        "- fma() is considered a single operation, whereas the expression a * b + c " ++
        "consumed by a variable declared precise is considered two operations.\n" ++
        "- The precision of fma() can differ from the precision of the expression a * b + " ++
        "c.\n" ++
        "- fma() will be computed with the same precision as any other fma() consumed by " ++
        "a precise variable, giving invariant results for the same input values of a, b, " ++
        "and c.\n" ++
        "\n" ++
        "Otherwise, in the absence of precise consumption, there are no special " ++
        "constraints on the number of operations or difference in precision between fma() " ++
        "and the expression a * b + c." },
    { function := "frexp"
      text := "Splits x into a floating-point significand in the range [0.5,1.0], and an " ++
        "integral exponent of two, such that\n" ++
        "\n" ++
        "x = significant · 2exponent\n" ++
        "\n" ++
        "The significand is returned by the function and the exponent is returned in the " ++
        "parameter exp. For a floating-point value of zero, the significand and exponent " ++
        "are both zero.\n" ++
        "\n" ++
        "If an implementation supports signed zero, an input value of minus zero should " ++
        "return a significand of minus zero. For a floating-point value that is an " ++
        "infinity or is not a number, the results are undefined.\n" ++
        "\n" ++
        "If the input x is a vector, this operation is performed in a component-wise " ++
        "manner; the value returned by the function and the value written to exp are " ++
        "vectors with the same number of components as x." },
    { function := "ldexp"
      text := "Builds a floating-point number from x and the corresponding integral exponent of " ++
        "two in exp, returning:\n" ++
        "\n" ++
        "significand · 2exponent\n" ++
        "\n" ++
        "If this product is too large to be represented in the floating-point type, the " ++
        "result is undefined.\n" ++
        "\n" ++
        "If exp is greater than +128 (single-precision) or +1024 (double-precision), the " ++
        "value returned is undefined. If exp is less than -126 (single-precision) or " ++
        "-1022 (double-precision), the value returned may be flushed to zero. " ++
        "Additionally, splitting the value into a significand and exponent using frexp() " ++
        "and then reconstructing a floating-point value using ldexp() should yield the " ++
        "original input for zero and all finite non-subnormal values.\n" ++
        "\n" ++
        "If the input x is a vector, this operation is performed in a component-wise " ++
        "manner; the value passed in exp and returned by the function are vectors with " ++
        "the same number of components as x." }]

/-- Classification of floating-point numbers, and their bits. -/
def encoding : Chapter where
  notes := encodingNotes
  sections := [
    .overloads [
      "bool isnan(float x);",
      "bool isinf(float x);",
      "bool isnan(float16_t x);",
      "bool isinf(float16_t x);",
      "bool isnan(double x);",
      "bool isinf(double x);",
      "bvec2 isnan(vec2 x);",
      "bvec2 isinf(vec2 x);",
      "bvec2 isnan(f16vec2 x);",
      "bvec2 isinf(f16vec2 x);",
      "bvec2 isnan(dvec2 x);",
      "bvec2 isinf(dvec2 x);",
      "bvec3 isnan(vec3 x);",
      "bvec3 isinf(vec3 x);",
      "bvec3 isnan(f16vec3 x);",
      "bvec3 isinf(f16vec3 x);",
      "bvec3 isnan(dvec3 x);",
      "bvec3 isinf(dvec3 x);",
      "bvec4 isnan(vec4 x);",
      "bvec4 isinf(vec4 x);",
      "bvec4 isnan(f16vec4 x);",
      "bvec4 isinf(f16vec4 x);",
      "bvec4 isnan(dvec4 x);",
      "bvec4 isinf(dvec4 x);",
      "int floatBitsToInt(highp float value);",
      "uint floatBitsToUint(highp float value);",
      "float intBitsToFloat(highp int value);",
      "float uintBitsToFloat(highp uint value);",
      "int floatBitsToInt(highp float16_t value);",
      "uint floatBitsToUint(highp float16_t value);",
      "float16_t int16BitsToFloat16(highp int16_t value);",
      "float16_t uint16BitsToFloat16(highp uint16_t value);",
      "ivec2 floatBitsToInt(highp vec2 value);",
      "uvec2 floatBitsToUint(highp vec2 value);",
      "vec2 intBitsToFloat(highp ivec2 value);",
      "vec2 uintBitsToFloat(highp uvec2 value);",
      "ivec2 floatBitsToInt(highp f16vec2 value);",
      "uvec2 floatBitsToUint(highp f16vec2 value);",
      "f16vec2 int16BitsToFloat16(highp i16vec2 value);",
      "f16vec2 uint16BitsToFloat16(highp u16vec2 value);",
      "ivec3 floatBitsToInt(highp vec3 value);",
      "uvec3 floatBitsToUint(highp vec3 value);",
      "vec3 intBitsToFloat(highp ivec3 value);",
      "vec3 uintBitsToFloat(highp uvec3 value);",
      "ivec3 floatBitsToInt(highp f16vec3 value);",
      "uvec3 floatBitsToUint(highp f16vec3 value);",
      "f16vec3 int16BitsToFloat16(highp i16vec3 value);",
      "f16vec3 uint16BitsToFloat16(highp u16vec3 value);",
      "ivec4 floatBitsToInt(highp vec4 value);",
      "uvec4 floatBitsToUint(highp vec4 value);",
      "vec4 intBitsToFloat(highp ivec4 value);",
      "vec4 uintBitsToFloat(highp uvec4 value);",
      "ivec4 floatBitsToInt(highp f16vec4 value);",
      "uvec4 floatBitsToUint(highp f16vec4 value);",
      "f16vec4 int16BitsToFloat16(highp i16vec4 value);",
      "f16vec4 uint16BitsToFloat16(highp u16vec4 value);",
      "float fma(float a, float b, float c);",
      "float frexp(highp float x, out highp int exp);",
      "float ldexp(highp float x, highp int exp);",
      "float16_t fma(float16_t a, float16_t b, float16_t c);",
      "float16_t frexp(highp float16_t x, out highp int exp);",
      "float16_t ldexp(highp float16_t x, highp int exp);",
      "double fma(double a, double b, double c);",
      "double frexp(highp double x, out highp int exp);",
      "double ldexp(highp double x, highp int exp);",
      "vec2 fma(vec2 a, vec2 b, vec2 c);",
      "vec2 frexp(highp vec2 x, out highp ivec2 exp);",
      "vec2 ldexp(highp vec2 x, highp ivec2 exp);",
      "f16vec2 fma(f16vec2 a, f16vec2 b, f16vec2 c);",
      "f16vec2 frexp(highp f16vec2 x, out highp ivec2 exp);",
      "f16vec2 ldexp(highp f16vec2 x, highp ivec2 exp);",
      "dvec2 fma(dvec2 a, dvec2 b, dvec2 c);",
      "dvec2 frexp(highp dvec2 x, out highp ivec2 exp);",
      "dvec2 ldexp(highp dvec2 x, highp ivec2 exp);",
      "vec3 fma(vec3 a, vec3 b, vec3 c);",
      "vec3 frexp(highp vec3 x, out highp ivec3 exp);",
      "vec3 ldexp(highp vec3 x, highp ivec3 exp);",
      "f16vec3 fma(f16vec3 a, f16vec3 b, f16vec3 c);",
      "f16vec3 frexp(highp f16vec3 x, out highp ivec3 exp);",
      "f16vec3 ldexp(highp f16vec3 x, highp ivec3 exp);",
      "dvec3 fma(dvec3 a, dvec3 b, dvec3 c);",
      "dvec3 frexp(highp dvec3 x, out highp ivec3 exp);",
      "dvec3 ldexp(highp dvec3 x, highp ivec3 exp);",
      "vec4 fma(vec4 a, vec4 b, vec4 c);",
      "vec4 frexp(highp vec4 x, out highp ivec4 exp);",
      "vec4 ldexp(highp vec4 x, highp ivec4 exp);",
      "f16vec4 fma(f16vec4 a, f16vec4 b, f16vec4 c);",
      "f16vec4 frexp(highp f16vec4 x, out highp ivec4 exp);",
      "f16vec4 ldexp(highp f16vec4 x, highp ivec4 exp);",
      "dvec4 fma(dvec4 a, dvec4 b, dvec4 c);",
      "dvec4 frexp(highp dvec4 x, out highp ivec4 exp);",
      "dvec4 ldexp(highp dvec4 x, highp ivec4 exp);"]]

end Prelude

end GlslPrelude
