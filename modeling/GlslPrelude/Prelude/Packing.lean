import GlslPrelude.Prelude.Layout

/-!
# Packing

Several numbers packed into one.
-/

namespace GlslPrelude

namespace Prelude

open Section

/-- Documentation of the functions of `packing`. -/
def packingNotes : List Note := [
    { function := "packUnorm2x16"
      text := "First, converts each component of the normalized floating-point value *v* into " ++
        "16-bit (**2x16**) or 8-bit (**4x8**) integer values. Then, the results are " ++
        "packed into the returned 32-bit unsigned integer.\n" ++
        "\n" ++
        "The conversion for component *c* of *v* to fixed point is done as follows:\n" ++
        "- **packUnorm2x16**: `round(clamp(c, 0, +1) * 65535.0)`\n" ++
        "- **packSnorm2x16**: `round(clamp(c, -1, +1) * 32767.0)`\n" ++
        "- **packUnorm4x8**: `round(clamp(c, 0, +1) * 255.0)`\n" ++
        "- **packSnorm4x8**: `round(clamp(c, -1, +1) * 127.0)`\n" ++
        "\n" ++
        "The first component of the vector will be written to the least significant bits " ++
        "of the output; the last component will be written to the most significant bits." },
    { function := "packSnorm2x16"
      text := "First, converts each component of the normalized floating-point value *v* into " ++
        "16-bit (**2x16**) or 8-bit (**4x8**) integer values. Then, the results are " ++
        "packed into the returned 32-bit unsigned integer.\n" ++
        "\n" ++
        "The conversion for component *c* of *v* to fixed point is done as follows:\n" ++
        "- **packUnorm2x16**: `round(clamp(c, 0, +1) * 65535.0)`\n" ++
        "- **packSnorm2x16**: `round(clamp(c, -1, +1) * 32767.0)`\n" ++
        "- **packUnorm4x8**: `round(clamp(c, 0, +1) * 255.0)`\n" ++
        "- **packSnorm4x8**: `round(clamp(c, -1, +1) * 127.0)`\n" ++
        "\n" ++
        "The first component of the vector will be written to the least significant bits " ++
        "of the output; the last component will be written to the most significant bits." },
    { function := "packUnorm4x8"
      text := "First, converts each component of the normalized floating-point value *v* into " ++
        "16-bit (**2x16**) or 8-bit (**4x8**) integer values. Then, the results are " ++
        "packed into the returned 32-bit unsigned integer.\n" ++
        "\n" ++
        "The conversion for component *c* of *v* to fixed point is done as follows:\n" ++
        "- **packUnorm2x16**: `round(clamp(c, 0, +1) * 65535.0)`\n" ++
        "- **packSnorm2x16**: `round(clamp(c, -1, +1) * 32767.0)`\n" ++
        "- **packUnorm4x8**: `round(clamp(c, 0, +1) * 255.0)`\n" ++
        "- **packSnorm4x8**: `round(clamp(c, -1, +1) * 127.0)`\n" ++
        "\n" ++
        "The first component of the vector will be written to the least significant bits " ++
        "of the output; the last component will be written to the most significant bits." },
    { function := "packSnorm4x8"
      text := "First, converts each component of the normalized floating-point value *v* into " ++
        "16-bit (**2x16**) or 8-bit (**4x8**) integer values. Then, the results are " ++
        "packed into the returned 32-bit unsigned integer.\n" ++
        "\n" ++
        "The conversion for component *c* of *v* to fixed point is done as follows:\n" ++
        "- **packUnorm2x16**: `round(clamp(c, 0, +1) * 65535.0)`\n" ++
        "- **packSnorm2x16**: `round(clamp(c, -1, +1) * 32767.0)`\n" ++
        "- **packUnorm4x8**: `round(clamp(c, 0, +1) * 255.0)`\n" ++
        "- **packSnorm4x8**: `round(clamp(c, -1, +1) * 127.0)`\n" ++
        "\n" ++
        "The first component of the vector will be written to the least significant bits " ++
        "of the output; the last component will be written to the most significant bits." },
    { function := "unpackUnorm2x16"
      text := "First, unpacks a single 32-bit unsigned integer *p* into a pair of 16-bit " ++
        "unsigned integers, a pair of 16-bit signed integers, four 8-bit unsigned " ++
        "integers, or four 8-bit signed integers, respectively. Then, each component is " ++
        "converted to a normalized floating-point value to generate the returned two- or " ++
        "four-component vector.\n" ++
        "\n" ++
        "The conversion for unpacked fixed-point value *f* to floating-point is done as " ++
        "follows:\n" ++
        "- **unpackUnorm2x16**: `f / 65535.0`\n" ++
        "- **unpackSnorm2x16**: `clamp(f / 32767.0, -1, +1)`\n" ++
        "- **unpackUnorm4x8**: `f / 255.0`\n" ++
        "- **unpackSnorm4x8**: `clamp(f / 127.0, -1, +1)`\n" ++
        "\n" ++
        "The first component of the returned vector will be extracted from the least " ++
        "significant bits of the input; the last component will be extracted from the " ++
        "most significant bits." },
    { function := "unpackSnorm2x16"
      text := "First, unpacks a single 32-bit unsigned integer *p* into a pair of 16-bit " ++
        "unsigned integers, a pair of 16-bit signed integers, four 8-bit unsigned " ++
        "integers, or four 8-bit signed integers, respectively. Then, each component is " ++
        "converted to a normalized floating-point value to generate the returned two- or " ++
        "four-component vector.\n" ++
        "\n" ++
        "The conversion for unpacked fixed-point value *f* to floating-point is done as " ++
        "follows:\n" ++
        "- **unpackUnorm2x16**: `f / 65535.0`\n" ++
        "- **unpackSnorm2x16**: `clamp(f / 32767.0, -1, +1)`\n" ++
        "- **unpackUnorm4x8**: `f / 255.0`\n" ++
        "- **unpackSnorm4x8**: `clamp(f / 127.0, -1, +1)`\n" ++
        "\n" ++
        "The first component of the returned vector will be extracted from the least " ++
        "significant bits of the input; the last component will be extracted from the " ++
        "most significant bits." },
    { function := "unpackUnorm4x8"
      text := "First, unpacks a single 32-bit unsigned integer *p* into a pair of 16-bit " ++
        "unsigned integers, a pair of 16-bit signed integers, four 8-bit unsigned " ++
        "integers, or four 8-bit signed integers, respectively. Then, each component is " ++
        "converted to a normalized floating-point value to generate the returned two- or " ++
        "four-component vector.\n" ++
        "\n" ++
        "The conversion for unpacked fixed-point value *f* to floating-point is done as " ++
        "follows:\n" ++
        "- **unpackUnorm2x16**: `f / 65535.0`\n" ++
        "- **unpackSnorm2x16**: `clamp(f / 32767.0, -1, +1)`\n" ++
        "- **unpackUnorm4x8**: `f / 255.0`\n" ++
        "- **unpackSnorm4x8**: `clamp(f / 127.0, -1, +1)`\n" ++
        "\n" ++
        "The first component of the returned vector will be extracted from the least " ++
        "significant bits of the input; the last component will be extracted from the " ++
        "most significant bits." },
    { function := "unpackSnorm4x8"
      text := "First, unpacks a single 32-bit unsigned integer *p* into a pair of 16-bit " ++
        "unsigned integers, a pair of 16-bit signed integers, four 8-bit unsigned " ++
        "integers, or four 8-bit signed integers, respectively. Then, each component is " ++
        "converted to a normalized floating-point value to generate the returned two- or " ++
        "four-component vector.\n" ++
        "\n" ++
        "The conversion for unpacked fixed-point value *f* to floating-point is done as " ++
        "follows:\n" ++
        "- **unpackUnorm2x16**: `f / 65535.0`\n" ++
        "- **unpackSnorm2x16**: `clamp(f / 32767.0, -1, +1)`\n" ++
        "- **unpackUnorm4x8**: `f / 255.0`\n" ++
        "- **unpackSnorm4x8**: `clamp(f / 127.0, -1, +1)`\n" ++
        "\n" ++
        "The first component of the returned vector will be extracted from the least " ++
        "significant bits of the input; the last component will be extracted from the " ++
        "most significant bits." },
    { function := "packHalf2x16"
      text := "Returns an unsigned integer obtained by converting the components of a " ++
        "two-component floating-point vector to the 16-bit floating-point representation " ++
        "of the API, and then packing these two 16-bit integers into a 32-bit unsigned " ++
        "integer.\n" ++
        "\n" ++
        "The first vector component specifies the 16 least-significant bits of the " ++
        "result; the second component specifies the 16 most-significant bits." },
    { function := "unpackHalf2x16"
      text := "Returns a two-component floating-point vector with components obtained by " ++
        "unpacking a 32-bit unsigned integer into a pair of 16-bit values, interpreting " ++
        "those values as 16-bit floating-point numbers according to the API, and " ++
        "converting them to 32-bit floating-point values.\n" ++
        "\n" ++
        "The first component of the vector is obtained from the 16 least-significant bits " ++
        "of *v*; the second component is obtained from the 16 most-significant bits of " ++
        "*v*." },
    { function := "packDouble2x32"
      text := "Returns a double-precision value obtained by packing the components of *v* into " ++
        "a 64-bit value. If an IEEE 754 Inf or NaN is created, it will not signal, and " ++
        "the resulting floating-point value is unspecified. Otherwise, the bit-level " ++
        "representation of *v* is preserved. The first vector component specifies the 32 " ++
        "least significant bits; the second component specifies the 32 most significant " ++
        "bits." },
    { function := "unpackDouble2x32"
      text := "Returns a two-component unsigned integer vector representation of *v*. The " ++
        "bit-level representation of *v* is preserved. The first component of the vector " ++
        "contains the 32 least significant bits of the double; the second component " ++
        "consists of the 32 most significant bits." }]

/-- Several numbers packed into one. -/
def packing : Chapter where
  notes := packingNotes
  sections := [
    .overloads [
      "highp uint packUnorm2x16(vec2 v);",
      "highp uint packSnorm2x16(vec2 v);",
      "uint packUnorm4x8(vec4 v);",
      "uint packSnorm4x8(vec4 v);",
      "vec2 unpackUnorm2x16(highp uint p);",
      "vec2 unpackSnorm2x16(highp uint p);",
      "vec4 unpackUnorm4x8(highp uint p);",
      "vec4 unpackSnorm4x8(highp uint p);",
      "uint packHalf2x16(vec2 v);",
      "vec2 unpackHalf2x16(uint v);",
      "double packDouble2x32(uvec2 v);",
      "uvec2 unpackDouble2x32(double v);"]]

end Prelude

end GlslPrelude
