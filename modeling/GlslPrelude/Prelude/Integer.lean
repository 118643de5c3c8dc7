import GlslPrelude.Prelude.Layout

/-!
# Integers

Extended arithmetic and bit fields.
-/

namespace GlslPrelude

namespace Prelude

open Section

/-- Documentation of the functions of `integer`. -/
def integerNotes : List Note := [
    { function := "uaddCarry"
      text := "Adds 32-bit unsigned integers *x* and *y*, returning the sum modulo 2^32. The " ++
        "value *carry* is set to zero if the sum was less than 2^32, or one otherwise." },
    { function := "usubBorrow"
      text := "Subtracts the 32-bit unsigned integer *y* from *x*, returning the difference if " ++
        "non-negative, or 2^32 plus the difference otherwise. The value *borrow* is set " ++
        "to zero if *x* >= *y*, or one otherwise." },
    { function := "umulExtended"
      text := "Multiplies 32-bit unsigned or signed integers *x* and *y*, producing a 64-bit " ++
        "result. The 32 least-significant bits are returned in *lsb*. The 32 " ++
        "most-significant bits are returned in *msb*." },
    { function := "imulExtended"
      text := "Multiplies 32-bit unsigned or signed integers *x* and *y*, producing a 64-bit " ++
        "result. The 32 least-significant bits are returned in *lsb*. The 32 " ++
        "most-significant bits are returned in *msb*." },
    { function := "bitfieldExtract"
      text := "Extracts bits [*offset*, *offset* + *bits* - 1] from *value*, returning them in " ++
        "the least significant bits of the result.\n" ++
        "\n" ++
        "For unsigned data types, the most significant bits of the result will be set to " ++
        "zero. For signed data types, the most significant bits will be set to the value " ++
        "of bit *offset* + *bits* - 1.\n" ++
        "\n" ++
        "If *bits* is zero, the result will be zero. The result will be undefined if " ++
        "*offset* or *bits* is negative, or if the sum of *offset* and *bits* is greater " ++
        "than the number of bits used to store the operand. Note that for vector versions " ++
        "of **bitfieldExtract**(), a single pair of *offset* and *bits* values is shared " ++
        "for all components." },
    { function := "bitfieldInsert"
      text := "Inserts the *bits* least significant bits of *insert* into *base*.\n" ++
        "\n" ++
        "The result will have bits [*offset*, *offset* + *bits* - 1] taken from bits [0, " ++
        "*bits* - 1] of *insert*, and all other bits taken directly from the " ++
        "corresponding bits of *base*. If *bits* is zero, the result will simply be " ++
        "*base*. The result will be undefined if *offset* or *bits* is negative, or if " ++
        "the sum of *offset* and *bits* is greater than the number of bits used to store " ++
        "the operand. Note that for vector versions of **bitfieldInsert**(), a single " ++
        "pair of *offset* and *bits* values is shared for all components." },
    { function := "bitfieldReverse"
      text := "Reverses the bits of *value*. The bit numbered *n* of the result will be taken " ++
        "from bit (*bits* - 1) - *n* of *value*, where *bits* is the total number of bits " ++
        "used to represent *value*." },
    { function := "bitCount"
      text := "Returns the number of one bits in the binary representation of *value*." },
    { function := "findLSB"
      text := "Returns the bit number of the least significant one bit in the binary " ++
        "representation of *value*. If *value* is zero, -1 will be returned." },
    { function := "findMSB"
      text := "Returns the bit number of the most significant bit in the binary representation " ++
        "of *value*.\n" ++
        "\n" ++
        "For positive integers, the result will be the bit number of the most significant " ++
        "one bit. For negative integers, the result will be the bit number of the most " ++
        "significant zero bit. For a *value* of zero or negative one, -1 will be " ++
        "returned." }]

/-- Extended arithmetic and bit fields. -/
def integer : Chapter where
  notes := integerNotes
  sections := [
    .overloads [
      "uint uaddCarry(highp uint x, highp uint y, out lowp uint carry);",
      "uint usubBorrow(highp uint x, highp uint y, out lowp uint borrow);",
      "void umulExtended(highp uint x, highp uint y, out highp uint msb, out highp uint lsb);"],
    .when (enabled .uint8Type) [
      .lines [
        "uint8_t uaddCarry(highp uint8_t x, highp uint8_t y, out lowp uint8_t carry);",
        "uint8_t usubBorrow(highp uint8_t x, highp uint8_t y, out lowp uint8_t borrow);",
        "void umulExtended(highp uint8_t x, highp uint8_t y, out highp uint8_t msb, out highp " ++
          "uint8_t lsb);"]],
    .when (enabled .uint16Type) [
      .lines [
        "uint16_t uaddCarry(highp uint16_t x, highp uint16_t y, out lowp uint16_t carry);",
        "uint16_t usubBorrow(highp uint16_t x, highp uint16_t y, out lowp uint16_t borrow);",
        "void umulExtended(highp uint16_t x, highp uint16_t y, out highp uint16_t msb, out " ++
          "highp uint16_t lsb);"]],
    .when (enabled .uint64Type) [
      .lines [
        "uint64_t uaddCarry(highp uint64_t x, highp uint64_t y, out lowp uint64_t carry);",
        "uint64_t usubBorrow(highp uint64_t x, highp uint64_t y, out lowp uint64_t borrow);",
        "void umulExtended(highp uint64_t x, highp uint64_t y, out highp uint64_t msb, out " ++
          "highp uint64_t lsb);"]],
    .overloads [
      "uvec2 uaddCarry(highp uvec2 x, highp uvec2 y, out lowp uvec2 carry);",
      "uvec2 usubBorrow(highp uvec2 x, highp uvec2 y, out lowp uvec2 borrow);",
      "void umulExtended(highp uvec2 x, highp uvec2 y, out highp uvec2 msb, out highp uvec2 lsb);"],
    .when (enabled .uint8Type) [
      .lines [
        "u8vec2 uaddCarry(highp u8vec2 x, highp u8vec2 y, out lowp u8vec2 carry);",
        "u8vec2 usubBorrow(highp u8vec2 x, highp u8vec2 y, out lowp u8vec2 borrow);",
        "void umulExtended(highp u8vec2 x, highp u8vec2 y, out highp u8vec2 msb, out highp " ++
          "u8vec2 lsb);"]],
    .when (enabled .uint16Type) [
      .lines [
        "u16vec2 uaddCarry(highp u16vec2 x, highp u16vec2 y, out lowp u16vec2 carry);",
        "u16vec2 usubBorrow(highp u16vec2 x, highp u16vec2 y, out lowp u16vec2 borrow);",
        "void umulExtended(highp u16vec2 x, highp u16vec2 y, out highp u16vec2 msb, out highp " ++
          "u16vec2 lsb);"]],
    .when (enabled .uint64Type) [
      .lines [
        "u64vec2 uaddCarry(highp u64vec2 x, highp u64vec2 y, out lowp u64vec2 carry);",
        "u64vec2 usubBorrow(highp u64vec2 x, highp u64vec2 y, out lowp u64vec2 borrow);",
        "void umulExtended(highp u64vec2 x, highp u64vec2 y, out highp u64vec2 msb, out highp " ++
          "u64vec2 lsb);"]],
    .overloads [
      "uvec3 uaddCarry(highp uvec3 x, highp uvec3 y, out lowp uvec3 carry);",
      "uvec3 usubBorrow(highp uvec3 x, highp uvec3 y, out lowp uvec3 borrow);",
      "void umulExtended(highp uvec3 x, highp uvec3 y, out highp uvec3 msb, out highp uvec3 lsb);"],
    .when (enabled .uint8Type) [
      .lines [
        "u8vec3 uaddCarry(highp u8vec3 x, highp u8vec3 y, out lowp u8vec3 carry);",
        "u8vec3 usubBorrow(highp u8vec3 x, highp u8vec3 y, out lowp u8vec3 borrow);",
        "void umulExtended(highp u8vec3 x, highp u8vec3 y, out highp u8vec3 msb, out highp " ++
          "u8vec3 lsb);"]],
    .when (enabled .uint16Type) [
      .lines [
        "u16vec3 uaddCarry(highp u16vec3 x, highp u16vec3 y, out lowp u16vec3 carry);",
        "u16vec3 usubBorrow(highp u16vec3 x, highp u16vec3 y, out lowp u16vec3 borrow);",
        "void umulExtended(highp u16vec3 x, highp u16vec3 y, out highp u16vec3 msb, out highp " ++
          "u16vec3 lsb);"]],
    .when (enabled .uint64Type) [
      .lines [
        "u64vec3 uaddCarry(highp u64vec3 x, highp u64vec3 y, out lowp u64vec3 carry);",
        "u64vec3 usubBorrow(highp u64vec3 x, highp u64vec3 y, out lowp u64vec3 borrow);",
        "void umulExtended(highp u64vec3 x, highp u64vec3 y, out highp u64vec3 msb, out highp " ++
          "u64vec3 lsb);"]],
    .overloads [
      "uvec4 uaddCarry(highp uvec4 x, highp uvec4 y, out lowp uvec4 carry);",
      "uvec4 usubBorrow(highp uvec4 x, highp uvec4 y, out lowp uvec4 borrow);",
      "void umulExtended(highp uvec4 x, highp uvec4 y, out highp uvec4 msb, out highp uvec4 lsb);"],
    .when (enabled .uint8Type) [
      .lines [
        "u8vec4 uaddCarry(highp u8vec4 x, highp u8vec4 y, out lowp u8vec4 carry);",
        "u8vec4 usubBorrow(highp u8vec4 x, highp u8vec4 y, out lowp u8vec4 borrow);",
        "void umulExtended(highp u8vec4 x, highp u8vec4 y, out highp u8vec4 msb, out highp " ++
          "u8vec4 lsb);"]],
    .when (enabled .uint16Type) [
      .lines [
        "u16vec4 uaddCarry(highp u16vec4 x, highp u16vec4 y, out lowp u16vec4 carry);",
        "u16vec4 usubBorrow(highp u16vec4 x, highp u16vec4 y, out lowp u16vec4 borrow);",
        "void umulExtended(highp u16vec4 x, highp u16vec4 y, out highp u16vec4 msb, out highp " ++
          "u16vec4 lsb);"]],
    .when (enabled .uint64Type) [
      .lines [
        "u64vec4 uaddCarry(highp u64vec4 x, highp u64vec4 y, out lowp u64vec4 carry);",
        "u64vec4 usubBorrow(highp u64vec4 x, highp u64vec4 y, out lowp u64vec4 borrow);",
        "void umulExtended(highp u64vec4 x, highp u64vec4 y, out highp u64vec4 msb, out highp " ++
          "u64vec4 lsb);"]],
    .overloads [
      "void imulExtended(highp int x, highp int y, out highp int msb, out highp int lsb);",
      "void imulExtended(highp int8_t x, highp int8_t y, out highp int8_t msb, out highp " ++
        "int8_t lsb);",
      "void imulExtended(highp int16_t x, highp int16_t y, out highp int16_t msb, out highp " ++
        "int16_t lsb);",
      "void imulExtended(highp int64_t x, highp int64_t y, out highp int64_t msb, out highp " ++
        "int64_t lsb);",
      "void imulExtended(highp ivec2 x, highp ivec2 y, out highp ivec2 msb, out highp ivec2 lsb);",
      "void imulExtended(highp i8vec2 x, highp i8vec2 y, out highp i8vec2 msb, out highp " ++
        "i8vec2 lsb);",
      "void imulExtended(highp i16vec2 x, highp i16vec2 y, out highp i16vec2 msb, out highp " ++
        "i16vec2 lsb);",
      "void imulExtended(highp i64vec2 x, highp i64vec2 y, out highp i64vec2 msb, out highp " ++
        "i64vec2 lsb);",
      "void imulExtended(highp ivec3 x, highp ivec3 y, out highp ivec3 msb, out highp ivec3 lsb);",
      "void imulExtended(highp i8vec3 x, highp i8vec3 y, out highp i8vec3 msb, out highp " ++
        "i8vec3 lsb);",
      "void imulExtended(highp i16vec3 x, highp i16vec3 y, out highp i16vec3 msb, out highp " ++
        "i16vec3 lsb);",
      "void imulExtended(highp i64vec3 x, highp i64vec3 y, out highp i64vec3 msb, out highp " ++
        "i64vec3 lsb);",
      "void imulExtended(highp ivec4 x, highp ivec4 y, out highp ivec4 msb, out highp ivec4 lsb);",
      "void imulExtended(highp i8vec4 x, highp i8vec4 y, out highp i8vec4 msb, out highp " ++
        "i8vec4 lsb);",
      "void imulExtended(highp i16vec4 x, highp i16vec4 y, out highp i16vec4 msb, out highp " ++
        "i16vec4 lsb);",
      "void imulExtended(highp i64vec4 x, highp i64vec4 y, out highp i64vec4 msb, out highp " ++
        "i64vec4 lsb);",
      "int bitfieldExtract(int value, int offset, int bits);",
      "int bitfieldInsert(int base, int insert, int offset, int bits);",
      "int bitfieldReverse(highp int value);",
      "int bitCount(int value);",
      "int findLSB(int value);",
      "int findMSB(highp int value);"],
    .when (enabled .int8Type) [
      .lines [
        "int8_t bitfieldExtract(int8_t value, int offset, int bits);",
        "int8_t bitfieldInsert(int8_t base, int8_t insert, int offset, int bits);",
        "int8_t bitfieldReverse(highp int8_t value);",
        "int bitCount(int8_t value);",
        "int findLSB(int8_t value);",
        "int findMSB(highp int8_t value);"]],
    .when (enabled .int16Type) [
      .lines [
        "int16_t bitfieldExtract(int16_t value, int offset, int bits);",
        "int16_t bitfieldInsert(int16_t base, int16_t insert, int offset, int bits);",
        "int16_t bitfieldReverse(highp int16_t value);",
        "int bitCount(int16_t value);",
        "int findLSB(int16_t value);",
        "int findMSB(highp int16_t value);"]],
    .when (enabled .int64Type) [
      .lines [
        "int64_t bitfieldExtract(int64_t value, int offset, int bits);",
        "int64_t bitfieldInsert(int64_t base, int64_t insert, int offset, int bits);",
        "int64_t bitfieldReverse(highp int64_t value);",
        "int bitCount(int64_t value);",
        "int findLSB(int64_t value);",
        "int findMSB(highp int64_t value);"]],
    .overloads [
      "uint bitfieldExtract(uint value, int offset, int bits);",
      "uint bitfieldInsert(uint base, uint insert, int offset, int bits);",
      "uint bitfieldReverse(highp uint value);",
      "int bitCount(uint value);",
      "int findLSB(uint value);",
      "int findMSB(highp uint value);"],
    .when (enabled .uint8Type) [
      .lines [
        "uint8_t bitfieldExtract(uint8_t value, int offset, int bits);",
        "uint8_t bitfieldInsert(uint8_t base, uint8_t insert, int offset, int bits);",
        "uint8_t bitfieldReverse(highp uint8_t value);",
        "int bitCount(uint8_t value);",
        "int findLSB(uint8_t value);",
        "int findMSB(highp uint8_t value);"]],
    .when (enabled .uint16Type) [
      .lines [
        "uint16_t bitfieldExtract(uint16_t value, int offset, int bits);",
        "uint16_t bitfieldInsert(uint16_t base, uint16_t insert, int offset, int bits);",
        "uint16_t bitfieldReverse(highp uint16_t value);",
        "int bitCount(uint16_t value);",
        "int findLSB(uint16_t value);",
        "int findMSB(highp uint16_t value);"]],
    .when (enabled .uint64Type) [
      .lines [
        "uint64_t bitfieldExtract(uint64_t value, int offset, int bits);",
        "uint64_t bitfieldInsert(uint64_t base, uint64_t insert, int offset, int bits);",
        "uint64_t bitfieldReverse(highp uint64_t value);",
        "int bitCount(uint64_t value);",
        "int findLSB(uint64_t value);",
        "int findMSB(highp uint64_t value);"]],
    .overloads [
      "ivec2 bitfieldExtract(ivec2 value, int offset, int bits);",
      "ivec2 bitfieldInsert(ivec2 base, ivec2 insert, int offset, int bits);",
      "ivec2 bitfieldReverse(highp ivec2 value);",
      "ivec2 bitCount(ivec2 value);",
      "ivec2 findLSB(ivec2 value);",
      "ivec2 findMSB(highp ivec2 value);"],
    .when (enabled .int8Type) [
      .lines [
        "i8vec2 bitfieldExtract(i8vec2 value, int offset, int bits);",
        "i8vec2 bitfieldInsert(i8vec2 base, i8vec2 insert, int offset, int bits);",
        "i8vec2 bitfieldReverse(highp i8vec2 value);",
        "ivec2 bitCount(i8vec2 value);",
        "ivec2 findLSB(i8vec2 value);",
        "ivec2 findMSB(highp i8vec2 value);"]],
    .when (enabled .int16Type) [
      .lines [
        "i16vec2 bitfieldExtract(i16vec2 value, int offset, int bits);",
        "i16vec2 bitfieldInsert(i16vec2 base, i16vec2 insert, int offset, int bits);",
        "i16vec2 bitfieldReverse(highp i16vec2 value);",
        "ivec2 bitCount(i16vec2 value);",
        "ivec2 findLSB(i16vec2 value);",
        "ivec2 findMSB(highp i16vec2 value);"]],
    .when (enabled .int64Type) [
      .lines [
        "i64vec2 bitfieldExtract(i64vec2 value, int offset, int bits);",
        "i64vec2 bitfieldInsert(i64vec2 base, i64vec2 insert, int offset, int bits);",
        "i64vec2 bitfieldReverse(highp i64vec2 value);",
        "ivec2 bitCount(i64vec2 value);",
        "ivec2 findLSB(i64vec2 value);",
        "ivec2 findMSB(highp i64vec2 value);"]],
    .overloads [
      "uvec2 bitfieldExtract(uvec2 value, int offset, int bits);",
      "uvec2 bitfieldInsert(uvec2 base, uvec2 insert, int offset, int bits);",
      "uvec2 bitfieldReverse(highp uvec2 value);",
      "ivec2 bitCount(uvec2 value);",
      "ivec2 findLSB(uvec2 value);",
      "ivec2 findMSB(highp uvec2 value);"],
    .when (enabled .uint8Type) [
      .lines [
        "u8vec2 bitfieldExtract(u8vec2 value, int offset, int bits);",
        "u8vec2 bitfieldInsert(u8vec2 base, u8vec2 insert, int offset, int bits);",
        "u8vec2 bitfieldReverse(highp u8vec2 value);",
        "ivec2 bitCount(u8vec2 value);",
        "ivec2 findLSB(u8vec2 value);",
        "ivec2 findMSB(highp u8vec2 value);"]],
    .when (enabled .uint16Type) [
      .lines [
        "u16vec2 bitfieldExtract(u16vec2 value, int offset, int bits);",
        "u16vec2 bitfieldInsert(u16vec2 base, u16vec2 insert, int offset, int bits);",
        "u16vec2 bitfieldReverse(highp u16vec2 value);",
        "ivec2 bitCount(u16vec2 value);",
        "ivec2 findLSB(u16vec2 value);",
        "ivec2 findMSB(highp u16vec2 value);"]],
    .when (enabled .uint64Type) [
      .lines [
        "u64vec2 bitfieldExtract(u64vec2 value, int offset, int bits);",
        "u64vec2 bitfieldInsert(u64vec2 base, u64vec2 insert, int offset, int bits);",
        "u64vec2 bitfieldReverse(highp u64vec2 value);",
        "ivec2 bitCount(u64vec2 value);",
        "ivec2 findLSB(u64vec2 value);",
        "ivec2 findMSB(highp u64vec2 value);"]],
    .overloads [
      "ivec3 bitfieldExtract(ivec3 value, int offset, int bits);",
      "ivec3 bitfieldInsert(ivec3 base, ivec3 insert, int offset, int bits);",
      "ivec3 bitfieldReverse(highp ivec3 value);",
      "ivec3 bitCount(ivec3 value);",
      "ivec3 findLSB(ivec3 value);",
      "ivec3 findMSB(highp ivec3 value);"],
    .when (enabled .int8Type) [
      .lines [
        "i8vec3 bitfieldExtract(i8vec3 value, int offset, int bits);",
        "i8vec3 bitfieldInsert(i8vec3 base, i8vec3 insert, int offset, int bits);",
        "i8vec3 bitfieldReverse(highp i8vec3 value);",
        "ivec3 bitCount(i8vec3 value);",
        "ivec3 findLSB(i8vec3 value);",
        "ivec3 findMSB(highp i8vec3 value);"]],
    .when (enabled .int16Type) [
      .lines [
        "i16vec3 bitfieldExtract(i16vec3 value, int offset, int bits);",
        "i16vec3 bitfieldInsert(i16vec3 base, i16vec3 insert, int offset, int bits);",
        "i16vec3 bitfieldReverse(highp i16vec3 value);",
        "ivec3 bitCount(i16vec3 value);",
        "ivec3 findLSB(i16vec3 value);",
        "ivec3 findMSB(highp i16vec3 value);"]],
    .when (enabled .int64Type) [
      .lines [
        "i64vec3 bitfieldExtract(i64vec3 value, int offset, int bits);",
        "i64vec3 bitfieldInsert(i64vec3 base, i64vec3 insert, int offset, int bits);",
        "i64vec3 bitfieldReverse(highp i64vec3 value);",
        "ivec3 bitCount(i64vec3 value);",
        "ivec3 findLSB(i64vec3 value);",
        "ivec3 findMSB(highp i64vec3 value);"]],
    .overloads [
      "uvec3 bitfieldExtract(uvec3 value, int offset, int bits);",
      "uvec3 bitfieldInsert(uvec3 base, uvec3 insert, int offset, int bits);",
      "uvec3 bitfieldReverse(highp uvec3 value);",
      "ivec3 bitCount(uvec3 value);",
      "ivec3 findLSB(uvec3 value);",
      "ivec3 findMSB(highp uvec3 value);"],
    .when (enabled .uint8Type) [
      .lines [
        "u8vec3 bitfieldExtract(u8vec3 value, int offset, int bits);",
        "u8vec3 bitfieldInsert(u8vec3 base, u8vec3 insert, int offset, int bits);",
        "u8vec3 bitfieldReverse(highp u8vec3 value);",
        "ivec3 bitCount(u8vec3 value);",
        "ivec3 findLSB(u8vec3 value);",
        "ivec3 findMSB(highp u8vec3 value);"]],
    .when (enabled .uint16Type) [
      .lines [
        "u16vec3 bitfieldExtract(u16vec3 value, int offset, int bits);",
        "u16vec3 bitfieldInsert(u16vec3 base, u16vec3 insert, int offset, int bits);",
        "u16vec3 bitfieldReverse(highp u16vec3 value);",
        "ivec3 bitCount(u16vec3 value);",
        "ivec3 findLSB(u16vec3 value);",
        "ivec3 findMSB(highp u16vec3 value);"]],
    .when (enabled .uint64Type) [
      .lines [
        "u64vec3 bitfieldExtract(u64vec3 value, int offset, int bits);",
        "u64vec3 bitfieldInsert(u64vec3 base, u64vec3 insert, int offset, int bits);",
        "u64vec3 bitfieldReverse(highp u64vec3 value);",
        "ivec3 bitCount(u64vec3 value);",
        "ivec3 findLSB(u64vec3 value);",
        "ivec3 findMSB(highp u64vec3 value);"]],
    .overloads [
      "ivec4 bitfieldExtract(ivec4 value, int offset, int bits);",
      "ivec4 bitfieldInsert(ivec4 base, ivec4 insert, int offset, int bits);",
      "ivec4 bitfieldReverse(highp ivec4 value);",
      "ivec4 bitCount(ivec4 value);",
      "ivec4 findLSB(ivec4 value);",
      "ivec4 findMSB(highp ivec4 value);"],
    .when (enabled .int8Type) [
      .lines [
        "i8vec4 bitfieldExtract(i8vec4 value, int offset, int bits);",
        "i8vec4 bitfieldInsert(i8vec4 base, i8vec4 insert, int offset, int bits);",
        "i8vec4 bitfieldReverse(highp i8vec4 value);",
        "ivec4 bitCount(i8vec4 value);",
        "ivec4 findLSB(i8vec4 value);",
        "ivec4 findMSB(highp i8vec4 value);"]],
    .when (enabled .int16Type) [
      .lines [
        "i16vec4 bitfieldExtract(i16vec4 value, int offset, int bits);",
        "i16vec4 bitfieldInsert(i16vec4 base, i16vec4 insert, int offset, int bits);",
        "i16vec4 bitfieldReverse(highp i16vec4 value);",
        "ivec4 bitCount(i16vec4 value);",
        "ivec4 findLSB(i16vec4 value);",
        "ivec4 findMSB(highp i16vec4 value);"]],
    .when (enabled .int64Type) [
      .lines [
        "i64vec4 bitfieldExtract(i64vec4 value, int offset, int bits);",
        "i64vec4 bitfieldInsert(i64vec4 base, i64vec4 insert, int offset, int bits);",
        "i64vec4 bitfieldReverse(highp i64vec4 value);",
        "ivec4 bitCount(i64vec4 value);",
        "ivec4 findLSB(i64vec4 value);",
        "ivec4 findMSB(highp i64vec4 value);"]],
    .overloads [
      "uvec4 bitfieldExtract(uvec4 value, int offset, int bits);",
      "uvec4 bitfieldInsert(uvec4 base, uvec4 insert, int offset, int bits);",
      "uvec4 bitfieldReverse(highp uvec4 value);",
      "ivec4 bitCount(uvec4 value);",
      "ivec4 findLSB(uvec4 value);",
      "ivec4 findMSB(highp uvec4 value);"],
    .when (enabled .uint8Type) [
      .lines [
        "u8vec4 bitfieldExtract(u8vec4 value, int offset, int bits);",
        "u8vec4 bitfieldInsert(u8vec4 base, u8vec4 insert, int offset, int bits);",
        "u8vec4 bitfieldReverse(highp u8vec4 value);",
        "ivec4 bitCount(u8vec4 value);",
        "ivec4 findLSB(u8vec4 value);",
        "ivec4 findMSB(highp u8vec4 value);"]],
    .when (enabled .uint16Type) [
      .lines [
        "u16vec4 bitfieldExtract(u16vec4 value, int offset, int bits);",
        "u16vec4 bitfieldInsert(u16vec4 base, u16vec4 insert, int offset, int bits);",
        "u16vec4 bitfieldReverse(highp u16vec4 value);",
        "ivec4 bitCount(u16vec4 value);",
        "ivec4 findLSB(u16vec4 value);",
        "ivec4 findMSB(highp u16vec4 value);"]],
    .when (enabled .uint64Type) [
      .lines [
        "u64vec4 bitfieldExtract(u64vec4 value, int offset, int bits);",
        "u64vec4 bitfieldInsert(u64vec4 base, u64vec4 insert, int offset, int bits);",
        "u64vec4 bitfieldReverse(highp u64vec4 value);",
        "ivec4 bitCount(u64vec4 value);",
        "ivec4 findLSB(u64vec4 value);",
        "ivec4 findMSB(highp u64vec4 value);"]]]

end Prelude

end GlslPrelude
