import GlslPrelude.Prelude.Layout

/-!
# Bounds

Minima and maxima.
-/

namespace GlslPrelude

namespace Prelude

open Section

/-- Documentation of the functions of `bounds`. -/
def boundsNotes : List Note := [
    { function := "min"
      text := "Returns y if y < x; otherwise it returns x." },
    { function := "max"
      text := "Returns y if x < y; otherwise it returns x." },
    { function := "clamp"
      text := "Returns min(max(x, minVal), maxVal). Results are undefined if minVal > maxVal." }]

/-- Minima and maxima. -/
def bounds : Chapter where
  notes := boundsNotes
  sections := [
    .overloads [
      "float min(float x, float y);",
      "float min(float x, float y);",
      "float max(float x, float y);",
      "float max(float x, float y);",
      "float clamp(float x, float minVal, float maxVal);",
      "float clamp(float x, float minVal, float maxVal);",
      "float16_t min(float16_t x, float16_t y);",
      "float16_t min(float16_t x, float16_t y);",
      "float16_t max(float16_t x, float16_t y);",
      "float16_t max(float16_t x, float16_t y);",
      "float16_t clamp(float16_t x, float16_t minVal, float16_t maxVal);",
      "float16_t clamp(float16_t x, float16_t minVal, float16_t maxVal);",
      "double min(double x, double y);",
      "double min(double x, double y);",
      "double max(double x, double y);",
      "double max(double x, double y);",
      "double clamp(double x, double minVal, double maxVal);",
      "double clamp(double x, double minVal, double maxVal);",
      "int min(int x, int y);",
      "int min(int x, int y);",
      "int max(int x, int y);",
      "int max(int x, int y);",
      "int clamp(int x, int minVal, int maxVal);",
      "int clamp(int x, int minVal, int maxVal);",
      "int8_t min(int8_t x, int8_t y);",
      "int8_t min(int8_t x, int8_t y);",
      "int8_t max(int8_t x, int8_t y);",
      "int8_t max(int8_t x, int8_t y);",
      "int8_t clamp(int8_t x, int8_t minVal, int8_t maxVal);",
      "int8_t clamp(int8_t x, int8_t minVal, int8_t maxVal);",
      "int16_t min(int16_t x, int16_t y);",
      "int16_t min(int16_t x, int16_t y);",
      "int16_t max(int16_t x, int16_t y);",
      "int16_t max(int16_t x, int16_t y);",
      "int16_t clamp(int16_t x, int16_t minVal, int16_t maxVal);",
      "int16_t clamp(int16_t x, int16_t minVal, int16_t maxVal);",
      "int64_t min(int64_t x, int64_t y);",
      "int64_t min(int64_t x, int64_t y);",
      "int64_t max(int64_t x, int64_t y);",
      "int64_t max(int64_t x, int64_t y);",
      "int64_t clamp(int64_t x, int64_t minVal, int64_t maxVal);",
      "int64_t clamp(int64_t x, int64_t minVal, int64_t maxVal);",
      "uint min(uint x, uint y);",
      "uint min(uint x, uint y);",
      "uint max(uint x, uint y);",
      "uint max(uint x, uint y);",
      "uint clamp(uint x, uint minVal, uint maxVal);",
      "uint clamp(uint x, uint minVal, uint maxVal);",
      "uint8_t min(uint8_t x, uint8_t y);",
      "uint8_t min(uint8_t x, uint8_t y);",
      "uint8_t max(uint8_t x, uint8_t y);",
      "uint8_t max(uint8_t x, uint8_t y);",
      "uint8_t clamp(uint8_t x, uint8_t minVal, uint8_t maxVal);",
      "uint8_t clamp(uint8_t x, uint8_t minVal, uint8_t maxVal);",
      "uint16_t min(uint16_t x, uint16_t y);",
      "uint16_t min(uint16_t x, uint16_t y);",
      "uint16_t max(uint16_t x, uint16_t y);",
      "uint16_t max(uint16_t x, uint16_t y);",
      "uint16_t clamp(uint16_t x, uint16_t minVal, uint16_t maxVal);",
      "uint16_t clamp(uint16_t x, uint16_t minVal, uint16_t maxVal);",
      "uint64_t min(uint64_t x, uint64_t y);",
      "uint64_t min(uint64_t x, uint64_t y);",
      "uint64_t max(uint64_t x, uint64_t y);",
      "uint64_t max(uint64_t x, uint64_t y);",
      "uint64_t clamp(uint64_t x, uint64_t minVal, uint64_t maxVal);",
      "uint64_t clamp(uint64_t x, uint64_t minVal, uint64_t maxVal);",
      "vec2 min(vec2 x, vec2 y);",
      "vec2 min(vec2 x, float y);",
      "vec2 max(vec2 x, vec2 y);",
      "vec2 max(vec2 x, float y);",
      "vec2 clamp(vec2 x, vec2 minVal, vec2 maxVal);",
      "vec2 clamp(vec2 x, float minVal, float maxVal);",
      "f16vec2 min(f16vec2 x, f16vec2 y);",
      "f16vec2 min(f16vec2 x, float16_t y);",
      "f16vec2 max(f16vec2 x, f16vec2 y);",
      "f16vec2 max(f16vec2 x, float16_t y);",
      "f16vec2 clamp(f16vec2 x, f16vec2 minVal, f16vec2 maxVal);",
      "f16vec2 clamp(f16vec2 x, float16_t minVal, float16_t maxVal);",
      "dvec2 min(dvec2 x, dvec2 y);",
      "dvec2 min(dvec2 x, double y);",
      "dvec2 max(dvec2 x, dvec2 y);",
      "dvec2 max(dvec2 x, double y);",
      "dvec2 clamp(dvec2 x, dvec2 minVal, dvec2 maxVal);",
      "dvec2 clamp(dvec2 x, double minVal, double maxVal);",
      "ivec2 min(ivec2 x, ivec2 y);",
      "ivec2 min(ivec2 x, int y);",
      "ivec2 max(ivec2 x, ivec2 y);",
      "ivec2 max(ivec2 x, int y);",
      "ivec2 clamp(ivec2 x, ivec2 minVal, ivec2 maxVal);",
      "ivec2 clamp(ivec2 x, int minVal, int maxVal);",
      "i8vec2 min(i8vec2 x, i8vec2 y);",
      "i8vec2 min(i8vec2 x, int8_t y);",
      "i8vec2 max(i8vec2 x, i8vec2 y);",
      "i8vec2 max(i8vec2 x, int8_t y);",
      "i8vec2 clamp(i8vec2 x, i8vec2 minVal, i8vec2 maxVal);",
      "i8vec2 clamp(i8vec2 x, int8_t minVal, int8_t maxVal);",
      "i16vec2 min(i16vec2 x, i16vec2 y);",
      "i16vec2 min(i16vec2 x, int16_t y);",
      "i16vec2 max(i16vec2 x, i16vec2 y);",
      "i16vec2 max(i16vec2 x, int16_t y);",
      "i16vec2 clamp(i16vec2 x, i16vec2 minVal, i16vec2 maxVal);",
      "i16vec2 clamp(i16vec2 x, int16_t minVal, int16_t maxVal);",
      "i64vec2 min(i64vec2 x, i64vec2 y);",
      "i64vec2 min(i64vec2 x, int64_t y);",
      "i64vec2 max(i64vec2 x, i64vec2 y);",
      "i64vec2 max(i64vec2 x, int64_t y);",
      "i64vec2 clamp(i64vec2 x, i64vec2 minVal, i64vec2 maxVal);",
      "i64vec2 clamp(i64vec2 x, int64_t minVal, int64_t maxVal);",
      "uvec2 min(uvec2 x, uvec2 y);",
      "uvec2 min(uvec2 x, uint y);",
      "uvec2 max(uvec2 x, uvec2 y);",
      "uvec2 max(uvec2 x, uint y);",
      "uvec2 clamp(uvec2 x, uvec2 minVal, uvec2 maxVal);",
      "uvec2 clamp(uvec2 x, uint minVal, uint maxVal);",
      "u8vec2 min(u8vec2 x, u8vec2 y);",
      "u8vec2 min(u8vec2 x, uint8_t y);",
      "u8vec2 max(u8vec2 x, u8vec2 y);",
      "u8vec2 max(u8vec2 x, uint8_t y);",
      "u8vec2 clamp(u8vec2 x, u8vec2 minVal, u8vec2 maxVal);",
      "u8vec2 clamp(u8vec2 x, uint8_t minVal, uint8_t maxVal);",
      "u16vec2 min(u16vec2 x, u16vec2 y);",
      "u16vec2 min(u16vec2 x, uint16_t y);",
      "u16vec2 max(u16vec2 x, u16vec2 y);",
      "u16vec2 max(u16vec2 x, uint16_t y);",
      "u16vec2 clamp(u16vec2 x, u16vec2 minVal, u16vec2 maxVal);",
      "u16vec2 clamp(u16vec2 x, uint16_t minVal, uint16_t maxVal);",
      "u64vec2 min(u64vec2 x, u64vec2 y);",
      "u64vec2 min(u64vec2 x, uint64_t y);",
      "u64vec2 max(u64vec2 x, u64vec2 y);",
      "u64vec2 max(u64vec2 x, uint64_t y);",
      "u64vec2 clamp(u64vec2 x, u64vec2 minVal, u64vec2 maxVal);",
      "u64vec2 clamp(u64vec2 x, uint64_t minVal, uint64_t maxVal);",
      "vec3 min(vec3 x, vec3 y);",
      "vec3 min(vec3 x, float y);",
      "vec3 max(vec3 x, vec3 y);",
      "vec3 max(vec3 x, float y);",
      "vec3 clamp(vec3 x, vec3 minVal, vec3 maxVal);",
      "vec3 clamp(vec3 x, float minVal, float maxVal);",
      "f16vec3 min(f16vec3 x, f16vec3 y);",
      "f16vec3 min(f16vec3 x, float16_t y);",
      "f16vec3 max(f16vec3 x, f16vec3 y);",
      "f16vec3 max(f16vec3 x, float16_t y);",
      "f16vec3 clamp(f16vec3 x, f16vec3 minVal, f16vec3 maxVal);",
      "f16vec3 clamp(f16vec3 x, float16_t minVal, float16_t maxVal);",
      "dvec3 min(dvec3 x, dvec3 y);",
      "dvec3 min(dvec3 x, double y);",
      "dvec3 max(dvec3 x, dvec3 y);",
      "dvec3 max(dvec3 x, double y);",
      "dvec3 clamp(dvec3 x, dvec3 minVal, dvec3 maxVal);",
      "dvec3 clamp(dvec3 x, double minVal, double maxVal);",
      "ivec3 min(ivec3 x, ivec3 y);",
      "ivec3 min(ivec3 x, int y);",
      "ivec3 max(ivec3 x, ivec3 y);",
      "ivec3 max(ivec3 x, int y);",
      "ivec3 clamp(ivec3 x, ivec3 minVal, ivec3 maxVal);",
      "ivec3 clamp(ivec3 x, int minVal, int maxVal);",
      "i8vec3 min(i8vec3 x, i8vec3 y);",
      "i8vec3 min(i8vec3 x, int8_t y);",
      "i8vec3 max(i8vec3 x, i8vec3 y);",
      "i8vec3 max(i8vec3 x, int8_t y);",
      "i8vec3 clamp(i8vec3 x, i8vec3 minVal, i8vec3 maxVal);",
      "i8vec3 clamp(i8vec3 x, int8_t minVal, int8_t maxVal);",
      "i16vec3 min(i16vec3 x, i16vec3 y);",
      "i16vec3 min(i16vec3 x, int16_t y);",
      "i16vec3 max(i16vec3 x, i16vec3 y);",
      "i16vec3 max(i16vec3 x, int16_t y);",
      "i16vec3 clamp(i16vec3 x, i16vec3 minVal, i16vec3 maxVal);",
      "i16vec3 clamp(i16vec3 x, int16_t minVal, int16_t maxVal);",
      "i64vec3 min(i64vec3 x, i64vec3 y);",
      "i64vec3 min(i64vec3 x, int64_t y);",
      "i64vec3 max(i64vec3 x, i64vec3 y);",
      "i64vec3 max(i64vec3 x, int64_t y);",
      "i64vec3 clamp(i64vec3 x, i64vec3 minVal, i64vec3 maxVal);",
      "i64vec3 clamp(i64vec3 x, int64_t minVal, int64_t maxVal);",
      "uvec3 min(uvec3 x, uvec3 y);",
      "uvec3 min(uvec3 x, uint y);",
      "uvec3 max(uvec3 x, uvec3 y);",
      "uvec3 max(uvec3 x, uint y);",
      "uvec3 clamp(uvec3 x, uvec3 minVal, uvec3 maxVal);",
      "uvec3 clamp(uvec3 x, uint minVal, uint maxVal);",
      "u8vec3 min(u8vec3 x, u8vec3 y);",
      "u8vec3 min(u8vec3 x, uint8_t y);",
      "u8vec3 max(u8vec3 x, u8vec3 y);",
      "u8vec3 max(u8vec3 x, uint8_t y);",
      "u8vec3 clamp(u8vec3 x, u8vec3 minVal, u8vec3 maxVal);",
      "u8vec3 clamp(u8vec3 x, uint8_t minVal, uint8_t maxVal);",
      "u16vec3 min(u16vec3 x, u16vec3 y);",
      "u16vec3 min(u16vec3 x, uint16_t y);",
      "u16vec3 max(u16vec3 x, u16vec3 y);",
      "u16vec3 max(u16vec3 x, uint16_t y);",
      "u16vec3 clamp(u16vec3 x, u16vec3 minVal, u16vec3 maxVal);",
      "u16vec3 clamp(u16vec3 x, uint16_t minVal, uint16_t maxVal);",
      "u64vec3 min(u64vec3 x, u64vec3 y);",
      "u64vec3 min(u64vec3 x, uint64_t y);",
      "u64vec3 max(u64vec3 x, u64vec3 y);",
      "u64vec3 max(u64vec3 x, uint64_t y);",
      "u64vec3 clamp(u64vec3 x, u64vec3 minVal, u64vec3 maxVal);",
      "u64vec3 clamp(u64vec3 x, uint64_t minVal, uint64_t maxVal);",
      "vec4 min(vec4 x, vec4 y);",
      "vec4 min(vec4 x, float y);",
      "vec4 max(vec4 x, vec4 y);",
      "vec4 max(vec4 x, float y);",
      "vec4 clamp(vec4 x, vec4 minVal, vec4 maxVal);",
      "vec4 clamp(vec4 x, float minVal, float maxVal);",
      "f16vec4 min(f16vec4 x, f16vec4 y);",
      "f16vec4 min(f16vec4 x, float16_t y);",
      "f16vec4 max(f16vec4 x, f16vec4 y);",
      "f16vec4 max(f16vec4 x, float16_t y);",
      "f16vec4 clamp(f16vec4 x, f16vec4 minVal, f16vec4 maxVal);",
      "f16vec4 clamp(f16vec4 x, float16_t minVal, float16_t maxVal);",
      "dvec4 min(dvec4 x, dvec4 y);",
      "dvec4 min(dvec4 x, double y);",
      "dvec4 max(dvec4 x, dvec4 y);",
      "dvec4 max(dvec4 x, double y);",
      "dvec4 clamp(dvec4 x, dvec4 minVal, dvec4 maxVal);",
      "dvec4 clamp(dvec4 x, double minVal, double maxVal);",
      "ivec4 min(ivec4 x, ivec4 y);",
      "ivec4 min(ivec4 x, int y);",
      "ivec4 max(ivec4 x, ivec4 y);",
      "ivec4 max(ivec4 x, int y);",
      "ivec4 clamp(ivec4 x, ivec4 minVal, ivec4 maxVal);",
      "ivec4 clamp(ivec4 x, int minVal, int maxVal);",
      "i8vec4 min(i8vec4 x, i8vec4 y);",
      "i8vec4 min(i8vec4 x, int8_t y);",
      "i8vec4 max(i8vec4 x, i8vec4 y);",
      "i8vec4 max(i8vec4 x, int8_t y);",
      "i8vec4 clamp(i8vec4 x, i8vec4 minVal, i8vec4 maxVal);",
      "i8vec4 clamp(i8vec4 x, int8_t minVal, int8_t maxVal);",
      "i16vec4 min(i16vec4 x, i16vec4 y);",
      "i16vec4 min(i16vec4 x, int16_t y);",
      "i16vec4 max(i16vec4 x, i16vec4 y);",
      "i16vec4 max(i16vec4 x, int16_t y);",
      "i16vec4 clamp(i16vec4 x, i16vec4 minVal, i16vec4 maxVal);",
      "i16vec4 clamp(i16vec4 x, int16_t minVal, int16_t maxVal);",
      "i64vec4 min(i64vec4 x, i64vec4 y);",
      "i64vec4 min(i64vec4 x, int64_t y);",
      "i64vec4 max(i64vec4 x, i64vec4 y);",
      "i64vec4 max(i64vec4 x, int64_t y);",
      "i64vec4 clamp(i64vec4 x, i64vec4 minVal, i64vec4 maxVal);",
      "i64vec4 clamp(i64vec4 x, int64_t minVal, int64_t maxVal);",
      "uvec4 min(uvec4 x, uvec4 y);",
      "uvec4 min(uvec4 x, uint y);",
      "uvec4 max(uvec4 x, uvec4 y);",
      "uvec4 max(uvec4 x, uint y);",
      "uvec4 clamp(uvec4 x, uvec4 minVal, uvec4 maxVal);",
      "uvec4 clamp(uvec4 x, uint minVal, uint maxVal);",
      "u8vec4 min(u8vec4 x, u8vec4 y);",
      "u8vec4 min(u8vec4 x, uint8_t y);",
      "u8vec4 max(u8vec4 x, u8vec4 y);",
      "u8vec4 max(u8vec4 x, uint8_t y);",
      "u8vec4 clamp(u8vec4 x, u8vec4 minVal, u8vec4 maxVal);",
      "u8vec4 clamp(u8vec4 x, uint8_t minVal, uint8_t maxVal);",
      "u16vec4 min(u16vec4 x, u16vec4 y);",
      "u16vec4 min(u16vec4 x, uint16_t y);",
      "u16vec4 max(u16vec4 x, u16vec4 y);",
      "u16vec4 max(u16vec4 x, uint16_t y);",
      "u16vec4 clamp(u16vec4 x, u16vec4 minVal, u16vec4 maxVal);",
      "u16vec4 clamp(u16vec4 x, uint16_t minVal, uint16_t maxVal);",
      "u64vec4 min(u64vec4 x, u64vec4 y);",
      "u64vec4 min(u64vec4 x, uint64_t y);",
      "u64vec4 max(u64vec4 x, u64vec4 y);",
      "u64vec4 max(u64vec4 x, uint64_t y);",
      "u64vec4 clamp(u64vec4 x, u64vec4 minVal, u64vec4 maxVal);",
      "u64vec4 clamp(u64vec4 x, uint64_t minVal, uint64_t maxVal);"]]

end Prelude

end GlslPrelude
