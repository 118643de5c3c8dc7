import GlslPrelude.Prelude.Layout

/-!
# Geometry

Lengths, distances and products of vectors.
-/

namespace GlslPrelude

namespace Prelude

open Section

/-- Documentation of the functions of `geometry`. -/
def geometryNotes : List Note := [
    { function := "length"
      text := "Returns the length of vector x, i.e., sqrt(x[0]^2 + x[1]^2 + …\u200b)." },
    { function := "distance"
      text := "Returns the distance between p0 and p1, i.e., length(p0 - p1)." },
    { function := "dot"
      text := "Returns the dot product of x and y, i.e., x[0] · y[0] + x[1] · y[1] + …\u200b" },
    { function := "normalize"
      text := "Returns a vector in the same direction as x but with a length of 1, i.e. x / " ++
        "length(x)." },
    { function := "faceforward"
      text := "If dot(Nref, I) < 0 return N, otherwise return -N." },
    { function := "reflect"
      text := "For the incident vector I and surface orientation N, returns the reflection " ++
        "direction: I - 2 · dot(N, I) · N. N must already be normalized in order to " ++
        "achieve the desired result." },
    { function := "refract"
      text := "For the incident vector I and surface normal N, and the ratio of indices of " ++
        "refraction eta, return the refraction vector.\n" ++
        "\n" ++
        "The result is computed by the refraction equation.\n" ++
        "\n" ++
        "The input parameters for the incident vector I and the surface normal N must " ++
        "already be normalized to get the desired results." },
    { function := "cross"
      text := "Returns the cross product of x and y, i.e., (x[1] · y[2] - y[1] · x[2], x[2] · " ++
        "y[0] - y[2] · x[0], x[0] · y[1] - y[0] · x[1])." }]

/-- Lengths, distances and products of vectors. -/
def geometry : Chapter where
  notes := geometryNotes
  sections := [
    .overloads [
      "float length(float x);",
      "float distance(float p0, float p1);",
      "float dot(float x, float y);",
      "float normalize(float x);",
      "float faceforward(float N, float I, float Nref);",
      "float reflect(float I, float N);",
      "float refract(float I, float N, float eta);",
      "float16_t length(float16_t x);",
      "float16_t distance(float16_t p0, float16_t p1);",
      "float16_t dot(float16_t x, float16_t y);",
      "float16_t normalize(float16_t x);",
      "float16_t faceforward(float16_t N, float16_t I, float16_t Nref);",
      "float16_t reflect(float16_t I, float16_t N);",
      "float16_t refract(float16_t I, float16_t N, float16_t eta);",
      "double length(double x);",
      "double distance(double p0, double p1);",
      "double dot(double x, double y);",
      "double normalize(double x);",
      "double faceforward(double N, double I, double Nref);",
      "double reflect(double I, double N);",
      "double refract(double I, double N, double eta);",
      "float length(vec2 x);",
      "float distance(vec2 p0, vec2 p1);",
      "float dot(vec2 x, vec2 y);",
      "vec2 normalize(vec2 x);",
      "vec2 faceforward(vec2 N, vec2 I, vec2 Nref);",
      "vec2 reflect(vec2 I, vec2 N);",
      "vec2 refract(vec2 I, vec2 N, float eta);",
      "float16_t length(f16vec2 x);",
      "float16_t distance(f16vec2 p0, f16vec2 p1);",
      "float16_t dot(f16vec2 x, f16vec2 y);",
      "f16vec2 normalize(f16vec2 x);",
      "f16vec2 faceforward(f16vec2 N, f16vec2 I, f16vec2 Nref);",
      "f16vec2 reflect(f16vec2 I, f16vec2 N);",
      "f16vec2 refract(f16vec2 I, f16vec2 N, float16_t eta);",
      "double length(dvec2 x);",
      "double distance(dvec2 p0, dvec2 p1);",
      "double dot(dvec2 x, dvec2 y);",
      "dvec2 normalize(dvec2 x);",
      "dvec2 faceforward(dvec2 N, dvec2 I, dvec2 Nref);",
      "dvec2 reflect(dvec2 I, dvec2 N);",
      "dvec2 refract(dvec2 I, dvec2 N, double eta);",
      "float length(vec3 x);",
      "float distance(vec3 p0, vec3 p1);",
      "float dot(vec3 x, vec3 y);",
      "vec3 normalize(vec3 x);",
      "vec3 faceforward(vec3 N, vec3 I, vec3 Nref);",
      "vec3 reflect(vec3 I, vec3 N);",
      "vec3 refract(vec3 I, vec3 N, float eta);",
      "float16_t length(f16vec3 x);",
      "float16_t distance(f16vec3 p0, f16vec3 p1);",
      "float16_t dot(f16vec3 x, f16vec3 y);",
      "f16vec3 normalize(f16vec3 x);",
      "f16vec3 faceforward(f16vec3 N, f16vec3 I, f16vec3 Nref);",
      "f16vec3 reflect(f16vec3 I, f16vec3 N);",
      "f16vec3 refract(f16vec3 I, f16vec3 N, float16_t eta);",
      "double length(dvec3 x);",
      "double distance(dvec3 p0, dvec3 p1);",
      "double dot(dvec3 x, dvec3 y);",
      "dvec3 normalize(dvec3 x);",
      "dvec3 faceforward(dvec3 N, dvec3 I, dvec3 Nref);",
      "dvec3 reflect(dvec3 I, dvec3 N);",
      "dvec3 refract(dvec3 I, dvec3 N, double eta);",
      "float length(vec4 x);",
      "float distance(vec4 p0, vec4 p1);",
      "float dot(vec4 x, vec4 y);",
      "vec4 normalize(vec4 x);",
      "vec4 faceforward(vec4 N, vec4 I, vec4 Nref);",
      "vec4 reflect(vec4 I, vec4 N);",
      "vec4 refract(vec4 I, vec4 N, float eta);",
      "float16_t length(f16vec4 x);",
      "float16_t distance(f16vec4 p0, f16vec4 p1);",
      "float16_t dot(f16vec4 x, f16vec4 y);",
      "f16vec4 normalize(f16vec4 x);",
      "f16vec4 faceforward(f16vec4 N, f16vec4 I, f16vec4 Nref);",
      "f16vec4 reflect(f16vec4 I, f16vec4 N);",
      "f16vec4 refract(f16vec4 I, f16vec4 N, float16_t eta);",
      "double length(dvec4 x);",
      "double distance(dvec4 p0, dvec4 p1);",
      "double dot(dvec4 x, dvec4 y);",
      "dvec4 normalize(dvec4 x);",
      "dvec4 faceforward(dvec4 N, dvec4 I, dvec4 Nref);",
      "dvec4 reflect(dvec4 I, dvec4 N);",
      "dvec4 refract(dvec4 I, dvec4 N, double eta);",
      "vec3 cross(vec3 x, vec3 y);",
      "dvec3 cross(dvec3 x, dvec3 y);"]]

end Prelude

end GlslPrelude
