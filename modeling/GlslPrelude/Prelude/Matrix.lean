import GlslPrelude.Prelude.Layout

/-!
# Matrices

Functions of matrices.
-/

namespace GlslPrelude

namespace Prelude

open Section

/-- Documentation of the functions of `matrix`. -/
def matrixNotes : List Note := [
    { function := "ftransform"
      text := "Available only when using the compatibility profile. For core OpenGL, use " ++
        "invariant.\n" ++
        "\n" ++
        "For vertex shaders only. This function will ensure that the incoming vertex " ++
        "value will be transformed in a way that produces exactly the same result as " ++
        "would be produced by OpenGL's fixed functionality transform. It is intended to " ++
        "be used to compute gl_Position, e.g.\n" ++
        "\n" ++
        "`gl_Position = ftransform()`\n" ++
        "\n" ++
        "This function should be used, for example, when an application is rendering the " ++
        "same geometry in separate passes, and one pass uses the fixed functionality path " ++
        "to render and another pass uses programmable shaders." },
    { function := "matrixCompMult"
      text := "Multiply matrix *x* by matrix *y* component-wise, i.e., result[i][j] is the " ++
        "scalar product of *x*[i][j] and *y*[i][j].\n" ++
        "\n" ++
        "Note: to get linear algebraic matrix multiplication, use the multiply operator " ++
        "(*)." },
    { function := "outerProduct"
      text := "Treats the first parameter *c* as a column vector (matrix with one column) and " ++
        "the second parameter *r* as a row vector (matrix with one row) and does a linear " ++
        "algebraic matrix multiply *c* * *r*, yielding a matrix whose number of rows is " ++
        "the number of components in *c* and whose number of columns is the number of " ++
        "components in *r*." },
    { function := "transpose"
      text := "Returns a matrix that is the transpose of *m*. The input matrix *m* is not " ++
        "modified." },
    { function := "determinant"
      text := "Returns the determinant of *m*." },
    { function := "inverse"
      text := "Returns a matrix that is the inverse of *m*. The input matrix *m* is not " ++
        "modified. The values in the returned matrix are undefined if *m* is singular or " ++
        "poorly-conditioned (nearly singular)." }]

/-- Functions of matrices. -/
def matrix : Chapter where
  notes := matrixNotes
  sections := [
    .overloads [
      "vec4 ftransform();",
      "mat2 matrixCompMult(mat2 x, mat2 y);",
      "mat2 outerProduct(vec2 c, vec2 r);",
      "mat2 transpose(mat2 m);",
      "float determinant(mat2 m);",
      "mat2 inverse(mat2 m);"],
    .when (enabled .float16Type) [
      .lines [
        "f16mat2 matrixCompMult(f16mat2 x, f16mat2 y);",
        "f16mat2 outerProduct(f16vec2 c, f16vec2 r);",
        "f16mat2 transpose(f16mat2 m);",
        "float16_t determinant(f16mat2 m);",
        "f16mat2 inverse(f16mat2 m);"]],
    .overloads [
      "dmat2 matrixCompMult(dmat2 x, dmat2 y);",
      "dmat2 outerProduct(dvec2 c, dvec2 r);",
      "dmat2 transpose(dmat2 m);",
      "double determinant(dmat2 m);",
      "dmat2 inverse(dmat2 m);",
      "mat2x3 matrixCompMult(mat2x3 x, mat2x3 y);",
      "mat2x3 outerProduct(vec2 c, vec3 r);",
      "mat3x2 transpose(mat2x3 m);"],
    .when (enabled .float16Type) [
      .lines [
        "f16mat2x3 matrixCompMult(f16mat2x3 x, f16mat2x3 y);",
        "f16mat2x3 outerProduct(f16vec2 c, f16vec3 r);",
        "f16mat3x2 transpose(f16mat2x3 m);"]],
    .overloads [
      "dmat2x3 matrixCompMult(dmat2x3 x, dmat2x3 y);",
      "dmat2x3 outerProduct(dvec2 c, dvec3 r);",
      "dmat3x2 transpose(dmat2x3 m);",
      "mat2x4 matrixCompMult(mat2x4 x, mat2x4 y);",
      "mat2x4 outerProduct(vec2 c, vec4 r);",
      "mat4x2 transpose(mat2x4 m);"],
    .when (enabled .float16Type) [
      .lines [
        "f16mat2x4 matrixCompMult(f16mat2x4 x, f16mat2x4 y);",
        "f16mat2x4 outerProduct(f16vec2 c, f16vec4 r);",
        "f16mat4x2 transpose(f16mat2x4 m);"]],
    .overloads [
      "dmat2x4 matrixCompMult(dmat2x4 x, dmat2x4 y);",
      "dmat2x4 outerProduct(dvec2 c, dvec4 r);",
      "dmat4x2 transpose(dmat2x4 m);",
      "mat3x2 matrixCompMult(mat3x2 x, mat3x2 y);",
      "mat3x2 outerProduct(vec3 c, vec2 r);",
      "mat2x3 transpose(mat3x2 m);"],
    .when (enabled .float16Type) [
      .lines [
        "f16mat3x2 matrixCompMult(f16mat3x2 x, f16mat3x2 y);",
        "f16mat3x2 outerProduct(f16vec3 c, f16vec2 r);",
        "f16mat2x3 transpose(f16mat3x2 m);"]],
    .overloads [
      "dmat3x2 matrixCompMult(dmat3x2 x, dmat3x2 y);",
      "dmat3x2 outerProduct(dvec3 c, dvec2 r);",
      "dmat2x3 transpose(dmat3x2 m);",
      "mat3 matrixCompMult(mat3 x, mat3 y);",
      "mat3 outerProduct(vec3 c, vec3 r);",
      "mat3 transpose(mat3 m);",
      "float determinant(mat3 m);",
      "mat3 inverse(mat3 m);"],
    .when (enabled .float16Type) [
      .lines [
        "f16mat3 matrixCompMult(f16mat3 x, f16mat3 y);",
        "f16mat3 outerProduct(f16vec3 c, f16vec3 r);",
        "f16mat3 transpose(f16mat3 m);",
        "float16_t determinant(f16mat3 m);",
        "f16mat3 inverse(f16mat3 m);"]],
    .overloads [
      "dmat3 matrixCompMult(dmat3 x, dmat3 y);",
      "dmat3 outerProduct(dvec3 c, dvec3 r);",
      "dmat3 transpose(dmat3 m);",
      "double determinant(dmat3 m);",
      "dmat3 inverse(dmat3 m);",
      "mat3x4 matrixCompMult(mat3x4 x, mat3x4 y);",
      "mat3x4 outerProduct(vec3 c, vec4 r);",
      "mat4x3 transpose(mat3x4 m);"],
    .when (enabled .float16Type) [
      .lines [
        "f16mat3x4 matrixCompMult(f16mat3x4 x, f16mat3x4 y);",
        "f16mat3x4 outerProduct(f16vec3 c, f16vec4 r);",
        "f16mat4x3 transpose(f16mat3x4 m);"]],
    .overloads [
      "dmat3x4 matrixCompMult(dmat3x4 x, dmat3x4 y);",
      "dmat3x4 outerProduct(dvec3 c, dvec4 r);",
      "dmat4x3 transpose(dmat3x4 m);",
      "mat4x2 matrixCompMult(mat4x2 x, mat4x2 y);",
      "mat4x2 outerProduct(vec4 c, vec2 r);",
      "mat2x4 transpose(mat4x2 m);"],
    .when (enabled .float16Type) [
      .lines [
        "f16mat4x2 matrixCompMult(f16mat4x2 x, f16mat4x2 y);",
        "f16mat4x2 outerProduct(f16vec4 c, f16vec2 r);",
        "f16mat2x4 transpose(f16mat4x2 m);"]],
    .overloads [
      "dmat4x2 matrixCompMult(dmat4x2 x, dmat4x2 y);",
      "dmat4x2 outerProduct(dvec4 c, dvec2 r);",
      "dmat2x4 transpose(dmat4x2 m);",
      "mat4x3 matrixCompMult(mat4x3 x, mat4x3 y);",
      "mat4x3 outerProduct(vec4 c, vec3 r);",
      "mat3x4 transpose(mat4x3 m);"],
    .when (enabled .float16Type) [
      .lines [
        "f16mat4x3 matrixCompMult(f16mat4x3 x, f16mat4x3 y);",
        "f16mat4x3 outerProduct(f16vec4 c, f16vec3 r);",
        "f16mat3x4 transpose(f16mat4x3 m);"]],
    .overloads [
      "dmat4x3 matrixCompMult(dmat4x3 x, dmat4x3 y);",
      "dmat4x3 outerProduct(dvec4 c, dvec3 r);",
      "dmat3x4 transpose(dmat4x3 m);",
      "mat4 matrixCompMult(mat4 x, mat4 y);",
      "mat4 outerProduct(vec4 c, vec4 r);",
      "mat4 transpose(mat4 m);",
      "float determinant(mat4 m);",
      "mat4 inverse(mat4 m);"],
    .when (enabled .float16Type) [
      .lines [
        "f16mat4 matrixCompMult(f16mat4 x, f16mat4 y);",
        "f16mat4 outerProduct(f16vec4 c, f16vec4 r);",
        "f16mat4 transpose(f16mat4 m);",
        "float16_t determinant(f16mat4 m);",
        "f16mat4 inverse(f16mat4 m);"]],
    .overloads [
      "dmat4 matrixCompMult(dmat4 x, dmat4 y);",
      "dmat4 outerProduct(dvec4 c, dvec4 r);",
      "dmat4 transpose(dmat4 m);",
      "double determinant(dmat4 m);",
      "dmat4 inverse(dmat4 m);"]]

end Prelude

end GlslPrelude
