import GlslPrelude.Prelude.Layout

/-!
# Primitives

Emission of vertices by geometry shaders.
-/

namespace GlslPrelude

namespace Prelude

open Section

/-- Documentation of the functions of `primitives`. -/
def primitivesNotes : List Note := [
    { function := "EmitStreamVertex"
      text := "Emits the current values of output variables to the current output primitive on " ++
        "stream *stream*.\n" ++
        "The argument to *stream* must be a constant integral expression.\n" ++
        "On return from this call, the values of all output variables are undefined.\n" ++
        "Can only be used if multiple output streams are supported." },
    { function := "EndStreamPrimitive"
      text := "Completes the current output primitive on stream *stream* and starts a new " ++
        "one.\n" ++
        "The argument to *stream* must be a constant integral expression.\n" ++
        "No vertex is emitted.\n" ++
        "Can only be used if multiple output streams are supported." },
    { function := "EmitVertex"
      text := "Emits the current values of output variables to the current output primitive.\n" ++
        "When multiple output streams are supported, this is equivalent to calling " ++
        "**EmitStreamVertex**(0).\n" ++
        "On return from this call, the values of output variables are undefined." },
    { function := "EndPrimitive"
      text := "Completes the current output primitive and starts a new one.\n" ++
        "When multiple output streams are supported, this is equivalent to calling " ++
        "**EndStreamPrimitive**(0).\n" ++
        "No vertex is emitted." }]

/-- Emission of vertices by geometry shaders. -/
def primitives : Chapter where
  notes := primitivesNotes
  sections := [
    .when (inStage [.geometry]) [
      .lines [
        "void EmitStreamVertex(int stream);",
        "void EndStreamPrimitive(int stream);",
        "void EmitVertex();",
        "void EndPrimitive();"]]]

end Prelude

end GlslPrelude
