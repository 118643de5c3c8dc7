import GlslPrelude.Prelude.Layout

/-!
# Invocations

Barriers between invocations, subpass inputs and votes.
-/

namespace GlslPrelude

namespace Prelude

open Section

/-- Documentation of the functions of `invocation`. -/
def invocationNotes : List Note := [
    { function := "barrier"
      text := "For any given static instance of **barrier**(), all tessellation control shader " ++
        "invocations for a single input patch must enter it before any will be allowed to " ++
        "continue beyond it, or all compute shader invocations for a single workgroup " ++
        "must enter it before any will continue beyond it." },
    { function := "memoryBarrier"
      text := "Control the ordering of memory transactions issued by a single shader " ++
        "invocation.\n" ++
        "\n" ++
        "When called, this function will wait for the completion of all reads and writes " ++
        "to atomic counter, buffer, image, and shared variables previously performed by " ++
        "the caller, and then return with no other effect." },
    { function := "memoryBarrierAtomicCounter"
      text := "Control the ordering of accesses to atomic-counter variables issued by a single " ++
        "shader invocation.\n" ++
        "\n" ++
        "When called, this function will wait for the completion of all reads and writes " ++
        "to atomic counter variables previously performed by the caller, and then return " ++
        "with no other effect." },
    { function := "memoryBarrierBuffer"
      text := "Control the ordering of memory transactions to buffer variables issued within a " ++
        "single shader invocation.\n" ++
        "\n" ++
        "When called, this function will wait for the completion of all reads and writes " ++
        "to buffer variables previously performed by the caller, and then return with no " ++
        "other effect." },
    { function := "memoryBarrierShared"
      text := "Control the ordering of memory transactions to shared variables issued within a " ++
        "single shader invocation, as viewed by other invocations in the same " ++
        "workgroup.\n" ++
        "\n" ++
        "When called, this function will wait for the completion of all reads and writes " ++
        "to shared variables previously performed by the caller, and then return with no " ++
        "other effect.\n" ++
        "\n" ++
        "Only available in compute shaders." },
    { function := "memoryBarrierImage"
      text := "Control the ordering of memory transactions to images issued within a single " ++
        "shader invocation.\n" ++
        "\n" ++
        "When called, this function will wait for the completion of all reads and writes " ++
        "to image variables previously performed by the caller, and then return with no " ++
        "other effect." },
    { function := "groupMemoryBarrier"
      text := "Control the ordering of all memory transactions issued within a single shader " ++
        "invocation, as viewed by other invocations in the same workgroup.\n" ++
        "\n" ++
        "When called, this function will wait for the completion of all reads and writes " ++
        "to atomic counter, buffer, image, and shared variables previously performed by " ++
        "the caller, and then return with no other effect.\n" ++
        "\n" ++
        "Only available in compute shaders." },
    { function := "subpassLoad"
      text := "Read from a subpass input, from the implicit location (x, y, layer) of the " ++
        "current fragment coordinate." },
    { function := "anyInvocation"
      text := "Returns true if and only if value is true for at least one active invocation in " ++
        "the group." },
    { function := "allInvocations"
      text := "Returns true if and only if value is true for all active invocations in the " ++
        "group." },
    { function := "allInvocationsEqual"
      text := "Returns true if value is the same for all active invocations in the group." }]

/-- Barriers between invocations, subpass inputs and votes. -/
def invocation : Chapter where
  notes := invocationNotes
  sections := [
    .overloads [
      "void barrier();",
      "void memoryBarrier();",
      "void memoryBarrierAtomicCounter();",
      "void memoryBarrierBuffer();",
      "void memoryBarrierShared();",
      "void memoryBarrierImage();",
      "void groupMemoryBarrier();",
      "vec4 subpassLoad(subpassInput subpass);",
      "vec4 subpassLoad(subpassInputMS subpass, int sample);",
      "ivec4 subpassLoad(isubpassInput subpass);",
      "ivec4 subpassLoad(isubpassInputMS subpass, int sample);",
      "uvec4 subpassLoad(usubpassInput subpass);",
      "uvec4 subpassLoad(usubpassInputMS subpass, int sample);",
      "bool anyInvocation(bool value);",
      "bool allInvocations(bool value);",
      "bool allInvocationsEqual(bool value);"]]

end Prelude

end GlslPrelude
