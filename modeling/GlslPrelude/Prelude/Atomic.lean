import GlslPrelude.Prelude.Layout

/-!
# Atomic memory

Atomic counters and atomic operations on memory.
-/

namespace GlslPrelude

namespace Prelude

open Section

/-- Documentation of the functions of `atomic`. -/
def atomicNotes : List Note := [
    { function := "atomicCounterIncrement"
      text := "Atomically\n" ++
        "\n" ++
        "1. increments the counter for *c*, and\n" ++
        "2. returns its value prior to the increment operation.\n" ++
        "\n" ++
        "These two steps are done atomically with respect to the atomic counter functions " ++
        "in this table." },
    { function := "atomicCounterDecrement"
      text := "Atomically\n" ++
        "\n" ++
        "1. decrements the counter for *c*, and\n" ++
        "2. returns the value resulting from the decrement operation.\n" ++
        "\n" ++
        "These two steps are done atomically with respect to the atomic counter functions " ++
        "in this table." },
    { function := "atomicCounter"
      text := "Returns the counter value for *c*." },
    { function := "atomicCounterAdd"
      text := "Atomically\n" ++
        "\n" ++
        "1. adds the value of *data* to the counter for *c*, and\n" ++
        "2. returns its value prior to the operation.\n" ++
        "\n" ++
        "These two steps are done atomically with respect to the atomic counter functions " ++
        "in this table." },
    { function := "atomicCounterSubtract"
      text := "Atomically\n" ++
        "\n" ++
        "1. subtracts the value of *data* from the counter for *c*, and\n" ++
        "2. returns its value prior to the operation.\n" ++
        "\n" ++
        "These two steps are done atomically with respect to the atomic counter functions " ++
        "in this table." },
    { function := "atomicCounterMin"
      text := "Atomically\n" ++
        "\n" ++
        "1. sets the counter for *c* to the minimum of the value of the counter and the " ++
        "value of *data*, and\n" ++
        "2. returns the value prior to the operation.\n" ++
        "\n" ++
        "These two steps are done atomically with respect to the atomic counter functions " ++
        "in this table." },
    { function := "atomicCounterMax"
      text := "Atomically\n" ++
        "\n" ++
        "1. sets the counter for *c* to the maximum of the value of the counter and the " ++
        "value of *data*, and\n" ++
        "2. returns the value prior to the operation.\n" ++
        "\n" ++
        "These two steps are done atomically with respect to the atomic counter functions " ++
        "in this table." },
    { function := "atomicCounterAnd"
      text := "Atomically\n" ++
        "\n" ++
        "1. sets the counter for *c* to the bitwise AND of the value of the counter and " ++
        "the value of *data*, and\n" ++
        "2. returns the value prior to the operation.\n" ++
        "\n" ++
        "These two steps are done atomically with respect to the atomic counter functions " ++
        "in this table." },
    { function := "atomicCounterOr"
      text := "Atomically\n" ++
        "\n" ++
        "1. sets the counter for *c* to the bitwise OR of the value of the counter and " ++
        "the value of *data*, and\n" ++
        "2. returns the value prior to the operation.\n" ++
        "\n" ++
        "These two steps are done atomically with respect to the atomic counter functions " ++
        "in this table." },
    { function := "atomicCounterXor"
      text := "Atomically\n" ++
        "\n" ++
        "1. sets the counter for *c* to the bitwise XOR of the value of the counter and " ++
        "the value of *data*, and\n" ++
        "2. returns the value prior to the operation.\n" ++
        "\n" ++
        "These two steps are done atomically with respect to the atomic counter functions " ++
        "in this table." },
    { function := "atomicCounterExchange"
      text := "Atomically\n" ++
        "\n" ++
        "1. sets the counter value for *c* to the value of *data*, and\n" ++
        "2. returns its value prior to the operation.\n" ++
        "\n" ++
        "These two steps are done atomically with respect to the atomic counter functions " ++
        "in this table." },
    { function := "atomicCounterCompSwap"
      text := "Atomically\n" ++
        "\n" ++
        "1. compares the value of *compare* and the counter value for *c*\n" ++
        "2. if the values are equal, sets the counter value for *c* to the value of " ++
        "*data*, and\n" ++
        "3. returns its value prior to the operation.\n" ++
        "\n" ++
        "These three steps are done atomically with respect to the atomic counter " ++
        "functions in this table." },
    { function := "atomicAdd"
      text := "Computes a new value by adding the value of *data* to the contents of *mem*." },
    { function := "atomicMin"
      text := "Computes a new value by taking the minimum of the value of *data* and the " ++
        "contents of *mem*." },
    { function := "atomicMax"
      text := "Computes a new value by taking the maximum of the value of *data* and the " ++
        "contents of *mem*." },
    { function := "atomicAnd"
      text := "Computes a new value by performing a bit-wise AND of the value of *data* and the " ++
        "contents of *mem*." },
    { function := "atomicOr"
      text := "Computes a new value by performing a bit-wise OR of the value of *data* and the " ++
        "contents of *mem*." },
    { function := "atomicXor"
      text := "Computes a new value by performing a bit-wise EXCLUSIVE OR of the value of " ++
        "*data* and the contents of *mem*." },
    { function := "atomicExchange"
      text := "Computes a new value by simply copying the value of *data*." },
    { function := "atomicCompSwap"
      text := "Compares the value of *compare* and the contents of *mem*. If the values are " ++
        "equal, the new value is given by *data*; otherwise, it is taken from the " ++
        "original contents of *mem*." }]

/-- Atomic counters and atomic operations on memory. -/
def atomic : Chapter where
  notes := atomicNotes
  sections := [
    .overloads [
      "uint atomicCounterIncrement(atomic_uint c);",
      "uint atomicCounterDecrement(atomic_uint c);",
      "uint atomicCounter(atomic_uint c);",
      "uint atomicCounterAdd(atomic_uint c, uint data);",
      "uint atomicCounterSubtract(atomic_uint c, uint data);",
      "uint atomicCounterMin(atomic_uint c, uint data);",
      "uint atomicCounterMax(atomic_uint c, uint data);",
      "uint atomicCounterAnd(atomic_uint c, uint data);",
      "uint atomicCounterOr(atomic_uint c, uint data);",
      "uint atomicCounterXor(atomic_uint c, uint data);",
      "uint atomicCounterExchange(atomic_uint c, uint data);",
      "uint atomicCounterCompSwap(atomic_uint c, uint compare, uint data);",
      "uint atomicAdd(inout uint mem, uint data);",
      "int atomicAdd(inout int mem, int data);",
      "uint atomicMin(inout uint mem, uint data);",
      "int atomicMin(inout int mem, int data);",
      "uint atomicMax(inout uint mem, uint data);",
      "int atomicMax(inout int mem, int data);",
      "uint atomicAnd(inout uint mem, uint data);",
      "int atomicAnd(inout int mem, int data);",
      "uint atomicOr(inout uint mem, uint data);",
      "int atomicOr(inout int mem, int data);",
      "uint atomicXor(inout uint mem, uint data);",
      "int atomicXor(inout int mem, int data);",
      "uint atomicExchange(inout uint mem, uint data);",
      "int atomicExchange(inout int mem, int data);",
      "uint atomicCompSwap(inout uint mem, uint compare, uint data);",
      "int atomicCompSwap(inout int mem, int compare, int data);"]]

end Prelude

end GlslPrelude
