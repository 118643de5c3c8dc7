import GlslPrelude.Prelude.Layout

/-!
# Documentation of image functions

The functions of images are the same for all kinds of components, and so is their documentation.
-/

namespace GlslPrelude

namespace Prelude

/-- Documentation of the functions of images. -/
def imageNotes : List Note := [
    { function := "imageSize"
      text := "Returns the dimensions of the image or images bound to *image*.\n" ++
        "For arrayed images, the last component of the return value will hold the size of " ++
        "the array.\n" ++
        "Cube images only return the dimensions of one face, and the number of cubes in " ++
        "the cube map array, if arrayed.\n" ++
        "\n" ++
        "Note: The qualification **readonly writeonly** accepts a variable qualified with " ++
        "**readonly**, **writeonly**, both, or neither. It means the formal argument " ++
        "will be used for neither reading nor writing to the underlying memory." },
    { function := "imageLoad"
      text := "Loads the texel at the coordinate *P* from the image unit *image*.\n" ++
        "For multisample loads, the sample number is given by *sample*.\n" ++
        "When *image*, *P*, and *sample* identify a valid texel, the bits used to " ++
        "represent the selected texel in memory are converted to a **vec4**, **ivec4**, " ++
        "or **uvec4** in the manner described in section 8.26 \"Texture Image Loads and " ++
        "Stores\" of the OpenGL Specification and returned." },
    { function := "imageStore"
      text := "Stores *data* into the texel at the coordinate *P* from the image specified by " ++
        "*image*.\n" ++
        "For multisample stores, the sample number is given by *sample*.\n" ++
        "When *image*, *P*, and *sample* identify a valid texel, the bits used to " ++
        "represent *data* are converted to the format of the image unit in the manner " ++
        "described in section 8.26 \"Texture Image Loads and Stores\" of the OpenGL " ++
        "Specification and stored to the specified texel." },
    { function := "imageAtomicAdd"
      text := "Computes a new value by adding the value of *data* to the contents of the " ++
        "selected texel." },
    { function := "imageAtomicMin"
      text := "Computes a new value by taking the minimum of the value of *data* and the " ++
        "contents of the selected texel." },
    { function := "imageAtomicMax"
      text := "Computes a new value by taking the maximum of the value *data* and the contents " ++
        "of the selected texel." },
    { function := "imageAtomicAnd"
      text := "Computes a new value by performing a bit-wise AND of the value of *data* and the " ++
        "contents of the selected texel." },
    { function := "imageAtomicOr"
      text := "Computes a new value by performing a bit-wise OR of the value of *data* and the " ++
        "contents of the selected texel." },
    { function := "imageAtomicXor"
      text := "Computes a new value by performing a bit-wise EXCLUSIVE OR of the value of " ++
        "*data* and the contents of the selected texel." },
    { function := "imageAtomicExchange"
      text := "Computes a new value by simply copying the value of *data* into the selected " ++
        "texel." },
    { function := "imageAtomicCompSwap"
      text := "Compares the value of *compare* and the contents of the selected texel.\n" ++
        "If the values are equal, the new value is given by *data*; otherwise, it is " ++
        "taken from the original value loaded from the texel." },
    { function := "imageSamples"
      text := "Returns the number of samples in the image bound to *image*." }]

end Prelude

end GlslPrelude
