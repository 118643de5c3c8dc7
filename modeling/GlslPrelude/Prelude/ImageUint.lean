import GlslPrelude.Prelude.ImageNotes

/-!
# Unsigned images

Operations on images of unsigned integers.
-/

namespace GlslPrelude

namespace Prelude

open Section

/-- Operations on images of unsigned integers. -/
def imageUint : Chapter where
  notes := imageNotes
  sections := [
    .overloads [
      "int imageSize(readonly writeonly uimage1D image_);",
      "uvec4 imageLoad(readonly uimage1D image_, int P);",
      "void imageStore(writeonly uimage1D image_, int P, uvec4 data);",
      "int imageAtomicAdd(uimage1D image_, int P, int data);",
      "int imageAtomicMin(uimage1D image_, int P, int data);",
      "int imageAtomicMax(uimage1D image_, int P, int data);",
      "int imageAtomicAnd(uimage1D image_, int P, int data);",
      "int imageAtomicOr(uimage1D image_, int P, int data);",
      "int imageAtomicXor(uimage1D image_, int P, int data);",
      "int imageAtomicExchange(uimage1D image_, int P, int data);",
      "int imageAtomicCompSwap(uimage1D image_, int P, int compare, int data);",
      "uint imageAtomicAdd(uimage1D image_, int P, uint data);",
      "uint imageAtomicMin(uimage1D image_, int P, uint data);",
      "uint imageAtomicMax(uimage1D image_, int P, uint data);",
      "uint imageAtomicAnd(uimage1D image_, int P, uint data);",
      "uint imageAtomicOr(uimage1D image_, int P, uint data);",
      "uint imageAtomicXor(uimage1D image_, int P, uint data);",
      "uint imageAtomicExchange(uimage1D image_, int P, uint data);",
      "uint imageAtomicCompSwap(uimage1D image_, int P, uint compare, uint data);",
      "float imageAtomicExchange(uimage1D image_, int P, float data);",
      "int imageSize(readonly writeonly uimage1DArray image_);",
      "uvec4 imageLoad(readonly uimage1DArray image_, int P);",
      "void imageStore(writeonly uimage1DArray image_, int P, uvec4 data);",
      "int imageAtomicAdd(uimage1DArray image_, int P, int data);",
      "int imageAtomicMin(uimage1DArray image_, int P, int data);",
      "int imageAtomicMax(uimage1DArray image_, int P, int data);",
      "int imageAtomicAnd(uimage1DArray image_, int P, int data);",
      "int imageAtomicOr(uimage1DArray image_, int P, int data);",
      "int imageAtomicXor(uimage1DArray image_, int P, int data);",
      "int imageAtomicExchange(uimage1DArray image_, int P, int data);",
      "int imageAtomicCompSwap(uimage1DArray image_, int P, int compare, int data);",
      "uint imageAtomicAdd(uimage1DArray image_, int P, uint data);",
      "uint imageAtomicMin(uimage1DArray image_, int P, uint data);",
      "uint imageAtomicMax(uimage1DArray image_, int P, uint data);",
      "uint imageAtomicAnd(uimage1DArray image_, int P, uint data);",
      "uint imageAtomicOr(uimage1DArray image_, int P, uint data);",
      "uint imageAtomicXor(uimage1DArray image_, int P, uint data);",
      "uint imageAtomicExchange(uimage1DArray image_, int P, uint data);",
      "uint imageAtomicCompSwap(uimage1DArray image_, int P, uint compare, uint data);",
      "float imageAtomicExchange(uimage1DArray image_, int P, float data);",
      "ivec2 imageSize(readonly writeonly uimage2D image_);",
      "uvec4 imageLoad(readonly uimage2D image_, ivec2 P);",
      "void imageStore(writeonly uimage2D image_, ivec2 P, uvec4 data);",
      "int imageAtomicAdd(uimage2D image_, ivec2 P, int data);",
      "int imageAtomicMin(uimage2D image_, ivec2 P, int data);",
      "int imageAtomicMax(uimage2D image_, ivec2 P, int data);",
      "int imageAtomicAnd(uimage2D image_, ivec2 P, int data);",
      "int imageAtomicOr(uimage2D image_, ivec2 P, int data);",
      "int imageAtomicXor(uimage2D image_, ivec2 P, int data);",
      "int imageAtomicExchange(uimage2D image_, ivec2 P, int data);",
      "int imageAtomicCompSwap(uimage2D image_, ivec2 P, int compare, int data);",
      "uint imageAtomicAdd(uimage2D image_, ivec2 P, uint data);",
      "uint imageAtomicMin(uimage2D image_, ivec2 P, uint data);",
      "uint imageAtomicMax(uimage2D image_, ivec2 P, uint data);",
      "uint imageAtomicAnd(uimage2D image_, ivec2 P, uint data);",
      "uint imageAtomicOr(uimage2D image_, ivec2 P, uint data);",
      "uint imageAtomicXor(uimage2D image_, ivec2 P, uint data);",
      "uint imageAtomicExchange(uimage2D image_, ivec2 P, uint data);",
      "uint imageAtomicCompSwap(uimage2D image_, ivec2 P, uint compare, uint data);",
      "float imageAtomicExchange(uimage2D image_, ivec2 P, float data);",
      "ivec2 imageSize(readonly writeonly uimage2DArray image_);",
      "uvec4 imageLoad(readonly uimage2DArray image_, ivec2 P);",
      "void imageStore(writeonly uimage2DArray image_, ivec2 P, uvec4 data);",
      "int imageAtomicAdd(uimage2DArray image_, ivec2 P, int data);",
      "int imageAtomicMin(uimage2DArray image_, ivec2 P, int data);",
      "int imageAtomicMax(uimage2DArray image_, ivec2 P, int data);",
      "int imageAtomicAnd(uimage2DArray image_, ivec2 P, int data);",
      "int imageAtomicOr(uimage2DArray image_, ivec2 P, int data);",
      "int imageAtomicXor(uimage2DArray image_, ivec2 P, int data);",
      "int imageAtomicExchange(uimage2DArray image_, ivec2 P, int data);",
      "int imageAtomicCompSwap(uimage2DArray image_, ivec2 P, int compare, int data);",
      "uint imageAtomicAdd(uimage2DArray image_, ivec2 P, uint data);",
      "uint imageAtomicMin(uimage2DArray image_, ivec2 P, uint data);",
      "uint imageAtomicMax(uimage2DArray image_, ivec2 P, uint data);",
      "uint imageAtomicAnd(uimage2DArray image_, ivec2 P, uint data);",
      "uint imageAtomicOr(uimage2DArray image_, ivec2 P, uint data);",
      "uint imageAtomicXor(uimage2DArray image_, ivec2 P, uint data);",
      "uint imageAtomicExchange(uimage2DArray image_, ivec2 P, uint data);",
      "uint imageAtomicCompSwap(uimage2DArray image_, ivec2 P, uint compare, uint data);",
      "float imageAtomicExchange(uimage2DArray image_, ivec2 P, float data);",
      "ivec3 imageSize(readonly writeonly uimageCube image_);",
      "uvec4 imageLoad(readonly uimageCube image_, ivec3 P);",
      "void imageStore(writeonly uimageCube image_, ivec3 P, uvec4 data);",
      "int imageAtomicAdd(uimageCube image_, ivec3 P, int data);",
      "int imageAtomicMin(uimageCube image_, ivec3 P, int data);",
      "int imageAtomicMax(uimageCube image_, ivec3 P, int data);",
      "int imageAtomicAnd(uimageCube image_, ivec3 P, int data);",
      "int imageAtomicOr(uimageCube image_, ivec3 P, int data);",
      "int imageAtomicXor(uimageCube image_, ivec3 P, int data);",
      "int imageAtomicExchange(uimageCube image_, ivec3 P, int data);",
      "int imageAtomicCompSwap(uimageCube image_, ivec3 P, int compare, int data);",
      "uint imageAtomicAdd(uimageCube image_, ivec3 P, uint data);",
      "uint imageAtomicMin(uimageCube image_, ivec3 P, uint data);",
      "uint imageAtomicMax(uimageCube image_, ivec3 P, uint data);",
      "uint imageAtomicAnd(uimageCube image_, ivec3 P, uint data);",
      "uint imageAtomicOr(uimageCube image_, ivec3 P, uint data);",
      "uint imageAtomicXor(uimageCube image_, ivec3 P, uint data);",
      "uint imageAtomicExchange(uimageCube image_, ivec3 P, uint data);",
      "uint imageAtomicCompSwap(uimageCube image_, ivec3 P, uint compare, uint data);",
      "float imageAtomicExchange(uimageCube image_, ivec3 P, float data);",
      "ivec3 imageSize(readonly writeonly uimageCubeArray image_);",
      "uvec4 imageLoad(readonly uimageCubeArray image_, ivec3 P);",
      "void imageStore(writeonly uimageCubeArray image_, ivec3 P, uvec4 data);",
      "int imageAtomicAdd(uimageCubeArray image_, ivec3 P, int data);",
      "int imageAtomicMin(uimageCubeArray image_, ivec3 P, int data);",
      "int imageAtomicMax(uimageCubeArray image_, ivec3 P, int data);",
      "int imageAtomicAnd(uimageCubeArray image_, ivec3 P, int data);",
      "int imageAtomicOr(uimageCubeArray image_, ivec3 P, int data);",
      "int imageAtomicXor(uimageCubeArray image_, ivec3 P, int data);",
      "int imageAtomicExchange(uimageCubeArray image_, ivec3 P, int data);",
      "int imageAtomicCompSwap(uimageCubeArray image_, ivec3 P, int compare, int data);",
      "uint imageAtomicAdd(uimageCubeArray image_, ivec3 P, uint data);",
      "uint imageAtomicMin(uimageCubeArray image_, ivec3 P, uint data);",
      "uint imageAtomicMax(uimageCubeArray image_, ivec3 P, uint data);",
      "uint imageAtomicAnd(uimageCubeArray image_, ivec3 P, uint data);",
      "uint imageAtomicOr(uimageCubeArray image_, ivec3 P, uint data);",
      "uint imageAtomicXor(uimageCubeArray image_, ivec3 P, uint data);",
      "uint imageAtomicExchange(uimageCubeArray image_, ivec3 P, uint data);",
      "uint imageAtomicCompSwap(uimageCubeArray image_, ivec3 P, uint compare, uint data);",
      "float imageAtomicExchange(uimageCubeArray image_, ivec3 P, float data);",
      "ivec3 imageSize(readonly writeonly uimage3D image_);",
      "uvec4 imageLoad(readonly uimage3D image_, ivec3 P);",
      "void imageStore(writeonly uimage3D image_, ivec3 P, uvec4 data);",
      "int imageAtomicAdd(uimage3D image_, ivec3 P, int data);",
      "int imageAtomicMin(uimage3D image_, ivec3 P, int data);",
      "int imageAtomicMax(uimage3D image_, ivec3 P, int data);",
      "int imageAtomicAnd(uimage3D image_, ivec3 P, int data);",
      "int imageAtomicOr(uimage3D image_, ivec3 P, int data);",
      "int imageAtomicXor(uimage3D image_, ivec3 P, int data);",
      "int imageAtomicExchange(uimage3D image_, ivec3 P, int data);",
      "int imageAtomicCompSwap(uimage3D image_, ivec3 P, int compare, int data);",
      "uint imageAtomicAdd(uimage3D image_, ivec3 P, uint data);",
      "uint imageAtomicMin(uimage3D image_, ivec3 P, uint data);",
      "uint imageAtomicMax(uimage3D image_, ivec3 P, uint data);",
      "uint imageAtomicAnd(uimage3D image_, ivec3 P, uint data);",
      "uint imageAtomicOr(uimage3D image_, ivec3 P, uint data);",
      "uint imageAtomicXor(uimage3D image_, ivec3 P, uint data);",
      "uint imageAtomicExchange(uimage3D image_, ivec3 P, uint data);",
      "uint imageAtomicCompSwap(uimage3D image_, ivec3 P, uint compare, uint data);",
      "float imageAtomicExchange(uimage3D image_, ivec3 P, float data);",
      "ivec2 imageSize(readonly writeonly uimage2DRect image_);",
      "uvec4 imageLoad(readonly uimage2DRect image_, ivec2 P);",
      "void imageStore(writeonly uimage2DRect image_, ivec2 P, uvec4 data);",
      "int imageAtomicAdd(uimage2DRect image_, ivec2 P, int data);",
      "int imageAtomicMin(uimage2DRect image_, ivec2 P, int data);",
      "int imageAtomicMax(uimage2DRect image_, ivec2 P, int data);",
      "int imageAtomicAnd(uimage2DRect image_, ivec2 P, int data);",
      "int imageAtomicOr(uimage2DRect image_, ivec2 P, int data);",
      "int imageAtomicXor(uimage2DRect image_, ivec2 P, int data);",
      "int imageAtomicExchange(uimage2DRect image_, ivec2 P, int data);",
      "int imageAtomicCompSwap(uimage2DRect image_, ivec2 P, int compare, int data);",
      "uint imageAtomicAdd(uimage2DRect image_, ivec2 P, uint data);",
      "uint imageAtomicMin(uimage2DRect image_, ivec2 P, uint data);",
      "uint imageAtomicMax(uimage2DRect image_, ivec2 P, uint data);",
      "uint imageAtomicAnd(uimage2DRect image_, ivec2 P, uint data);",
      "uint imageAtomicOr(uimage2DRect image_, ivec2 P, uint data);",
      "uint imageAtomicXor(uimage2DRect image_, ivec2 P, uint data);",
      "uint imageAtomicExchange(uimage2DRect image_, ivec2 P, uint data);",
      "uint imageAtomicCompSwap(uimage2DRect image_, ivec2 P, uint compare, uint data);",
      "float imageAtomicExchange(uimage2DRect image_, ivec2 P, float data);",
      "int imageSize(readonly writeonly uimageBuffer image_);",
      "uvec4 imageLoad(readonly uimageBuffer image_, int P);",
      "void imageStore(writeonly uimageBuffer image_, int P, uvec4 data);",
      "int imageAtomicAdd(uimageBuffer image_, int P, int data);",
      "int imageAtomicMin(uimageBuffer image_, int P, int data);",
      "int imageAtomicMax(uimageBuffer image_, int P, int data);",
      "int imageAtomicAnd(uimageBuffer image_, int P, int data);",
      "int imageAtomicOr(uimageBuffer image_, int P, int data);",
      "int imageAtomicXor(uimageBuffer image_, int P, int data);",
      "int imageAtomicExchange(uimageBuffer image_, int P, int data);",
      "int imageAtomicCompSwap(uimageBuffer image_, int P, int compare, int data);",
      "uint imageAtomicAdd(uimageBuffer image_, int P, uint data);",
      "uint imageAtomicMin(uimageBuffer image_, int P, uint data);",
      "uint imageAtomicMax(uimageBuffer image_, int P, uint data);",
      "uint imageAtomicAnd(uimageBuffer image_, int P, uint data);",
      "uint imageAtomicOr(uimageBuffer image_, int P, uint data);",
      "uint imageAtomicXor(uimageBuffer image_, int P, uint data);",
      "uint imageAtomicExchange(uimageBuffer image_, int P, uint data);",
      "uint imageAtomicCompSwap(uimageBuffer image_, int P, uint compare, uint data);",
      "float imageAtomicExchange(uimageBuffer image_, int P, float data);",
      "ivec2 imageSize(readonly writeonly uimage2DMS image_);",
      "int imageSamples(readonly writeonly uimage2DMS image_);",
      "uvec4 imageLoad(readonly uimage2DMS image_, ivec2 P, int sample);",
      "void imageStore(writeonly uimage2DMS image_, ivec2 P, int sample, uvec4 data);",
      "int imageAtomicAdd(uimage2DMS image_, ivec2 P, int sample, int data);",
      "int imageAtomicMin(uimage2DMS image_, ivec2 P, int sample, int data);",
      "int imageAtomicMax(uimage2DMS image_, ivec2 P, int sample, int data);",
      "int imageAtomicAnd(uimage2DMS image_, ivec2 P, int sample, int data);",
      "int imageAtomicOr(uimage2DMS image_, ivec2 P, int sample, int data);",
      "int imageAtomicXor(uimage2DMS image_, ivec2 P, int sample, int data);",
      "int imageAtomicExchange(uimage2DMS image_, ivec2 P, int sample, int data);",
      "int imageAtomicCompSwap(uimage2DMS image_, ivec2 P, int sample, int compare, int data);",
      "uint imageAtomicAdd(uimage2DMS image_, ivec2 P, int sample, uint data);",
      "uint imageAtomicMin(uimage2DMS image_, ivec2 P, int sample, uint data);",
      "uint imageAtomicMax(uimage2DMS image_, ivec2 P, int sample, uint data);",
      "uint imageAtomicAnd(uimage2DMS image_, ivec2 P, int sample, uint data);",
      "uint imageAtomicOr(uimage2DMS image_, ivec2 P, int sample, uint data);",
      "uint imageAtomicXor(uimage2DMS image_, ivec2 P, int sample, uint data);",
      "uint imageAtomicExchange(uimage2DMS image_, ivec2 P, int sample, uint data);",
      "uint imageAtomicCompSwap(uimage2DMS image_, ivec2 P, int sample, uint compare, uint data);",
      "float imageAtomicExchange(uimage2DMS image_, ivec2 P, int sample, float data);",
      "ivec2 imageSize(readonly writeonly uimage2DMSArray image_);",
      "int imageSamples(readonly writeonly uimage2DMSArray image_);",
      "uvec4 imageLoad(readonly uimage2DMSArray image_, ivec2 P, int sample);",
      "void imageStore(writeonly uimage2DMSArray image_, ivec2 P, int sample, uvec4 data);",
      "int imageAtomicAdd(uimage2DMSArray image_, ivec2 P, int sample, int data);",
      "int imageAtomicMin(uimage2DMSArray image_, ivec2 P, int sample, int data);",
      "int imageAtomicMax(uimage2DMSArray image_, ivec2 P, int sample, int data);",
      "int imageAtomicAnd(uimage2DMSArray image_, ivec2 P, int sample, int data);",
      "int imageAtomicOr(uimage2DMSArray image_, ivec2 P, int sample, int data);",
      "int imageAtomicXor(uimage2DMSArray image_, ivec2 P, int sample, int data);",
      "int imageAtomicExchange(uimage2DMSArray image_, ivec2 P, int sample, int data);",
      "int imageAtomicCompSwap(uimage2DMSArray image_, ivec2 P, int sample, int compare, int " ++
        "data);",
      "uint imageAtomicAdd(uimage2DMSArray image_, ivec2 P, int sample, uint data);",
      "uint imageAtomicMin(uimage2DMSArray image_, ivec2 P, int sample, uint data);",
      "uint imageAtomicMax(uimage2DMSArray image_, ivec2 P, int sample, uint data);",
      "uint imageAtomicAnd(uimage2DMSArray image_, ivec2 P, int sample, uint data);",
      "uint imageAtomicOr(uimage2DMSArray image_, ivec2 P, int sample, uint data);",
      "uint imageAtomicXor(uimage2DMSArray image_, ivec2 P, int sample, uint data);",
      "uint imageAtomicExchange(uimage2DMSArray image_, ivec2 P, int sample, uint data);",
      "uint imageAtomicCompSwap(uimage2DMSArray image_, ivec2 P, int sample, uint compare, " ++
        "uint data);",
      "float imageAtomicExchange(uimage2DMSArray image_, ivec2 P, int sample, float data);"]]

end Prelude

end GlslPrelude
