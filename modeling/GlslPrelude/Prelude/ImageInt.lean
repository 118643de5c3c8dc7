import GlslPrelude.Prelude.ImageNotes

/-!
# Signed images

Operations on images of signed integers.
-/

namespace GlslPrelude

namespace Prelude

open Section

/-- Operations on images of signed integers. -/
def imageInt : Chapter where
  notes := imageNotes
  sections := [
    .overloads [
      "int imageSize(readonly writeonly iimage1D image_);",
      "ivec4 imageLoad(readonly iimage1D image_, int P);",
      "void imageStore(writeonly iimage1D image_, int P, ivec4 data);",
      "int imageAtomicAdd(iimage1D image_, int P, int data);",
      "int imageAtomicMin(iimage1D image_, int P, int data);",
      "int imageAtomicMax(iimage1D image_, int P, int data);",
      "int imageAtomicAnd(iimage1D image_, int P, int data);",
      "int imageAtomicOr(iimage1D image_, int P, int data);",
      "int imageAtomicXor(iimage1D image_, int P, int data);",
      "int imageAtomicExchange(iimage1D image_, int P, int data);",
      "int imageAtomicCompSwap(iimage1D image_, int P, int compare, int data);",
      "uint imageAtomicAdd(iimage1D image_, int P, uint data);",
      "uint imageAtomicMin(iimage1D image_, int P, uint data);",
      "uint imageAtomicMax(iimage1D image_, int P, uint data);",
      "uint imageAtomicAnd(iimage1D image_, int P, uint data);",
      "uint imageAtomicOr(iimage1D image_, int P, uint data);",
      "uint imageAtomicXor(iimage1D image_, int P, uint data);",
      "uint imageAtomicExchange(iimage1D image_, int P, uint data);",
      "uint imageAtomicCompSwap(iimage1D image_, int P, uint compare, uint data);",
      "float imageAtomicExchange(iimage1D image_, int P, float data);",
      "int imageSize(readonly writeonly iimage1DArray image_);",
      "ivec4 imageLoad(readonly iimage1DArray image_, int P);",
      "void imageStore(writeonly iimage1DArray image_, int P, ivec4 data);",
      "int imageAtomicAdd(iimage1DArray image_, int P, int data);",
      "int imageAtomicMin(iimage1DArray image_, int P, int data);",
      "int imageAtomicMax(iimage1DArray image_, int P, int data);",
      "int imageAtomicAnd(iimage1DArray image_, int P, int data);",
      "int imageAtomicOr(iimage1DArray image_, int P, int data);",
      "int imageAtomicXor(iimage1DArray image_, int P, int data);",
      "int imageAtomicExchange(iimage1DArray image_, int P, int data);",
      "int imageAtomicCompSwap(iimage1DArray image_, int P, int compare, int data);",
      "uint imageAtomicAdd(iimage1DArray image_, int P, uint data);",
      "uint imageAtomicMin(iimage1DArray image_, int P, uint data);",
      "uint imageAtomicMax(iimage1DArray image_, int P, uint data);",
      "uint imageAtomicAnd(iimage1DArray image_, int P, uint data);",
      "uint imageAtomicOr(iimage1DArray image_, int P, uint data);",
      "uint imageAtomicXor(iimage1DArray image_, int P, uint data);",
      "uint imageAtomicExchange(iimage1DArray image_, int P, uint data);",
      "uint imageAtomicCompSwap(iimage1DArray image_, int P, uint compare, uint data);",
      "float imageAtomicExchange(iimage1DArray image_, int P, float data);",
      "ivec2 imageSize(readonly writeonly iimage2D image_);",
      "ivec4 imageLoad(readonly iimage2D image_, ivec2 P);",
      "void imageStore(writeonly iimage2D image_, ivec2 P, ivec4 data);",
      "int imageAtomicAdd(iimage2D image_, ivec2 P, int data);",
      "int imageAtomicMin(iimage2D image_, ivec2 P, int data);",
      "int imageAtomicMax(iimage2D image_, ivec2 P, int data);",
      "int imageAtomicAnd(iimage2D image_, ivec2 P, int data);",
      "int imageAtomicOr(iimage2D image_, ivec2 P, int data);",
      "int imageAtomicXor(iimage2D image_, ivec2 P, int data);",
      "int imageAtomicExchange(iimage2D image_, ivec2 P, int data);",
      "int imageAtomicCompSwap(iimage2D image_, ivec2 P, int compare, int data);",
      "uint imageAtomicAdd(iimage2D image_, ivec2 P, uint data);",
      "uint imageAtomicMin(iimage2D image_, ivec2 P, uint data);",
      "uint imageAtomicMax(iimage2D image_, ivec2 P, uint data);",
      "uint imageAtomicAnd(iimage2D image_, ivec2 P, uint data);",
      "uint imageAtomicOr(iimage2D image_, ivec2 P, uint data);",
      "uint imageAtomicXor(iimage2D image_, ivec2 P, uint data);",
      "uint imageAtomicExchange(iimage2D image_, ivec2 P, uint data);",
      "uint imageAtomicCompSwap(iimage2D image_, ivec2 P, uint compare, uint data);",
      "float imageAtomicExchange(iimage2D image_, ivec2 P, float data);",
      "ivec2 imageSize(readonly writeonly iimage2DArray image_);",
      "ivec4 imageLoad(readonly iimage2DArray image_, ivec2 P);",
      "void imageStore(writeonly iimage2DArray image_, ivec2 P, ivec4 data);",
      "int imageAtomicAdd(iimage2DArray image_, ivec2 P, int data);",
      "int imageAtomicMin(iimage2DArray image_, ivec2 P, int data);",
      "int imageAtomicMax(iimage2DArray image_, ivec2 P, int data);",
      "int imageAtomicAnd(iimage2DArray image_, ivec2 P, int data);",
      "int imageAtomicOr(iimage2DArray image_, ivec2 P, int data);",
      "int imageAtomicXor(iimage2DArray image_, ivec2 P, int data);",
      "int imageAtomicExchange(iimage2DArray image_, ivec2 P, int data);",
      "int imageAtomicCompSwap(iimage2DArray image_, ivec2 P, int compare, int data);",
      "uint imageAtomicAdd(iimage2DArray image_, ivec2 P, uint data);",
      "uint imageAtomicMin(iimage2DArray image_, ivec2 P, uint data);",
      "uint imageAtomicMax(iimage2DArray image_, ivec2 P, uint data);",
      "uint imageAtomicAnd(iimage2DArray image_, ivec2 P, uint data);",
      "uint imageAtomicOr(iimage2DArray image_, ivec2 P, uint data);",
      "uint imageAtomicXor(iimage2DArray image_, ivec2 P, uint data);",
      "uint imageAtomicExchange(iimage2DArray image_, ivec2 P, uint data);",
      "uint imageAtomicCompSwap(iimage2DArray image_, ivec2 P, uint compare, uint data);",
      "float imageAtomicExchange(iimage2DArray image_, ivec2 P, float data);",
      "ivec3 imageSize(readonly writeonly iimageCube image_);",
      "ivec4 imageLoad(readonly iimageCube image_, ivec3 P);",
      "void imageStore(writeonly iimageCube image_, ivec3 P, ivec4 data);",
      "int imageAtomicAdd(iimageCube image_, ivec3 P, int data);",
      "int imageAtomicMin(iimageCube image_, ivec3 P, int data);",
      "int imageAtomicMax(iimageCube image_, ivec3 P, int data);",
      "int imageAtomicAnd(iimageCube image_, ivec3 P, int data);",
      "int imageAtomicOr(iimageCube image_, ivec3 P, int data);",
      "int imageAtomicXor(iimageCube image_, ivec3 P, int data);",
      "int imageAtomicExchange(iimageCube image_, ivec3 P, int data);",
      "int imageAtomicCompSwap(iimageCube image_, ivec3 P, int compare, int data);",
      "uint imageAtomicAdd(iimageCube image_, ivec3 P, uint data);",
      "uint imageAtomicMin(iimageCube image_, ivec3 P, uint data);",
      "uint imageAtomicMax(iimageCube image_, ivec3 P, uint data);",
      "uint imageAtomicAnd(iimageCube image_, ivec3 P, uint data);",
      "uint imageAtomicOr(iimageCube image_, ivec3 P, uint data);",
      "uint imageAtomicXor(iimageCube image_, ivec3 P, uint data);",
      "uint imageAtomicExchange(iimageCube image_, ivec3 P, uint data);",
      "uint imageAtomicCompSwap(iimageCube image_, ivec3 P, uint compare, uint data);",
      "float imageAtomicExchange(iimageCube image_, ivec3 P, float data);",
      "ivec3 imageSize(readonly writeonly iimageCubeArray image_);",
      "ivec4 imageLoad(readonly iimageCubeArray image_, ivec3 P);",
      "void imageStore(writeonly iimageCubeArray image_, ivec3 P, ivec4 data);",
      "int imageAtomicAdd(iimageCubeArray image_, ivec3 P, int data);",
      "int imageAtomicMin(iimageCubeArray image_, ivec3 P, int data);",
      "int imageAtomicMax(iimageCubeArray image_, ivec3 P, int data);",
      "int imageAtomicAnd(iimageCubeArray image_, ivec3 P, int data);",
      "int imageAtomicOr(iimageCubeArray image_, ivec3 P, int data);",
      "int imageAtomicXor(iimageCubeArray image_, ivec3 P, int data);",
      "int imageAtomicExchange(iimageCubeArray image_, ivec3 P, int data);",
      "int imageAtomicCompSwap(iimageCubeArray image_, ivec3 P, int compare, int data);",
      "uint imageAtomicAdd(iimageCubeArray image_, ivec3 P, uint data);",
      "uint imageAtomicMin(iimageCubeArray image_, ivec3 P, uint data);",
      "uint imageAtomicMax(iimageCubeArray image_, ivec3 P, uint data);",
      "uint imageAtomicAnd(iimageCubeArray image_, ivec3 P, uint data);",
      "uint imageAtomicOr(iimageCubeArray image_, ivec3 P, uint data);",
      "uint imageAtomicXor(iimageCubeArray image_, ivec3 P, uint data);",
      "uint imageAtomicExchange(iimageCubeArray image_, ivec3 P, uint data);",
      "uint imageAtomicCompSwap(iimageCubeArray image_, ivec3 P, uint compare, uint data);",
      "float imageAtomicExchange(iimageCubeArray image_, ivec3 P, float data);",
      "ivec3 imageSize(readonly writeonly iimage3D image_);",
      "ivec4 imageLoad(readonly iimage3D image_, ivec3 P);",
      "void imageStore(writeonly iimage3D image_, ivec3 P, ivec4 data);",
      "int imageAtomicAdd(iimage3D image_, ivec3 P, int data);",
      "int imageAtomicMin(iimage3D image_, ivec3 P, int data);",
      "int imageAtomicMax(iimage3D image_, ivec3 P, int data);",
      "int imageAtomicAnd(iimage3D image_, ivec3 P, int data);",
      "int imageAtomicOr(iimage3D image_, ivec3 P, int data);",
      "int imageAtomicXor(iimage3D image_, ivec3 P, int data);",
      "int imageAtomicExchange(iimage3D image_, ivec3 P, int data);",
      "int imageAtomicCompSwap(iimage3D image_, ivec3 P, int compare, int data);",
      "uint imageAtomicAdd(iimage3D image_, ivec3 P, uint data);",
      "uint imageAtomicMin(iimage3D image_, ivec3 P, uint data);",
      "uint imageAtomicMax(iimage3D image_, ivec3 P, uint data);",
      "uint imageAtomicAnd(iimage3D image_, ivec3 P, uint data);",
      "uint imageAtomicOr(iimage3D image_, ivec3 P, uint data);",
      "uint imageAtomicXor(iimage3D image_, ivec3 P, uint data);",
      "uint imageAtomicExchange(iimage3D image_, ivec3 P, uint data);",
      "uint imageAtomicCompSwap(iimage3D image_, ivec3 P, uint compare, uint data);",
      "float imageAtomicExchange(iimage3D image_, ivec3 P, float data);",
      "ivec2 imageSize(readonly writeonly iimage2DRect image_);",
      "ivec4 imageLoad(readonly iimage2DRect image_, ivec2 P);",
      "void imageStore(writeonly iimage2DRect image_, ivec2 P, ivec4 data);",
      "int imageAtomicAdd(iimage2DRect image_, ivec2 P, int data);",
      "int imageAtomicMin(iimage2DRect image_, ivec2 P, int data);",
      "int imageAtomicMax(iimage2DRect image_, ivec2 P, int data);",
      "int imageAtomicAnd(iimage2DRect image_, ivec2 P, int data);",
      "int imageAtomicOr(iimage2DRect image_, ivec2 P, int data);",
      "int imageAtomicXor(iimage2DRect image_, ivec2 P, int data);",
      "int imageAtomicExchange(iimage2DRect image_, ivec2 P, int data);",
      "int imageAtomicCompSwap(iimage2DRect image_, ivec2 P, int compare, int data);",
      "uint imageAtomicAdd(iimage2DRect image_, ivec2 P, uint data);",
      "uint imageAtomicMin(iimage2DRect image_, ivec2 P, uint data);",
      "uint imageAtomicMax(iimage2DRect image_, ivec2 P, uint data);",
      "uint imageAtomicAnd(iimage2DRect image_, ivec2 P, uint data);",
      "uint imageAtomicOr(iimage2DRect image_, ivec2 P, uint data);",
      "uint imageAtomicXor(iimage2DRect image_, ivec2 P, uint data);",
      "uint imageAtomicExchange(iimage2DRect image_, ivec2 P, uint data);",
      "uint imageAtomicCompSwap(iimage2DRect image_, ivec2 P, uint compare, uint data);",
      "float imageAtomicExchange(iimage2DRect image_, ivec2 P, float data);",
      "int imageSize(readonly writeonly iimageBuffer image_);",
      "ivec4 imageLoad(readonly iimageBuffer image_, int P);",
      "void imageStore(writeonly iimageBuffer image_, int P, ivec4 data);",
      "int imageAtomicAdd(iimageBuffer image_, int P, int data);",
      "int imageAtomicMin(iimageBuffer image_, int P, int data);",
      "int imageAtomicMax(iimageBuffer image_, int P, int data);",
      "int imageAtomicAnd(iimageBuffer image_, int P, int data);",
      "int imageAtomicOr(iimageBuffer image_, int P, int data);",
      "int imageAtomicXor(iimageBuffer image_, int P, int data);",
      "int imageAtomicExchange(iimageBuffer image_, int P, int data);",
      "int imageAtomicCompSwap(iimageBuffer image_, int P, int compare, int data);",
      "uint imageAtomicAdd(iimageBuffer image_, int P, uint data);",
      "uint imageAtomicMin(iimageBuffer image_, int P, uint data);",
      "uint imageAtomicMax(iimageBuffer image_, int P, uint data);",
      "uint imageAtomicAnd(iimageBuffer image_, int P, uint data);",
      "uint imageAtomicOr(iimageBuffer image_, int P, uint data);",
      "uint imageAtomicXor(iimageBuffer image_, int P, uint data);",
      "uint imageAtomicExchange(iimageBuffer image_, int P, uint data);",
      "uint imageAtomicCompSwap(iimageBuffer image_, int P, uint compare, uint data);",
      "float imageAtomicExchange(iimageBuffer image_, int P, float data);",
      "ivec2 imageSize(readonly writeonly iimage2DMS image_);",
      "int imageSamples(readonly writeonly iimage2DMS image_);",
      "ivec4 imageLoad(readonly iimage2DMS image_, ivec2 P, int sample);",
      "void imageStore(writeonly iimage2DMS image_, ivec2 P, int sample, ivec4 data);",
      "int imageAtomicAdd(iimage2DMS image_, ivec2 P, int sample, int data);",
      "int imageAtomicMin(iimage2DMS image_, ivec2 P, int sample, int data);",
      "int imageAtomicMax(iimage2DMS image_, ivec2 P, int sample, int data);",
      "int imageAtomicAnd(iimage2DMS image_, ivec2 P, int sample, int data);",
      "int imageAtomicOr(iimage2DMS image_, ivec2 P, int sample, int data);",
      "int imageAtomicXor(iimage2DMS image_, ivec2 P, int sample, int data);",
      "int imageAtomicExchange(iimage2DMS image_, ivec2 P, int sample, int data);",
      "int imageAtomicCompSwap(iimage2DMS image_, ivec2 P, int sample, int compare, int data);",
      "uint imageAtomicAdd(iimage2DMS image_, ivec2 P, int sample, uint data);",
      "uint imageAtomicMin(iimage2DMS image_, ivec2 P, int sample, uint data);",
      "uint imageAtomicMax(iimage2DMS image_, ivec2 P, int sample, uint data);",
      "uint imageAtomicAnd(iimage2DMS image_, ivec2 P, int sample, uint data);",
      "uint imageAtomicOr(iimage2DMS image_, ivec2 P, int sample, uint data);",
      "uint imageAtomicXor(iimage2DMS image_, ivec2 P, int sample, uint data);",
      "uint imageAtomicExchange(iimage2DMS image_, ivec2 P, int sample, uint data);",
      "uint imageAtomicCompSwap(iimage2DMS image_, ivec2 P, int sample, uint compare, uint data);",
      "float imageAtomicExchange(iimage2DMS image_, ivec2 P, int sample, float data);",
      "ivec2 imageSize(readonly writeonly iimage2DMSArray image_);",
      "int imageSamples(readonly writeonly iimage2DMSArray image_);",
      "ivec4 imageLoad(readonly iimage2DMSArray image_, ivec2 P, int sample);",
      "void imageStore(writeonly iimage2DMSArray image_, ivec2 P, int sample, ivec4 data);",
      "int imageAtomicAdd(iimage2DMSArray image_, ivec2 P, int sample, int data);",
      "int imageAtomicMin(iimage2DMSArray image_, ivec2 P, int sample, int data);",
      "int imageAtomicMax(iimage2DMSArray image_, ivec2 P, int sample, int data);",
      "int imageAtomicAnd(iimage2DMSArray image_, ivec2 P, int sample, int data);",
      "int imageAtomicOr(iimage2DMSArray image_, ivec2 P, int sample, int data);",
      "int imageAtomicXor(iimage2DMSArray image_, ivec2 P, int sample, int data);",
      "int imageAtomicExchange(iimage2DMSArray image_, ivec2 P, int sample, int data);",
      "int imageAtomicCompSwap(iimage2DMSArray image_, ivec2 P, int sample, int compare, int " ++
        "data);",
      "uint imageAtomicAdd(iimage2DMSArray image_, ivec2 P, int sample, uint data);",
      "uint imageAtomicMin(iimage2DMSArray image_, ivec2 P, int sample, uint data);",
      "uint imageAtomicMax(iimage2DMSArray image_, ivec2 P, int sample, uint data);",
      "uint imageAtomicAnd(iimage2DMSArray image_, ivec2 P, int sample, uint data);",
      "uint imageAtomicOr(iimage2DMSArray image_, ivec2 P, int sample, uint data);",
      "uint imageAtomicXor(iimage2DMSArray image_, ivec2 P, int sample, uint data);",
      "uint imageAtomicExchange(iimage2DMSArray image_, ivec2 P, int sample, uint data);",
      "uint imageAtomicCompSwap(iimage2DMSArray image_, ivec2 P, int sample, uint compare, " ++
        "uint data);",
      "float imageAtomicExchange(iimage2DMSArray image_, ivec2 P, int sample, float data);"]]

end Prelude

end GlslPrelude
