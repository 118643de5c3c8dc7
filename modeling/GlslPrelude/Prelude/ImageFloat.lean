import GlslPrelude.Prelude.ImageNotes

/-!
# Floating-point images

Operations on images of floating-point numbers.
-/

namespace GlslPrelude

namespace Prelude

open Section

/-- Operations on images of floating-point numbers. -/
def imageFloat : Chapter where
  notes := imageNotes
  sections := [
    .overloads [
      "int imageSize(readonly writeonly image1D image_);",
      "vec4 imageLoad(readonly image1D image_, int P);",
      "void imageStore(writeonly image1D image_, int P, vec4 data);",
      "int imageAtomicAdd(image1D image_, int P, int data);",
      "int imageAtomicMin(image1D image_, int P, int data);",
      "int imageAtomicMax(image1D image_, int P, int data);",
      "int imageAtomicAnd(image1D image_, int P, int data);",
      "int imageAtomicOr(image1D image_, int P, int data);",
      "int imageAtomicXor(image1D image_, int P, int data);",
      "int imageAtomicExchange(image1D image_, int P, int data);",
      "int imageAtomicCompSwap(image1D image_, int P, int compare, int data);",
      "uint imageAtomicAdd(image1D image_, int P, uint data);",
      "uint imageAtomicMin(image1D image_, int P, uint data);",
      "uint imageAtomicMax(image1D image_, int P, uint data);",
      "uint imageAtomicAnd(image1D image_, int P, uint data);",
      "uint imageAtomicOr(image1D image_, int P, uint data);",
      "uint imageAtomicXor(image1D image_, int P, uint data);",
      "uint imageAtomicExchange(image1D image_, int P, uint data);",
      "uint imageAtomicCompSwap(image1D image_, int P, uint compare, uint data);",
      "float imageAtomicExchange(image1D image_, int P, float data);",
      "int imageSize(readonly writeonly image1DArray image_);",
      "vec4 imageLoad(readonly image1DArray image_, int P);",
      "void imageStore(writeonly image1DArray image_, int P, vec4 data);",
      "int imageAtomicAdd(image1DArray image_, int P, int data);",
      "int imageAtomicMin(image1DArray image_, int P, int data);",
      "int imageAtomicMax(image1DArray image_, int P, int data);",
      "int imageAtomicAnd(image1DArray image_, int P, int data);",
      "int imageAtomicOr(image1DArray image_, int P, int data);",
      "int imageAtomicXor(image1DArray image_, int P, int data);",
      "int imageAtomicExchange(image1DArray image_, int P, int data);",
      "int imageAtomicCompSwap(image1DArray image_, int P, int compare, int data);",
      "uint imageAtomicAdd(image1DArray image_, int P, uint data);",
      "uint imageAtomicMin(image1DArray image_, int P, uint data);",
      "uint imageAtomicMax(image1DArray image_, int P, uint data);",
      "uint imageAtomicAnd(image1DArray image_, int P, uint data);",
      "uint imageAtomicOr(image1DArray image_, int P, uint data);",
      "uint imageAtomicXor(image1DArray image_, int P, uint data);",
      "uint imageAtomicExchange(image1DArray image_, int P, uint data);",
      "uint imageAtomicCompSwap(image1DArray image_, int P, uint compare, uint data);",
      "float imageAtomicExchange(image1DArray image_, int P, float data);",
      "ivec2 imageSize(readonly writeonly image2D image_);",
      "vec4 imageLoad(readonly image2D image_, ivec2 P);",
      "void imageStore(writeonly image2D image_, ivec2 P, vec4 data);",
      "int imageAtomicAdd(image2D image_, ivec2 P, int data);",
      "int imageAtomicMin(image2D image_, ivec2 P, int data);",
      "int imageAtomicMax(image2D image_, ivec2 P, int data);",
      "int imageAtomicAnd(image2D image_, ivec2 P, int data);",
      "int imageAtomicOr(image2D image_, ivec2 P, int data);",
      "int imageAtomicXor(image2D image_, ivec2 P, int data);",
      "int imageAtomicExchange(image2D image_, ivec2 P, int data);",
      "int imageAtomicCompSwap(image2D image_, ivec2 P, int compare, int data);",
      "uint imageAtomicAdd(image2D image_, ivec2 P, uint data);",
      "uint imageAtomicMin(image2D image_, ivec2 P, uint data);",
      "uint imageAtomicMax(image2D image_, ivec2 P, uint data);",
      "uint imageAtomicAnd(image2D image_, ivec2 P, uint data);",
      "uint imageAtomicOr(image2D image_, ivec2 P, uint data);",
      "uint imageAtomicXor(image2D image_, ivec2 P, uint data);",
      "uint imageAtomicExchange(image2D image_, ivec2 P, uint data);",
      "uint imageAtomicCompSwap(image2D image_, ivec2 P, uint compare, uint data);",
      "float imageAtomicExchange(image2D image_, ivec2 P, float data);",
      "ivec2 imageSize(readonly writeonly image2DArray image_);",
      "vec4 imageLoad(readonly image2DArray image_, ivec2 P);",
      "void imageStore(writeonly image2DArray image_, ivec2 P, vec4 data);",
      "int imageAtomicAdd(image2DArray image_, ivec2 P, int data);",
      "int imageAtomicMin(image2DArray image_, ivec2 P, int data);",
      "int imageAtomicMax(image2DArray image_, ivec2 P, int data);",
      "int imageAtomicAnd(image2DArray image_, ivec2 P, int data);",
      "int imageAtomicOr(image2DArray image_, ivec2 P, int data);",
      "int imageAtomicXor(image2DArray image_, ivec2 P, int data);",
      "int imageAtomicExchange(image2DArray image_, ivec2 P, int data);",
      "int imageAtomicCompSwap(image2DArray image_, ivec2 P, int compare, int data);",
      "uint imageAtomicAdd(image2DArray image_, ivec2 P, uint data);",
      "uint imageAtomicMin(image2DArray image_, ivec2 P, uint data);",
      "uint imageAtomicMax(image2DArray image_, ivec2 P, uint data);",
      "uint imageAtomicAnd(image2DArray image_, ivec2 P, uint data);",
      "uint imageAtomicOr(image2DArray image_, ivec2 P, uint data);",
      "uint imageAtomicXor(image2DArray image_, ivec2 P, uint data);",
      "uint imageAtomicExchange(image2DArray image_, ivec2 P, uint data);",
      "uint imageAtomicCompSwap(image2DArray image_, ivec2 P, uint compare, uint data);",
      "float imageAtomicExchange(image2DArray image_, ivec2 P, float data);",
      "ivec3 imageSize(readonly writeonly imageCube image_);",
      "vec4 imageLoad(readonly imageCube image_, ivec3 P);",
      "void imageStore(writeonly imageCube image_, ivec3 P, vec4 data);",
      "int imageAtomicAdd(imageCube image_, ivec3 P, int data);",
      "int imageAtomicMin(imageCube image_, ivec3 P, int data);",
      "int imageAtomicMax(imageCube image_, ivec3 P, int data);",
      "int imageAtomicAnd(imageCube image_, ivec3 P, int data);",
      "int imageAtomicOr(imageCube image_, ivec3 P, int data);",
      "int imageAtomicXor(imageCube image_, ivec3 P, int data);",
      "int imageAtomicExchange(imageCube image_, ivec3 P, int data);",
      "int imageAtomicCompSwap(imageCube image_, ivec3 P, int compare, int data);",
      "uint imageAtomicAdd(imageCube image_, ivec3 P, uint data);",
      "uint imageAtomicMin(imageCube image_, ivec3 P, uint data);",
      "uint imageAtomicMax(imageCube image_, ivec3 P, uint data);",
      "uint imageAtomicAnd(imageCube image_, ivec3 P, uint data);",
      "uint imageAtomicOr(imageCube image_, ivec3 P, uint data);",
      "uint imageAtomicXor(imageCube image_, ivec3 P, uint data);",
      "uint imageAtomicExchange(imageCube image_, ivec3 P, uint data);",
      "uint imageAtomicCompSwap(imageCube image_, ivec3 P, uint compare, uint data);",
      "float imageAtomicExchange(imageCube image_, ivec3 P, float data);",
      "ivec3 imageSize(readonly writeonly imageCubeArray image_);",
      "vec4 imageLoad(readonly imageCubeArray image_, ivec3 P);",
      "void imageStore(writeonly imageCubeArray image_, ivec3 P, vec4 data);",
      "int imageAtomicAdd(imageCubeArray image_, ivec3 P, int data);",
      "int imageAtomicMin(imageCubeArray image_, ivec3 P, int data);",
      "int imageAtomicMax(imageCubeArray image_, ivec3 P, int data);",
      "int imageAtomicAnd(imageCubeArray image_, ivec3 P, int data);",
      "int imageAtomicOr(imageCubeArray image_, ivec3 P, int data);",
      "int imageAtomicXor(imageCubeArray image_, ivec3 P, int data);",
      "int imageAtomicExchange(imageCubeArray image_, ivec3 P, int data);",
      "int imageAtomicCompSwap(imageCubeArray image_, ivec3 P, int compare, int data);",
      "uint imageAtomicAdd(imageCubeArray image_, ivec3 P, uint data);",
      "uint imageAtomicMin(imageCubeArray image_, ivec3 P, uint data);",
      "uint imageAtomicMax(imageCubeArray image_, ivec3 P, uint data);",
      "uint imageAtomicAnd(imageCubeArray image_, ivec3 P, uint data);",
      "uint imageAtomicOr(imageCubeArray image_, ivec3 P, uint data);",
      "uint imageAtomicXor(imageCubeArray image_, ivec3 P, uint data);",
      "uint imageAtomicExchange(imageCubeArray image_, ivec3 P, uint data);",
      "uint imageAtomicCompSwap(imageCubeArray image_, ivec3 P, uint compare, uint data);",
      "float imageAtomicExchange(imageCubeArray image_, ivec3 P, float data);",
      "ivec3 imageSize(readonly writeonly image3D image_);",
      "vec4 imageLoad(readonly image3D image_, ivec3 P);",
      "void imageStore(writeonly image3D image_, ivec3 P, vec4 data);",
      "int imageAtomicAdd(image3D image_, ivec3 P, int data);",
      "int imageAtomicMin(image3D image_, ivec3 P, int data);",
      "int imageAtomicMax(image3D image_, ivec3 P, int data);",
      "int imageAtomicAnd(image3D image_, ivec3 P, int data);",
      "int imageAtomicOr(image3D image_, ivec3 P, int data);",
      "int imageAtomicXor(image3D image_, ivec3 P, int data);",
      "int imageAtomicExchange(image3D image_, ivec3 P, int data);",
      "int imageAtomicCompSwap(image3D image_, ivec3 P, int compare, int data);",
      "uint imageAtomicAdd(image3D image_, ivec3 P, uint data);",
      "uint imageAtomicMin(image3D image_, ivec3 P, uint data);",
      "uint imageAtomicMax(image3D image_, ivec3 P, uint data);",
      "uint imageAtomicAnd(image3D image_, ivec3 P, uint data);",
      "uint imageAtomicOr(image3D image_, ivec3 P, uint data);",
      "uint imageAtomicXor(image3D image_, ivec3 P, uint data);",
      "uint imageAtomicExchange(image3D image_, ivec3 P, uint data);",
      "uint imageAtomicCompSwap(image3D image_, ivec3 P, uint compare, uint data);",
      "float imageAtomicExchange(image3D image_, ivec3 P, float data);",
      "ivec2 imageSize(readonly writeonly image2DRect image_);",
      "vec4 imageLoad(readonly image2DRect image_, ivec2 P);",
      "void imageStore(writeonly image2DRect image_, ivec2 P, vec4 data);",
      "int imageAtomicAdd(image2DRect image_, ivec2 P, int data);",
      "int imageAtomicMin(image2DRect image_, ivec2 P, int data);",
      "int imageAtomicMax(image2DRect image_, ivec2 P, int data);",
      "int imageAtomicAnd(image2DRect image_, ivec2 P, int data);",
      "int imageAtomicOr(image2DRect image_, ivec2 P, int data);",
      "int imageAtomicXor(image2DRect image_, ivec2 P, int data);",
      "int imageAtomicExchange(image2DRect image_, ivec2 P, int data);",
      "int imageAtomicCompSwap(image2DRect image_, ivec2 P, int compare, int data);",
      "uint imageAtomicAdd(image2DRect image_, ivec2 P, uint data);",
      "uint imageAtomicMin(image2DRect image_, ivec2 P, uint data);",
      "uint imageAtomicMax(image2DRect image_, ivec2 P, uint data);",
      "uint imageAtomicAnd(image2DRect image_, ivec2 P, uint data);",
      "uint imageAtomicOr(image2DRect image_, ivec2 P, uint data);",
      "uint imageAtomicXor(image2DRect image_, ivec2 P, uint data);",
      "uint imageAtomicExchange(image2DRect image_, ivec2 P, uint data);",
      "uint imageAtomicCompSwap(image2DRect image_, ivec2 P, uint compare, uint data);",
      "float imageAtomicExchange(image2DRect image_, ivec2 P, float data);",
      "int imageSize(readonly writeonly imageBuffer image_);",
      "vec4 imageLoad(readonly imageBuffer image_, int P);",
      "void imageStore(writeonly imageBuffer image_, int P, vec4 data);",
      "int imageAtomicAdd(imageBuffer image_, int P, int data);",
      "int imageAtomicMin(imageBuffer image_, int P, int data);",
      "int imageAtomicMax(imageBuffer image_, int P, int data);",
      "int imageAtomicAnd(imageBuffer image_, int P, int data);",
      "int imageAtomicOr(imageBuffer image_, int P, int data);",
      "int imageAtomicXor(imageBuffer image_, int P, int data);",
      "int imageAtomicExchange(imageBuffer image_, int P, int data);",
      "int imageAtomicCompSwap(imageBuffer image_, int P, int compare, int data);",
      "uint imageAtomicAdd(imageBuffer image_, int P, uint data);",
      "uint imageAtomicMin(imageBuffer image_, int P, uint data);",
      "uint imageAtomicMax(imageBuffer image_, int P, uint data);",
      "uint imageAtomicAnd(imageBuffer image_, int P, uint data);",
      "uint imageAtomicOr(imageBuffer image_, int P, uint data);",
      "uint imageAtomicXor(imageBuffer image_, int P, uint data);",
      "uint imageAtomicExchange(imageBuffer image_, int P, uint data);",
      "uint imageAtomicCompSwap(imageBuffer image_, int P, uint compare, uint data);",
      "float imageAtomicExchange(imageBuffer image_, int P, float data);",
      "ivec2 imageSize(readonly writeonly image2DMS image_);",
      "int imageSamples(readonly writeonly image2DMS image_);",
      "vec4 imageLoad(readonly image2DMS image_, ivec2 P, int sample);",
      "void imageStore(writeonly image2DMS image_, ivec2 P, int sample, vec4 data);",
      "int imageAtomicAdd(image2DMS image_, ivec2 P, int sample, int data);",
      "int imageAtomicMin(image2DMS image_, ivec2 P, int sample, int data);",
      "int imageAtomicMax(image2DMS image_, ivec2 P, int sample, int data);",
      "int imageAtomicAnd(image2DMS image_, ivec2 P, int sample, int data);",
      "int imageAtomicOr(image2DMS image_, ivec2 P, int sample, int data);",
      "int imageAtomicXor(image2DMS image_, ivec2 P, int sample, int data);",
      "int imageAtomicExchange(image2DMS image_, ivec2 P, int sample, int data);",
      "int imageAtomicCompSwap(image2DMS image_, ivec2 P, int sample, int compare, int data);",
      "uint imageAtomicAdd(image2DMS image_, ivec2 P, int sample, uint data);",
      "uint imageAtomicMin(image2DMS image_, ivec2 P, int sample, uint data);",
      "uint imageAtomicMax(image2DMS image_, ivec2 P, int sample, uint data);",
      "uint imageAtomicAnd(image2DMS image_, ivec2 P, int sample, uint data);",
      "uint imageAtomicOr(image2DMS image_, ivec2 P, int sample, uint data);",
      "uint imageAtomicXor(image2DMS image_, ivec2 P, int sample, uint data);",
      "uint imageAtomicExchange(image2DMS image_, ivec2 P, int sample, uint data);",
      "uint imageAtomicCompSwap(image2DMS image_, ivec2 P, int sample, uint compare, uint data);",
      "float imageAtomicExchange(image2DMS image_, ivec2 P, int sample, float data);",
      "ivec2 imageSize(readonly writeonly image2DMSArray image_);",
      "int imageSamples(readonly writeonly image2DMSArray image_);",
      "vec4 imageLoad(readonly image2DMSArray image_, ivec2 P, int sample);",
      "void imageStore(writeonly image2DMSArray image_, ivec2 P, int sample, vec4 data);",
      "int imageAtomicAdd(image2DMSArray image_, ivec2 P, int sample, int data);",
      "int imageAtomicMin(image2DMSArray image_, ivec2 P, int sample, int data);",
      "int imageAtomicMax(image2DMSArray image_, ivec2 P, int sample, int data);",
      "int imageAtomicAnd(image2DMSArray image_, ivec2 P, int sample, int data);",
      "int imageAtomicOr(image2DMSArray image_, ivec2 P, int sample, int data);",
      "int imageAtomicXor(image2DMSArray image_, ivec2 P, int sample, int data);",
      "int imageAtomicExchange(image2DMSArray image_, ivec2 P, int sample, int data);",
      "int imageAtomicCompSwap(image2DMSArray image_, ivec2 P, int sample, int compare, int " ++
        "data);",
      "uint imageAtomicAdd(image2DMSArray image_, ivec2 P, int sample, uint data);",
      "uint imageAtomicMin(image2DMSArray image_, ivec2 P, int sample, uint data);",
      "uint imageAtomicMax(image2DMSArray image_, ivec2 P, int sample, uint data);",
      "uint imageAtomicAnd(image2DMSArray image_, ivec2 P, int sample, uint data);",
      "uint imageAtomicOr(image2DMSArray image_, ivec2 P, int sample, uint data);",
      "uint imageAtomicXor(image2DMSArray image_, ivec2 P, int sample, uint data);",
      "uint imageAtomicExchange(image2DMSArray image_, ivec2 P, int sample, uint data);",
      "uint imageAtomicCompSwap(image2DMSArray image_, ivec2 P, int sample, uint compare, " ++
        "uint data);",
      "float imageAtomicExchange(image2DMSArray image_, ivec2 P, int sample, float data);"]]

end Prelude

end GlslPrelude
