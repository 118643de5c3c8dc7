import GlslPrelude.Prelude.Atomic
import GlslPrelude.Prelude.Blending
import GlslPrelude.Prelude.Bounds
import GlslPrelude.Prelude.Constants
import GlslPrelude.Prelude.Encoding
import GlslPrelude.Prelude.Exponential
import GlslPrelude.Prelude.Fragment
import GlslPrelude.Prelude.Geometry
import GlslPrelude.Prelude.ImageFloat
import GlslPrelude.Prelude.ImageInt
import GlslPrelude.Prelude.ImageUint
import GlslPrelude.Prelude.Integer
import GlslPrelude.Prelude.Invocation
import GlslPrelude.Prelude.Matrix
import GlslPrelude.Prelude.Packing
import GlslPrelude.Prelude.Primitives
import GlslPrelude.Prelude.RayQuery
import GlslPrelude.Prelude.RayTracing
import GlslPrelude.Prelude.Relational
import GlslPrelude.Prelude.Rounding
import GlslPrelude.Prelude.Stages
import GlslPrelude.Prelude.TextureFloat
import GlslPrelude.Prelude.TextureInt
import GlslPrelude.Prelude.TextureUint
import GlslPrelude.Prelude.Trigonometry

/-!
# Text of the prelude

The declarations of all the builtins of the language, each under the conditions in which it exists.
-/

namespace GlslPrelude

namespace Prelude

/-- The chapters in order. -/
def chapters : List Chapter :=
  [constants, stages, rayTracing, rayQuery, trigonometry, exponential, rounding, bounds,
    blending, encoding, packing, geometry, matrix, relational, integer, textureFloat,
    textureInt, textureUint, atomic, imageFloat, imageInt, imageUint, primitives, fragment,
    invocation]

/-- The text of the prelude. -/
def source : String :=
  String.join (chapters.map Chapter.render)

end Prelude

end GlslPrelude
