import GlslPrelude.Text.Word
import GlslPrelude.Type.Scalar

/-!
# Handles

Types whose values can only be handed to builtin functions: samplers, images, subpass inputs,
counters, acceleration structures and ray queries.
-/

namespace GlslPrelude

/-- Kind of the components that a texture holds. -/
inductive Texel where
  | float
  | int
  | uint
deriving DecidableEq, Repr

namespace Texel

/-- All the kinds. -/
def all : List Texel :=
  [.float, .int, .uint]

/-- The kind as a scalar kind. -/
def scalar : Texel → Scalar
  | .float => .float
  | .int => .int
  | .uint => .uint

/-- The kind that the first letter of a name stands for, and the name without this letter. The first
letter of `image` stands for no kind. -/
def takeLetter (name : List Char) : Texel × List Char :=
  match name with
  | 'i' :: rest => if "image".toList.isPrefixOf name then (.float, name) else (.int, rest)
  | 'u' :: rest => (.uint, rest)
  | _ => (.float, name)

end Texel

/-- Dimensionality of a texture. -/
inductive TextureDim where
  | oneD
  | twoD
  | threeD
  | cube
  | rect
  | buffer
deriving DecidableEq, Repr

namespace TextureDim

/-- All the dimensionalities. -/
def all : List TextureDim :=
  [.oneD, .twoD, .threeD, .cube, .rect, .buffer]

/-- The part of a type name that stands for the dimensionality. -/
def name : TextureDim → String
  | .oneD => "1D"
  | .twoD => "2D"
  | .threeD => "3D"
  | .cube => "Cube"
  | .rect => "2DRect"
  | .buffer => "Buffer"

/-- The dimensionality that a text begins with, and the text without it. -/
def take? (cs : List Char) : Option (TextureDim × List Char) :=
  -- `2DRect` comes before `2D`, which it begins with
  [rect, oneD, twoD, threeD, cube, buffer].findSome? fun dim =>
    (dim.name.toList.isPrefixOf? cs).map (dim, ·)

end TextureDim

/-- What a sampler or an image refers to. -/
structure Texture where
  /-- Kind of the components. -/
  sampled : Texel
  /-- Dimensionality. -/
  dim : TextureDim
  /-- Whether there are several layers. -/
  isArray : Bool
  /-- Whether there are several samples for each texel. -/
  isMultisample : Bool
  /-- Whether texels are depths to compare with. -/
  isShadow : Bool
deriving DecidableEq, Repr

namespace Texture

/-- Whether the language has such textures. -/
def isValid (t : Texture) : Bool :=
  (!t.isShadow || t.sampled = .float) &&
    match t.dim with
    | .oneD | .cube => !t.isMultisample
    | .twoD => !(t.isMultisample && t.isShadow)
    | .rect => !(t.isMultisample || t.isArray)
    | .threeD | .buffer => !(t.isMultisample || t.isArray || t.isShadow)

/-- The textures that the language has. -/
def all : List Texture :=
  (Texel.all.flatMap fun sampled => TextureDim.all.flatMap fun dim =>
    [false, true].flatMap fun isMultisample => [false, true].flatMap fun isArray =>
      [false, true].map fun isShadow =>
        { sampled, dim, isArray, isMultisample, isShadow }).filter isValid

/-- Name of the type of samplers or images of such textures. -/
def name (base : String) (t : Texture) : String :=
  t.sampled.scalar.vectorStem ++ base ++ t.dim.name ++
    (if t.isMultisample then "MS" else "") ++ (if t.isArray then "Array" else "") ++
    (if t.isShadow then "Shadow" else "")

/-- The texture with components of a kind that the end of a name describes, if the language has it.
-/
def ofName? (sampled : Texel) (cs : List Char) : Option Texture :=
  (TextureDim.take? cs).bind fun (dim, cs) =>
    let multisample := Text.takeWord "MS" cs
    let array := Text.takeWord "Array" multisample.2
    let shadow := Text.takeWord "Shadow" array.2
    let t : Texture :=
      { sampled, dim, isArray := array.1, isMultisample := multisample.1, isShadow := shadow.1 }
    if shadow.2.isEmpty && t.isValid then some t else none

end Texture

/-- A type whose values can only be handed around. -/
inductive Handle where
  /-- Texture with a way of sampling it. -/
  | sampler (texture : Texture)
  /-- Texture whose texels are read and written one by one. -/
  | image (texture : Texture)
  /-- Result of an earlier subpass. -/
  | subpassInput (sampled : Texel) (isMultisample : Bool)
  | atomicCounter
  | accelerationStructureExt
  | accelerationStructureNv
  | rayQuery
deriving DecidableEq, Repr

namespace Handle

/-- All the handle types of the language. -/
def all : List Handle :=
  [.atomicCounter, .accelerationStructureExt, .accelerationStructureNv, .rayQuery] ++
    (Texel.all.flatMap fun t => [.subpassInput t false, .subpassInput t true]) ++
    Texture.all.map .sampler ++ (Texture.all.filter fun t => !t.isShadow).map .image

/-- Name of the type. -/
def name : Handle → String
  | .sampler t => t.name "sampler"
  | .image t => t.name "image"
  | .subpassInput t isMultisample =>
    t.scalar.vectorStem ++ "subpassInput" ++ if isMultisample then "MS" else ""
  | .atomicCounter => "atomic_uint"
  | .accelerationStructureExt => "accelerationStructureEXT"
  | .accelerationStructureNv => "accelerationStructureNV"
  | .rayQuery => "rayQueryEXT"

/-- The handle type with components of a kind that a name without the letter for the kind refers
to. -/
def ofBase? (sampled : Texel) (cs : List Char) : Option Handle :=
  match "subpassInput".toList.isPrefixOf? cs with
  | some suffix =>
    if suffix = [] then some (.subpassInput sampled false)
    else if suffix = "MS".toList then some (.subpassInput sampled true)
    else none
  | none =>
    match "sampler".toList.isPrefixOf? cs with
    | some suffix => (Texture.ofName? sampled suffix).map .sampler
    | none =>
      ("image".toList.isPrefixOf? cs).bind fun suffix =>
        -- depths are only sampled
        ((Texture.ofName? sampled suffix).filter (!·.isShadow)).map .image

/-- The handle type that a name refers to. -/
def ofName? (name : String) : Option Handle :=
  match [atomicCounter, accelerationStructureExt, accelerationStructureNv, rayQuery].find?
      (·.name == name) with
  | some h => some h
  | none =>
    let parts := Texel.takeLetter name.toList
    ofBase? parts.1 parts.2

/-- Kind of the components that values of the type refer to. -/
def scalar? : Handle → Option Scalar
  | .sampler t | .image t => some t.sampled.scalar
  | .subpassInput t _ => some t.scalar
  | _ => none

end Handle

end GlslPrelude
