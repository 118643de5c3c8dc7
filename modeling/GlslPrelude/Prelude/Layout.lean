import GlslPrelude.Condition.Printer
import GlslPrelude.Text.Line
import GlslPrelude.Type.Name

/-!
# Layout of the prelude

The text of the prelude is put together from chapters. A chapter documents each function once and
lists its overloads, one prototype a line. An overload whose types belong to optional features is
put under the flags of these features.
-/

namespace GlslPrelude

/-- The feature that brings the types of a scalar kind, if they are optional. -/
def Scalar.feature? : Scalar → Option Feature
  | .float16 => some .float16Type
  | .int8 => some .int8Type
  | .int16 => some .int16Type
  | .int64 => some .int64Type
  | .uint8 => some .uint8Type
  | .uint16 => some .uint16Type
  | .uint64 => some .uint64Type
  | _ => none

/-- Documentation of a function. -/
structure Note where
  /-- Name of the function. -/
  function : String
  /-- A part that only the prototypes have which the note is about. -/
  about : String := ""
  /-- The documentation. -/
  text : String

/-- A part of a chapter. -/
inductive Section where
  /-- Lines as they stand; prototypes among them are documented. -/
  | lines (lines : List String)
  /-- Prototypes, each of them documented and put under the flags of its features. -/
  | overloads (prototypes : List String)
  /-- A part under a condition. -/
  | when (condition : Condition) (body : List Section)

/-- A part of the prelude that deals with one subject. -/
structure Chapter where
  /-- Documentation of its functions. -/
  notes : List Note
  /-- Its declarations. -/
  sections : List Section

namespace Section

/-- Text between `#if` and `#endif`. -/
def conditional (condition : Condition) (body : String) : String :=
  "#if " ++ condition.render ++ "\n" ++ body ++ "#endif\n"

/-- The words of a line. -/
def words (line : List Char) : List String :=
  (line.splitBy fun a b => (a.isAlphanum || a = '_') == (b.isAlphanum || b = '_')).map String.ofList

/-- Name of the function that a line is a prototype of. -/
def functionName (line : List Char) : String :=
  ((words (line.takeWhile (· ≠ '('))).getLast?).getD ""

/-- The features that bring the types in a line. -/
def features (line : List Char) : List Feature :=
  let kinds := (words line).filterMap fun word => (Ty.ofName? word).bind Ty.scalar?
  (elements Feature).filter fun f => kinds.any fun k => k.feature? = some f

/-- Whether a part occurs in a line. -/
def occurs (part : List Char) : List Char → Bool
  | [] => part.isEmpty
  | c :: cs => part.isPrefixOf (c :: cs) || occurs part cs

/-- Whether a note is about the prototype in a line. -/
def isAbout (line : List Char) (name : String) (note : Note) : Bool :=
  note.function == name && occurs note.about.toList line

/-- A note as comments. -/
def comment (note : Note) : String :=
  String.join ((Text.lines note.text.toList).map fun line =>
    match line.filter (· ≠ '\n') with
    | [] => "//\n"
    | cs => "// " ++ String.ofList cs ++ "\n")

/-- A line with its documentation in front of it. -/
def document (notes : List Note) (line : String) : String :=
  let text := line ++ "\n"
  if line.contains '(' then
    let name := functionName line.toList
    match notes.find? (isAbout line.toList name) with
    | some note => comment note ++ text
    | none => text
  else text

/-- A prototype under the flags of its features. -/
def guardOverload (notes : List Note) (line : String) : String :=
  (features line.toList).foldr (fun f body => conditional (.flag (.feature f)) body)
    (document notes line)

mutual

/-- Text of a section. -/
def render (notes : List Note) : Section → String
  | .lines texts => String.join (texts.map (document notes))
  | .overloads prototypes => String.join (prototypes.map (guardOverload notes))
  | .when condition body => conditional condition (renderAll notes body)

/-- Text of sections. -/
def renderAll (notes : List Note) : List Section → String
  | [] => ""
  | s :: ss => s.render notes ++ renderAll notes ss

end

/-- The condition that a shader runs in one of some stages. -/
def inStage : List Stage → Condition
  | [stage] => .flag (.stage stage)
  | stages => .any (stages.map fun stage => .flag (.stage stage))

/-- The condition that a shader targets an API. -/
def targeting (api : Api) : Condition :=
  .flag (.api api)

/-- The condition that a feature is enabled. -/
def enabled (feature : Feature) : Condition :=
  .flag (.feature feature)

end Section

/-- Text of a chapter. -/
def Chapter.render (chapter : Chapter) : String :=
  Section.renderAll chapter.notes chapter.sections

end GlslPrelude
