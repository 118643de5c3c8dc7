import GlslPrelude.Declaration.Printer
import GlslPrelude.Type.Conversion

/-!
# Overload resolution

A call is matched against the signatures of a name. A signature is viable if each argument converts
to its parameter, or the other way round where data flows out. A viable signature beats another if
its conversions are nowhere worse and somewhere better; the call goes to the signature that beats
all the other viable ones.
-/

namespace GlslPrelude

/-- Cost of passing an argument to a parameter: the argument converts to an `in` parameter, an `out`
parameter converts to the argument, and an `inout` parameter takes only its own type. -/
def Parameter.classify? (p : Parameter) (argument : Ty) : Option Conversion :=
  match p.direction with
  | .in => argument.conversion? p.type
  | .out => p.type.conversion? argument
  | .inout => if p.type = argument then some .exact else none

/-- Costs of passing the arguments of a call; `none` if the signature is not viable. -/
def Signature.costs? (s : Signature) (arguments : List Ty) : Option (List Conversion) :=
  if s.parameters.length = arguments.length then
    (s.parameters.zip arguments).mapM fun (p, argument) => p.classify? argument
  else none

/-- Why a call goes to no signature. -/
inductive ResolveError where
  /-- The name has no signature at all. -/
  | unknownFunction (name : String)
  /-- No signature is viable. -/
  | notApplicable (name : String) (arguments : List Ty)
  /-- Several signatures are viable and none beats all the others; those that no other beats are
  given. -/
  | ambiguous (name : String) (arguments : List Ty) (candidates : List Signature)
deriving DecidableEq

namespace ResolveError

/-- Whether nothing matches the call, as opposed to too much. -/
def isNoMatch : ResolveError → Bool
  | .unknownFunction _ | .notApplicable _ _ => true
  | .ambiguous _ _ _ => false

/-- The signatures that a call is ambiguous between. -/
def candidates : ResolveError → List Signature
  | .ambiguous _ _ candidates => candidates
  | _ => []

/-- Wording of the error. -/
def message : ResolveError → String
  | .unknownFunction name => "unknown function `" ++ name ++ "`"
  | .notApplicable name arguments =>
    "no overload of `" ++ name ++ "` accepts (" ++ renderTypes arguments ++ ")"
  | .ambiguous name arguments candidates =>
    "ambiguous call to `" ++ name ++ "` with (" ++ renderTypes arguments ++ "): " ++
      toString candidates.length ++ " candidates"
where
  /-- Types separated by commas. -/
  renderTypes (types : List Ty) : String :=
    ", ".intercalate (types.map Ty.render)

end ResolveError

namespace Overload

/-- Whether costs are nowhere worse and somewhere better than others. -/
def beats (a b : List Conversion) : Bool :=
  (a.zip b).all (fun (x, y) => x.rank ≤ y.rank) && (a.zip b).any (fun (x, y) => x.rank < y.rank)

/-- A viable signature. -/
structure Candidate where
  /-- The signature. -/
  signature : Signature
  /-- Costs of passing the arguments. -/
  costs : List Conversion

/-- The viable signatures of a list, in order. -/
def viable (signatures : List Signature) (arguments : List Ty) : List Candidate :=
  signatures.filterMap fun s => (s.costs? arguments).map ({ signature := s, costs := · })

/-- The first candidate that beats all the others, those in front of it given first. -/
def winner? (before : List Candidate) : List Candidate → Option Candidate
  | [] => none
  | c :: after =>
    if before.all (fun other => beats c.costs other.costs) &&
        after.all (fun other => beats c.costs other.costs) then some c
    else winner? (before ++ [c]) after

/-- The candidates that no other beats. -/
def unbeaten (candidates : List Candidate) : List Candidate :=
  candidates.filter fun c => !candidates.any fun other => beats other.costs c.costs

/-- The signature that a call goes to. -/
def resolve (signatures : List Signature) (name : String) (arguments : List Ty) :
    Except ResolveError Signature :=
  if signatures.isEmpty then .error (.unknownFunction name)
  else
    let candidates := viable signatures arguments
    match winner? [] candidates with
    | some c => .ok c.signature
    | none =>
      if candidates.isEmpty then .error (.notApplicable name arguments)
      else
        .error (.ambiguous name arguments ((unbeaten candidates).map Candidate.signature))

end Overload

end GlslPrelude
