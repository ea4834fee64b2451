import Calculi.Context

/-!
Type inference. The first ill-typed subterm, taking functions before arguments and guards before arms, ends the
whole check and is named in the error.
-/
namespace Calculi

inductive TypingError where
  | variableNotFound (index : Int) (term : Term) (cause : LookupError)
  | parameterMismatch (expected actual : Ty) (term : Term)
  | unexpectedType (actual : Ty) (term : Term)
  | armsMismatch (thenType elseType : Ty) (term : Term)
  | guardNotBool (actual : Ty) (term : Term)
  | argumentNotNat (actual : Ty) (term : Term)
  | unannotated (name : String) (term : Term)
  deriving DecidableEq

inductive TypingError.Kind where
  | variableNotFound
  | parameterMismatch
  | unexpectedType
  | armsMismatch
  | guardNotBool
  | argumentNotNat
  | unannotated
  deriving DecidableEq

namespace TypingError

def Kind.name : Kind → String
  | .variableNotFound => "VariableNotFound"
  | .parameterMismatch => "ParameterMismatch"
  | .unexpectedType => "UnexpectedType"
  | .armsMismatch => "ConditionalArmsMismatch"
  | .guardNotBool => "GuardNotBool"
  | .argumentNotNat => "ArgumentNotNat"
  | .unannotated => "MissingAnnotation"

def kind : TypingError → Kind
  | .variableNotFound .. => .variableNotFound
  | .parameterMismatch .. => .parameterMismatch
  | .unexpectedType .. => .unexpectedType
  | .armsMismatch .. => .armsMismatch
  | .guardNotBool .. => .guardNotBool
  | .argumentNotNat .. => .argumentNotNat
  | .unannotated .. => .unannotated

/-- The subterm whose own rule failed. -/
def term : TypingError → Term
  | .variableNotFound _ t _ | .parameterMismatch _ _ t | .unexpectedType _ t | .armsMismatch _ _ t
  | .guardNotBool _ t | .argumentNotNat _ t | .unannotated _ t => t

def message : TypingError → String
  | .variableNotFound index _ _ => s!"No type for variable with de Bruijn index {index}"
  | .parameterMismatch expected actual _ =>
    s!"Parameter type mismatch: expected {expected.render}, but got {actual.render}"
  | .unexpectedType actual _ => s!"Expected a function type, but got {actual.render}"
  | .armsMismatch thenType elseType _ =>
    s!"Arms of conditional have different types: {thenType.render} and {elseType.render}"
  | .guardNotBool actual _ => s!"Guard of conditional is not a Bool: {actual.render}"
  | .argumentNotNat actual _ => s!"Expected argument of type Nat, but got {actual.render}"
  | .unannotated name _ => s!"Abstraction over {Text.quote name} has no parameter type"

end TypingError

inductive TypingFailure where
  | illTyped (error : TypingError)
  | unknownForm (form : UnknownForm)
  deriving DecidableEq

namespace Term

def applyType (whole : Term) : Ty → Ty → Except TypingFailure Ty
  | .arrow dom cod, actual =>
    if dom = actual then .ok cod else .error (.illTyped (.parameterMismatch dom actual whole))
  | fnType, _ => .error (.illTyped (.unexpectedType fnType whole))

def expectNat (whole : Term) (result actual : Ty) : Except TypingFailure Ty :=
  if actual = .nat then .ok result else .error (.illTyped (.argumentNotNat actual whole))

def infer : Context → Term → Except TypingFailure Ty
  | ctx, .var v =>
    match ctx.typeAt v.index with
    | .ok ty => .ok ty
    | .error cause => .error (.illTyped (.variableNotFound v.index (.var v) cause))
  | _, .abs hint none body => .error (.illTyped (.unannotated hint (.abs hint none body)))
  | ctx, .abs hint (some ty) body => do
    let bodyType ← infer (ctx.extend hint (.typed ty)) body
    return .arrow ty bodyType
  | ctx, .app fn arg => do
    let fnType ← infer ctx fn
    let argType ← infer ctx arg
    applyType (.app fn arg) fnType argType
  | _, .tru => return .bool
  | _, .fls => return .bool
  | ctx, .ite guard thn els => do
    let guardType ← infer ctx guard
    if guardType = .bool then
      let thenType ← infer ctx thn
      let elseType ← infer ctx els
      if thenType = elseType then return thenType
      else throw (.illTyped (.armsMismatch thenType elseType (.ite guard thn els)))
    else throw (.illTyped (.guardNotBool guardType (.ite guard thn els)))
  | _, .zero => return .nat
  | ctx, .succ arg => do expectNat (.succ arg) .nat (← infer ctx arg)
  | ctx, .pred arg => do expectNat (.pred arg) .nat (← infer ctx arg)
  | ctx, .isZero arg => do expectNat (.isZero arg) .bool (← infer ctx arg)
  | _, .foreign text => .error (.unknownForm ⟨text⟩)

end Term

end Calculi
