import Calculi.Context

/-!
Terms printed with names. Each binder gets a name that the context does not use yet, so no name on the page
is ambiguous; a variable that the context cannot account for is printed as a bad index.
-/
namespace Calculi

inductive RenderError where
  | emptySuffix
  | unknownForm (form : UnknownForm)
  deriving DecidableEq

def RenderError.message : RenderError → String
  | .emptySuffix => EmptySuffix.message ⟨⟩
  | .unknownForm form => form.message

namespace Term

def badIndex : String := "[bad index]"

def varName (ctx : Context) (v : Var) : String :=
  if v.scope = ctx.length then
    match ctx.nameAt v.index with
    | .ok name => name
    | .error _ => badIndex
  else badIndex

def render (suffix : String) : Context → Term → Except RenderError String
  | ctx, .var v => return varName ctx v
  | ctx, .abs hint ann body =>
    match ctx.pickFresh hint suffix with
    | .error _ => throw .emptySuffix
    | .ok (inner, name) => do
      let annotation := match ann with
        | none => ""
        | some ty => ":" ++ ty.render
      return "(lambda " ++ name ++ annotation ++ ". " ++ (← render suffix inner body) ++ ")"
  | ctx, .app fn arg => return "(" ++ (← render suffix ctx fn) ++ " " ++ (← render suffix ctx arg) ++ ")"
  | _, .tru => return "true"
  | _, .fls => return "false"
  | ctx, .ite guard thn els =>
    return "(if " ++ (← render suffix ctx guard) ++ " then " ++ (← render suffix ctx thn) ++ " else "
      ++ (← render suffix ctx els) ++ ")"
  | _, .zero => return "0"
  | ctx, .succ arg => return "(succ " ++ (← render suffix ctx arg) ++ ")"
  | ctx, .pred arg => return "(pred " ++ (← render suffix ctx arg) ++ ")"
  | ctx, .isZero arg => return "(iszero " ++ (← render suffix ctx arg) ++ ")"
  | _, .foreign text => throw (.unknownForm ⟨text⟩)

end Term

end Calculi
