import Calculi.Term
import Calculi.Text.Quoted

/-!
Naming and typing contexts. Position 0 is the binder introduced last, and a context is never changed in place,
so sibling terms may share it.
-/
namespace Calculi

inductive Binding where
  /-- A binder of the untyped calculus: it has a name and nothing else. -/
  | name
  | typed (ty : Ty)
  deriving DecidableEq

def Binding.render : Binding → String
  | .name => "_"
  | .typed ty => ty.render

abbrev Context := List (String × Binding)

inductive LookupError where
  | outOfRange (index : Int) (length : Nat)
  | untyped (index : Int) (name : String)
  deriving DecidableEq

def LookupError.message : LookupError → String
  | .outOfRange index length =>
    s!"Variable index {index} out of bounds in context with {length} bindings"
  | .untyped index name => s!"Binding {Text.quote name} at index {index} has no type"

structure EmptySuffix where
  deriving DecidableEq

def EmptySuffix.message (_ : EmptySuffix) : String :=
  "fresh name suffix must be non-empty"

namespace Context

def extend (ctx : Context) (name : String) (binding : Binding) : Context :=
  (name, binding) :: ctx

/-- Indices come from terms, so they may be negative or past the end; neither wraps around. -/
def entryAt (ctx : Context) (index : Int) : Except LookupError (String × Binding) :=
  match (if index < 0 then none else ctx[index.toNat]?) with
  | some entry => .ok entry
  | none => .error (.outOfRange index ctx.length)

def bindingAt (ctx : Context) (index : Int) : Except LookupError Binding :=
  (ctx.entryAt index).map Prod.snd

def nameAt (ctx : Context) (index : Int) : Except LookupError String :=
  (ctx.entryAt index).map Prod.fst

def typeAt (ctx : Context) (index : Int) : Except LookupError Ty := do
  match ← ctx.entryAt index with
  | (_, .typed ty) => return ty
  | (name, .name) => throw (.untyped index name)

def binds (ctx : Context) (name : String) : Bool :=
  ctx.any fun entry => entry.1 == name

def firstFree (ctx : Context) (suffix : String) : Nat → String → String
  | 0, name => name
  | tries + 1, name => if ctx.binds name then firstFree ctx suffix tries (name ++ suffix) else name

/-- A display name not yet bound, made from the hint. No two candidates are equal and only `ctx.length` names
can be taken, so that many tries are enough. -/
def freshName (ctx : Context) (hint suffix : String) : String :=
  ctx.firstFree suffix ctx.length hint

def pickFresh (ctx : Context) (hint suffix : String) : Except EmptySuffix (Context × String) :=
  if suffix.isEmpty then .error ⟨⟩
  else
    let name := ctx.freshName hint suffix
    .ok (ctx.extend name .name, name)

def render (ctx : Context) : String :=
  "Context([" ++ ", ".intercalate (ctx.map fun (name, binding) => name ++ ":" ++ binding.render) ++ "])"

end Context

end Calculi
