import Calculi.Chapter.Basic

/-!
The built-in chapters: arithmetic expressions, the untyped calculus, the simply typed calculus.
-/
namespace Calculi.Chapter

open Term

def one : Term := .succ .zero

def two : Term := .succ one

def ref (index scope : Int) : Term := .var ⟨index, scope⟩

def fn (hint : String) (body : Term) : Term := .abs hint none body

def boolId (hint : String) : Term := .abs hint (some .bool) (ref 0 1)

def named (names : List String) : Context := names.map fun name => (name, .name)

def arith : Chapter where
  name := "arith"
  title := "Untyped arithmetic expressions"
  examples := [
    { name := "true", term := .tru, result := some .tru, ty := some .bool },
    { name := "false", term := .fls, result := some .fls, ty := some .bool },
    { name := "zero", term := .zero, result := some .zero, ty := some .nat },
    { name := "if-true", term := .ite .tru .zero one, result := some .zero, ty := some .nat },
    { name := "if-iszero-pred", term := .ite (.isZero (.pred one)) two one, result := some two },
    { name := "if-false", term := .ite .fls one .zero, result := some .zero },
    { name := "if-iszero-succ"
      term := .ite (.isZero two) (.pred .zero) (.succ (.pred .zero))
      result := some one },
    { name := "succ-value", term := .succ two, result := some (.succ two) },
    { name := "pred-zero", term := .pred (.pred (.pred .zero)), result := some .zero },
    { name := "pred-succ", term := .pred (.succ (.succ (.pred one))), result := some one },
    { name := "iszero-zero", term := .isZero (.pred one), result := some .tru, ty := some .bool },
    { name := "iszero-pred", term := .isZero (.pred (.succ (.pred (.pred .zero)))), result := some .tru },
    { name := "iszero-succ"
      term := .isZero (.succ (.pred (.succ (.pred (.pred .zero)))))
      result := some .fls },
    { name := "stuck-succ", term := .succ .tru, result := some (.succ .tru) },
    { name := "stuck-pred", term := .pred (.isZero .fls), result := some (.pred (.isZero .fls)) }]

def untyped : Chapter where
  name := "untyped"
  title := "Untyped lambda calculus"
  examples := [
    { name := "free-variable", term := ref 0 1, ctx := named ["x"], result := some (ref 0 1) },
    { name := "identity", term := fn "x" (ref 0 1), result := some (fn "x" (ref 0 1)) },
    { name := "stuck-application"
      term := .app (ref 0 2) (ref 1 2)
      ctx := named ["x", "y"]
      result := some (.app (ref 0 2) (ref 1 2)) },
    { name := "free-in-argument"
      term := .app (fn "x1" (ref 0 2)) (fn "x2" (ref 1 2))
      ctx := named ["z"]
      result := some (fn "x2" (ref 1 2)) },
    { name := "nested-beta"
      term := .app (.app (fn "x" (ref 0 1)) (fn "x" (.app (ref 0 1) (ref 0 1))))
        (fn "y" (.app (fn "x" (ref 0 2)) (fn "x" (ref 0 2))))
      result := some (fn "x" (ref 0 1)) },
    { name := "tru-applied"
      term := .app (.app (fn "t" (fn "f" (ref 1 2))) (fn "a" (ref 0 1))) (fn "b" (ref 0 1))
      result := some (fn "a" (ref 0 1)) },
    { name := "shadowing"
      term := .app (fn "x" (fn "x" (ref 1 2))) (fn "x" (ref 0 1))
      result := some (fn "x" (fn "x" (ref 0 2))) }]

def typed : Chapter where
  name := "typed"
  title := "Simply-typed lambda calculus with booleans"
  examples := [
    { name := "true", term := .tru, ty := some .bool, result := some .tru },
    { name := "false", term := .fls, ty := some .bool, result := some .fls },
    { name := "if", term := .ite .tru .fls .tru, ty := some .bool, result := some .fls },
    { name := "identity"
      term := boolId "x"
      ty := some (.arrow .bool .bool)
      result := some (boolId "x") },
    { name := "apply-identity", term := .app (boolId "x") .tru, ty := some .bool, result := some .tru },
    { name := "apply-if"
      term := .app (.ite .fls (boolId "x") (boolId "y")) .tru
      ty := some .bool
      result := some .tru },
    { name := "apply-nested-if"
      term := .app
        (.ite (.app (.ite .tru (boolId "x") (boolId "y")) .fls) (boolId "x") (boolId "y")) .tru
      ty := some .bool
      result := some .tru },
    { name := "higher-order"
      term := .app (.abs "f" (some (.arrow .bool .bool)) (.app (ref 0 1) .fls))
        (.abs "b" (some .bool) (.ite (ref 0 1) .fls .tru))
      ty := some .bool
      result := some .tru },
    { name := "untyped-binding"
      term := ref 0 1
      ctx := named ["x"]
      error := some (.only .variableNotFound) },
    { name := "parameter-mismatch"
      term := .app (.abs "x" (some (.arrow .bool .bool)) (ref 0 1)) .tru
      error := some (.only .parameterMismatch) },
    { name := "unexpected-type"
      term := .app .tru (boolId "x")
      error := some (.only .unexpectedType) },
    { name := "arms-mismatch"
      term := .ite .tru (boolId "x") .fls
      error := some (.only .armsMismatch) },
    { name := "guard-not-bool"
      term := .ite (boolId "x") .tru .fls
      error := some (.only .guardNotBool) }]

def library : List Chapter := [arith, untyped, typed]

end Calculi.Chapter
