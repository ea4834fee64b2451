import Calculi.Term.Named

/-!
Printing in pieces. A bad index is a piece of its own, not to be mistaken for a name that happens to read like it; the
printed text is the pieces one after the other.
-/
namespace Calculi

namespace Term

inductive Piece where
  | text (written : String)
  | badIndex
  deriving DecidableEq

def Piece.written : Piece → String
  | .text written => written
  | .badIndex => Term.badIndex

def Piece.join (pieces : List Piece) : String :=
  String.join (pieces.map Piece.written)

def varPiece (ctx : Context) (v : Var) : Piece :=
  if v.scope = ctx.length then
    match ctx.nameAt v.index with
    | .ok name => .text name
    | .error _ => .badIndex
  else .badIndex

def pieces (suffix : String) : Context → Term → Except RenderError (List Piece)
  | ctx, .var v => return [varPiece ctx v]
  | ctx, .abs hint ann body =>
    match ctx.pickFresh hint suffix with
    | .error _ => throw .emptySuffix
    | .ok (inner, name) => do
      let annotation := match ann with
        | none => ""
        | some ty => ":" ++ ty.render
      return .text ("(lambda " ++ name ++ annotation ++ ". ") :: (← pieces suffix inner body) ++ [.text ")"]
  | ctx, .app fn arg =>
    return .text "(" :: (← pieces suffix ctx fn) ++ .text " " :: (← pieces suffix ctx arg) ++ [.text ")"]
  | _, .tru => return [.text "true"]
  | _, .fls => return [.text "false"]
  | ctx, .ite guard thn els =>
    return .text "(if " :: (← pieces suffix ctx guard) ++ .text " then " :: (← pieces suffix ctx thn) ++
      .text " else " :: (← pieces suffix ctx els) ++ [.text ")"]
  | _, .zero => return [.text "0"]
  | ctx, .succ arg => return .text "(succ " :: (← pieces suffix ctx arg) ++ [.text ")"]
  | ctx, .pred arg => return .text "(pred " :: (← pieces suffix ctx arg) ++ [.text ")"]
  | ctx, .isZero arg => return .text "(iszero " :: (← pieces suffix ctx arg) ++ [.text ")"]
  | _, .foreign text => throw (.unknownForm ⟨text⟩)

theorem written_varPiece (ctx : Context) (v : Var) : (varPiece ctx v).written = varName ctx v := by
  unfold varPiece varName
  by_cases inScope : v.scope = ctx.length
  · simp only [if_pos inScope]
    cases ctx.nameAt v.index <;> rfl
  · simp only [if_neg inScope]
    rfl

@[simp] theorem join_nil : Piece.join [] = "" := by
  simp [Piece.join]

@[simp] theorem join_cons (piece : Piece) (rest : List Piece) :
    Piece.join (piece :: rest) = piece.written ++ Piece.join rest := by
  simp [Piece.join]

@[simp] theorem join_append (front back : List Piece) :
    Piece.join (front ++ back) = Piece.join front ++ Piece.join back := by
  simp [Piece.join]

theorem pure_eq_map_join {text : String} {pieces : List Piece} (same : text = Piece.join pieces) :
    (pure text : Except RenderError String) = (pure pieces : Except RenderError (List Piece)).map Piece.join :=
  congrArg Except.ok same

theorem bind_eq_map_join {part : Except RenderError (List Piece)} {onText : String → Except RenderError String}
    {onPieces : List Piece → Except RenderError (List Piece)}
    (follow : ∀ pieces, onText (Piece.join pieces) = (onPieces pieces).map Piece.join) :
    part.map Piece.join >>= onText = (part >>= onPieces).map Piece.join := by
  cases part with
  | error error => rfl
  | ok pieces => exact follow pieces

theorem render_eq_join_pieces (suffix : String) (ctx : Context) (t : Term) :
    t.render suffix ctx = (t.pieces suffix ctx).map Piece.join := by
  induction t generalizing ctx with
  | var v => exact pure_eq_map_join (by simp [written_varPiece])
  | abs hint ann body ih =>
    simp only [render, pieces]
    cases ctx.pickFresh hint suffix with
    | error empty => rfl
    | ok fresh =>
      simp only [ih]
      apply bind_eq_map_join
      intro inner
      apply pure_eq_map_join
      cases ann <;> simp [Piece.written, String.append_assoc]
  | app fn arg fnIH argIH =>
    simp only [render, pieces, fnIH, argIH]
    apply bind_eq_map_join
    intro fnPieces
    apply bind_eq_map_join
    intro argPieces
    exact pure_eq_map_join (by simp [Piece.written, String.append_assoc])
  | ite guard thn els guardIH thnIH elsIH =>
    simp only [render, pieces, guardIH, thnIH, elsIH]
    apply bind_eq_map_join
    intro guardPieces
    apply bind_eq_map_join
    intro thnPieces
    apply bind_eq_map_join
    intro elsPieces
    exact pure_eq_map_join (by simp [Piece.written, String.append_assoc])
  | succ arg ih | pred arg ih | isZero arg ih =>
    simp only [render, pieces, ih]
    apply bind_eq_map_join
    intro inner
    exact pure_eq_map_join (by simp [Piece.written, String.append_assoc])
  | foreign text => rfl
  | _ => exact pure_eq_map_join (by simp [Piece.written])

def Prints (suffix : String) (ctx : Context) (t : Term) (shown : List Piece) : Prop :=
  t.pieces suffix ctx = .ok shown ∧ t.render suffix ctx = .ok (Piece.join shown)

theorem prints_of_pieces {suffix : String} {ctx : Context} {t : Term} {shown : List Piece}
    (done : t.pieces suffix ctx = .ok shown) : t.Prints suffix ctx shown := by
  refine ⟨done, ?_⟩
  rw [render_eq_join_pieces, done]
  rfl

end Term

end Calculi
