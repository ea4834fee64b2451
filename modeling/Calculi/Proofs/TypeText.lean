import Calculi.Ty

/-!
The written form of types, read back. In the grammar an atom is `Bool`, `Nat` or a type in parentheses, and a type is an
atom, or an atom, an arrow and a type. A reader for it takes the type that a text begins with and leaves what follows.
What is written for a type is read as that type, so the text shows where it ends and which type it is, and no shorter
text would do: parentheses stand only where the arrow inside them would otherwise be taken for another one.
-/
namespace Calculi.Ty

/-! The grammar -/

inductive Place where
  | atom
  | whole

/-- The texts that stand for a type. Arrows associate to the right, since the left of one is an atom. -/
inductive Spells : Place → List Char → Ty → Prop
  | bool : Spells .atom ['B', 'o', 'o', 'l'] .bool
  | nat : Spells .atom ['N', 'a', 't'] .nat
  | group {text : List Char} {ty : Ty} (inside : Spells .whole text ty) : Spells .atom ('(' :: (text ++ [')'])) ty
  | atom {text : List Char} {ty : Ty} (alone : Spells .atom text ty) : Spells .whole text ty
  | arrow {text text' : List Char} {dom cod : Ty} (left : Spells .atom text dom) (right : Spells .whole text' cod) :
      Spells .whole (text ++ ' ' :: '-' :: '>' :: ' ' :: text') (.arrow dom cod)

def writtenAt : Place → Ty → List Char
  | .atom, ty => if ty.isArrow then '(' :: (ty.render.toList ++ [')']) else ty.render.toList
  | .whole, ty => ty.render.toList

theorem writtenAt_arrow (dom cod : Ty) :
    (Ty.arrow dom cod).writtenAt .whole = dom.writtenAt .atom ++ ' ' :: '-' :: '>' :: ' ' :: cod.writtenAt .whole := by
  have sign : (" -> ").toList = [' ', '-', '>', ' '] := rfl
  simp only [writtenAt, render, String.toList_append, sign]
  cases dom.isArrow <;> simp

theorem spells_atom_of_whole {ty : Ty} (spelled : Spells .whole (ty.writtenAt .whole) ty) :
    Spells .atom (ty.writtenAt .atom) ty := by
  cases ty with
  | bool => exact .bool
  | nat => exact .nat
  | arrow dom cod => exact .group spelled

theorem spells_render (ty : Ty) : Spells .whole ty.render.toList ty := by
  induction ty with
  | bool => exact .atom .bool
  | nat => exact .atom .nat
  | arrow dom cod domIH codIH =>
    change Spells .whole ((Ty.arrow dom cod).writtenAt .whole) (.arrow dom cod)
    rw [writtenAt_arrow]
    exact .arrow (spells_atom_of_whole domIH) codIH

/-! The reader -/

def afterArrow? : List Char → Option (List Char)
  | ' ' :: '-' :: '>' :: ' ' :: rest => some rest
  | _ => none

def readAtom (inner : List Char → Option (Ty × List Char)) : List Char → Option (Ty × List Char)
  | 'B' :: 'o' :: 'o' :: 'l' :: rest => some (.bool, rest)
  | 'N' :: 'a' :: 't' :: rest => some (.nat, rest)
  | '(' :: text =>
    match inner text with
    | some (ty, ')' :: rest) => some (ty, rest)
    | _ => none
  | _ => none

/-- The type that a text begins with, and the rest of the text. Fuel bounds how deep arrows are nested. -/
def readFrom : Nat → List Char → Option (Ty × List Char)
  | 0, _ => none
  | fuel + 1, text =>
    match readAtom (readFrom fuel) text with
    | none => none
    | some (dom, rest) =>
      match afterArrow? rest with
      | none => some (dom, rest)
      | some text => (readFrom fuel text).map fun (cod, rest) => (.arrow dom cod, rest)

def read (text : String) : Option Ty :=
  match readFrom (text.toList.length + 1) text.toList with
  | some (ty, []) => some ty
  | _ => none

/-- The reader takes this text from the front of a longer one, unless the rest goes on with an arrow. -/
def Taken : Place → List Char → Ty → Prop
  | .atom, text, ty => ∀ fuel rest, text.length ≤ fuel → readAtom (readFrom fuel) (text ++ rest) = some (ty, rest)
  | .whole, text, ty => ∀ fuel rest, text.length < fuel → afterArrow? rest = none →
      readFrom fuel (text ++ rest) = some (ty, rest)

theorem Spells.taken {place : Place} {text : List Char} {ty : Ty} (spelled : Spells place text ty) :
    Taken place text ty := by
  induction spelled with
  | bool => exact fun _ _ _ => rfl
  | nat => exact fun _ _ _ => rfl
  | @group text ty _ ih =>
    intro fuel rest enough
    simp only [List.length_cons, List.length_append, List.length_nil] at enough
    have inside := ih fuel (')' :: rest) (by omega) rfl
    simp only [List.cons_append, List.append_assoc, List.nil_append, readAtom, inside]
  | atom _ ih =>
    intro fuel rest enough ended
    obtain ⟨fuel, rfl⟩ : ∃ less, fuel = less + 1 := ⟨fuel - 1, by omega⟩
    simp only [readFrom, ih fuel rest (by omega), ended]
  | @arrow text text' dom cod _ _ leftIH rightIH =>
    intro fuel rest enough ended
    obtain ⟨fuel, rfl⟩ : ∃ less, fuel = less + 1 := ⟨fuel - 1, by omega⟩
    simp only [List.length_append, List.length_cons] at enough
    simp only [List.append_assoc, List.cons_append, readFrom, leftIH fuel _ (show text.length ≤ fuel by omega),
      afterArrow?, rightIH fuel rest (by omega) ended, Option.map_some]

theorem eq_of_afterArrow? {text rest : List Char} (found : afterArrow? text = some rest) :
    text = ' ' :: '-' :: '>' :: ' ' :: rest := by
  unfold afterArrow? at found
  split at found
  · cases found
    rfl
  · cases found

theorem spells_of_readAtom {inner : List Char → Option (Ty × List Char)}
    (sound : ∀ {text ty rest}, inner text = some (ty, rest) → ∃ front, text = front ++ rest ∧ Spells .whole front ty)
    {text rest : List Char} {ty : Ty} (found : readAtom inner text = some (ty, rest)) :
    ∃ front, text = front ++ rest ∧ Spells .atom front ty := by
  unfold readAtom at found
  split at found
  · cases found
    exact ⟨['B', 'o', 'o', 'l'], rfl, .bool⟩
  · cases found
    exact ⟨['N', 'a', 't'], rfl, .nat⟩
  · split at found
    · rename_i inside
      cases found
      obtain ⟨front, rfl, spelled⟩ := sound inside
      exact ⟨'(' :: (front ++ [')']), by simp, .group spelled⟩
    · cases found
  · cases found

theorem spells_of_readFrom {fuel : Nat} {text rest : List Char} {ty : Ty}
    (found : readFrom fuel text = some (ty, rest)) :
    ∃ front, text = front ++ rest ∧ Spells .whole front ty := by
  induction fuel generalizing text rest ty with
  | zero => cases found
  | succ fuel ih =>
    rw [readFrom] at found
    split at found
    · cases found
    · rename_i dom afterDom atomFound
      obtain ⟨left, rfl, leftSpelled⟩ := spells_of_readAtom ih atomFound
      split at found
      · cases found
        exact ⟨left, rfl, .atom leftSpelled⟩
      · rename_i afterSign signFound
        obtain ⟨⟨cod, _⟩, codFound, same⟩ := Option.map_eq_some_iff.mp found
        cases same
        obtain ⟨right, rfl, rightSpelled⟩ := ih codFound
        refine ⟨left ++ ' ' :: '-' :: '>' :: ' ' :: right, ?_, .arrow leftSpelled rightSpelled⟩
        simp [eq_of_afterArrow? signFound]

theorem read_eq_some_iff {text : String} {ty : Ty} : read text = some ty ↔ Spells .whole text.toList ty := by
  constructor
  · intro found
    unfold read at found
    split at found
    · rename_i taken
      cases found
      obtain ⟨front, same, spelled⟩ := spells_of_readFrom taken
      rwa [same, List.append_nil]
    · cases found
  · intro spelled
    have taken := spelled.taken (text.toList.length + 1) [] (by omega) rfl
    rw [List.append_nil] at taken
    simp only [read, taken]

theorem render_append_injective {ty ty' : Ty} {rest rest' : List Char} (ended : afterArrow? rest = none)
    (ended' : afterArrow? rest' = none) (same : ty.render.toList ++ rest = ty'.render.toList ++ rest') :
    ty = ty' ∧ rest = rest' := by
  have first := (spells_render ty).taken (ty.render.toList.length + ty'.render.toList.length + 1) rest (by omega) ended
  have second := (spells_render ty').taken (ty.render.toList.length + ty'.render.toList.length + 1) rest' (by omega)
    ended'
  rw [same, second] at first
  cases first
  exact ⟨rfl, rfl⟩

/-! Parentheses -/

theorem length_whole_le (ty : Ty) : (ty.writtenAt .whole).length ≤ (ty.writtenAt .atom).length := by
  simp only [writtenAt]
  split
  · simp only [List.length_cons, List.length_append, List.length_nil]
    omega
  · exact Nat.le_refl _

theorem length_atom_le (ty : Ty) : (ty.writtenAt .atom).length ≤ (ty.writtenAt .whole).length + 2 := by
  simp only [writtenAt]
  split <;> simp

theorem Spells.length_le {place : Place} {text : List Char} {ty : Ty} (spelled : Spells place text ty) :
    (ty.writtenAt place).length ≤ text.length := by
  induction spelled with
  | bool => exact Nat.le_refl 4
  | nat => exact Nat.le_refl 3
  | @group text ty _ ih =>
    have grouped := ty.length_atom_le
    simp only [List.length_cons, List.length_append, List.length_nil]
    omega
  | @atom text ty _ ih => exact Nat.le_trans ty.length_whole_le ih
  | arrow _ _ leftIH rightIH =>
    rw [writtenAt_arrow]
    simp only [List.length_append, List.length_cons]
    omega

/-- What an opening parenthesis encloses is the text of an arrow, and another arrow follows the closing one. -/
def OpensArrow (rest : List Char) : Prop :=
  ∃ dom cod after, rest = (Ty.arrow dom cod).render.toList ++ ')' :: ' ' :: '-' :: '>' :: ' ' :: after

theorem OpensArrow.append {rest : List Char} (opens : OpensArrow rest) (more : List Char) :
    OpensArrow (rest ++ more) := by
  obtain ⟨dom, cod, after, rfl⟩ := opens
  exact ⟨dom, cod, after ++ more, by simp⟩

theorem append_eq_split {text more before rest : List Char} {c : Char} (same : text ++ more = before ++ c :: rest) :
    (∃ rest', text = before ++ c :: rest' ∧ rest = rest' ++ more) ∨
      ∃ before', more = before' ++ c :: rest ∧ before = text ++ before' := by
  rcases List.append_eq_append_iff.mp same with ⟨later, rfl, rfl⟩ | ⟨later, rfl, split⟩
  · exact .inr ⟨later, rfl, rfl⟩
  · cases later with
    | nil => exact .inr ⟨[], by simpa using split.symm, by simp⟩
    | cons d later =>
      cases split
      exact .inl ⟨later, rfl, rfl⟩

theorem opensArrow_of_render (ty : Ty) {before rest : List Char} (written : ty.render.toList = before ++ '(' :: rest) :
    OpensArrow rest := by
  have occurs {text front back : List Char} (split : text = front ++ '(' :: back) : '(' ∈ text :=
    split ▸ List.mem_append_cons_self
  induction ty generalizing before rest with
  | bool => exact absurd (occurs written) (by decide)
  | nat => exact absurd (occurs written) (by decide)
  | arrow dom cod domIH codIH =>
    have whole := writtenAt_arrow dom cod
    simp only [writtenAt, written] at whole
    rcases append_eq_split whole.symm with ⟨inside, left, rfl⟩ | ⟨between, right, rfl⟩
    · cases dom with
      | bool => exact absurd (occurs left) (by decide)
      | nat => exact absurd (occurs left) (by decide)
      | arrow dom' cod' =>
        simp only [isArrow, if_true] at left
        cases before with
        | nil =>
          cases left
          exact ⟨dom', cod', cod.render.toList, by simp⟩
        | cons c before =>
          rcases append_eq_split (List.tail_eq_of_cons_eq left) with ⟨inner, deeper, rfl⟩ | ⟨_, closing, rfl⟩
          · exact ((domIH deeper).append _).append _
          · exact absurd (occurs closing) (by decide)
    · have sign : [' ', '-', '>', ' '] ++ cod.render.toList = between ++ '(' :: rest := right
      rcases append_eq_split sign with ⟨_, inSign, _⟩ | ⟨_, later, _⟩
      · exact absurd (occurs inSign) (by decide)
      · exact codIH later

def leftArrows : Ty → Nat
  | .bool | .nat => 0
  | .arrow dom cod => (if dom.isArrow then 1 else 0) + dom.leftArrows + cod.leftArrows

theorem count_parentheses (ty : Ty) :
    ty.render.toList.count '(' = ty.leftArrows ∧ ty.render.toList.count ')' = ty.leftArrows := by
  induction ty with
  | bool => decide
  | nat => decide
  | arrow dom cod domIH codIH =>
    change ((Ty.arrow dom cod).writtenAt .whole).count '(' = _ ∧ ((Ty.arrow dom cod).writtenAt .whole).count ')' = _
    rw [writtenAt_arrow]
    cases arrow : dom.isArrow with
    | true =>
      simp [writtenAt, leftArrows, arrow, domIH, codIH, List.count_append]
      omega
    | false => simp [writtenAt, leftArrows, arrow, domIH, codIH, List.count_append]

/-- The text of a type is read as that type and as no other, so types are told apart by their texts. Without any one
pair of its parentheses the text would not stand for the type: each pair encloses an arrow on the left of another, and
there are as many pairs as there are such arrows. -/
theorem render_is_read_back_and_shortest (ty : Ty) :
    read ty.render = some ty ∧
    (∀ other, Spells .whole ty.render.toList other ↔ other = ty) ∧
    (∀ other : Ty, ty.render = other.render ↔ ty = other) ∧
    (∀ before inside after, ty.render.toList = before ++ '(' :: (inside ++ ')' :: after) →
      ¬Spells .whole (before ++ (inside ++ after)) ty) ∧
    (∀ before rest, ty.render.toList = before ++ '(' :: rest → OpensArrow rest) ∧
    ty.render.toList.count '(' = ty.leftArrows ∧ ty.render.toList.count ')' = ty.leftArrows := by
  have back {ty : Ty} : read ty.render = some ty := read_eq_some_iff.mpr (spells_render ty)
  refine ⟨back, fun other => ?_, fun other => ⟨fun same => ?_, congrArg render⟩, fun before inside after written => ?_,
    fun before rest => ty.opensArrow_of_render, ty.count_parentheses⟩
  · rw [← read_eq_some_iff, back, Option.some.injEq, eq_comm]
  · have again := congrArg read same
    rwa [back, back, Option.some.injEq] at again
  · intro spelled
    have shortest : ty.render.toList.length ≤ (before ++ (inside ++ after)).length := spelled.length_le
    rw [written] at shortest
    simp only [List.length_append, List.length_cons] at shortest
    omega

/-- The parentheses around a domain stay, and those around a codomain are never written. -/
theorem render_is_read_back_and_shortest_nested :
    (Ty.arrow (.arrow .bool (.arrow .nat .bool)) (.arrow .nat .nat)).render = "(Bool -> Nat -> Bool) -> Nat -> Nat" ∧
      ¬Spells .whole "Bool -> Nat -> Bool -> Nat -> Nat".toList
        (.arrow (.arrow .bool (.arrow .nat .bool)) (.arrow .nat .nat)) := by
  have text : (Ty.arrow (.arrow .bool (.arrow .nat .bool)) (.arrow .nat .nat)).render =
      "(Bool -> Nat -> Bool) -> Nat -> Nat" := by decide
  obtain ⟨_, _, _, needed, _⟩ :=
    render_is_read_back_and_shortest (.arrow (.arrow .bool (.arrow .nat .bool)) (.arrow .nat .nat))
  rw [text] at needed
  exact ⟨text, needed [] "Bool -> Nat -> Bool".toList " -> Nat -> Nat".toList (by decide)⟩

end Calculi.Ty
