import Calculi.Proofs.Walk

/-!
Laws of substitution. Putting an argument for the variable of an abstraction moves terms three times, and comes to the
same as one walk that moves each copy once. Substitutions for different variables may change places, and a substitution
may be carried out before or after an abstraction gets its argument. All laws are equalities of terms: they hold of the
scopes as they do of the indices, whatever integers these are.
-/
namespace Calculi.Term

/-! Occurrences -/

theorem le_of_mem_occurrences {t : Term} {base : Int} {occurrence : Var × Int}
    (member : occurrence ∈ t.occurrences base) : base ≤ occurrence.2 := by
  induction t generalizing base with
  | var v =>
    obtain rfl := List.mem_singleton.mp member
    exact Int.le_refl base
  | abs hint ann body ih =>
    have deeper : base + 1 ≤ occurrence.2 := ih member
    omega
  | app fn arg fnIH argIH =>
    rcases List.mem_append.mp member with inFn | inArg
    · exact fnIH inFn
    · exact argIH inArg
  | ite guard thn els guardIH thnIH elsIH =>
    rcases List.mem_append.mp member with inFront | inEls
    · rcases List.mem_append.mp inFront with inGuard | inThn
      · exact guardIH inGuard
      · exact thnIH inThn
    · exact elsIH inEls
  | succ arg ih | pred arg ih | isZero arg ih => exact ih member
  | _ => cases member

/-- A walk puts the occurrences of the visitor's answers where the occurrences were. The walk and the count of its
result may start from other cutoffs than the count of the given term. -/
theorem occurrences_mapVars (visit : Var → Int → Term) (t : Term) (base first second : Int) :
    (t.mapVars visit (base + first)).occurrences (base + second) =
      (t.occurrences base).flatMap fun occurrence =>
        (visit occurrence.1 (occurrence.2 + first)).occurrences (occurrence.2 + second) := by
  induction t generalizing base with
  | var v => simp [mapVars, occurrences]
  | abs hint ann body ih =>
    simp only [mapVars, occurrences, ← ih]
    rw [Int.add_right_comm base first, Int.add_right_comm base second]
  | app fn arg fnIH argIH => simp only [mapVars, occurrences, fnIH, argIH, List.flatMap_append]
  | ite guard thn els guardIH thnIH elsIH =>
    simp only [mapVars, occurrences, guardIH, thnIH, elsIH, List.flatMap_append]
  | succ arg ih | pred arg ih | isZero arg ih => simp only [mapVars, occurrences, ih]
  | _ => rfl

theorem mapVars_eq_iff {visit visit' : Var → Int → Term} {t : Term} {cutoff : Int} :
    t.mapVars visit cutoff = t.mapVars visit' cutoff ↔
      ∀ occurrence ∈ t.occurrences cutoff, visit occurrence.1 occurrence.2 = visit' occurrence.1 occurrence.2 := by
  induction t generalizing cutoff with
  | var v => simp only [mapVars, occurrences, List.forall_mem_singleton]
  | abs hint ann body ih => simp only [mapVars, occurrences, Term.abs.injEq, true_and, ih]
  | app fn arg fnIH argIH =>
    simp only [mapVars, occurrences, Term.app.injEq, fnIH, argIH, List.forall_mem_append]
  | ite guard thn els guardIH thnIH elsIH =>
    simp only [mapVars, occurrences, Term.ite.injEq, guardIH, thnIH, elsIH, List.forall_mem_append, and_assoc]
  | succ arg ih => simp only [mapVars, occurrences, Term.succ.injEq, ih]
  | pred arg ih => simp only [mapVars, occurrences, Term.pred.injEq, ih]
  | isZero arg ih => simp only [mapVars, occurrences, Term.isZero.injEq, ih]
  | _ => simp [mapVars, occurrences]

theorem mapVars_eq_self {visit : Var → Int → Term} {t : Term} {cutoff : Int}
    (keeps : ∀ occurrence ∈ t.occurrences cutoff, visit occurrence.1 occurrence.2 = .var occurrence.1) :
    t.mapVars visit cutoff = t := by
  have same : t.mapVars visit cutoff = t.mapVars (fun v _ => .var v) cutoff := mapVars_eq_iff.mpr keeps
  exact same.trans (mapVars_var t fun _ _ => rfl)

theorem mapVars_congr {visit visit' : Var → Int → Term} {c c' : Int} (t : Term)
    (agree : ∀ v (n : Nat), visit v (c + n) = visit' v (c' + n)) : t.mapVars visit c = t.mapVars visit' c' := by
  have unchanged : (t.mapVars visit c).mapVars (fun v _ => .var v) c = t.mapVars visit c :=
    mapVars_var _ fun _ _ => rfl
  rw [← unchanged]
  apply mapVars_mapVars
  intro v n
  rw [mapVars_var _ fun _ _ => rfl]
  exact agree v n

theorem mapVars_mapVars_eq {first second first' second' : Var → Int → Term} {c₁ c₂ c₁' c₂' : Int} (t : Term)
    (agree : ∀ v (n : Nat), (first v (c₁ + n)).mapVars second (c₂ + n) =
      (first' v (c₁' + n)).mapVars second' (c₂' + n)) :
    (t.mapVars first c₁).mapVars second c₂ = (t.mapVars first' c₁').mapVars second' c₂' := by
  let both : Var → Int → Term := fun v n => (first v (c₁ + n)).mapVars second (c₂ + n)
  have left : (t.mapVars first c₁).mapVars second c₂ = t.mapVars both 0 := by
    apply mapVars_mapVars
    intro v n
    simp only [both, Int.zero_add]
  have right : (t.mapVars first' c₁').mapVars second' c₂' = t.mapVars both 0 := by
    apply mapVars_mapVars
    intro v n
    simp only [both, Int.zero_add, agree]
  exact left.trans right.symm

/-! One walk for three -/

section

variable {s : Term} {v : Var} {cutoff : Int}

theorem fillVar_one_below (bound : v.index < cutoff) : fillVar [s] v cutoff = .var ⟨v.index, v.scope - 1⟩ :=
  fillVar_bound bound

theorem fillVar_one_at (here : v.index = cutoff) : fillVar [s] v cutoff = s.shiftFrom cutoff 0 :=
  fillVar_arg 0 (by omega) rfl

theorem fillVar_one_above (free : cutoff < v.index) :
    fillVar [s] v cutoff = .var ⟨v.index - 1, v.scope - 1⟩ :=
  fillVar_free (by simp only [List.length_singleton]; omega)

end

def dropVar (s : Term) (v : Var) (cutoff : Int) : Except UnknownForm Term :=
  if v.index = cutoff then s.shift cutoff
  else if cutoff < v.index then return .var ⟨v.index - 1, v.scope - 1⟩
  else return .var ⟨v.index, v.scope - 1⟩

theorem dropVar_eq_fillVar {s : Term} (known : s.isKnown = true) (v : Var) (cutoff : Int) :
    dropVar s v cutoff = .ok (fillVar [s] v cutoff) := by
  rcases Int.lt_trichotomy v.index cutoff with bound | here | free
  · rw [dropVar, if_neg (by omega), if_neg (by omega), fillVar_one_below bound]
    rfl
  · rw [dropVar, if_pos here, shift_eq_shiftFrom known, fillVar_one_at here]
  · rw [dropVar, if_neg (by omega), if_pos free, fillVar_one_above free]
    rfl

/-- No variable is left that names the binder about to go: those that did are copies of an argument that has moved past
it. -/
theorem index_ne_of_mem_replace {body s : Term} {occurrence : Var × Int}
    (member : occurrence ∈ (body.replace 0 (s.shiftFrom 1 0) 0).occurrences 0) : occurrence.1.index ≠ occurrence.2 := by
  have spread := occurrences_mapVars (replaceVar 0 (s.shiftFrom 1 0)) body 0 0 0
  simp only [Int.add_zero] at spread
  rw [replace, spread, List.mem_flatMap] at member
  obtain ⟨⟨v, c⟩, within, member⟩ := member
  have above : 0 ≤ c := le_of_mem_occurrences within
  by_cases named : v.index = 0 + c
  · rw [replaceVar, if_pos named, shiftFrom_shiftFrom s (by omega) (by omega)] at member
    have copies := occurrences_mapVars (fun w n => .var (w.shift (1 + c) n)) s 0 0 c
    simp only [Int.add_zero, Int.zero_add, occurrences] at copies
    rw [shiftFrom, copies, List.mem_flatMap] at member
    obtain ⟨⟨w, n⟩, _, member⟩ := member
    obtain rfl := List.mem_singleton.mp member
    simp only [Var.shift]
    split <;> simp only <;> omega
  · rw [replaceVar, if_neg named] at member
    obtain rfl := List.mem_singleton.mp member
    simp only
    omega

/-- Putting an argument for the variable of an abstraction takes one walk: each variable that names the abstraction
becomes a copy of the argument, shifted once, the variables that point past it come down by one, and all scopes do.
The last of the three shifts makes no index negative, since it lowers none that is zero. -/
theorem instantiate_is_one_walk {body s : Term} (known : body.isKnown = true) (argKnown : s.isKnown = true) :
    (∃ next, body.instantiate s = .ok next ∧ body.mapVarsM (dropVar s) 0 = .ok next) ∧
    ∃ moved replaced, s.shift 1 = .ok moved ∧ body.substitute 0 moved = .ok replaced ∧
      body.instantiate s = replaced.shift (-1) ∧
      ∀ v c, (v, c) ∈ replaced.occurrences 0 → 0 ≤ v.index → 0 ≤ (v.shift (-1) c).index := by
  have movedKnown := isKnown_shiftFrom argKnown 1 0
  have moved := shift_eq_shiftFrom argKnown 1
  have replaced := substitute_eq_replace known movedKnown 0
  refine ⟨⟨_, instantiate_eq_fill known argKnown, mapVarsM_eq_mapVars (dropVar_eq_fillVar argKnown) known 0⟩,
    _, _, moved, replaced, ?_, ?_⟩
  · simp only [instantiate, moved, replaced, bind, Except.bind]
  · intro v c member nonneg
    have apart : v.index ≠ c := index_ne_of_mem_replace member
    have above : 0 ≤ c := le_of_mem_occurrences member
    simp only [Var.shift]
    split <;> simp only <;> omega

def mentionsBoth : Term :=
  .abs "y" none (.app (.var ⟨1, 3⟩) (.var ⟨2, 3⟩))

/-- The copy of a free variable and the variable past the binder come out equal. -/
theorem instantiate_is_one_walk_mentionsBoth :
    mentionsBoth.mapVarsM (dropVar (.var ⟨0, 1⟩)) 0 = .ok (.abs "y" none (.app (.var ⟨1, 2⟩) (.var ⟨1, 2⟩))) ∧
      mentionsBoth.instantiate (.var ⟨0, 1⟩) = .ok (.abs "y" none (.app (.var ⟨1, 2⟩) (.var ⟨1, 2⟩))) := by
  have known : mentionsBoth.isKnown = true := rfl
  have argKnown : (Term.var ⟨0, 1⟩).isKnown = true := rfl
  have walked : mentionsBoth.mapVarsM (dropVar (.var ⟨0, 1⟩)) 0 =
      .ok (.abs "y" none (.app (.var ⟨1, 2⟩) (.var ⟨1, 2⟩))) := rfl
  obtain ⟨⟨next, instantiated, same⟩, _⟩ := instantiate_is_one_walk known argKnown
  rw [walked] at same
  cases same
  exact ⟨walked, instantiated⟩

/-! Substitution against shifting and filling -/

theorem replace_shiftFrom (u s : Term) {j d : Int} (slot : 0 ≤ j) (up : 0 ≤ d) :
    (u.shiftFrom d 0).replace j s d = (u.replace j s 0).shiftFrom d 0 := by
  apply mapVars_mapVars_eq
  intro v n
  simp only [Int.zero_add, mapVars]
  by_cases named : v.index = j + n
  · have moved : (v.shift d n).index = j + (d + n) := by
      simp only [Var.shift, if_pos (show (n : Int) ≤ v.index by omega)]
      omega
    rw [replaceVar, if_pos moved, replaceVar, if_pos named]
    change _ = (s.shiftFrom n 0).shiftFrom d n
    rw [shiftFrom_shiftFrom s (by omega) (by omega), Int.add_comm]
  · have kept : (v.shift d n).index ≠ j + (d + n) := by
      simp only [Var.shift]
      split <;> simp only <;> omega
    rw [replaceVar, if_neg kept, replaceVar, if_neg named]
    rfl

/-- Some variable of the term names the binder at this place outside it. -/
def OccursFree (k : Int) (t : Term) : Prop :=
  ∃ occurrence ∈ t.occurrences 0, occurrence.1.index = k + occurrence.2

instance (k : Int) (t : Term) : Decidable (t.OccursFree k) :=
  inferInstanceAs (Decidable (∃ occurrence ∈ t.occurrences 0, occurrence.1.index = k + occurrence.2))

theorem replace_eq_self {s : Term} {k : Int} (absent : ¬s.OccursFree k) (u : Term) : s.replace k u 0 = s := by
  apply mapVars_eq_self
  intro occurrence member
  have other : occurrence.1.index ≠ k + occurrence.2 := fun named => absent ⟨occurrence, member, named⟩
  rw [replaceVar, if_neg other]

theorem replace_replace (t u s : Term) {j k : Int} (slot : 0 ≤ j) (slot' : 0 ≤ k) (apart : j ≠ k)
    (absent : ¬s.OccursFree k) :
    (t.replace k u 0).replace j s 0 = (t.replace j s 0).replace k (u.replace j s 0) 0 := by
  apply mapVars_mapVars_eq
  intro v n
  have under : (0 : Int) ≤ n := Int.natCast_nonneg n
  simp only [Int.zero_add]
  by_cases inner : v.index = k + n
  · rw [replaceVar, if_pos inner, replaceVar, if_neg (show ¬v.index = j + n by omega)]
    simp only [mapVars]
    rw [replaceVar, if_pos inner]
    exact replace_shiftFrom u s slot under
  · rw [replaceVar, if_neg inner]
    simp only [mapVars]
    by_cases outer : v.index = j + n
    · rw [replaceVar, if_pos outer]
      change _ = (s.shiftFrom n 0).replace k (u.replace j s 0) n
      rw [replace_shiftFrom s _ slot' under, replace_eq_self absent]
    · rw [replaceVar, if_neg outer]
      simp only [mapVars]
      rw [replaceVar, if_neg inner]

/-- A substitution in the body of an abstraction that has got its argument is one in the body, where the variable has one
binder more to point past, and one in the argument. -/
theorem replace_fill (t u s : Term) {j : Int} (slot : 0 ≤ j) :
    (t.fill [u] 0).replace j s 0 = (t.replace (j + 1) (s.shiftFrom 1 0) 0).fill [u.replace j s 0] 0 := by
  apply mapVars_mapVars_eq
  intro v n
  have under : (0 : Int) ≤ n := Int.natCast_nonneg n
  simp only [Int.zero_add]
  rcases Int.lt_trichotomy v.index n with bound | here | free
  · rw [fillVar_one_below bound, replaceVar, if_neg (show ¬v.index = j + 1 + n by omega)]
    simp only [mapVars]
    rw [replaceVar, if_neg (show ¬v.index = j + n by omega), fillVar_one_below bound]
  · rw [fillVar_one_at here, replaceVar, if_neg (show ¬v.index = j + 1 + n by omega)]
    simp only [mapVars]
    rw [fillVar_one_at here]
    exact replace_shiftFrom u s slot under
  · rw [fillVar_one_above free]
    simp only [mapVars]
    by_cases named : v.index = j + 1 + n
    · rw [replaceVar, if_pos (by simp only; omega), replaceVar, if_pos named,
        shiftFrom_shiftFrom s (by omega) (by omega), Int.add_comm 1]
      exact (fill_shiftFrom _ s under).symm
    · rw [replaceVar, if_neg (by simp only; omega), replaceVar, if_neg named]
      simp only [mapVars]
      rw [fillVar_one_above free]

theorem replace_under (t s : Term) (j : Int) : t.replace j s 1 = t.replace (j + 1) (s.shiftFrom 1 0) 0 := by
  apply mapVars_congr
  intro v n
  by_cases named : v.index = j + (1 + n)
  · rw [replaceVar, if_pos named, replaceVar, if_pos (by omega), shiftFrom_shiftFrom s (by omega) (by omega),
      Int.zero_add]
  · rw [replaceVar, if_neg named, replaceVar, if_neg (by omega)]

theorem shiftFrom_fill (t u : Term) {d : Int} (up : 0 ≤ d) :
    (t.fill [u] 0).shiftFrom d 0 = (t.shiftFrom d 1).fill [u.shiftFrom d 0] 0 := by
  apply mapVars_mapVars_eq
  intro v n
  simp only [Int.zero_add, mapVars]
  rcases Int.lt_trichotomy v.index n with bound | here | free
  · rw [fillVar_one_below bound]
    simp only [mapVars, Var.shift, if_neg (show ¬(n : Int) ≤ v.index by omega),
      if_neg (show ¬1 + (n : Int) ≤ v.index by omega)]
    rw [fillVar_one_below (by exact bound)]
    simp only [Term.var.injEq, Var.mk.injEq, true_and]
    omega
  · rw [fillVar_one_at here]
    simp only [Var.shift, if_neg (show ¬1 + (n : Int) ≤ v.index by omega)]
    rw [fillVar_one_at (by exact here)]
    change (u.shiftFrom n 0).shiftFrom d n = _
    rw [shiftFrom_shiftFrom u (by omega) (by omega), shiftFrom_shiftFrom u (by omega) (by omega), Int.add_comm]
  · rw [fillVar_one_above free]
    simp only [mapVars, Var.shift, if_pos (show (n : Int) ≤ v.index - 1 by omega),
      if_pos (show 1 + (n : Int) ≤ v.index by omega)]
    rw [fillVar_one_above (by simp only; omega)]
    simp only [Term.var.injEq, Var.mk.injEq]
    omega

/-- Substitutions for two variables may be carried out in either order, if the second variable does not occur in the term
put for the first; and a substitution may come before or after an abstraction gets its argument. None of them fails. -/
theorem substitution_changes_places {t u s : Term} (known : t.isKnown = true) (uKnown : u.isKnown = true)
    (sKnown : s.isKnown = true) :
    (∀ j k : Int, 0 ≤ j → 0 ≤ k → j ≠ k → ¬s.OccursFree k →
      ∃ result,
        (do
          let replaced ← t.substitute k u
          replaced.substitute j s) = .ok result ∧
        (do
          let filler ← u.substitute j s
          let replaced ← t.substitute j s
          replaced.substitute k filler) = .ok result) ∧
    ∀ j : Int, 0 ≤ j →
      ∃ result,
        (do
          let instantiated ← t.instantiate u
          instantiated.substitute j s) = .ok result ∧
        (do
          let arg ← u.substitute j s
          let moved ← s.shift 1
          let body ← t.substitute (j + 1) moved
          body.instantiate arg) = .ok result := by
  refine ⟨fun j k slot slot' apart absent => ⟨(t.replace k u 0).replace j s 0, ?_, ?_⟩,
    fun j slot => ⟨(t.fill [u] 0).replace j s 0, ?_, ?_⟩⟩
  · simp only [substitute_eq_replace known uKnown, bind, Except.bind,
      substitute_eq_replace (isKnown_replace known uKnown k 0) sKnown]
  · simp only [substitute_eq_replace uKnown sKnown, substitute_eq_replace known sKnown, bind, Except.bind,
      substitute_eq_replace (isKnown_replace known sKnown j 0) (isKnown_replace uKnown sKnown j 0),
      replace_replace t u s slot slot' apart absent]
  · have filledKnown : (t.fill [u] 0).isKnown = true := isKnown_fill (by simpa using uKnown) known 0
    simp only [instantiate_eq_fill known uKnown, bind, Except.bind, substitute_eq_replace filledKnown sKnown]
  · have movedKnown := isKnown_shiftFrom sKnown 1 0
    simp only [substitute_eq_replace uKnown sKnown, shift_eq_shiftFrom sKnown, bind, Except.bind,
      substitute_eq_replace known movedKnown,
      instantiate_eq_fill (isKnown_replace known movedKnown (j + 1) 0) (isKnown_replace uKnown sKnown j 0),
      replace_fill t u s slot]

def pointsPast : Term :=
  .abs "z" none (.var ⟨3, 4⟩)

/-- What is put for one of the two variables is the other, so in either order both are replaced. -/
theorem substitution_changes_places_mentionsBoth :
    ¬pointsPast.OccursFree 0 ∧
      (do
        let filler ← (Term.var ⟨1, 2⟩).substitute 1 pointsPast
        let replaced ← mentionsBoth.substitute 1 pointsPast
        replaced.substitute 0 filler) =
          .ok (.abs "y" none (.app (.abs "z" none (.var ⟨4, 5⟩)) (.abs "z" none (.var ⟨4, 5⟩)))) := by
  have known : mentionsBoth.isKnown = true := rfl
  have uKnown : (Term.var ⟨1, 2⟩).isKnown = true := rfl
  have sKnown : pointsPast.isKnown = true := rfl
  have absent : ¬pointsPast.OccursFree 0 := by decide
  obtain ⟨result, first, second⟩ :=
    (substitution_changes_places known uKnown sKnown).1 1 0 (by decide) (by decide) (by decide) absent
  cases first
  exact ⟨absent, second⟩

end Calculi.Term
