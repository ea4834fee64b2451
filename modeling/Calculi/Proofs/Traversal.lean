import Calculi.Proofs.Walk

/-!
What a walk asks and what it gives back, whatever effects its visitor has. A part of a term is found by its path, so
that the order of the parts and the abstractions above them are facts about paths and not about walks. A walk is then
a loop: it takes the variables from left to right, asks once for each, and puts the answer in its place. The leftmost
unknown form ends the loop. Two loops in a row come to one if the first only renames variables.
-/
namespace Calculi

/-- A failure ends the computation: nothing that follows it runs. -/
class LawfulThrow (m : Type → Type) [Monad m] [MonadExceptOf UnknownForm m] : Prop where
  throw_bind {α β : Type} (form : UnknownForm) (next : α → m β) : (throw form : m α) >>= next = throw form

instance {m : Type → Type} [Monad m] [LawfulMonad m] : LawfulThrow (ExceptT UnknownForm m) where
  throw_bind _ _ := pure_bind _ _

namespace Term

/-! Paths -/

abbrev Path := List Nat

/-- Where the two paths separate, the first goes to the earlier child. Of a part and what lies inside it neither is left
of the other. -/
def isLeftOf : Path → Path → Bool
  | i :: p, j :: q => if i = j then isLeftOf p q else i < j
  | _, _ => false

theorem isLeftOf_cons_self (i : Nat) (p q : Path) : isLeftOf (i :: p) (i :: q) = isLeftOf p q := by
  simp only [isLeftOf, if_true]

theorem isLeftOf_cons_of_lt {i j : Nat} (earlier : i < j) (p q : Path) : isLeftOf (i :: p) (j :: q) = true := by
  simp only [isLeftOf, if_neg (Nat.ne_of_lt earlier), decide_eq_true_eq]
  exact earlier

theorem isLeftOf_asymm {p q : Path} (left : isLeftOf p q = true) : isLeftOf q p = false := by
  induction p generalizing q with
  | nil => cases left
  | cons i p ih =>
    cases q with
    | nil => cases left
    | cons j q =>
      by_cases same : i = j
      · subst same
        rw [isLeftOf_cons_self] at left ⊢
        exact ih left
      · simp only [isLeftOf, if_neg same, if_neg (Ne.symm same), decide_eq_true_eq, decide_eq_false_iff_not] at left ⊢
        omega

def children : Term → List Term
  | .abs _ _ body => [body]
  | .app fn arg => [fn, arg]
  | .ite guard thn els => [guard, thn, els]
  | .succ arg | .pred arg | .isZero arg => [arg]
  | .var _ | .tru | .fls | .zero | .foreign _ => []

def part? : Path → Term → Option Term
  | [], t => some t
  | i :: p, t => t.children[i]?.bind (part? p)

def put : Term → Path → Term → Term
  | _, [], new => new
  | .abs hint ann body, 0 :: p, new => .abs hint ann (body.put p new)
  | .app fn arg, 0 :: p, new => .app (fn.put p new) arg
  | .app fn arg, 1 :: p, new => .app fn (arg.put p new)
  | .ite guard thn els, 0 :: p, new => .ite (guard.put p new) thn els
  | .ite guard thn els, 1 :: p, new => .ite guard (thn.put p new) els
  | .ite guard thn els, 2 :: p, new => .ite guard thn (els.put p new)
  | .succ arg, 0 :: p, new => .succ (arg.put p new)
  | .pred arg, 0 :: p, new => .pred (arg.put p new)
  | .isZero arg, 0 :: p, new => .isZero (arg.put p new)
  | t, _ :: _, _ => t

def isAbs : Term → Bool
  | .abs _ _ _ => true
  | _ => false

def abstractionsAbove (t : Term) (p : Path) : Nat :=
  (List.range p.length).countP fun n => (t.part? (p.take n)).any isAbs

theorem abstractionsAbove_cons {t child : Term} {i : Nat} (found : t.children[i]? = some child) (p : Path) :
    t.abstractionsAbove (i :: p) = child.abstractionsAbove p + if t.isAbs then 1 else 0 := by
  have inside (n : Nat) : t.part? ((i :: p).take (n + 1)) = child.part? (p.take n) := by
    simp only [List.take_succ_cons, part?, found, Option.bind_some]
  simp only [abstractionsAbove, List.length_cons, List.range_succ_eq_map, List.countP_cons, List.countP_map,
    Function.comp_def, Nat.succ_eq_add_one, inside]
  rfl

/-! Where a walk has something to do -/

def isSite : Term → Bool
  | .var _ | .foreign _ => true
  | _ => false

def inChild (i : Nat) (places : List (Path × Term)) : List (Path × Term) :=
  places.map fun place => (i :: place.1, place.2)

def sites : Term → List (Path × Term)
  | .var v => [([], .var v)]
  | .foreign text => [([], .foreign text)]
  | .abs _ _ body => inChild 0 body.sites
  | .app fn arg => inChild 0 fn.sites ++ inChild 1 arg.sites
  | .ite guard thn els => inChild 0 guard.sites ++ (inChild 1 thn.sites ++ inChild 2 els.sites)
  | .succ arg | .pred arg | .isZero arg => inChild 0 arg.sites
  | .tru | .fls | .zero => []

@[simp] theorem not_mem_inChild_nil {i : Nat} {s : Term} {places : List (Path × Term)} :
    ([], s) ∉ inChild i places := by
  simp [inChild]

@[simp] theorem mem_inChild_cons {i j : Nat} {p : Path} {s : Term} {places : List (Path × Term)} :
    (j :: p, s) ∈ inChild i places ↔ j = i ∧ (p, s) ∈ places := by
  simp only [inChild, List.mem_map, Prod.mk.injEq, List.cons.injEq]
  constructor
  · rintro ⟨place, member, ⟨rfl, rfl⟩, rfl⟩
    exact ⟨rfl, member⟩
  · rintro ⟨rfl, member⟩
    exact ⟨(p, s), member, ⟨rfl, rfl⟩, rfl⟩

theorem mem_sites_nil {t s : Term} : ([], s) ∈ t.sites ↔ t = s ∧ s.isSite = true := by
  constructor
  · intro member
    cases t with
    | var v | foreign text =>
      cases List.mem_singleton.mp member
      exact ⟨rfl, rfl⟩
    | _ => simp [sites] at member
  · rintro ⟨rfl, site⟩
    cases t with
    | var v | foreign text => exact List.mem_singleton.mpr rfl
    | _ => cases site

theorem mem_sites_cons {t s : Term} {i : Nat} {p : Path} :
    (i :: p, s) ∈ t.sites ↔ ∃ child, t.children[i]? = some child ∧ (p, s) ∈ child.sites := by
  cases t with
  | abs hint ann body => cases i <;> simp [sites, children]
  | app fn arg => rcases i with _ | _ | i <;> simp [sites, children]
  | ite guard thn els => rcases i with _ | _ | _ | i <;> simp [sites, children]
  | succ arg | pred arg | isZero arg => cases i <;> simp [sites, children]
  | _ => simp [sites, children]

theorem mem_sites {t s : Term} {p : Path} : (p, s) ∈ t.sites ↔ t.part? p = some s ∧ s.isSite = true := by
  induction p generalizing t with
  | nil => rw [mem_sites_nil, part?, Option.some.injEq]
  | cons i p ih => simp only [mem_sites_cons, ih, part?, Option.bind_eq_some_iff, ← and_assoc, exists_and_right]

section

variable {places others : List (Path × Term)} {i j : Nat}

theorem pairwise_inChild (ordered : places.Pairwise fun first second => isLeftOf first.1 second.1 = true) :
    (inChild i places).Pairwise fun first second => isLeftOf first.1 second.1 = true := by
  apply List.pairwise_map.mpr
  apply ordered.imp
  intro first second left
  exact (isLeftOf_cons_self ..).trans left

theorem isLeftOf_of_inChild (earlier : i < j) :
    ∀ first ∈ inChild i places, ∀ second ∈ inChild j others, isLeftOf first.1 second.1 = true := by
  intro first inFirst second inSecond
  obtain ⟨place, _, rfl⟩ := List.mem_map.mp inFirst
  obtain ⟨other, _, rfl⟩ := List.mem_map.mp inSecond
  exact isLeftOf_cons_of_lt earlier ..

end

theorem pairwise_sites (t : Term) : t.sites.Pairwise fun first second => isLeftOf first.1 second.1 = true := by
  induction t with
  | abs hint ann body ih => exact pairwise_inChild ih
  | app fn arg fnIH argIH =>
    exact List.pairwise_append.mpr
      ⟨pairwise_inChild fnIH, pairwise_inChild argIH, isLeftOf_of_inChild (by decide)⟩
  | ite guard thn els guardIH thnIH elsIH =>
    simp only [sites, List.pairwise_append, List.forall_mem_append]
    refine ⟨pairwise_inChild guardIH, ⟨pairwise_inChild thnIH, pairwise_inChild elsIH, ?_⟩, ?_⟩
    · exact isLeftOf_of_inChild (by decide)
    · intro first member
      exact ⟨isLeftOf_of_inChild (by decide) first member, isLeftOf_of_inChild (by decide) first member⟩
  | succ arg ih | pred arg ih | isZero arg ih => exact pairwise_inChild ih
  | var v | foreign text => exact List.pairwise_singleton ..
  | _ => exact .nil

theorem isKnown_eq_all_sites (t : Term) : t.isKnown = t.sites.all fun site => site.2.isKnown := by
  have inside (i : Nat) (places : List (Path × Term)) :
      (inChild i places).all (fun site => site.2.isKnown) = places.all fun site => site.2.isKnown := List.all_map
  induction t with
  | abs hint ann body ih => rw [isKnown, sites, inside, ih]
  | app fn arg fnIH argIH => rw [isKnown, sites, List.all_append, inside, inside, fnIH, argIH]
  | ite guard thn els guardIH thnIH elsIH =>
    rw [isKnown, sites, List.all_append, List.all_append, inside, inside, inside, guardIH, thnIH, elsIH, Bool.and_assoc]
  | succ arg ih | pred arg ih | isZero arg ih => rw [isKnown, sites, inside, ih]
  | _ => rfl

/-! Variables among the sites -/

def varPlace? : Path × Term → Option (Path × Var)
  | (p, .var v) => some (p, v)
  | _ => none

def varPlaces (t : Term) : List (Path × Var) :=
  t.sites.filterMap varPlace?

def sitesOf (places : List (Path × Var)) : List (Path × Term) :=
  places.map fun place => (place.1, .var place.2)

theorem varPlace?_eq_some {place : Path × Term} {p : Path} {v : Var} :
    varPlace? place = some (p, v) ↔ place = (p, .var v) := by
  constructor
  · intro found
    unfold varPlace? at found
    split at found
    · cases found
      rfl
    · cases found
  · rintro rfl
    rfl

theorem mem_filterMap_varPlace? {places : List (Path × Term)} {p : Path} {v : Var} :
    (p, v) ∈ places.filterMap varPlace? ↔ (p, .var v) ∈ places := by
  simp only [List.mem_filterMap, varPlace?_eq_some, exists_eq_right]

theorem mem_varPlaces {t : Term} {p : Path} {v : Var} : (p, v) ∈ t.varPlaces ↔ t.part? p = some (.var v) := by
  rw [varPlaces, mem_filterMap_varPlace?, mem_sites]
  exact and_iff_left rfl

theorem pairwise_varPlaces (t : Term) :
    t.varPlaces.Pairwise fun first second => isLeftOf first.1 second.1 = true := by
  apply t.pairwise_sites.filterMap
  rintro first second left ⟨p, v⟩ isFirst ⟨q, w⟩ isSecond
  cases varPlace?_eq_some.mp isFirst
  cases varPlace?_eq_some.mp isSecond
  exact left

theorem sitesOf_filterMap_varPlace? {sites : List (Path × Term)}
    (all : ∀ site ∈ sites, site.2.isSite = true ∧ site.2.isKnown = true) :
    sitesOf (sites.filterMap varPlace?) = sites := by
  induction sites with
  | nil => rfl
  | cons site sites ih =>
    rw [List.forall_mem_cons] at all
    obtain ⟨p, s⟩ := site
    cases s with
    | var v =>
      rw [List.filterMap_cons_some (varPlace?_eq_some.mpr rfl), sitesOf, List.map_cons]
      exact congrArg _ (ih all.2)
    | foreign text => cases all.1.2
    | _ => cases all.1.1

structure FirstUnknown (t : Term) (p : Path) (text : String) : Prop where
  found : t.part? p = some (.foreign text)
  first : ∀ q other, t.part? q = some (.foreign other) → q = p ∨ isLeftOf p q = true

theorem exists_split_sites {t : Term} (unknown : t.isKnown = false) :
    ∃ before p text after, t.sites = before ++ (p, .foreign text) :: after ∧
      ∀ site ∈ before, site.2.isSite = true ∧ site.2.isKnown = true := by
  rw [isKnown_eq_all_sites, List.all_eq_false] at unknown
  obtain ⟨strange, member, notKnown⟩ := unknown
  have exists_first : (t.sites.find? fun site => !site.2.isKnown).isSome := by
    rw [List.find?_isSome]
    exact ⟨strange, member, by simpa using notKnown⟩
  obtain ⟨⟨p, s⟩, found⟩ := Option.isSome_iff_exists.mp exists_first
  obtain ⟨first, before, after, split, known⟩ := List.find?_eq_some_iff_append.mp found
  have sites : ∀ site ∈ t.sites, site.2.isSite = true := fun site inside => (mem_sites.mp inside).2
  rw [split, List.forall_mem_append, List.forall_mem_cons] at sites
  obtain ⟨beforeSites, isSite, _⟩ := sites
  cases s with
  | foreign text =>
    refine ⟨before, p, text, after, split, fun site inside => ⟨beforeSites site inside, ?_⟩⟩
    simpa using known site inside
  | var v => cases first
  | _ => cases isSite

theorem filter_varPlaces {t : Term} {before after : List (Path × Term)} {p : Path} {text : String}
    (split : t.sites = before ++ (p, .foreign text) :: after) :
    (t.varPlaces.filter fun place => isLeftOf place.1 p) = before.filterMap varPlace? := by
  have ordered := t.pairwise_sites
  rw [split, List.pairwise_append, List.pairwise_cons] at ordered
  obtain ⟨_, ⟨right, _⟩, left⟩ := ordered
  have keeps : ((before.filterMap varPlace?).filter fun place => isLeftOf place.1 p) =
      before.filterMap varPlace? := by
    rw [List.filter_eq_self]
    rintro ⟨q, v⟩ member
    have inside := mem_filterMap_varPlace?.mp member
    exact left _ inside _ (List.mem_cons_self ..)
  have drops : ((after.filterMap varPlace?).filter fun place => isLeftOf place.1 p) = [] := by
    rw [List.filter_eq_nil_iff]
    rintro ⟨q, v⟩ member
    have inside := mem_filterMap_varPlace?.mp member
    rw [isLeftOf_asymm (right _ inside)]
    exact Bool.false_ne_true
  rw [varPlaces, split, List.filterMap_append, List.filterMap_cons_none rfl, List.filter_append, keeps, drops,
    List.append_nil]

theorem exists_firstUnknown {t : Term} (unknown : t.isKnown = false) :
    ∃ p text, t.FirstUnknown p text ∧ ∃ after,
      t.sites = sitesOf (t.varPlaces.filter fun place => isLeftOf place.1 p) ++ (p, .foreign text) :: after := by
  obtain ⟨before, p, text, after, split, known⟩ := exists_split_sites unknown
  have ordered := t.pairwise_sites
  rw [split, List.pairwise_append, List.pairwise_cons] at ordered
  refine ⟨p, text, ⟨?_, ?_⟩, after, ?_⟩
  · have here : (p, .foreign text) ∈ t.sites := split ▸ List.mem_append_right _ (List.mem_cons_self ..)
    exact (mem_sites.mp here).1
  · intro q other found
    have inside : (q, .foreign other) ∈ t.sites := mem_sites.mpr ⟨found, rfl⟩
    rw [split, List.mem_append, List.mem_cons] at inside
    rcases inside with inBefore | same | inAfter
    · cases (known _ inBefore).2
    · cases same
      exact .inl rfl
    · exact .inr (ordered.2.1.1 _ inAfter)
  · rw [filter_varPlaces split, sitesOf_filterMap_varPlace? known, split]

/-! The walk as a loop -/

section

variable {m : Type → Type} [Monad m]

def replaceEach {α : Type} (answer : Path → α → m Term) (places : List (Path × α)) (t : Term) : m Term :=
  places.foldlM (fun result place => return result.put place.1 (← answer place.1 place.2)) t

theorem replaceEach_append [LawfulMonad m] (answer : Path → Term → m Term) (places others : List (Path × Term))
    (t : Term) : replaceEach answer (places ++ others) t = replaceEach answer places t >>= replaceEach answer others :=
  List.foldlM_append

theorem replaceEach_inChild [LawfulMonad m] (i : Nat) (rebuild : Term → Term) (answer : Path → Term → m Term)
    (puts : ∀ s p new, (rebuild s).put (i :: p) new = rebuild (s.put p new)) (places : List (Path × Term)) (s : Term) :
    replaceEach answer (inChild i places) (rebuild s) =
      rebuild <$> replaceEach (fun p => answer (i :: p)) places s := by
  induction places generalizing s with
  | nil => simp [replaceEach, inChild]
  | cons place places ih =>
    simp only [replaceEach, inChild, List.map_cons, List.foldlM_cons, map_eq_pure_bind, bind_assoc, pure_bind,
      puts] at ih ⊢
    apply bind_congr
    intro new
    rw [ih]

variable [MonadExceptOf UnknownForm m]

/-- The walk of a part, from the cutoff that the walk of the whole term comes to it with. -/
def walkAt (visit : Var → Int → m Term) (start : Int) (t : Term) (p : Path) (part : Term) : m Term :=
  part.mapVarsM visit (start + t.abstractionsAbove p)

def askAt (visit : Var → Int → m Term) (start : Int) (t : Term) (p : Path) (v : Var) : m Term :=
  visit v (start + t.abstractionsAbove p)

theorem replaceEach_sitesOf (visit : Var → Int → m Term) (start : Int) (t u : Term) (places : List (Path × Var)) :
    replaceEach (t.walkAt visit start) (sitesOf places) u = replaceEach (t.askAt visit start) places u :=
  List.foldlM_map

variable [LawfulMonad m]

def innerCutoff (t : Term) (cutoff : Int) : Int :=
  if t.isAbs then cutoff + 1 else cutoff

/-- What the walk of a child comes to, as part of the loop over the whole term. The children before it may have been
replaced by then, so `rebuild` need not give the term itself. -/
theorem replaceEach_child {visit : Var → Int → m Term} (t : Term) (i : Nat) (rebuild : Term → Term)
    {child : Term} (found : t.children[i]? = some child)
    (puts : ∀ s p new, (rebuild s).put (i :: p) new = rebuild (s.put p new))
    (ih : ∀ start, child.mapVarsM visit start = replaceEach (child.walkAt visit start) child.sites child)
    (start : Int) :
    replaceEach (t.walkAt visit start) (inChild i child.sites) (rebuild child) =
      rebuild <$> child.mapVarsM visit (t.innerCutoff start) := by
  have answers : (fun p => t.walkAt visit start (i :: p)) = child.walkAt visit (t.innerCutoff start) := by
    funext p part
    rw [walkAt, walkAt, abstractionsAbove_cons found, innerCutoff]
    split
    · rw [cutoff_under_binder]
    · rfl
  rw [replaceEach_inChild i rebuild _ puts, answers, ih]

theorem mapVarsM_eq_replaceEach (visit : Var → Int → m Term) (start : Int) (t : Term) :
    t.mapVarsM visit start = replaceEach (t.walkAt visit start) t.sites t := by
  induction t generalizing start with
  | var v | foreign text => simp [mapVarsM, sites, replaceEach, walkAt, put, abstractionsAbove]
  | abs hint ann body ih =>
    have inBody := replaceEach_child (.abs hint ann body) 0 (.abs hint ann) rfl (fun _ _ _ => rfl) ih start
    rw [sites, inBody, map_eq_pure_bind]
    rfl
  | app fn arg fnIH argIH =>
    -- The loop goes on in the argument with whatever function it has put together by then.
    have inFn := replaceEach_child (.app fn arg) 0 (.app · arg) rfl (fun _ _ _ => rfl) fnIH start
    have inArg (fn' : Term) := replaceEach_child (.app fn arg) 1 (.app fn') rfl (fun _ _ _ => rfl) argIH start
    rw [sites, replaceEach_append, inFn]
    simp only [map_eq_pure_bind, bind_assoc, pure_bind, inArg]
    rfl
  | ite guard thn els guardIH thnIH elsIH =>
    have inGuard := replaceEach_child (.ite guard thn els) 0 (.ite · thn els) rfl (fun _ _ _ => rfl) guardIH start
    have inThn (guard' : Term) :=
      replaceEach_child (.ite guard thn els) 1 (.ite guard' · els) rfl (fun _ _ _ => rfl) thnIH start
    have inEls (guard' thn' : Term) :=
      replaceEach_child (.ite guard thn els) 2 (.ite guard' thn') rfl (fun _ _ _ => rfl) elsIH start
    rw [sites, replaceEach_append, inGuard]
    simp only [replaceEach_append, map_eq_pure_bind, bind_assoc, pure_bind, inThn, inEls]
    rfl
  | succ arg ih =>
    have inArg := replaceEach_child (.succ arg) 0 .succ rfl (fun _ _ _ => rfl) ih start
    rw [sites, inArg, map_eq_pure_bind]
    rfl
  | pred arg ih =>
    have inArg := replaceEach_child (.pred arg) 0 .pred rfl (fun _ _ _ => rfl) ih start
    rw [sites, inArg, map_eq_pure_bind]
    rfl
  | isZero arg ih =>
    have inArg := replaceEach_child (.isZero arg) 0 .isZero rfl (fun _ _ _ => rfl) ih start
    rw [sites, inArg, map_eq_pure_bind]
    rfl
  | _ => rfl

theorem mapVarsM_of_isKnown (visit : Var → Int → m Term) (start : Int) {t : Term} (known : t.isKnown = true) :
    t.mapVarsM visit start = replaceEach (t.askAt visit start) t.varPlaces t := by
  rw [isKnown_eq_all_sites, List.all_eq_true] at known
  have onlyVariables : sitesOf t.varPlaces = t.sites :=
    sitesOf_filterMap_varPlace? fun site member => ⟨(mem_sites.mp member).2, known site member⟩
  rw [mapVarsM_eq_replaceEach, ← onlyVariables, replaceEach_sitesOf]

section

variable [LawfulThrow m] {t : Term} {before : List (Path × Var)} {p : Path} {text : String} {after : List (Path × Term)}

theorem mapVarsM_of_split (visit : Var → Int → m Term) (start : Int)
    (split : t.sites = sitesOf before ++ (p, .foreign text) :: after) :
    t.mapVarsM visit start = (do
      let _ ← replaceEach (t.askAt visit start) before t
      throw ⟨text⟩) := by
  rw [mapVarsM_eq_replaceEach, split, replaceEach_append, replaceEach_sitesOf]
  apply bind_congr
  intro result
  simp only [replaceEach, List.foldlM_cons, walkAt, mapVarsM, LawfulThrow.throw_bind]

theorem mapVarsM_pure_of_split (answer : Var → Int → Term) (start : Int)
    (split : t.sites = sitesOf before ++ (p, .foreign text) :: after) :
    t.mapVarsM (fun v c => (return answer v c : m Term)) start = throw ⟨text⟩ := by
  rw [mapVarsM_of_split _ start split]
  simp only [replaceEach, askAt, pure_bind, List.foldlM_pure]

end

end

/-! Two walks in a row -/

section

variable {m : Type → Type} [Monad m] [MonadExceptOf UnknownForm m]

def walkTwice (rename : Var → Int → m Var) (visit : Var → Int → m Term) (start : Int) (t : Term) : m Term := do
  let renamed ← t.mapVarsM (fun v c => return .var (← rename v c)) start
  renamed.mapVarsM visit start

def walkOnce (rename : Var → Int → m Var) (visit : Var → Int → m Term) (start : Int) (t : Term) : m Term :=
  t.mapVarsM (fun v c => do visit (← rename v c) c) start

theorem mapVarsM_mapVars (rename : Var → Int → Var) (visit : Var → Int → m Term) (t : Term) (cutoff : Int) :
    (t.mapVars (fun v c => .var (rename v c)) cutoff).mapVarsM visit cutoff =
      t.mapVarsM (fun v c => visit (rename v c) c) cutoff := by
  induction t generalizing cutoff with
  | abs hint ann body ih => simp only [mapVars, mapVarsM, ih]
  | app fn arg fnIH argIH => simp only [mapVars, mapVarsM, fnIH, argIH]
  | ite guard thn els guardIH thnIH elsIH => simp only [mapVars, mapVarsM, guardIH, thnIH, elsIH]
  | succ arg ih | pred arg ih | isZero arg ih => simp only [mapVars, mapVarsM, ih]
  | _ => rfl

variable [LawfulMonad m]

theorem walkTwice_of_isKnown (rename : Var → Int → Var) (visit : Var → Int → m Term) (start : Int) {t : Term}
    (known : t.isKnown = true) :
    walkTwice (fun v c => return rename v c) visit start t = walkOnce (fun v c => return rename v c) visit start t := by
  have renamed : t.mapVarsM (fun v c => (pure (.var (rename v c)) : m Term)) start =
      pure (t.mapVars (fun v c => .var (rename v c)) start) := mapVarsM_eq_mapVars (fun _ _ => rfl) known start
  simp only [walkTwice, walkOnce, pure_bind, renamed, mapVarsM_mapVars]

variable [LawfulThrow m]

/-- After a walk whose answers are variables it only matters what happens to known terms. -/
theorem bind_congr_of_isKnown {β : Type} (rename : Var → Int → m Var) (t : Term) (cutoff : Int)
    {next next' : Term → m β} (agree : ∀ u, u.isKnown = true → next u = next' u) :
    t.mapVarsM (fun v c => return .var (← rename v c)) cutoff >>= next =
      t.mapVarsM (fun v c => return .var (← rename v c)) cutoff >>= next' := by
  induction t generalizing cutoff next next' with
  | var v =>
    simp only [mapVarsM, bind_assoc, pure_bind]
    apply bind_congr
    intro w
    exact agree _ rfl
  | abs hint ann body ih =>
    simp only [mapVarsM, bind_assoc, pure_bind]
    apply ih
    intro body' known
    exact agree _ known
  | app fn arg fnIH argIH =>
    simp only [mapVarsM, bind_assoc, pure_bind]
    -- For the function, what comes next is the walk of the argument and then `next`.
    apply fnIH
    intro fn' fnKnown
    apply argIH
    intro arg' argKnown
    exact agree _ (by simp only [isKnown, fnKnown, argKnown, Bool.and_self])
  | ite guard thn els guardIH thnIH elsIH =>
    simp only [mapVarsM, bind_assoc, pure_bind]
    apply guardIH
    intro guard' guardKnown
    apply thnIH
    intro thn' thnKnown
    apply elsIH
    intro els' elsKnown
    exact agree _ (by simp only [isKnown, guardKnown, thnKnown, elsKnown, Bool.and_self])
  | succ arg ih | pred arg ih | isZero arg ih =>
    simp only [mapVarsM, bind_assoc, pure_bind]
    apply ih
    intro arg' known
    exact agree _ known
  | foreign text => simp only [mapVarsM, LawfulThrow.throw_bind]
  | _ =>
    simp only [mapVarsM, pure_bind]
    exact agree _ rfl

theorem map_mapVars_mapVarsM (rename : Var → Int → m Var) (answer : Var → Int → Term) (t : Term) (cutoff : Int) :
    mapVars answer cutoff <$> t.mapVarsM (fun v c => return .var (← rename v c)) cutoff =
      t.mapVarsM (fun v c => return answer (← rename v c) c) cutoff := by
  induction t generalizing cutoff with
  | var v => simp [mapVarsM, mapVars]
  | foreign text => simp only [mapVarsM, map_eq_pure_bind, LawfulThrow.throw_bind]
  | abs hint ann body ih => simp only [mapVarsM, ← ih, map_eq_pure_bind, bind_assoc, pure_bind, mapVars]
  | app fn arg fnIH argIH =>
    simp only [mapVarsM, ← fnIH, ← argIH, map_eq_pure_bind, bind_assoc, pure_bind, mapVars]
  | ite guard thn els guardIH thnIH elsIH =>
    simp only [mapVarsM, ← guardIH, ← thnIH, ← elsIH, map_eq_pure_bind, bind_assoc, pure_bind, mapVars]
  | succ arg ih | pred arg ih | isZero arg ih =>
    simp only [mapVarsM, ← ih, map_eq_pure_bind, bind_assoc, pure_bind, mapVars]
  | _ => simp only [mapVarsM, map_eq_pure_bind, pure_bind, mapVars]

theorem walkTwice_of_pure (rename : Var → Int → m Var) (answer : Var → Int → Term) (start : Int) (t : Term) :
    walkTwice rename (fun v c => return answer v c) start t =
      walkOnce rename (fun v c => return answer v c) start t := by
  have second (u : Term) (known : u.isKnown = true) :
      u.mapVarsM (fun v c => (pure (answer v c) : m Term)) start = pure (u.mapVars answer start) :=
    mapVarsM_eq_mapVars (fun _ _ => rfl) known start
  rw [walkTwice, bind_congr_of_isKnown rename t start second, ← map_eq_pure_bind, map_mapVars_mapVarsM]
  rfl

end

/-- A walk asks about each variable once, from left to right and with the number of abstractions above it added to the
cutoff it started from, and puts the answers in their places. The leftmost unknown form ends it, when the variables left
of that form have been asked about. Renaming the variables first changes only the names that the visitor sees; but a
renaming that meets an unknown form fails before the visitor is asked anything, which makes a difference if asking has
effects. -/
theorem walk_asks_from_left_and_fuses {m : Type → Type} [Monad m] [LawfulMonad m] [MonadExceptOf UnknownForm m]
    [LawfulThrow m] (visit : Var → Int → m Term) (start : Int) (t : Term) :
    (t.varPlaces.Pairwise (fun first second => isLeftOf first.1 second.1 = true) ∧
      ∀ p v, (p, v) ∈ t.varPlaces ↔ t.part? p = some (.var v)) ∧
    (t.isKnown = true →
      t.mapVarsM visit start = replaceEach (t.askAt visit start) t.varPlaces t ∧
      ∀ rename : Var → Int → Var,
        walkTwice (fun v c => return rename v c) visit start t =
          walkOnce (fun v c => return rename v c) visit start t) ∧
    (t.isKnown = false → ∃ p text, t.FirstUnknown p text ∧
      t.mapVarsM visit start = (do
        let _ ← replaceEach (t.askAt visit start) (t.varPlaces.filter fun place => isLeftOf place.1 p) t
        throw ⟨text⟩) ∧
      ∀ rename : Var → Int → Var, walkTwice (fun v c => return rename v c) visit start t = throw ⟨text⟩) ∧
    ∀ (rename : Var → Int → m Var) (answer : Var → Int → Term),
      walkTwice rename (fun v c => return answer v c) start t =
        walkOnce rename (fun v c => return answer v c) start t := by
  refine ⟨⟨t.pairwise_varPlaces, fun p v => mem_varPlaces⟩, fun known => ?_, fun unknown => ?_, ?_⟩
  · exact ⟨mapVarsM_of_isKnown visit start known, fun rename => walkTwice_of_isKnown rename visit start known⟩
  · obtain ⟨p, text, first, after, split⟩ := exists_firstUnknown unknown
    refine ⟨p, text, first, mapVarsM_of_split visit start split, fun rename => ?_⟩
    have fails := mapVarsM_pure_of_split (m := m) (fun v c => .var (rename v c)) start split
    simp only [walkTwice, pure_bind, fails, LawfulThrow.throw_bind]
  · exact fun rename answer => walkTwice_of_pure rename answer start t

def noting (v : Var) (cutoff : Int) : ExceptT UnknownForm (StateM (List (Int × Int))) Term := do
  modify (· ++ [(v.index, cutoff)])
  return .zero

def namesBoth : Term :=
  .abs "x" none (.app (.var ⟨0, 2⟩) (.var ⟨1, 2⟩))

def brokenOff : Term :=
  .app namesBoth (.ite (.foreign "?") (.var ⟨0, 1⟩) (.foreign "!"))

theorem walk_asks_from_left_and_fuses_brokenOff :
    (namesBoth.mapVarsM noting 5).run.run [] = (.ok (.abs "x" none (.app .zero .zero)), [(0, 6), (1, 6)]) ∧
      ∃ p text, brokenOff.FirstUnknown p text ∧
        (do
          let _ ← replaceEach (brokenOff.askAt noting 5) (brokenOff.varPlaces.filter fun place => isLeftOf place.1 p)
            brokenOff
          throw ⟨text⟩ : ExceptT UnknownForm (StateM (List (Int × Int))) Term).run.run [] =
            (.error ⟨"?"⟩, [(0, 6), (1, 6)]) := by
  obtain ⟨_, ofKnown, _⟩ := walk_asks_from_left_and_fuses noting 5 namesBoth
  obtain ⟨_, _, ofUnknown, _⟩ := walk_asks_from_left_and_fuses noting 5 brokenOff
  obtain ⟨p, text, first, walked, _⟩ := ofUnknown rfl
  refine ⟨?_, p, text, first, ?_⟩
  · rw [(ofKnown rfl).1]
    rfl
  · rw [← walked]
    rfl

end Term

end Calculi
