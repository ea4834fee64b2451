/-!
Computations that write entries as they go and may stop with an error. What was written before the error is
kept, which is what a log or a terminal shows.
-/
namespace Calculi

structure Journal (ω ε α : Type) where
  entries : List ω
  outcome : Except ε α

namespace Journal

variable {ω ω' ε ε' α β : Type}

def bind (x : Journal ω ε α) (f : α → Journal ω ε β) : Journal ω ε β :=
  match x.outcome with
  | .error e => ⟨x.entries, .error e⟩
  | .ok a =>
    let next := f a
    ⟨x.entries ++ next.entries, next.outcome⟩

instance : Monad (Journal ω ε) where
  pure a := ⟨[], .ok a⟩
  bind := bind

def write (entries : List ω) : Journal ω ε Unit :=
  ⟨entries, .ok ()⟩

def ofExcept (outcome : Except ε α) : Journal ω ε α :=
  ⟨[], outcome⟩

def fail (error : ε) : Journal ω ε α :=
  ⟨[], .error error⟩

/-- The same computation with each entry turned into the entries it stands for, and errors renamed. -/
def relabel (entry : ω → List ω') (error : ε → ε') (x : Journal ω ε α) : Journal ω' ε' α :=
  ⟨x.entries.flatMap entry, x.outcome.mapError error⟩

end Journal

end Calculi
