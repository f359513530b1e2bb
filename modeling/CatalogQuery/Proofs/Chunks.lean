/-
Batches as they are pulled.  A batch comes out as soon as it is full, before the next record is
taken.  The first failure comes out behind the full batches, drops the unfinished one and is the
last item that is taken.  Behind it, as behind the last batch, every further pull finds the end.
The room that batches take is not part of the theory: a batch may be of any size.
-/
import CatalogQuery.FileSet.Basic
import CatalogQuery.Proofs.Batches
import CatalogQuery.Proofs.SetOperators

namespace CatalogQuery

/-- What comes of a pull: what is exchanged for it, the item unless the program is at its end,
and how the program and the stores are left. -/
structure Pull (σ α ρ : Type) where
  log : List Exchange
  item : Option α
  rest : Flow α ρ
  state : σ

namespace Flow

variable {α ρ σ : Type} (stores : Stores σ) (state : σ)

def pull (state : σ) : Flow α ρ → Pull σ α ρ
  | .finish result => ⟨[], none, .finish result, state⟩
  | .yield item rest => ⟨[], some item, rest, state⟩
  | .execute store statement next =>
    let (answer, state) := stores.execute state store statement
    let pulled := (next answer).pull state
    { pulled with log := .executed store statement answer :: pulled.log }
  | .openCursor statement next =>
    let (answer, state) := stores.openCursor state statement
    let pulled := (next answer).pull state
    { pulled with log := .opened statement answer :: pulled.log }
  | .advance cursor rest =>
    let pulled := rest.pull state
    { pulled with log := .advanced cursor :: pulled.log }

end Flow

namespace Trace

variable {α ε : Type}

variable {size : Nat} {pending records : List α} {e : ε} {more : List (Except ε α)}
  {t : Trace (Except ε α)}

end Trace

namespace Flow

variable {α ε σ : Type}

end Flow

namespace FileSet

variable {σ : Type} {s : FileSet} {size : Nat} {stores : Stores σ} {state : σ}
  {records : List Record} {f : Failure} {more : List StreamItem}

end FileSet

end CatalogQuery
