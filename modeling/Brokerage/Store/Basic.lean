import Brokerage.Error
import Brokerage.Log
import Brokerage.Store.Table

/-!
# Stores

A store keeps texts under names. What works on one is written once for all stores: as a task, which
takes the state of the store to a result, the state afterwards and the events reported on the way.
-/

namespace Brokerage

/-- What a task leaves behind. -/
structure Outcome (σ α : Type) where
  result : Except Error α
  store : σ
  events : List Log.Event

/-- Work on a store. -/
abbrev Task (σ α : Type) := σ → Outcome σ α

namespace Task

variable {σ α β : Type}

/-- A result without any work. -/
def pure (a : α) : Task σ α := fun s => ⟨.ok a, s, []⟩

/-- A failure without any work. -/
def fail (e : Error) : Task σ α := fun s => ⟨.error e, s, []⟩

/-- A report. -/
def report (event : Log.Event) : Task σ Unit := fun s => ⟨.ok (), s, [event]⟩

/-- One task and, unless it fails, another one on what it found. -/
def bind (t : Task σ α) (f : α → Task σ β) : Task σ β := fun s =>
  match (t s).result with
  | .error e => ⟨.error e, (t s).store, (t s).events⟩
  | .ok a =>
    let o := f a (t s).store
    ⟨o.result, o.store, (t s).events ++ o.events⟩

instance : Monad (Task σ) where
  pure := Task.pure
  bind := Task.bind

end Task

/-- A store, by what it does on states of type `σ`. -/
structure KeyStore (σ : Type) where
  get : String → Task σ (Option String)
  set : String → String → Task σ Unit
  remove : String → Task σ Unit

/-- The store that lasts as long as the visit. -/
def Table.store : KeyStore Table where
  get name := fun t => ⟨.ok (t.get? name), t, []⟩
  set name text := fun t => ⟨.ok (), t.insert name text, []⟩
  remove name := fun t => ⟨.ok (), t.erase name, []⟩

end Brokerage
