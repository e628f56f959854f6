import TagAtlas.Store.Memory
/-! A corpus store with injected faults. Each read may be set to fail with a message instead
of answering, and may first wait a number of milliseconds. Waits matter only to a caller that
enforces a deadline; the answer itself does not depend on them. -/
namespace TagAtlas

/-- The five reads of a corpus store. -/
inductive Accessor
  | ping
  | loadApplications
  | tagNames
  | resolveTagIds
  | itemAttributions
  deriving DecidableEq, Repr, Inhabited

namespace Accessor

/-- The wire name of a read. -/
def name : Accessor → String
  | ping => "ping"
  | loadApplications => "load_applications"
  | tagNames => "tag_names"
  | resolveTagIds => "resolve_tag_ids"
  | itemAttributions => "item_attributions"

/-- Every read. -/
def all : List Accessor := [ping, loadApplications, tagNames, resolveTagIds, itemAttributions]

/-- The read with a wire name. -/
def ofName? (raw : String) : Option Accessor := all.find? (·.name == raw)

theorem ofName?_name (a : Accessor) : ofName? a.name = some a := by
  cases a <;> rfl

end Accessor

/-- Failures and waits set on reads; a read not listed answers at once. -/
structure Faults where
  failures : List (Accessor × String) := []
  delays : List (Accessor × Nat) := []
  deriving Inhabited

namespace Faults

/-- The message a read fails with, if it is set to fail. -/
def failure? (f : Faults) (a : Accessor) : Option String := (f.failures.find? (·.1 == a)).map (·.2)

/-- The milliseconds a read waits before it answers. -/
def delay (f : Faults) (a : Accessor) : Nat := ((f.delays.find? (·.1 == a)).map (·.2)).getD 0

end Faults

/-- A memory store whose reads follow a set of faults. -/
structure FaultyStore where
  store : MemoryStore
  faults : Faults := {}

namespace FaultyStore

/-- Answer a read unless it is set to fail. -/
def guard {α : Type} (s : FaultyStore) (a : Accessor) (answer : α) : Except String α :=
  match s.faults.failure? a with
  | some message => .error message
  | none => .ok answer

/-- Check that the store is reachable. -/
def ping (s : FaultyStore) : Except String Unit := s.guard .ping ()

/-- The admitted rows of a namespace and status bucket. -/
def loadApplications (s : FaultyStore) (ns : Namespace) (filter : StatusFilter) :
    Except String (List Application) :=
  s.guard .loadApplications (s.store.loadApplications ns filter)

/-- The names of the known tags among some ids. -/
def tagNames (s : FaultyStore) (ids : List Int) : Except String (List (Int × String)) :=
  s.guard .tagNames (s.store.tagNames ids)

/-- Tag ids by lowercased name within a namespace. -/
def resolveTagIds (s : FaultyStore) (ns : Namespace) (names : List String) :
    Except String (List (String × Int)) :=
  s.guard .resolveTagIds (s.store.resolveTagIds ns names)

/-- Trimmed attributions of the known items among some ids. -/
def itemAttributions (s : FaultyStore) (ids : List Int) : Except String (List (Int × String)) :=
  s.guard .itemAttributions (s.store.itemAttributions ids)

end FaultyStore

end TagAtlas
