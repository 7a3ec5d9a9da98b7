/-!
# Flavors

A flavor names a pool of runners and the queue that feeds it. Names are opaque, case matters, and
they are kept to a small alphabet so that a name can serve as a queue name as it is.

* `Flavor.IsWellFormed`: **at most 64 characters, at least one, all of them ASCII letters, digits,
  `-`, `_` or `.`**
* `Flavor.ofName?`: the flavor of a well-formed name.
-/

namespace RunnerDispatch

/-- The longest name of a flavor, in bytes. -/
def Flavor.maxNameLength : Nat := 64

/-- Characters that may stand in a flavor's name. -/
def Flavor.isNameChar (c : Char) : Bool := c.isAlphanum || c == '-' || c == '_' || c == '.'

/-- Names that may stand for a flavor. -/
def Flavor.IsWellFormed (name : String) : Prop :=
  name ≠ "" ∧ name.utf8ByteSize ≤ Flavor.maxNameLength ∧ ∀ c ∈ name.toList, Flavor.isNameChar c

instance (name : String) : Decidable (Flavor.IsWellFormed name) :=
  haveI : Decidable (∀ c ∈ name.toList, Flavor.isNameChar c) := List.decidableBAll _ _
  inferInstanceAs (Decidable (_ ∧ _ ∧ _))

/-- The name of a pool of runners. -/
structure Flavor where
  name : String
  isWellFormed : Flavor.IsWellFormed name
  deriving DecidableEq

namespace Flavor

/-- What is said of a name that is not well formed. -/
def malformedMessage (name : String) : String := "`" ++ name ++ "` is not a well-formed flavor name"

instance : Hashable Flavor := ⟨fun f => hash f.name⟩

/-- The flavor of that name, if it is well formed. -/
def ofName? (name : String) : Option Flavor :=
  if h : IsWellFormed name then some ⟨name, h⟩ else none

theorem ofName?_eq_some_iff {name : String} {f : Flavor} : ofName? name = some f ↔ f.name = name := by
  obtain ⟨n, h⟩ := f
  unfold ofName?
  split
  · simp [eq_comm]
  · simp only [reduceCtorEq, false_iff]
    rintro rfl
    contradiction

theorem ofName?_name (f : Flavor) : ofName? f.name = some f := ofName?_eq_some_iff.2 rfl

/-- The order of the names, byte by byte. -/
def order (f g : Flavor) : Ordering := compare f.name g.name

end Flavor

end RunnerDispatch
