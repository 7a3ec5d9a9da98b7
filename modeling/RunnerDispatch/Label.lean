import RunnerDispatch.SortedSet
import RunnerDispatch.Text.Casing

/-!
# Runner labels

A label is a token that says what a job asks of its runner. Letter case carries no meaning, so a
label is kept lowercased; order and repetition carry none either, so what a job asks for is a set.

* `Label.ofString`: the label written by a text.
* `LabelSet.normalize`: the set of labels written by a list of texts.
* `LabelSet.format`: a set as it stands in messages.
-/

namespace RunnerDispatch

/-- A runner label; `Label.ofString` builds it in lower case. -/
structure Label where
  text : String
  deriving DecidableEq, Hashable, Repr

namespace Label

/-- The label that a text writes, whatever its letter case. -/
def ofString (raw : String) : Label := ⟨Text.Casing.lower raw⟩

instance : LE Label := ⟨fun a b => a.text ≤ b.text⟩

instance : LT Label := ⟨fun a b => a.text < b.text⟩

instance : DecidableLE Label := fun a b => inferInstanceAs (Decidable (a.text ≤ b.text))

instance : DecidableLT Label := fun a b => inferInstanceAs (Decidable (a.text < b.text))

instance : Std.IsLinearOrder Label where
  le_refl a := Std.le_refl a.text
  le_trans _ _ _ h h' := Std.le_trans (α := String) h h'
  le_antisymm a b h h' := by
    cases a; cases b
    exact congrArg Label.mk (Std.le_antisymm (α := String) h h')
  le_total a b := Std.le_total (α := String) (a := a.text) (b := b.text)

instance : Std.LawfulOrderLT Label where
  lt_iff a b := Std.LawfulOrderLT.lt_iff (α := String) a.text b.text

end Label

/-- A set of labels, in ascending order of their texts. -/
abbrev LabelSet := SortedSet Label

namespace LabelSet

/-- The labels that a list of texts writes, **case, order and repetition dropped**. -/
def normalize (raw : List String) : LabelSet := SortedSet.ofList (raw.map Label.ofString)

/-- The texts of the labels, in order. -/
def texts (s : LabelSet) : List String := s.toList.map Label.text

/-- A set as it stands in messages, such as `{arm64, x64}`. -/
def format (s : LabelSet) : String := "\x7b" ++ ", ".intercalate s.texts ++ "\x7d"

end LabelSet

end RunnerDispatch
