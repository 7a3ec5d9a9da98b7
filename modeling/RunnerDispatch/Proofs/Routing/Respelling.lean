import RunnerDispatch.Proofs.Routing.Faults
import RunnerDispatch.Proofs.Routing.Normalization
import RunnerDispatch.Proofs.Text.LetterCase

/-!
# Labels may be spelled in any case, order and number

Nothing in the routing looks at a text before it is lowercased, or at a list of labels before it is made a set. So
labels may be respelled wherever they stand: in what a job asks for, in a declaration, among the ignored ones.

* `LabelSet.Respells`: the same labels, but for the case of ASCII letters, their order and their number.
* `Rules.Respells`: rules that differ in the spelling of their labels only.
* `compile_respelled`: **rules may be respelled**, since compiling depends only on what is offered.
* `respelling_unnoticed`: so a respelled job gets the same answer, and respelled rules make the same table.
-/

namespace RunnerDispatch

open Text (SameButCase)

namespace LabelSet

variable {raw raw' : List String}

/-- Every label of either list is one of the other, but for the case of its ASCII letters. -/
def Respells (raw raw' : List String) : Prop :=
  (∀ text ∈ raw, ∃ text' ∈ raw', SameButCase text text') ∧ ∀ text' ∈ raw', ∃ text ∈ raw, SameButCase text text'

instance (raw raw' : List String) : Decidable (Respells raw raw') := inferInstanceAs (Decidable (_ ∧ _))

/-- **Respelled labels are the same set.** -/
theorem normalize_respelled (h : Respells raw raw') : normalize raw = normalize raw' := by
  have hsame {text text' : String} (hcase : SameButCase text text') : Label.ofString text = Label.ofString text' :=
    congrArg Label.mk (Text.Casing.lower_congr hcase)
  refine SortedSet.ext fun l => ?_
  rw [mem_normalize, mem_normalize]
  constructor
  · rintro ⟨text, htext, rfl⟩
    obtain ⟨text', htext', hcase⟩ := h.1 text htext
    exact ⟨text', htext', (hsame hcase).symm⟩
  · rintro ⟨text', htext', rfl⟩
    obtain ⟨text, htext, hcase⟩ := h.2 text' htext'
    exact ⟨text, htext, hsame hcase⟩

end LabelSet

namespace Routing

/-- The same name for the same labels, however they are spelled. -/
def Declaration.Respells (d d' : Declaration) : Prop :=
  d.name = d'.name ∧ LabelSet.Respells d.labels d'.labels

instance (d d' : Declaration) : Decidable (d.Respells d') := inferInstanceAs (Decidable (_ ∧ _))

/-- **Rules that differ in the spelling of their labels only**: declaration by declaration, and in the ignored
labels. -/
structure Rules.Respells (r r' : Rules) : Prop where
  declarations : List.Forall₂ Declaration.Respells r.declarations r'.declarations
  default : r.default = r'.default
  ignored : LabelSet.Respells r.ignored r'.ignored
  limit : r.limit = r'.limit

namespace Rules

variable {r r' : Rules} {draft : Draft}

/-- A declaration counts by its name and by what it offers. -/
theorem declare_congr {d d' : Declaration} (hname : d.name = d'.name) (hoffered : r.offered d = r'.offered d')
    (hlimit : r.limit = r'.limit) : r.declare draft d = r'.declare draft d' := by
  simp only [declare_eq, extend, hname, hoffered, hlimit]

/-- **Declarations count by their names and by what they offer**, one after the other. -/
theorem declareAll_congr {ds ds' : List Declaration}
    (h : List.Forall₂ (fun d d' => d.name = d'.name ∧ r.offered d = r'.offered d') ds ds')
    (hlimit : r.limit = r'.limit) : r.declareAll draft ds = r'.declareAll draft ds' := by
  induction h generalizing draft with
  | nil => rfl
  | cons hd _ ih =>
    rw [declareAll, declareAll, declare_congr hd.1 hd.2 hlimit]
    split
    · exact ih
    · rfl

/-- **Respelled rules compile to the same**: to one table, or to the first fault of both. -/
theorem compile_respelled (h : r.Respells r') : r.compile = r'.compile := by
  obtain ⟨hds, hdefault, hignored, hlimit⟩ := h
  have hset : r.ignoredSet = r'.ignoredSet := LabelSet.normalize_respelled hignored
  have hoffers : List.Forall₂ (fun d d' => d.name = d'.name ∧ r.offered d = r'.offered d')
      r.declarations r'.declarations :=
    hds.imp fun d d' hd => ⟨hd.1, by rw [offered, offered, LabelSet.normalize_respelled hd.2, hset]⟩
  have hempty : r.declarations.isEmpty = r'.declarations.isEmpty := by
    rw [Bool.eq_iff_iff, List.isEmpty_iff_length_eq_zero, List.isEmpty_iff_length_eq_zero, hds.length_eq]
  have hall : r.declareAll {} r.declarations = r'.declareAll {} r'.declarations := declareAll_congr hoffers hlimit
  have hamong (flavors : List Flavor) : r.defaultAmong flavors = r'.defaultAmong flavors := by
    unfold defaultAmong
    rw [hdefault]
  simp only [compile, hlimit, hempty, hall, hamong, hset]

end Rules

/-- **Letter case, order and repetition of labels go unnoticed.** A table answers a respelled job alike: with the
same flavor, or naming the same labels that no flavor offers. And rules that are respelled make the same table, or
have the same first fault. -/
theorem respelling_unnoticed :
    (∀ (r : Rules) (t : Table), r.compile.result = .ok t → ∀ asked asked' : List String,
      LabelSet.Respells asked asked' → t.resolve asked = t.resolve asked') ∧
    (∀ r r' : Rules, r.Respells r' → r.compile = r'.compile) :=
  ⟨fun _ _ _ _ _ h => Table.resolve_congr (LabelSet.normalize_respelled h), fun _ _ => Rules.compile_respelled⟩

/-- A flavor with a label that ends in a sigma, and an ignored label. -/
def sigmaFlavor : Rules := { declarations := [⟨"sigma", ["aΣ", "x64"]⟩], ignored := ["OS"] }

/-- The same rules in another spelling. -/
def sigmaRespelled : Rules := { declarations := [⟨"sigma", ["X64", "AΣ", "x64"]⟩], ignored := ["os", "Os"] }

theorem sigmaFlavor_sound : sigmaFlavor.Sound :=
  .of_short (by decide) (by decide) (by decide) (by decide) (by decide)

/-- The letter before a sigma is in either case, and labels are repeated and change places. -/
theorem respelling_unnoticed_sigma :
    (∃ t, sigmaFlavor.compile.result = .ok t ∧ LabelSet.Respells ["aΣ", "OS"] ["os", "AΣ", "oS"] ∧
      t.resolve ["aΣ", "OS"] = t.resolve ["os", "AΣ", "oS"]) ∧
    sigmaFlavor.Respells sigmaRespelled ∧ sigmaFlavor.compile = sigmaRespelled.compile := by
  constructor
  · obtain ⟨t, ht⟩ := Rules.exists_table_iff.2 sigmaFlavor_sound
    have hasked : LabelSet.Respells ["aΣ", "OS"] ["os", "AΣ", "oS"] := by decide +kernel
    exact ⟨t, ht, hasked, respelling_unnoticed.1 sigmaFlavor t ht _ _ hasked⟩
  · have hrules : sigmaFlavor.Respells sigmaRespelled :=
      { declarations := .cons (by decide +kernel) .nil
        default := rfl
        ignored := by decide +kernel
        limit := rfl }
    exact ⟨hrules, respelling_unnoticed.2 _ _ hrules⟩

end Routing

end RunnerDispatch
