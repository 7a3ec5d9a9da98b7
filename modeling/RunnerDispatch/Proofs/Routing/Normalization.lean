import RunnerDispatch.Label.Codec
import RunnerDispatch.Proofs.Json.Records
import RunnerDispatch.Proofs.Routing.Compilation
import RunnerDispatch.Proofs.Text.Casing

/-!
# Labels need to be normalized only once

Every text that enters the routing is lowercased, also a text that has been through it before: a label
that is read back, the labels of a refusal, a key of the table.

* `LabelSet.Canonical`: a set of labels in lower case.
* `normalize_texts`: **a canonical set is what its own texts are normalized to.**
* `canonical_key`: the keys of a table are canonical, and none of their labels is ignored.
* `normalize_settles`: so normalizing changes nothing the second time, wherever the labels come from.
-/

namespace RunnerDispatch

namespace Label

variable {l : Label}

/-- A label in lower case. -/
def Canonical (l : Label) : Prop := ofString l.text = l

theorem canonical_ofString (raw : String) : (ofString raw).Canonical :=
  congrArg Label.mk (Text.Casing.lower_lower raw)

/-- **A label is read back from its JSON text**, if it is in lower case. -/
theorem decode_encode (h : l.Canonical) : decode (Bytes.ofString l.encode) = .ok l := by
  have hread : Json.ReadsAs (fun _ => Json.readString) (.text l.text) l.text := Json.readTextAs_text rfl
  have hwhole := Json.readWhole_bytes hread
  rw [decode, show Bytes.ofString l.encode = (Json.Value.text l.text).bytes from rfl, hwhole]
  exact congrArg Except.ok h

end Label

namespace LabelSet

variable {s : LabelSet}

/-- A set of labels in lower case. -/
def Canonical (s : LabelSet) : Prop := ∀ l ∈ s, Label.Canonical l

theorem mem_normalize {raw : List String} {l : Label} :
    l ∈ normalize raw ↔ ∃ text ∈ raw, Label.ofString text = l := by
  rw [normalize, SortedSet.mem_ofList, List.mem_map]

theorem canonical_normalize (raw : List String) : (normalize raw).Canonical := by
  intro l hl
  obtain ⟨text, -, rfl⟩ := mem_normalize.1 hl
  exact Label.canonical_ofString text

/-- Lowercasing the texts of labels in lower case gives the labels. -/
theorem map_ofString_text {ls : List Label} (h : ∀ l ∈ ls, Label.Canonical l) :
    (ls.map Label.text).map Label.ofString = ls := by
  rw [List.map_map, List.map_congr_left (g := id) (by exact h), List.map_id]

/-- **A canonical set is what its own texts are normalized to.** -/
theorem normalize_texts (h : s.Canonical) : normalize s.texts = s := by
  rw [normalize, texts, map_ofString_text h, SortedSet.ofList_toList]

end LabelSet

namespace Routing

open LabelSet (normalize)

variable {t : Table} {asked : List String} {key : Key} {f : Flavor}

/-- What a job asks for counts as far as it is normalized. -/
theorem Table.resolve_congr {asked' : List String} (h : normalize asked = normalize asked') :
    t.resolve asked = t.resolve asked' := by
  rw [Table.resolve, Table.resolve, h]

/-- A refusal names all that was asked for, in lower case. -/
theorem Table.labels_of_resolve {e : NoMatch} (h : t.resolve asked = .error e) : e.labels = normalize asked := by
  unfold Table.resolve at h
  simp only at h
  split at h
  · exact (nomatch h)
  split at h
  · rw [← Except.error.inj h]
  split at h
  · exact (nomatch h)
  · rw [← Except.error.inj h]

/-- What is under a key of a compiled table is named by the first declaration that covers the key. -/
theorem lookup_compiled {r : Rules} (h : r.compile.result = .ok t) (key : Key) :
    (t.lookup key).map Flavor.name =
      (r.declarations.find? fun d => decide (r.Covers d key)).map Declaration.name := by
  obtain ⟨-, -, draft, default, hall, -, rfl⟩ := Rules.compile_ok_iff.1 h
  exact (represents_declareAll hall).lookup key

/-- **A key of a compiled table** is the list of a canonical set that has a label and no ignored one. -/
theorem canonical_key {r : Rules} (h : r.compile.result = .ok t) (hkey : t.lookup key = some f) :
    ∃ s : LabelSet, s.toList = key ∧ s ≠ ∅ ∧ s.Canonical ∧ s \ t.ignored = s := by
  have hfind := lookup_compiled h key
  obtain ⟨-, -, draft, default, -, -, rfl⟩ := Rules.compile_ok_iff.1 h
  rw [hkey, Option.map_some] at hfind
  obtain ⟨d, hd, -⟩ := Option.map_eq_some_iff.1 hfind.symm
  obtain ⟨hne, hsub⟩ : r.Covers d key := by simpa using List.find?_some hd
  have hmem {l : Label} (hl : l ∈ key) : l ∈ normalize d.labels ∧ l ∉ r.ignoredSet :=
    SortedSet.mem_sdiff.1 (hsub.subset hl)
  refine ⟨⟨key, (r.offered d).ascending.sublist hsub⟩, rfl, fun he => hne (congrArg SortedSet.toList he),
    fun l hl => LabelSet.canonical_normalize d.labels l (hmem hl).1, SortedSet.ext fun l => ?_⟩
  rw [SortedSet.mem_sdiff]
  exact ⟨And.left, fun hl => ⟨hl, (hmem hl).2⟩⟩

/-- A key resolves to the flavor that is under it. -/
theorem resolve_key {r : Rules} (h : r.compile.result = .ok t) (hkey : t.lookup key = some f) :
    (normalize (key.map Label.text)).toList = key ∧ t.resolve (key.map Label.text) = .ok f := by
  obtain ⟨s, rfl, hne, hcanonical, hignored⟩ := canonical_key h hkey
  have hnormalize : normalize (s.toList.map Label.text) = s := LabelSet.normalize_texts hcanonical
  refine ⟨congrArg SortedSet.toList hnormalize, ?_⟩
  rw [Table.resolve, hnormalize, hignored, if_neg fun he => hne (SortedSet.isEmpty_iff.1 he), if_neg, hkey]
  rw [List.isEmpty_iff, SortedSet.toList_eq_nil]
  exact hne

/-- **Normalizing changes nothing the second time.** A text in lower case is its own lower case, and the
texts of a normalized set are normalized to that set. So a label is read back from its JSON text as it is;
a refusal names labels that are refused as the same labels; and a key of a compiled table, taken for what a
job asks, is looked up as it is and resolves to its own flavor. -/
theorem normalize_settles :
    (∀ raw : List String, normalize (normalize raw).texts = normalize raw) ∧
    (∀ text : String, Text.Casing.lower (Text.Casing.lower text) = Text.Casing.lower text) ∧
    (∀ text : String, Label.decode (Bytes.ofString (Label.ofString text).encode) = .ok (Label.ofString text)) ∧
    (∀ (t : Table) asked e, t.resolve asked = .error e →
      normalize e.labels.texts = e.labels ∧ t.resolve e.labels.texts = .error e) ∧
    (∀ (r : Rules) t, r.compile.result = .ok t → ∀ key f, t.lookup key = some f →
      (normalize (key.map Label.text)).toList = key ∧ t.resolve (key.map Label.text) = .ok f) := by
  have hnormalize (raw : List String) : normalize (normalize raw).texts = normalize raw :=
    LabelSet.normalize_texts (LabelSet.canonical_normalize raw)
  refine ⟨hnormalize, Text.Casing.lower_lower, fun text => Label.decode_encode (Label.canonical_ofString text),
    fun t asked e he => ?_, fun r t ht key f hkey => resolve_key ht hkey⟩
  have hlabels := Table.labels_of_resolve he
  have hsame : normalize e.labels.texts = normalize asked := by rw [hlabels, hnormalize]
  exact ⟨hsame.trans hlabels.symm, (Table.resolve_congr hsame).trans he⟩

/-- A flavor with a label in which the two sigmas are lowercased differently. -/
def greekFlavor : Rules := { declarations := [⟨"greek", ["ΣΑΣ"]⟩] }

theorem toList_offered_greek : (greekFlavor.offered ⟨"greek", ["ΣΑΣ"]⟩).toList = [⟨"σας"⟩] := by
  have hlower : Label.ofString "ΣΑΣ" = ⟨"σας"⟩ := by decide +kernel
  show (normalize ["ΣΑΣ"] \ normalize []).toList = _
  rw [LabelSet.normalize, List.map_cons, hlower]
  cbv

theorem greekFlavor_sound : greekFlavor.Sound where
  limit_le := by decide
  nonempty := by decide
  declared := by
    rintro d hd
    obtain rfl := List.mem_singleton.1 hd
    refine ⟨by decide, ?_⟩
    rw [SortedSet.size, toList_offered_greek]
    decide
  distinct := by decide
  default_mem := by simp [greekFlavor]

/-- The label is a key in lower case and resolves as that; and the dotted `İ`, which becomes two characters,
is refused under the same label the second time. -/
theorem normalize_settles_greek :
    (∃ t f, greekFlavor.compile.result = .ok t ∧ t.lookup [⟨"σας"⟩] = some f ∧ t.resolve ["σας"] = .ok f) ∧
      loneTable.resolve ["İ"] = .error ⟨SortedSet.ofList [⟨"i\u0307"⟩]⟩ ∧
      loneTable.resolve ["i\u0307"] = .error ⟨SortedSet.ofList [⟨"i\u0307"⟩]⟩ := by
  obtain ⟨-, -, -, hnoMatch, hroute⟩ := normalize_settles
  constructor
  · obtain ⟨t, ht⟩ := Rules.exists_table_iff.2 greekFlavor_sound
    have hcovers : greekFlavor.Covers ⟨"greek", ["ΣΑΣ"]⟩ [⟨"σας"⟩] := by
      rw [Rules.Covers, toList_offered_greek]
      decide
    have hfind := lookup_compiled ht [⟨"σας"⟩]
    rw [greekFlavor, List.find?_cons_of_pos (by simpa [greekFlavor] using hcovers), Option.map_some,
      Option.map_eq_some_iff] at hfind
    obtain ⟨f, hkey, -⟩ := hfind
    exact ⟨t, f, ht, hkey, (hroute _ t ht _ f hkey).2⟩
  · have hlower : Label.ofString "İ" = ⟨"i\u0307"⟩ := by decide +kernel
    have hrefused : loneTable.resolve ["İ"] = .error ⟨SortedSet.ofList [⟨"i\u0307"⟩]⟩ := by
      rw [Table.resolve, LabelSet.normalize, List.map_cons, hlower]
      cbv
    have htexts : LabelSet.texts (SortedSet.ofList [⟨"i\u0307"⟩]) = ["i\u0307"] := by cbv
    refine ⟨hrefused, ?_⟩
    rw [← htexts]
    exact (hnoMatch _ _ _ hrefused).2

end Routing

end RunnerDispatch
