import RunnerDispatch.Proofs.Routing.Shape

/-!
# Changing the declarations

A declaration at the end gets the keys that are free, and takes none from the others. And two declarations that
offer no label in common cover no key in common, so that it does not matter which of them comes first. The default
flavor has to be named for that: else it is the first one that is declared.

* `Rules.declaring`: rules with other declarations.
* `Rules.Apart`: two declarations that offer no label in common.
* `lookup_appended`: **a declaration at the end leaves the keys that are taken to their flavors.**
* `lookup_exchanged`: **neighbours that share no label may change places.**
* `revised_routes`: what that means for the jobs.
-/

namespace RunnerDispatch.Routing

variable {r : Rules} {t t' : Table} {key : Key} {f : Flavor} {before after : List Declaration} {c d : Declaration}

/-- The rules with these declarations in place of their own; all else stays. -/
def Rules.declaring (r : Rules) (ds : List Declaration) : Rules := { r with declarations := ds }

/-- Rules stay sound if their declarations change places. -/
theorem Rules.Sound.declaring {ds : List Declaration} (h : r.Sound) (hperm : r.declarations.Perm ds) :
    (r.declaring ds).Sound where
  limit_le := h.limit_le
  nonempty hnone := h.nonempty (List.perm_nil.1 (hnone ▸ hperm))
  declared d hd := h.declared d (hperm.mem_iff.2 hd)
  distinct := (hperm.map Declaration.name).nodup_iff.1 h.distinct
  default_mem name hname := (hperm.map Declaration.name).mem_iff.1 (h.default_mem name hname)

/-- Tables have one default flavor if it has one name in the rules of both. -/
theorem default_eq {r' : Rules} (h : r.compile.result = .ok t) (h' : r'.compile.result = .ok t')
    (hname : r'.defaultName? = r.defaultName?) : t'.default = t.default := by
  rw [(default_compiled h).1, (default_compiled h').1] at hname
  exact Flavor.name_inj.1 (Option.some.inj hname)

/-! ## A declaration at the end -/

/-- **A declaration at the end gets a key if it is free**, and leaves the others as they are. -/
theorem lookup_appended (h : r.compile.result = .ok t)
    (h' : (r.declaring (r.declarations ++ [d])).compile.result = .ok t') (key : Key) :
    (t'.lookup key).map Flavor.name =
      ((t.lookup key).map Flavor.name).or (if r.Covers d key then some d.name else none) := by
  have hlast : ([d].find? fun c => decide (r.Covers c key)).map Declaration.name =
      if r.Covers d key then some d.name else none := by
    by_cases hcovers : r.Covers d key <;> simp [hcovers]
  rw [← hlast, lookup_compiled h, lookup_compiled h', ← Option.map_or, ← List.find?_append]
  rfl

/-- With a declaration at the end, whatever was resolved is resolved alike, and the rest goes there or nowhere. -/
theorem resolve_appended (h : r.compile.result = .ok t)
    (h' : (r.declaring (r.declarations ++ [d])).compile.result = .ok t') (asked : List String) :
    (∀ f, t.resolve asked = .ok f → t'.resolve asked = .ok f) ∧
      ∀ e f, t.resolve asked = .error e → t'.resolve asked = .ok f → f.name = d.name := by
  have hdefault : t'.default = t.default := by
    refine default_eq h h' ?_
    cases hds : r.declarations with
    | nil => exact absurd hds (Rules.exists_table_iff.1 ⟨t, h⟩).nonempty
    | cons first rest => simp [Rules.defaultName?, Rules.declaring, hds]
  have hlookup := lookup_appended h h' (r.wanted asked).toList
  constructor
  · intro f hf
    rcases (resolve_ok_iff h).1 hf with ⟨hnone, rfl⟩ | ⟨hsome, hfound⟩
    · exact (resolve_ok_iff h').2 (.inl ⟨hnone, hdefault⟩)
    · rw [hfound, Option.map_some, Option.some_or, map_name_eq_some_iff] at hlookup
      exact (resolve_ok_iff h').2 (.inr ⟨hsome, hlookup⟩)
  · intro e f he hf
    -- the job asks for something, since the default flavor would have taken it, and its key was free
    have hrefused (g : Flavor) : t.resolve asked ≠ .ok g := by
      intro hg
      rw [he] at hg
      cases hg
    rcases (resolve_ok_iff h').1 hf with ⟨hnone, -⟩ | ⟨hsome, hfound⟩
    · exact absurd ((resolve_ok_iff h).2 (.inl ⟨hnone, rfl⟩)) (hrefused t.default)
    · have hfree : t.lookup (r.wanted asked).toList = none :=
        Option.eq_none_iff_forall_ne_some.2 fun g hg =>
          hrefused g ((resolve_ok_iff h).2 (.inr ⟨hsome, hg⟩))
      rw [hfree, show t'.lookup (r.wanted asked).toList = some f from hfound, Option.map_some, Option.map_none,
        Option.none_or] at hlookup
      split at hlookup
      · exact Option.some.inj hlookup
      · cases hlookup

/-! ## Neighbours -/

/-- Two declarations offer no label in common. -/
def Rules.Apart (r : Rules) (c d : Declaration) : Prop := ∀ l ∈ r.offered c, l ∉ r.offered d

/-- No key is covered by two declarations that share no label. -/
theorem Rules.Apart.not_covers (hapart : r.Apart c d) (hc : r.Covers c key) : ¬ r.Covers d key := by
  obtain ⟨hne, hsub⟩ := hc
  obtain ⟨l, hl⟩ := List.exists_mem_of_ne_nil key hne
  exact fun hd => hapart l (hsub.subset hl) (hd.2.subset hl)

/-- **Neighbours that share no label may change places**, and every key stays where it is. -/
theorem lookup_exchanged (h : r.compile.result = .ok t) (hsplit : r.declarations = before ++ c :: d :: after)
    (hapart : r.Apart c d)
    (h' : (r.declaring (before ++ d :: c :: after)).compile.result = .ok t') (key : Key) :
    t'.lookup key = t.lookup key := by
  have hfind : (before ++ d :: c :: after).find? (fun a => decide (r.Covers a key)) =
      (before ++ c :: d :: after).find? fun a => decide (r.Covers a key) := by
    simp only [List.find?_append, List.find?_cons]
    -- if one of the two covers the key, the other does not
    by_cases hc : r.Covers c key
    · simp [hc, hapart.not_covers hc]
    · simp [hc]
  have hname : Function.Injective Flavor.name := fun _ _ => Flavor.name_inj.1
  refine Option.map_injective hname ?_
  rw [lookup_compiled h, lookup_compiled h', hsplit, ← hfind]
  rfl

/-- **Changes that take no route away.** A declaration at the end leaves every job that was resolved with its
flavor, and gets all jobs that are resolved for its sake. Neighbouring declarations that share no label may change
places if the default flavor is named: there is a table again, with the same answers. -/
theorem revised_routes (h : r.compile.result = .ok t) :
    (∀ d t', (r.declaring (r.declarations ++ [d])).compile.result = .ok t' → ∀ asked,
      (∀ f, t.resolve asked = .ok f → t'.resolve asked = .ok f) ∧
        ∀ e f, t.resolve asked = .error e → t'.resolve asked = .ok f → f.name = d.name) ∧
    (∀ before c d after, r.default ≠ none → r.declarations = before ++ c :: d :: after →
      r.Apart c d → ∃ t', (r.declaring (before ++ d :: c :: after)).compile.result = .ok t' ∧
        ∀ asked, t'.resolve asked = t.resolve asked) := by
  refine ⟨fun d t' h' => resolve_appended h h', fun before c d after hnamed hsplit hapart => ?_⟩
  have hperm : r.declarations.Perm (before ++ d :: c :: after) := by
    rw [hsplit]
    exact (List.Perm.swap d c after).append_left before
  obtain ⟨t', h'⟩ := Rules.exists_table_iff.2 ((Rules.exists_table_iff.1 ⟨t, h⟩).declaring hperm)
  have hdefault : t'.default = t.default := by
    refine default_eq h h' ?_
    obtain ⟨name, hname⟩ := Option.ne_none_iff_exists'.1 hnamed
    simp [Rules.defaultName?, Rules.declaring, hname]
  have hignored : t'.ignored = t.ignored := (ignored_compiled h').trans (ignored_compiled h).symm
  refine ⟨t', h', fun asked => ?_⟩
  simp only [Table.resolve, hdefault, hignored, lookup_exchanged h hsplit hapart h']

/-- Two flavors that share nothing but an ignored label; jobs that ask for nothing go to the second. -/
def apartFlavors : Rules :=
  { declarations := [⟨"a", ["x", "OS"]⟩, ⟨"b", ["os", "y"]⟩], default := some "b", ignored := ["Os"] }

/-- A flavor that offers the labels of both. -/
def bothLabels : Declaration := ⟨"c", ["X", "Y"]⟩

/-- The rules with that flavor at the end. -/
def apartFollowed : Rules := apartFlavors.declaring (apartFlavors.declarations ++ [bothLabels])

theorem apartFlavors_sound : apartFlavors.Sound :=
  .of_short (by decide) (by decide) (by decide) (by decide) (by decide)

theorem apartFollowed_sound : apartFollowed.Sound :=
  .of_short (by decide) (by decide) (by decide) (by decide) (by decide)

theorem apartFlavors_apart : apartFlavors.Apart ⟨"a", ["x", "OS"]⟩ ⟨"b", ["os", "y"]⟩ := by
  have ha : (apartFlavors.offered ⟨"a", ["x", "OS"]⟩).toList = [⟨"x"⟩] := by cbv
  have hb : (apartFlavors.offered ⟨"b", ["os", "y"]⟩).toList = [⟨"y"⟩] := by cbv
  show ∀ l ∈ (apartFlavors.offered _).toList, l ∉ (apartFlavors.offered _).toList
  rw [ha, hb]
  decide

/-- No flavor of the two has both labels. -/
theorem apartFlavors_refuse {t : Table} (h : apartFlavors.compile.result = .ok t) :
    ∃ e, t.resolve ["x", "Y"] = .error e := by
  cases hf : t.resolve ["x", "Y"] with
  | error e => exact ⟨e, rfl⟩
  | ok f =>
    rw [← toOption_eq_some_iff, toOption_resolve h (of_decide_eq_true (by cbv)), lookup_eq_some_iff h] at hf
    obtain ⟨before, d, after, hsplit, -, hcovers, -⟩ := hf
    have hd : d ∈ apartFlavors.declarations := hsplit ▸ List.mem_append_right _ List.mem_cons_self
    have hnone : ∀ d ∈ apartFlavors.declarations,
        ¬ apartFlavors.Covers d (apartFlavors.wanted ["x", "Y"]).toList := of_decide_eq_true (by cbv)
    exact absurd hcovers (hnone d hd)

/-- The third flavor takes no label from the first, but gets the job for both labels; and the first two may change
places. -/
theorem revised_routes_apartFlavors :
    ∃ t t', apartFlavors.compile.result = .ok t ∧ apartFollowed.compile.result = .ok t' ∧
      (∃ f, t.resolve ["X"] = .ok f ∧ t'.resolve ["X"] = .ok f) ∧
      (∃ e f, t.resolve ["x", "Y"] = .error e ∧ t'.resolve ["x", "Y"] = .ok f ∧ f.name = "c") ∧
      ∃ s, (apartFlavors.declaring [⟨"b", ["os", "y"]⟩, ⟨"a", ["x", "OS"]⟩]).compile.result = .ok s ∧
        ∀ asked, s.resolve asked = t.resolve asked := by
  obtain ⟨t, ht⟩ := Rules.exists_table_iff.2 apartFlavors_sound
  obtain ⟨t', ht'⟩ := Rules.exists_table_iff.2 apartFollowed_sound
  obtain ⟨hfollowed, hexchanged⟩ := revised_routes ht
  refine ⟨t, t', ht, ht', ?_, ?_, hexchanged [] _ _ [] (by decide) rfl apartFlavors_apart⟩
  · have hfirst : apartFlavors.FirstCovers [] ⟨"a", ["x", "OS"]⟩ (apartFlavors.wanted ["X"]).toList :=
      of_decide_eq_true (by cbv)
    obtain ⟨f, hf, -⟩ := exists_resolve ht rfl hfirst
    exact ⟨f, hf, (hfollowed _ t' ht' _).1 f hf⟩
  · have hlast : apartFollowed.FirstCovers apartFlavors.declarations bothLabels
        (apartFollowed.wanted ["x", "Y"]).toList := of_decide_eq_true (by cbv)
    obtain ⟨f, hf, -⟩ := exists_resolve ht' rfl hlast
    obtain ⟨e, he⟩ := apartFlavors_refuse ht
    exact ⟨e, f, he, hf, (hfollowed _ t' ht' _).2 e f he hf⟩

end RunnerDispatch.Routing
