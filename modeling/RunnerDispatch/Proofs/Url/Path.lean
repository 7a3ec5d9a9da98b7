import Mathlib
import RunnerDispatch.Proofs.Text.Hex
import RunnerDispatch.Url.Parser

/-!
# Paths that stay as they are written

A URL's path is followed segment by segment: a segment of one dot stays where it is, and one of two dots goes back.
Other segments are kept, the empty ones too.

* `IsVerbatim`: characters that stand for themselves in a path.
* `walk_special`: the segments of a text between its slashes, followed one by one.
* `forall_mem_follow`: **what is left of the segments are no dots.**
* `text_readSegments_eq_iff`: **a path stays as it is written exactly if it has no segment of dots.**
-/

namespace RunnerDispatch.Url

/-- A character that **stands for itself in a path**: it is neither encoded nor part of an escape, and it does not
end the path. -/
structure IsVerbatim (c : Char) : Prop where
  visible : 0x20 < c.toNat
  encoded : Percent.encodeChar Percent.inPath c = [c]
  inside : endsPath c = false
  ne_backslash : c ≠ '\\'
  ne_percent : c ≠ '%'

/-- A segment of **one or two dots**, which is followed and not kept. -/
def IsDots (segment : List Char) : Prop := segment = ['.'] ∨ segment = ['.', '.']

/-- A path with **a segment of dots** between its slashes. -/
def HasDots (path : String) : Prop := ∃ segment ∈ path.toList.splitOn '/', IsDots segment

instance (path : String) : Decidable (HasDots path) :=
  haveI : DecidablePred IsDots := fun _ => inferInstanceAs (Decidable (_ ∨ _))
  List.decidableBEx _ _

variable {segments ss : List (List Char)} {segment s : List Char} {c d : Char} {cs : List Char}

/-! ## Segments of dots -/

/-- Small letters are made of letters only. -/
theorem toLower_eq_iff (hd : d.toNat < 0x41) : c.toLower = d ↔ c = d := by
  have hself : d.toLower = d := by
    rw [Char.toLower, dif_neg]
    exact fun hcapital => Nat.not_lt_of_le hcapital.1 hd
  have hascii : ∀ n < 0x80, (Char.ofNat n).toLower.toNat < 0x41 → (Char.ofNat n).toLower = Char.ofNat n := by
    decide
  constructor
  · rintro rfl
    by_cases hc : c.toNat < 0x80
    · have hsame := hascii c.toNat hc
      rw [Char.ofNat_toNat] at hsame
      exact (hsame hd).symm
    · exact (Text.Hex.toLower_high (Nat.le_of_not_lt hc)).symm
  · rintro rfl
    exact hself

/-- A text without letters is written in one way only. -/
theorem toLower_ofList_eq_iff (ds : List Char) (h : ∀ d ∈ ds, d.toNat < 0x41) :
    (String.ofList segment).toLower = String.ofList ds ↔ segment = ds := by
  rw [← String.toList_inj, String.toLower, String.toList_map, String.toList_ofList, String.toList_ofList]
  induction ds generalizing segment with
  | nil => rw [List.map_eq_nil_iff]
  | cons d ds ih =>
    obtain ⟨hd, hds⟩ := List.forall_mem_cons.1 h
    cases segment with
    | nil => simp
    | cons c segment => rw [List.map_cons, List.cons.injEq, List.cons.injEq, toLower_eq_iff hd, ih hds]

/-- An escape is made with a percent sign. -/
theorem toLower_ofList_ne (ds : List Char) (h : ∀ c ∈ segment, IsVerbatim c) (hds : '%' ∈ ds) :
    (String.ofList segment).toLower ≠ String.ofList ds := by
  intro heq
  rw [← String.toList_inj, String.toLower, String.toList_map, String.toList_ofList, String.toList_ofList] at heq
  rw [← heq, List.mem_map] at hds
  obtain ⟨c, hc, hpercent⟩ := hds
  exact (h c hc).ne_percent ((toLower_eq_iff (by decide)).1 hpercent)

theorem isSingleDot_iff (h : ∀ c ∈ segment, IsVerbatim c) : isSingleDot segment = true ↔ segment = ['.'] := by
  have hescaped : (String.ofList segment).toLower ≠ "%2e" := toLower_ofList_ne ['%', '2', 'e'] h (by decide)
  have hdot : (String.ofList segment).toLower = "." ↔ segment = ['.'] := toLower_ofList_eq_iff ['.'] (by simp)
  rw [isSingleDot, Bool.or_eq_true, beq_iff_eq, beq_iff_eq, or_iff_left hescaped, hdot]

theorem isDoubleDot_iff (h : ∀ c ∈ segment, IsVerbatim c) : isDoubleDot segment = true ↔ segment = ['.', '.'] := by
  have hdots : (String.ofList segment).toLower = ".." ↔ segment = ['.', '.'] :=
    toLower_ofList_eq_iff ['.', '.'] (by simp)
  have hback : (String.ofList segment).toLower ≠ "%2e." := toLower_ofList_ne ['%', '2', 'e', '.'] h (by decide)
  have hfront : (String.ofList segment).toLower ≠ ".%2e" := toLower_ofList_ne ['.', '%', '2', 'e'] h (by decide)
  have hboth : (String.ofList segment).toLower ≠ "%2e%2e" :=
    toLower_ofList_ne ['%', '2', 'e', '%', '2', 'e'] h (by decide)
  simp [isDoubleDot, hdots, hback, hfront, hboth]

/-! ## Following segments -/

/-- Goes along segments, the last of which no slash follows. Segments are kept last first. -/
def follow : List (List Char) → List (List Char) → List (List Char)
  | segments, [] => segments
  | segments, [s] => addSegment .special segments s false
  | segments, s :: t :: ss => follow (addSegment .special segments s true) (t :: ss)

/-- The texts between slashes, from the first character on. -/
theorem splitOn_cons (c : Char) (cs : List Char) : (c :: cs).splitOn '/' =
    if c = '/' then [] :: cs.splitOn '/' else (cs.splitOn '/').modifyHead (c :: ·) := by
  rw [List.splitOn_eq_splitOnP, List.splitOnP_cons_eq_if_modifyHead, ← List.splitOn_eq_splitOnP]
  simp only [beq_iff_eq]

/-- **The segments between slashes are followed one by one.** -/
theorem walk_special (h : ∀ c ∈ cs, IsVerbatim c) : walk .special segments segment cs =
    (follow segments ((cs.splitOn '/').modifyHead (segment.reverse ++ ·)), []) := by
  induction cs generalizing segments segment with
  | nil =>
    rw [List.splitOn_nil, walk]
    simp [follow]
  | cons c cs ih =>
    obtain ⟨hc, hcs⟩ := List.forall_mem_cons.1 h
    have hslash : SchemeKind.special.isSlash c = (c == '/') := by
      simp [SchemeKind.isSlash, hc.ne_backslash]
    obtain ⟨t, ss, hss⟩ := List.exists_cons_of_ne_nil (List.splitOn_ne_nil '/' cs)
    rw [walk, hslash, hc.inside, hc.encoded, splitOn_cons, hss]
    by_cases hhead : c = '/'
    · rw [if_pos (beq_iff_eq.2 hhead), if_pos hhead, ih hcs, hss]
      simp [follow]
    · rw [if_neg (beq_eq_false_iff_ne.2 hhead ▸ Bool.false_ne_true), if_neg hhead, if_neg Bool.false_ne_true, ih hcs,
        hss]
      simp

/-- A segment that is no dots is added. -/
theorem addSegment_special (hsingle : isSingleDot s = false) (hdouble : isDoubleDot s = false) (slash : Bool) :
    addSegment .special segments s slash = s :: segments := by
  have hfile : ¬ (SchemeKind.special = .file ∧ isDriveLetter s) := by simp
  unfold addSegment
  simp only [hsingle, hdouble, Bool.false_eq_true, if_false, hfile]

/-- **Segments are kept** where none of them is dots. -/
theorem follow_eq_append (h : ∀ s ∈ ss, isSingleDot s = false ∧ isDoubleDot s = false) :
    follow segments ss = ss.reverse ++ segments := by
  induction ss generalizing segments with
  | nil => rfl
  | cons s ss ih =>
    obtain ⟨⟨hsingle, hdouble⟩, hss⟩ := List.forall_mem_cons.1 h
    cases ss with
    | nil => exact addSegment_special hsingle hdouble false
    | cons t ss => rw [follow, addSegment_special hsingle hdouble, ih hss]; simp

theorem back_subset (segments : List (List Char)) : back segments ⊆ segments := by
  cases segments with
  | nil => exact List.Subset.refl _
  | cons s segments =>
    rw [back]
    split
    · exact List.Subset.refl _
    · exact List.subset_cons_self s segments

/-- What holds of the empty segment, of the segments before and of one that is no dots, holds of all that are there
afterwards. -/
theorem forall_mem_addSegment {P : List Char → Prop} (hnil : P []) (hsegments : ∀ t ∈ segments, P t)
    (hs : isSingleDot s = false → isDoubleDot s = false → P s) (slash : Bool) :
    ∀ t ∈ addSegment .special segments s slash, P t := by
  have hended : ∀ ts : List (List Char), (∀ t ∈ ts, P t) → ∀ t ∈ (if slash then ts else [] :: ts), P t := by
    intro ts hts
    cases slash with
    | true => exact hts
    | false => exact List.forall_mem_cons.2 ⟨hnil, hts⟩
  cases hdouble : isDoubleDot s with
  | true =>
    unfold addSegment
    rw [if_pos hdouble]
    exact hended _ fun t ht => hsegments t (back_subset segments ht)
  | false =>
    cases hsingle : isSingleDot s with
    | true =>
      unfold addSegment
      rw [if_neg (hdouble ▸ Bool.false_ne_true), if_pos hsingle]
      exact hended _ hsegments
    | false =>
      rw [addSegment_special hsingle hdouble]
      exact List.forall_mem_cons.2 ⟨hs hsingle hdouble, hsegments⟩

/-- **What holds of the segments that are no dots holds of all that are left**, if it holds of the empty one. -/
theorem forall_mem_follow {P : List Char → Prop} (hnil : P []) (hsegments : ∀ t ∈ segments, P t)
    (hss : ∀ s ∈ ss, isSingleDot s = false → isDoubleDot s = false → P s) : ∀ t ∈ follow segments ss, P t := by
  induction ss generalizing segments with
  | nil => exact hsegments
  | cons s ss ih =>
    obtain ⟨hs, hss⟩ := List.forall_mem_cons.1 hss
    cases ss with
    | nil => exact forall_mem_addSegment hnil hsegments hs false
    | cons t ss => exact ih (forall_mem_addSegment hnil hsegments hs true) hss

/-! ## The text of a path -/

theorem intercalate_cons (s : List Char) (ss : List (List Char)) :
    ['/'].intercalate (s :: ss) = s ++ ss.flatMap ('/' :: ·) := by
  induction ss generalizing s with
  | nil => simp [List.intercalate]
  | cons t ss ih => rw [List.intercalate_cons_cons, ih]; simp

/-- Each segment stands behind a slash. -/
theorem toList_text_ofSegments (ss : List (List Char)) :
    (Path.ofSegments ss).text.toList = ['/'].intercalate ([] :: ss) := by
  rw [intercalate_cons, Path.ofSegments, Path.text, String.toList_join]
  simp [List.flatMap_map]

/-- Between slashes there is no slash. -/
theorem mem_of_mem_splitOn (h : s ∈ cs.splitOn '/') : ∀ c ∈ s, c ∈ cs ∧ c ≠ '/' := by
  induction cs generalizing s with
  | nil =>
    rw [List.splitOn_nil, List.mem_singleton] at h
    simp [h]
  | cons d cs ih =>
    obtain ⟨t, ss, hss⟩ := List.exists_cons_of_ne_nil (List.splitOn_ne_nil '/' cs)
    have hmore : ∀ s ∈ t :: ss, ∀ c ∈ s, c ∈ d :: cs ∧ c ≠ '/' := by
      intro s hs c hc
      obtain ⟨hmem, hne⟩ := ih (hss ▸ hs) c hc
      exact ⟨List.mem_cons_of_mem d hmem, hne⟩
    rw [splitOn_cons, hss] at h
    split at h
    · rcases List.mem_cons.1 h with rfl | h
      · simp
      · exact hmore s h
    · rename_i hd
      rcases List.mem_cons.1 h with rfl | h
      · obtain ⟨ht, -⟩ := List.forall_mem_cons.1 hmore
        exact List.forall_mem_cons.2 ⟨⟨List.mem_cons_self, hd⟩, ht⟩
      · exact hmore s (List.mem_cons_of_mem t h)

/-- The segments of a path that is read behind its first slash. -/
theorem readSegments_special (h : ∀ c ∈ cs, IsVerbatim c) :
    readSegments .special cs = ((follow [] (cs.splitOn '/')).reverse, []) := by
  obtain ⟨t, ss, hss⟩ := List.exists_cons_of_ne_nil (List.splitOn_ne_nil '/' cs)
  rw [readSegments, walk_special h, hss]
  simp

/-- What is left of a path are pieces of it. -/
theorem mem_follow (h : s ∈ follow [] (cs.splitOn '/')) : ∀ c ∈ s, c ∈ cs ∧ c ≠ '/' :=
  forall_mem_follow (by simp) (by simp) (fun _ ht _ _ => mem_of_mem_splitOn ht) s h

/-- **A path stays as it is written exactly if it has no segment of dots.** -/
theorem text_readSegments_eq_iff {path : String} (hpath : path.toList = '/' :: cs) (h : ∀ c ∈ cs, IsVerbatim c) :
    (Path.ofSegments (readSegments .special cs).1).text = path ↔ ¬ HasDots path := by
  have hsplit : path.toList.splitOn '/' = [] :: cs.splitOn '/' := by rw [hpath, splitOn_cons, if_pos rfl]
  have hverbatim : ∀ s ∈ cs.splitOn '/', ∀ c ∈ s, IsVerbatim c := fun s hs c hc => h c (mem_of_mem_splitOn hs c hc).1
  rw [readSegments_special h, ← String.toList_inj, toList_text_ofSegments]
  constructor
  · intro htext
    -- the text is cut at its slashes into what is left, and that has no dots
    have hnoslash : ∀ s ∈ [] :: (follow [] (cs.splitOn '/')).reverse, '/' ∉ s := by
      intro s hs hslash
      rcases List.mem_cons.1 hs with rfl | hs
      · exact absurd hslash List.not_mem_nil
      · exact (mem_follow (List.mem_reverse.1 hs) '/' hslash).2 rfl
    have hleft := List.splitOn_intercalate '/' hnoslash (List.cons_ne_nil _ _)
    rw [htext] at hleft
    rintro ⟨segment, hsegment, hdots⟩
    rw [hleft] at hsegment
    rcases List.mem_cons.1 hsegment with rfl | hsegment
    · simp [IsDots] at hdots
    · refine forall_mem_follow (P := fun t => ¬ IsDots t) (by simp [IsDots]) (by simp) ?_ segment
        (List.mem_reverse.1 hsegment) hdots
      rintro s hs hsingle hdouble (hone | htwo)
      · exact Bool.false_ne_true (hsingle.symm.trans ((isSingleDot_iff (hverbatim s hs)).2 hone))
      · exact Bool.false_ne_true (hdouble.symm.trans ((isDoubleDot_iff (hverbatim s hs)).2 htwo))
  · intro hdots
    have hkept : follow [] (cs.splitOn '/') = (cs.splitOn '/').reverse := by
      rw [follow_eq_append, List.append_nil]
      intro s hs
      have hno : ¬ IsDots s := fun hs' => hdots ⟨s, hsplit ▸ List.mem_cons_of_mem _ hs, hs'⟩
      have hsingle := mt (isSingleDot_iff (hverbatim s hs)).1 fun hone => hno (.inl hone)
      have hdouble := mt (isDoubleDot_iff (hverbatim s hs)).1 fun htwo => hno (.inr htwo)
      exact ⟨Bool.eq_false_iff.2 hsingle, Bool.eq_false_iff.2 hdouble⟩
    rw [hkept, List.reverse_reverse, ← hsplit, List.intercalate_splitOn]

/-- **The path ends where its text ends**: no mark of a query or a fragment is in it. -/
theorem endsPath_text (h : ∀ c ∈ cs, IsVerbatim c) :
    ∀ c ∈ (Path.ofSegments (readSegments .special cs).1).text.toList, endsPath c = false := by
  intro c hc
  rw [readSegments_special h, toList_text_ofSegments, intercalate_cons, List.nil_append, List.mem_flatMap] at hc
  obtain ⟨s, hs, hc⟩ := hc
  rcases List.mem_cons.1 hc with rfl | hc
  · decide
  · exact (h c (mem_follow (List.mem_reverse.1 hs) c hc).1).inside

end RunnerDispatch.Url
