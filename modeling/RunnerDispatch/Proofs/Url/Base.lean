import RunnerDispatch.Proofs.Http.Request
import RunnerDispatch.Proofs.Url.Path

/-!
# A path behind a base

A base names a place, which is a host with or without a port. A path that is written behind it changes nothing of
what the base says.

* `IsBase`: the scheme and a place.
* `readHostAndPort_append`: **the place ends where the path begins.**
* `exists_authority`: **a path behind a base is the path of the URL, and its authority is that of the base.**
-/

namespace RunnerDispatch.Url

/-- A character that may stand in a host or a port: no blank or control, and nothing that ends a place or stands
behind credentials. -/
def IsPlaceChar (c : Char) : Prop := 0x20 < c.toNat ∧ c ∉ ['/', '\\', '?', '#', '@']

instance (c : Char) : Decidable (IsPlaceChar c) := inferInstanceAs (Decidable (_ ∧ _))

/-- **A base**: the scheme, and a place behind it. -/
def IsBase (base : String) : Prop :=
  ∃ place : String, base = "http://" ++ place ∧ place ≠ "" ∧ ∀ c ∈ place.toList, IsPlaceChar c

variable {place cs : List Char} {scheme : String}

theorem IsPlaceChar.endsAuthority {c : Char} (h : IsPlaceChar c) : SchemeKind.special.endsAuthority c = false := by
  have hne : ∀ d ∈ ['/', '\\', '?', '#', '@'], c ≠ d := fun d hd hcd => h.2 (hcd ▸ hd)
  simp only [List.forall_mem_cons] at hne
  obtain ⟨hslash, hbackslash, hquery, hfragment, -⟩ := hne
  simp [SchemeKind.endsAuthority, SchemeKind.isSlash, hslash, hbackslash, hquery, hfragment]

/-- Nothing is dropped from a text without blanks. -/
theorem cleaned_eq {s : String} (h : ∀ c ∈ s.toList, 0x20 < c.toNat) : cleaned s = s.toList := by
  have hdrop : ∀ l : List Char, (∀ c ∈ l, 0x20 < c.toNat) → l.dropWhile (fun c => decide (c.toNat ≤ 0x20)) = l := by
    intro l hl
    cases l with
    | nil => rfl
    | cons c l =>
      have hc : 0x20 < c.toNat := hl c List.mem_cons_self
      rw [List.dropWhile_cons_of_neg]
      simpa using hc
  have hkeep : ∀ c ∈ s.toList, (c != '\t' && c != '\n' && c != '\r') = true := by
    intro c hc
    have hne : ∀ d : Char, d.toNat ≤ 0x20 → c ≠ d := by
      rintro d hd rfl
      exact absurd (h c hc) (Nat.not_lt_of_le hd)
    simp [hne '\t' (by decide), hne '\n' (by decide), hne '\r' (by decide)]
  unfold cleaned
  dsimp only
  rw [hdrop _ h, hdrop _ (by simpa using h), List.reverse_reverse, List.filter_eq_self.2 hkeep]

/-- The host ends at a colon or at the end of the place. -/
theorem exists_hostPart (bracketed : Bool) (cs : List Char) :
    ∃ rest, cs = hostPart bracketed cs ++ rest ∧ (rest = [] ∨ rest.head? = some ':') := by
  induction cs generalizing bracketed with
  | nil => exact ⟨[], rfl, .inl rfl⟩
  | cons c cs ih =>
    rw [hostPart]
    split
    · rename_i hcolon
      exact ⟨c :: cs, rfl, .inr (congrArg some hcolon.1)⟩
    · obtain ⟨rest, hrest, hend⟩ := ih (if c = '[' then true else if c = ']' then false else bracketed)
      exact ⟨rest, congrArg (c :: ·) hrest, hend⟩

theorem takeWhile_place (hplace : ∀ c ∈ place, IsPlaceChar c) (htail : cs = [] ∨ cs.head? = some '/') :
    (place ++ cs).takeWhile (!SchemeKind.special.endsAuthority ·) = place := by
  have hends : ∀ c ∈ place, (!SchemeKind.special.endsAuthority c) = true := by
    intro c hc
    rw [(hplace c hc).endsAuthority]
    rfl
  have hnone : cs.takeWhile (!SchemeKind.special.endsAuthority ·) = [] := by
    rcases htail with rfl | htail
    · rfl
    · obtain ⟨cs, rfl⟩ : ∃ rest, cs = '/' :: rest := List.head?_eq_some_iff.1 htail
      rfl
  rw [List.takeWhile_append_of_pos hends, hnone, List.append_nil]

/-- The port that is written behind a host, unless it is the standard one. -/
def portBehind (scheme : String) : List Char → Except Fault (Option Nat)
  | ':' :: digits => (readPort digits).map fun port =>
    if standardPorts.any fun p => p.1 == scheme && some p.2 == port then none else port
  | _ => .ok none

/-- The host and the port of a place. -/
def readPlace (scheme : String) (place : List Char) : Except Fault (Host × Option Nat) := do
  if (hostPart false place).isEmpty then throw .emptyHost
  let host ← Host.read (hostPart false place)
  let port ← portBehind scheme (place.drop (hostPart false place).length)
  return (host, port)

/-- The digits of a port end with the place. -/
theorem takeWhile_port (hplace : ∀ c ∈ place, IsPlaceChar c) (htail : cs = [] ∨ cs.head? = some '/') :
    (place ++ cs).takeWhile (fun c => c != '/' && c != '\\' && c != '?' && c != '#') = place := by
  have hdigits : ∀ c ∈ place, (c != '/' && c != '\\' && c != '?' && c != '#') = true := by
    intro c hc
    have h := (hplace c hc).2
    simp only [List.mem_cons, List.not_mem_nil, or_false, not_or] at h
    simp [h]
  have hnone : cs.takeWhile (fun c => c != '/' && c != '\\' && c != '?' && c != '#') = [] := by
    rcases htail with rfl | htail
    · rfl
    · obtain ⟨cs, rfl⟩ : ∃ rest, cs = '/' :: rest := List.head?_eq_some_iff.1 htail
      rfl
  rw [List.takeWhile_append_of_pos hdigits, hnone, List.append_nil]

/-- **The place ends where the path begins**: its host and its port are the same, whatever path follows. -/
theorem readHostAndPort_append (hplace : ∀ c ∈ place, IsPlaceChar c) (htail : cs = [] ∨ cs.head? = some '/') :
    readHostAndPort .special scheme (place ++ cs) =
      (readPlace scheme place).map fun r => (some r.1, r.2, cs) := by
  obtain ⟨rest, hrest, hend⟩ := exists_hostPart false place
  unfold readHostAndPort readPlace
  dsimp only
  rw [takeWhile_place hplace htail]
  generalize hostPart false place = hostText at hrest ⊢
  subst hrest
  rw [List.append_assoc, List.drop_left, List.drop_left]
  by_cases hempty : hostText.isEmpty = true
  · simp only [hempty, and_true, if_true]
    rfl
  simp only [hempty, and_false, if_false, Bool.false_eq_true, reduceCtorEq]
  cases Host.read hostText with
  | error e => rfl
  | ok host =>
    rcases hend with rfl | hend
    · -- a place without a port
      rcases htail with rfl | htail
      · rfl
      · obtain ⟨cs, rfl⟩ := List.head?_eq_some_iff.1 htail
        rfl
    · obtain ⟨digits, rfl⟩ := List.head?_eq_some_iff.1 hend
      have hdigits : ∀ c ∈ digits, IsPlaceChar c := fun c hc =>
        hplace c (List.mem_append_right _ (List.mem_cons_of_mem _ hc))
      simp only [List.cons_append, portBehind, takeWhile_port hdigits htail, List.drop_left]
      cases readPort digits with
      | error e => rfl
      | ok port => rfl

/-- The scheme of a base ends at its colon. -/
theorem splitScheme?_http (cs : List Char) :
    splitScheme? ('h' :: 't' :: 't' :: 'p' :: ':' :: cs) = some ("http", cs) := by
  have hlower : (String.ofList ['h', 't', 't', 'p']).toLower = "http" := Text.toLower_eq_self (by decide)
  have hscheme : ('h' :: 't' :: 't' :: 'p' :: ':' :: cs).takeWhile
      (fun c => c.isAlphanum || c == '+' || c == '-' || c == '.') = ['h', 't', 't', 'p'] := rfl
  unfold splitScheme?
  simp only [hscheme, hlower]
  rfl

/-- **A base with what follows it** is read as its place, and what follows as the path. -/
theorem parse_place {place : String} (rest : String) (hne : place ≠ "") (hplace : ∀ c ∈ place.toList, IsPlaceChar c)
    (hrest : rest.toList = [] ∨ rest.toList.head? = some '/') (hvisible : ∀ c ∈ rest.toList, 0x20 < c.toNat) :
    parse ("http://" ++ place ++ rest) = (readPlace "http" place.toList).map fun r =>
      withTail .special "http" (some { host := some r.1, port := r.2 })
        (.ofSegments (readPath .special rest.toList).1) (readPath .special rest.toList).2 := by
  have hchars : ("http://" ++ place ++ rest).toList =
      ['h', 't', 't', 'p', ':', '/', '/'] ++ (place.toList ++ rest.toList) := by
    simp
  have hclean : cleaned ("http://" ++ place ++ rest) =
      'h' :: 't' :: 't' :: 'p' :: ':' :: '/' :: '/' :: (place.toList ++ rest.toList) := by
    rw [cleaned_eq, hchars]
    · rfl
    · rw [hchars, List.forall_mem_append, List.forall_mem_append]
      exact ⟨by simp, fun c hc => (hplace c hc).1, hvisible⟩
  have hslashes : ('/' :: '/' :: (place.toList ++ rest.toList)).dropWhile SchemeKind.special.isSlash =
      place.toList ++ rest.toList := by
    obtain ⟨c, cs, hcs⟩ := List.exists_cons_of_ne_nil (mt String.toList_eq_nil_iff.1 hne)
    have hc : IsPlaceChar c := hplace c (hcs ▸ List.mem_cons_self)
    have hends := hc.endsAuthority
    rw [SchemeKind.endsAuthority, Bool.or_assoc, Bool.or_eq_false_iff] at hends
    rw [hcs, List.dropWhile_cons_of_pos (by decide), List.dropWhile_cons_of_pos (by decide), List.cons_append,
      List.dropWhile_cons_of_neg (Bool.eq_false_iff.1 hends.1)]
  have hat : place.toList.contains '@' = false := by
    rw [← Bool.not_eq_true, List.contains_iff_mem]
    exact fun hmem => (hplace '@' hmem).2 (by decide)
  have hkind : SchemeKind.ofScheme "http" = .special := by decide
  unfold parse
  rw [hclean, splitScheme?_http]
  dsimp only
  rw [hkind]
  dsimp only
  rw [hslashes]
  unfold readAuthority splitCredentials
  rw [takeWhile_place hplace hrest, if_neg (hat ▸ Bool.false_ne_true), List.drop_left]
  simp only [Option.getD_none]
  rw [readHostAndPort_append hplace hrest]
  cases readPlace "http" place.toList with
  | error e => rfl
  | ok r =>
    have hcredentials : readCredentials [] = ("", none) := rfl
    simp only [hcredentials]
    rfl

/-- **A base names an authority and nothing else, and a path behind it is the path there**, if that stands for
itself. -/
theorem exists_authority {base : String} {b : Url} (hbase : IsBase base) (hb : parse base = .ok b) :
    ∃ authority, b = ⟨"http", some authority, .ofSegments [[]], none, none⟩ ∧
      ∀ path : String, ∀ cs, path.toList = '/' :: cs → (∀ c ∈ cs, IsVerbatim c) →
        parse (base ++ path) =
          .ok ⟨"http", some authority, .ofSegments (readSegments .special cs).1, none, none⟩ := by
  obtain ⟨text, rfl, hne, hplace⟩ := hbase
  have halone := parse_place "" hne hplace (.inl rfl) (by simp)
  have hempty : readPath .special "".toList = ([[]], []) := by cbv
  rw [String.append_empty, hb, hempty] at halone
  cases hread : readPlace "http" text.toList with
  | error e =>
    rw [hread] at halone
    cases halone
  | ok r =>
    rw [hread] at halone
    refine ⟨_, Except.ok.inj halone, fun path cs hpath hverbatim => ?_⟩
    have hvisible : ∀ c ∈ path.toList, 0x20 < c.toNat := by
      rw [hpath]
      exact List.forall_mem_cons.2 ⟨by decide, fun c hc => (hverbatim c hc).visible⟩
    have hslash : readPath .special ('/' :: cs) = readSegments .special cs := rfl
    rw [parse_place path hne hplace (.inr (by rw [hpath]; rfl)) hvisible, hread, hpath, hslash,
      readSegments_special hverbatim]
    rfl

end RunnerDispatch.Url
