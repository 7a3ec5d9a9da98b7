import RunnerDispatch.Proofs.Routing.Faults

/-!
# Compiling in machine words

Combinations are enumerated by masks and counted by differences. A machine does that in words, in which a bit may
lie outside and a difference may be less than zero. That never happens: the limit on labels is far below the number
of bits, and no declaration claims more combinations than its labels have.

* `bit?`, `minus?`: arithmetic that gives nothing where a word would not hold the result.
* `Rules.compileChecked?`: compiling with this arithmetic throughout, and masks of 32 bits.
* `sublistsChecked?_eq`: **the words select the same combinations, in the same order.**
* `compileChecked?_eq`: **nothing is out of range**, and what is compiled is the same.
-/

namespace RunnerDispatch.Routing

/-! ## Checked arithmetic -/

/-- The word of one bit, **unless that lies outside**. -/
def bit? (width place : ℕ) : Option (BitVec width) :=
  if place < width then some (BitVec.ofNat width 1 <<< place) else none

/-- The difference of two counts, **unless it is less than zero**. -/
def minus? (a b : ℕ) : Option ℕ := if b ≤ a then some (a - b) else none

/-- The elements at the places of the bits that are set in a mask, each bit being found by a shift. -/
def selectChecked? {α : Type} (mask : BitVec 32) : List (α × ℕ) → Option (List α)
  | [] => some []
  | (a, place) :: placed => do
    let bit ← bit? 32 place
    let rest ← selectChecked? mask placed
    return if mask &&& bit = 0 then rest else a :: rest

/-- All parts of a list but the empty one, the masks being counted up to the first that has a bit too many. -/
def sublistsChecked? {α : Type} (as : List α) : Option (List (List α)) := do
  let bound ← bit? 32 as.length
  (List.range' 1 (bound.toNat - 1)).mapM fun mask => selectChecked? (BitVec.ofNat 32 mask) as.zipIdx

namespace Rules

/-- A draft with one more declaration, counted in words of that many bits. -/
def extendChecked? (r : Rules) (width : ℕ) (draft : Draft) (flavor : Flavor) (d : Declaration) : Option Draft := do
  let labels := r.offered d
  let routes := claim draft.routes flavor (← sublistsChecked? labels.toList)
  let claimed ← minus? routes.size draft.routes.size
  let all ← bit? width labels.size
  let combinations ← minus? all.toNat 1
  let shadowed ← minus? combinations claimed
  return { routes
           flavors := draft.flavors ++ [flavor]
           expansions := draft.expansions ++ [⟨flavor, labels.size, claimed, shadowed⟩] }

/-- Adds one declaration to a draft. -/
def declareChecked? (r : Rules) (width : ℕ) (draft : Draft) (d : Declaration) : Option (Except Fault Draft) :=
  match namedFlavor d.name with
  | .error e => some (.error e)
  | .ok flavor =>
    if flavor ∈ draft.flavors then some (.error (.duplicateFlavor d.name))
    else if (r.offered d).size > r.limit then some (.error (.tooManyLabels d.name (r.offered d).size r.limit))
    else (r.extendChecked? width draft flavor d).map .ok

/-- Adds declarations until one has a fault. -/
def declareAllChecked? (r : Rules) (width : ℕ) (draft : Draft) :
    List Declaration → Option (Draft × Except Fault Unit)
  | [] => some (draft, .ok ())
  | d :: ds => do
    match ← r.declareChecked? width draft d with
    | .ok draft => r.declareAllChecked? width draft ds
    | .error fault => return (draft, .error fault)

/-- **Compiles declarations in words of that many bits.** -/
def compileChecked? (r : Rules) (width : ℕ) : Option Compilation :=
  if r.limit > labelCeiling then some ⟨[], .error (.limitTooHigh r.limit)⟩
  else if r.declarations.isEmpty then some ⟨[], .error .noFlavors⟩
  else do
    let (draft, outcome) ← r.declareAllChecked? width {} r.declarations
    return ⟨draft.expansions, do
      outcome
      let default ← r.defaultAmong draft.flavors
      return ⟨draft.routes, default, draft.flavors, r.ignoredSet⟩⟩

end Rules

/-! ## Masks -/

theorem bit?_eq {width place : ℕ} (h : place < width) : bit? width place = some (BitVec.twoPow width place) := by
  rw [bit?, if_pos h, BitVec.twoPow_eq]

theorem minus?_eq {a b : ℕ} (h : b ≤ a) : minus? a b = some (a - b) := if_pos h

/-- A bit is set in a word if something is left of the word under it. -/
theorem and_twoPow_eq_zero_iff {width place : ℕ} (mask : BitVec width) (h : place < width) :
    mask &&& BitVec.twoPow width place = 0 ↔ mask.getLsbD place = false := by
  have hbit : BitVec.twoPow width place ≠ BitVec.ofNat width 0 := by
    intro hzero
    have hvalue := congrArg BitVec.toNat hzero
    rw [BitVec.toNat_twoPow_of_lt h, BitVec.toNat_ofNat, Nat.zero_mod] at hvalue
    exact absurd hvalue (Nat.two_pow_pos place).ne'
  rw [BitVec.and_twoPow]
  cases mask.getLsbD place <;> simp [hbit]

/-- **A word selects what its number does**, if all places are inside. -/
theorem selectChecked?_eq {α : Type} (mask : ℕ) {placed : List (α × ℕ)} (hplaces : ∀ p ∈ placed, p.2 < 32) :
    selectChecked? (BitVec.ofNat 32 mask) placed = some (select mask placed) := by
  induction placed with
  | nil => rfl
  | cons p placed ih =>
    obtain ⟨a, place⟩ := p
    obtain ⟨hplace, hplaces⟩ := List.forall_mem_cons.1 hplaces
    have hset : BitVec.ofNat 32 mask &&& BitVec.twoPow 32 place = 0 ↔ mask.testBit place = false := by
      rw [and_twoPow_eq_zero_iff _ hplace, BitVec.getLsbD_ofNat, decide_eq_true hplace, Bool.true_and]
    simp only [selectChecked?, bit?_eq hplace, ih hplaces, select, List.filterMap_cons, hset, Option.bind_eq_bind,
      Option.bind_some, Option.pure_def]
    cases mask.testBit place <;> rfl

/-- Where every step gives a result, so do all of them. -/
theorem mapM_eq_some_map {α β : Type} {f : α → Option β} {g : α → β} {as : List α} (h : ∀ a ∈ as, f a = some (g a)) :
    as.mapM f = some (as.map g) := by
  induction as with
  | nil => rfl
  | cons a as ih =>
    obtain ⟨ha, has⟩ := List.forall_mem_cons.1 h
    rw [List.mapM_cons, ha, ih has]
    rfl

/-- **The words select the same combinations, in the same order**, if the list is short enough. -/
theorem sublistsChecked?_eq {α : Type} {as : List α} (h : as.length < 32) :
    sublistsChecked? as = some (nonEmptySublists as) := by
  have hplaces : ∀ p ∈ as.zipIdx, p.2 < 32 := fun p hp => (List.snd_lt_of_mem_zipIdx hp).trans h
  rw [sublistsChecked?, bit?_eq h, Option.bind_eq_bind, Option.bind_some, BitVec.toNat_twoPow_of_lt h]
  exact mapM_eq_some_map fun mask _ => selectChecked?_eq mask hplaces

/-! ## Counts -/

/-- A table only grows, and by no more than is claimed. -/
theorem size_claim (routes : Std.HashMap Key Flavor) (flavor : Flavor) (keys : List Key) :
    routes.size ≤ (claim routes flavor keys).size ∧
      (claim routes flavor keys).size ≤ routes.size + keys.length := by
  induction keys generalizing routes with
  | nil => exact ⟨le_rfl, le_rfl⟩
  | cons key keys ih =>
    obtain ⟨hgrows, hfew⟩ := ih (routes.insertIfNew key flavor)
    constructor
    · exact Std.HashMap.size_le_size_insertIfNew.trans hgrows
    · rw [List.length_cons]
      have hone : (routes.insertIfNew key flavor).size ≤ routes.size + 1 := Std.HashMap.size_insertIfNew_le
      exact hfew.trans (by omega)

theorem length_nonEmptySublists {α : Type} (as : List α) : (nonEmptySublists as).length = 2 ^ as.length - 1 := by
  rw [nonEmptySublists, List.length_map, List.length_range', Nat.pow_eq]

namespace Rules

variable {r : Rules} {width : ℕ}

/-- **No count of a declaration is out of range**, if it has fewer labels than a mask and a word have bits. -/
theorem extendChecked?_eq {d : Declaration} (hmask : (r.offered d).size < 32) (hword : (r.offered d).size < width)
    (draft : Draft) (flavor : Flavor) : r.extendChecked? width draft flavor d = some (r.extend draft flavor d) := by
  obtain ⟨hgrows, hfew⟩ := size_claim draft.routes flavor (nonEmptySublists (r.offered d).toList)
  have hlength : (nonEmptySublists (r.offered d).toList).length = 2 ^ (r.offered d).size - 1 :=
    length_nonEmptySublists _
  have hpos : 1 ≤ 2 ^ (r.offered d).size := Nat.one_le_two_pow
  have hclaimed : (claim draft.routes flavor (nonEmptySublists (r.offered d).toList)).size - draft.routes.size ≤
      2 ^ (r.offered d).size - 1 := by omega
  simp only [extendChecked?, sublistsChecked?_eq (show (r.offered d).toList.length < 32 from hmask), minus?_eq hgrows,
    bit?_eq hword, BitVec.toNat_twoPow_of_lt hword, minus?_eq hpos, minus?_eq hclaimed, Option.bind_eq_bind,
    Option.bind_some, Option.pure_def]
  rfl

/-- Labels are few once the limit is checked. -/
theorem declareChecked?_eq (hlimit : r.limit ≤ labelCeiling) (hwidth : labelCeiling < width) (draft : Draft)
    (d : Declaration) : r.declareChecked? width draft d = some (r.declare draft d) := by
  rw [declare_eq, declareChecked?]
  cases namedFlavor d.name with
  | error e => rfl
  | ok flavor =>
    by_cases hmem : flavor ∈ draft.flavors
    · simp only [hmem, if_true]
    by_cases hmany : (r.offered d).size > r.limit
    · simp only [hmem, hmany, if_true, if_false]
    have hfew : (r.offered d).size ≤ labelCeiling := (Nat.le_of_not_lt hmany).trans hlimit
    have hmask : (r.offered d).size < 32 := hfew.trans_lt (by decide)
    simp only [hmem, hmany, if_false, extendChecked?_eq hmask (hfew.trans_lt hwidth), Option.map_some]

theorem declareAllChecked?_eq (hlimit : r.limit ≤ labelCeiling) (hwidth : labelCeiling < width) (draft : Draft)
    (ds : List Declaration) : r.declareAllChecked? width draft ds = some (r.declareAll draft ds) := by
  induction ds generalizing draft with
  | nil => rfl
  | cons d ds ih =>
    rw [declareAllChecked?, declareAll, declareChecked?_eq hlimit hwidth]
    cases r.declare draft d with
    | error fault => rfl
    | ok next => exact ih next

/-- **Nothing is out of range**: words compile rules to what numbers do. -/
theorem compileChecked?_eq (hwidth : labelCeiling < width) (r : Rules) : r.compileChecked? width = some r.compile := by
  unfold compileChecked? compile
  by_cases hhigh : r.limit > labelCeiling
  · simp only [hhigh, if_true]
  by_cases hempty : r.declarations.isEmpty = true
  · simp only [hhigh, hempty, if_true, if_false]
  simp only [hhigh, hempty, if_false, declareAllChecked?_eq (Nat.le_of_not_lt hhigh) hwidth]
  rfl

end Rules

end RunnerDispatch.Routing
