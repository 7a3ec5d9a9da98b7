import RunnerDispatch.Proofs.Webhook.Signature

/-!
# What is said of a header

A header is genuine, malformed or of another delivery, and what it is can be told from its characters.

* `Spells`: the header consists of the scheme and of digits, two for each byte.
* `verify_malformed_iff`, `verify_mismatch_iff`: who is refused, and why.
* `verify_cases`: when each of the verdicts is given, and that no other is ever given.
-/

namespace RunnerDispatch.Webhook.Signature

open Text

variable {body : Bytes} {secret header : String} {digits : List Char}

/-- A header that is the scheme followed by **these hexadecimal digits, two for each byte**. -/
structure Spells (header : String) (digits : List Char) : Prop where
  text : header = "sha256=" ++ String.ofList digits
  even : Even digits.length
  hex : ∀ c ∈ digits, Hex.IsDigit c

theorem toList_eq_iff : header.toList = scheme ++ digits ↔ header = "sha256=" ++ String.ofList digits := by
  rw [← String.toList_inj, String.toList_append, String.toList_ofList, String.toList_ofList, scheme]

/-- **A code can be read from a header if it is spelled there.** -/
theorem isSome_claimed?_iff : (claimed? header).isSome = true ↔ ∃ digits, Spells header digits := by
  unfold claimed?
  simp only
  split
  · rename_i hscheme
    obtain ⟨digits, hdigits⟩ := List.isPrefixOf_iff_prefix.1 hscheme
    rw [← hdigits, List.drop_left, Hex.isSome_toBytes?_iff]
    constructor
    · rintro ⟨heven, hhex⟩
      exact ⟨digits, toList_eq_iff.1 hdigits.symm, heven, hhex⟩
    · rintro ⟨others, htext, heven, hhex⟩
      have hsame : digits = others := List.append_cancel_left (hdigits.trans (toList_eq_iff.2 htext))
      rw [hsame]
      exact ⟨heven, hhex⟩
  · rename_i hscheme
    refine ⟨(nomatch ·), fun ⟨digits, hspells⟩ => ?_⟩
    have hprefix : scheme <+: header.toList := ⟨digits, (toList_eq_iff.2 hspells.text).symm⟩
    exact absurd (List.isPrefixOf_iff_prefix.2 hprefix) hscheme

theorem verify_malformed_iff :
    verify body secret header = .error .malformed ↔ ¬ ∃ digits, Spells header digits := by
  rw [← isSome_claimed?_iff, verify_eq]
  cases claimed? header with
  | none => simp
  | some code =>
    simp only [Option.isSome_some, not_true_eq_false, iff_false]
    split <;> simp

/-- The genuine digits spell a code, in either case. -/
theorem spells_of_genuine (hheader : header = "sha256=" ++ String.ofList digits)
    (hdigits : digits.map Char.toLower = digitsOf secret body) : Spells header digits := by
  have hclaimed : claimed? header = some (Digest.Hmac.code (Bytes.ofString secret) body) :=
    claimed?_eq_some_iff.2 ⟨digits, toList_eq_iff.2 hheader, hdigits⟩
  have hsome : (claimed? header).isSome = true := by
    rw [hclaimed]
    rfl
  obtain ⟨others, hspells⟩ := isSome_claimed?_iff.1 hsome
  have hsame : digits = others :=
    List.append_cancel_left ((toList_eq_iff.2 hheader).symm.trans (toList_eq_iff.2 hspells.text))
  rw [hsame]
  exact hspells

/-- **A header that spells other digits is a mismatch**, however many they are. -/
theorem verify_mismatch_iff (hspells : Spells header digits) :
    verify body secret header = .error .mismatch ↔ digits.map Char.toLower ≠ digitsOf secret body := by
  have hgenuine : verify body secret header = .ok () ↔ digits.map Char.toLower = digitsOf secret body := by
    rw [verify_ok_iff]
    constructor
    · rintro ⟨others, hheader, hothers⟩
      have hsame : digits = others := List.append_cancel_left ((toList_eq_iff.2 hspells.text).symm.trans hheader)
      rw [hsame]
      exact hothers
    · intro hdigits
      exact ⟨digits, toList_eq_iff.2 hspells.text, hdigits⟩
  rw [ne_eq, ← hgenuine]
  -- a code is spelled, so that the verdict is one of two
  obtain ⟨code, hcode⟩ := Option.isSome_iff_exists.1 (isSome_claimed?_iff.2 ⟨digits, hspells⟩)
  rw [verify_eq, hcode]
  simp only
  split <;> simp

/-- **The verdict on a header.** It is accepted if and only if it is the scheme and 64 digits that are, but for
their case, the authentication code of the body under the secret; it is malformed if and only if the scheme is
missing or no even number of digits follows; and in every other case it is a mismatch, in particular if a code of
another length is spelled. No secret is unusable, neither to verify nor to sign with, and a header that is made
for a body is accepted for it. -/
theorem verify_cases (body : Bytes) (secret header : String) :
    (verify body secret header = .ok () ↔ ∃ digits, Spells header digits ∧ digits.length = 64 ∧
      digits.map Char.toLower = Hex.ofBytes (Digest.Hmac.code (Bytes.ofString secret) body)) ∧
    (verify body secret header = .error .malformed ↔ ¬ ∃ digits, Spells header digits) ∧
    (verify body secret header = .error .mismatch ↔ ∃ digits, Spells header digits ∧
      digits.map Char.toLower ≠ Hex.ofBytes (Digest.Hmac.code (Bytes.ofString secret) body)) ∧
    (∀ digits, Spells header digits → digits.length ≠ 64 → verify body secret header = .error .mismatch) ∧
    verify body secret header ∈ [.ok (), .error .malformed, .error .mismatch] ∧
    ∃ signed, sign body secret = .ok signed ∧ verify body secret signed = .ok () := by
  refine ⟨?_, verify_malformed_iff, ?_, ?_, ?_, headerOf secret body, sign_eq body secret,
    (headerOf_legal secret body).2⟩
  · rw [verify_ok_iff]
    constructor
    · rintro ⟨digits, hheader, hdigits⟩
      exact ⟨digits, spells_of_genuine (toList_eq_iff.1 hheader) hdigits, length_of_map_toLower hdigits, hdigits⟩
    · rintro ⟨digits, hspells, -, hdigits⟩
      exact ⟨digits, toList_eq_iff.2 hspells.text, hdigits⟩
  · constructor
    · intro h
      have hspells : ∃ digits, Spells header digits := by
        by_contra hnone
        exact (nomatch h.symm.trans (verify_malformed_iff.2 hnone))
      obtain ⟨digits, hspells⟩ := hspells
      exact ⟨digits, hspells, (verify_mismatch_iff hspells).1 h⟩
    · rintro ⟨digits, hspells, hother⟩
      exact (verify_mismatch_iff hspells).2 hother
  · intro digits hspells hlength
    refine (verify_mismatch_iff hspells).2 fun hdigits => ?_
    exact hlength (length_of_map_toLower hdigits)
  · rw [verify_eq]
    cases claimed? header with
    | none => simp
    | some code =>
      simp only
      split <;> simp

/-- Two digits are nobody's signature, although they are digits. -/
theorem verify_cases_twoDigits :
    Spells "sha256=0F" ['0', 'F'] ∧ verify [] "secret" "sha256=0F" = .error .mismatch := by
  have hspells : Spells "sha256=0F" ['0', 'F'] := ⟨by decide, by decide, by simp [Hex.IsDigit]⟩
  exact ⟨hspells, (verify_cases [] "secret" "sha256=0F").2.2.2.1 _ hspells (by decide)⟩

end RunnerDispatch.Webhook.Signature
