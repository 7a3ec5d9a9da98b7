import RunnerDispatch.Proofs.Http.Request
import RunnerDispatch.Proofs.Text.Hex
import RunnerDispatch.Webhook.Signature

/-!
# What a signature is

* `Signs`: the value of a header is the signature of a body: **the scheme and all 64 digits of the code**,
  in any case.
* `verify_eq`: **malformed is who carries no code, a mismatch who carries another**.
* `verify_ok_iff`: a header is accepted if and only if it is the signature of the body.
* `verified_iff_signs`: the same of a header as it arrives, in bytes.
* `headerOf_legal`: **the header that is made for a body can be sent, and is accepted**.
-/

namespace RunnerDispatch.Webhook.Signature

open Text
open Http.Request (IsLegible isLegible_of_ascii all_isPrintable_ofList textOf?_ofList)

theorem toLower_signatureHeader : signatureHeader.toLower = signatureHeader :=
  Text.toLower_eq_self (by decide)

/-- The digits of the authentication code of a body, in lower case. -/
def digitsOf (secret : String) (body : Bytes) : List Char :=
  Hex.ofBytes (Digest.Hmac.code (Bytes.ofString secret) body)

/-- There are always 64 of them. -/
theorem length_digitsOf (secret : String) (body : Bytes) : (digitsOf secret body).length = 64 := by
  have hlength : ∀ bytes : List UInt8, (Hex.ofBytes bytes).length = 2 * bytes.length := by
    intro bytes
    induction bytes with
    | nil => rfl
    | cons b bytes ih =>
      rw [Hex.ofBytes_cons, List.length_cons, List.length_cons, ih, List.length_cons]
      omega
  rw [digitsOf, hlength, Digest.Hmac.length_code]

theorem length_of_map_toLower {digits : List Char} {secret : String} {body : Bytes}
    (h : digits.map Char.toLower = digitsOf secret body) : digits.length = 64 := by
  rw [← length_digitsOf secret body, ← h, List.length_map]

/-- The value of a header is the signature of a body under a secret: the scheme and 64 digits that, but for
their case, write the authentication code of the whole body. -/
def Signs (secret : String) (body value : Bytes) : Prop :=
  ∃ digits : List Char, digits.length = 64 ∧
    value = Bytes.ofString (String.ofList (scheme ++ digits)) ∧
    digits.map Char.toLower = digitsOf secret body

/-- The header of a body, as it is made. -/
def headerOf (secret : String) (body : Bytes) : String := String.ofList (scheme ++ digitsOf secret body)

theorem sign_eq (body : Bytes) (secret : String) : sign body secret = .ok (headerOf secret body) := rfl

/-- The header that is made for a body signs it. -/
theorem signs_sign {secret : String} {body : Bytes} {header : String} (h : sign body secret = .ok header) :
    Signs secret body (Bytes.ofString header) := by
  obtain rfl := Except.ok.inj h
  exact ⟨digitsOf secret body, length_digitsOf secret body, rfl, Hex.map_toLower_ofBytes _⟩

theorem claimed?_eq_some_iff {header : String} {code : Bytes} :
    claimed? header = some code ↔ ∃ digits, header.toList = scheme ++ digits ∧
      digits.map Char.toLower = Hex.ofBytes code := by
  unfold claimed?
  simp only
  split
  · rename_i hprefix
    obtain ⟨digits, hdigits⟩ := List.isPrefixOf_iff_prefix.1 hprefix
    rw [← hdigits, List.drop_left, Hex.toBytes?_eq_some_iff]
    refine ⟨fun h => ⟨digits, rfl, h⟩, fun ⟨digits', hsame, h⟩ => ?_⟩
    rw [List.append_cancel_left hsame]
    exact h
  · rename_i hprefix
    refine ⟨(nomatch ·), fun ⟨digits, hdigits, _⟩ => ?_⟩
    exact absurd (List.isPrefixOf_iff_prefix.2 ⟨digits, hdigits.symm⟩) hprefix

/-- **Who carries no code is malformed, and who carries another code is a mismatch**; every secret is a key. -/
theorem verify_eq (body : Bytes) (secret header : String) : verify body secret header =
    match claimed? header with
    | none => .error .malformed
    | some code =>
      if Digest.Hmac.code (Bytes.ofString secret) body = code then .ok () else .error .mismatch := by
  rw [verify]
  cases claimed? header <;> rfl

/-- **A header is accepted if and only if it is the signature of the body.** -/
theorem verify_ok_iff {body : Bytes} {secret header : String} :
    verify body secret header = .ok () ↔ ∃ digits, header.toList = scheme ++ digits ∧
      digits.map Char.toLower = digitsOf secret body := by
  rw [digitsOf, ← claimed?_eq_some_iff, verify_eq]
  cases claimed? header with
  | none => exact ⟨(nomatch ·), (nomatch ·)⟩
  | some code =>
    rw [Option.some.injEq]
    dsimp only
    split
    · rename_i heq
      exact ⟨fun _ => heq.symm, fun _ => rfl⟩
    · rename_i hne
      exact ⟨(nomatch ·), fun h => absurd h.symm hne⟩

/-- A digit in either case may stand in a header. -/
theorem isLegible_digit {c : Char} {n : Nat} (h : Hex.value? c = some n) : IsLegible c := by
  have hascii : c.toNat < 0x80 := by
    refine Nat.lt_of_not_le fun hhigh => ?_
    exact absurd ((Hex.value?_high hhigh).symm.trans h) (nomatch ·)
  have hdigit : (Hex.value? c).isSome = true := by
    rw [h]
    rfl
  exact isLegible_of_ascii (p := fun c => (Hex.value? c).isSome) (by decide) hascii hdigit

/-- **A signature is legible**: every character of it may stand in a header. -/
theorem isLegible_signature {digits : List Char} {secret : String} {body : Bytes}
    (h : digits.map Char.toLower = digitsOf secret body) : ∀ c ∈ scheme ++ digits, IsLegible c := by
  have hscheme : scheme.all (fun c => c.toNat < 0x80 && Http.Request.isPrintable c.toUInt8) = true := by
    decide
  intro c hc
  rcases List.mem_append.1 hc with hc | hc
  · simpa [IsLegible] using List.all_eq_true.1 hscheme c hc
  · have hlower : c.toLower ∈ digitsOf secret body := h ▸ List.mem_map_of_mem hc
    obtain ⟨n, hn, hdigit⟩ := Hex.mem_ofBytes hlower
    exact isLegible_digit (Hex.value?_eq_some_iff.2 ⟨hn, hdigit⟩)

/-- **A header's bytes are accepted if and only if they are the signature of the body.** -/
theorem verified_iff_signs {body value : Bytes} {secret : String} :
    (∃ header, Http.Request.textOf? value = some header ∧ verify body secret header = .ok ()) ↔
      Signs secret body value := by
  constructor
  · rintro ⟨header, htext, hverify⟩
    obtain ⟨digits, hheader, hdigits⟩ := verify_ok_iff.1 hverify
    refine ⟨digits, length_of_map_toLower hdigits, ?_, hdigits⟩
    unfold Http.Request.textOf? at htext
    split at htext
    · rw [← hheader, String.ofList_toList, Bytes.ofString_of_toString? htext]
    · exact (nomatch htext)
  · rintro ⟨digits, -, rfl, hdigits⟩
    exact ⟨_, textOf?_ofList (isLegible_signature hdigits),
      verify_ok_iff.2 ⟨digits, String.toList_ofList, hdigits⟩⟩

/-- **A header that is made for a body may stand in a request**, and is accepted for that body. -/
theorem headerOf_legal (secret : String) (body : Bytes) :
    (Bytes.ofString (headerOf secret body)).all Http.Request.isPrintable = true ∧
      verify body secret (headerOf secret body) = .ok () := by
  have hlower : (digitsOf secret body).map Char.toLower = digitsOf secret body := Hex.map_toLower_ofBytes _
  exact ⟨all_isPrintable_ofList (isLegible_signature hlower),
    verify_ok_iff.2 ⟨_, String.toList_ofList, hlower⟩⟩

end RunnerDispatch.Webhook.Signature
