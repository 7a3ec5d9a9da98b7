import RunnerDispatch.Digest.Hmac
import RunnerDispatch.Text.Hex

/-!
# Signatures of deliveries

Who shares a secret with the sender can tell that a delivery is genuine: its header carries the
authentication code of its body under the secret.

* `Signature.sign`: the header of a body.
* `Signature.verify`: **whether a header is the one of the body**, its hexadecimal digits in either case.
-/

namespace RunnerDispatch.Webhook

/-- The header that carries the signature. -/
def signatureHeader : String := "x-hub-signature-256"

/-- Why a delivery is not taken for genuine. -/
inductive SignatureFault
  | missing
  | malformed
  | mismatch
  | unusableKey
  deriving DecidableEq, Repr

def SignatureFault.message : SignatureFault → String
  | missing => "X-Hub-Signature-256 header is missing"
  | malformed => "X-Hub-Signature-256 header is malformed"
  | mismatch => "signature validation failed"
  | unusableKey => "webhook secret is not a usable HMAC key"

namespace Signature

/-- What stands in front of the digits. -/
def scheme : List Char := ['s', 'h', 'a', '2', '5', '6', '=']

/-- The key that a secret makes. Every secret makes one. -/
def keyOf (secret : String) : Except SignatureFault Bytes := .ok (Bytes.ofString secret)

/-- **The header of a body.** -/
def sign (body : Bytes) (secret : String) : Except SignatureFault String := do
  let key ← keyOf secret
  return String.ofList (scheme ++ Text.Hex.ofBytes (Digest.Hmac.code key body))

/-- The code that a header carries. -/
def claimed? (header : String) : Option Bytes :=
  let cs := header.toList
  if scheme.isPrefixOf cs then Text.Hex.toBytes? (cs.drop scheme.length) else none

/-- **Whether a header is the one of the body.** -/
def verify (body : Bytes) (secret header : String) : Except SignatureFault Unit :=
  match claimed? header with
  | none => .error .malformed
  | some code => do
    let key ← keyOf secret
    if Digest.Hmac.code key body = code then return () else throw .mismatch

end Signature

end RunnerDispatch.Webhook
