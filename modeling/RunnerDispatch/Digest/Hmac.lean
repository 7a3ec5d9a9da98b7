import RunnerDispatch.Digest.Sha256

/-!
# Keyed digests

* `Hmac.blockKey`: a key of any length in the length of a block; **a longer one is replaced by its
  digest**, a shorter one is filled with zeros.
* `Hmac.code`: the authentication code of a message under a key.
-/

namespace RunnerDispatch.Digest.Hmac

/-- A key in the length of a block. -/
def blockKey (key : Bytes) : Bytes :=
  let short := if key.length > Sha256.blockSize then Sha256.digest key else key
  short ++ List.replicate (Sha256.blockSize - short.length) 0

/-- **The authentication code of a message.** -/
def code (key message : Bytes) : Bytes :=
  let key := blockKey key
  let inner := Sha256.digest (key.map (· ^^^ 0x36) ++ message)
  Sha256.digest (key.map (· ^^^ 0x5c) ++ inner)

theorem length_code (key message : Bytes) : (code key message).length = 32 :=
  Sha256.length_digest _

end RunnerDispatch.Digest.Hmac
