import RunnerDispatch.Url.Host

/-!
# URLs

A URL in its parts, each of them in encoded form, and `Url.text`, **the one text of a URL**. An
authority is what stands behind `//`; a path either is opaque or consists of segments.
-/

namespace RunnerDispatch

namespace Url

/-- Who asks, and where. -/
structure Authority where
  username : String := ""
  /-- Not empty. -/
  password : Option String := none
  host : Option Host := none
  /-- Unset if it is the standard port of the scheme. -/
  port : Option Nat := none
  deriving DecidableEq, Repr

def Authority.text (a : Authority) : String :=
  let credentials := a.username ++ (match a.password with
    | some p => ":" ++ p
    | none => "")
  (if credentials.isEmpty then "" else credentials ++ "@") ++
    (match a.host with
      | some h => h.text
      | none => "") ++
    (match a.port with
      | some p => ":" ++ toString p
      | none => "")

/-- What a URL names at its host, or at all. -/
inductive Path
  | opaquely (text : String)
  | segments (list : List String)
  deriving DecidableEq, Repr

def Path.text : Path → String
  | opaquely text => text
  | segments list => String.join (list.map ("/" ++ ·))

end Url

/-- A URL in its parts. -/
structure Url where
  scheme : String
  authority : Option Url.Authority
  path : Url.Path
  query : Option String
  fragment : Option String
  deriving DecidableEq, Repr

namespace Url

/-- What stands between scheme and path. A path that begins with an empty segment must not look like an
authority. -/
def beforePath (u : Url) : String :=
  match u.authority, u.path with
  | some a, _ => "//" ++ a.text
  | none, .segments ("" :: _ :: _) => "/."
  | none, _ => ""

/-- **The text of a URL.** -/
def text (u : Url) : String :=
  u.scheme ++ ":" ++ u.beforePath ++ u.path.text ++
    (match u.query with
      | some q => "?" ++ q
      | none => "") ++
    (match u.fragment with
      | some f => "#" ++ f
      | none => "")

end Url

end RunnerDispatch
