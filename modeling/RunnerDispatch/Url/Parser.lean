import RunnerDispatch.Url.Basic

/-!
# Reading URLs

Any text that a browser takes for an absolute URL is read, and brought into its one form on the way:
blanks around it and line breaks in it are dropped, letter case of schemes and hosts as well as standard
ports too, and dots in paths are followed.

* `SchemeKind`: schemes that are special have a host, and a backslash serves as a slash in them.
* `walk`: the segments of a path. **`.` stays and `..` goes one segment back**, but a drive letter is
  not left.
* `Url.parse`: the URL of a text.
-/

namespace RunnerDispatch.Url

/-- How a scheme is treated. -/
inductive SchemeKind
  | file
  | special
  | other
  deriving DecidableEq, Repr

/-- The schemes with a host, and their standard ports. -/
def standardPorts : List (String × Nat) :=
  [("http", 80), ("https", 443), ("ws", 80), ("wss", 443), ("ftp", 21)]

def SchemeKind.ofScheme (scheme : String) : SchemeKind :=
  if scheme == "file" then .file
  else if standardPorts.any (·.1 == scheme) then .special
  else .other

/-- Whether a character separates segments. -/
def SchemeKind.isSlash (kind : SchemeKind) (c : Char) : Bool :=
  c == '/' || c == '\\' && kind != .other

/-- Whether a character ends what stands before the path. -/
def SchemeKind.endsAuthority (kind : SchemeKind) (c : Char) : Bool :=
  kind.isSlash c || c == '?' || c == '#'

/-- Drops what may stand around a URL, and line breaks and tabulators in it. -/
def cleaned (s : String) : List Char :=
  let around (c : Char) : Bool := c.toNat ≤ 0x20
  let inner := ((s.toList.dropWhile around).reverse.dropWhile around).reverse
  inner.filter fun c => c != '\t' && c != '\n' && c != '\r'

/-- The scheme in small letters, and what stands behind its colon. -/
def splitScheme? (cs : List Char) : Option (String × List Char) :=
  let isSchemeChar (c : Char) : Bool := c.isAlphanum || c == '+' || c == '-' || c == '.'
  let scheme := cs.takeWhile isSchemeChar
  match cs.head?, cs.drop scheme.length with
  | some c, ':' :: rest => if c.isAlpha then some ((String.ofList scheme).toLower, rest) else none
  | _, _ => none

/-- Where a path or a query ends. -/
def endsPath (c : Char) : Bool := c == '?' || c == '#'

/-- Whether an encoded segment stays where it is. -/
def isSingleDot (segment : List Char) : Bool :=
  (String.ofList segment).toLower == "." || (String.ofList segment).toLower == "%2e"

/-- Whether an encoded segment goes one segment back. -/
def isDoubleDot (segment : List Char) : Bool :=
  ["..", "%2e.", ".%2e", "%2e%2e"].contains (String.ofList segment).toLower

/-- Whether a segment is a drive letter. -/
def isDriveLetter : List Char → Bool
  | [c, d] => c.isAlpha && (d == ':' || d == '|')
  | _ => false

/-- Goes one segment back. Segments are kept last first. -/
def back : List (List Char) → List (List Char)
  | [] => []
  | s :: segments => if isDriveLetter s then s :: segments else segments

/-- Adds a segment; `slash` says whether a slash follows it. -/
def addSegment (kind : SchemeKind) (segments : List (List Char)) (segment : List Char)
    (slash : Bool) : List (List Char) :=
  let ended (segments : List (List Char)) := if slash then segments else [] :: segments
  if isDoubleDot segment then ended (back segments)
  else if isSingleDot segment then ended segments
  else if kind = .file ∧ isDriveLetter segment then (segment.take 1 ++ [':']) :: segments
  else segment :: segments

/-- Reads segments onto those read already, kept last first; the segment that is being read is kept
last character first. -/
def walk (kind : SchemeKind) (segments : List (List Char)) (segment : List Char) :
    List Char → List (List Char) × List Char
  | [] => (addSegment kind segments segment.reverse false, [])
  | c :: cs =>
    if kind.isSlash c then walk kind (addSegment kind segments segment.reverse true) [] cs
    else if endsPath c then (addSegment kind segments segment.reverse false, c :: cs)
    else walk kind segments ((Percent.encodeChar Percent.inPath c).reverse ++ segment) cs

/-- Drops the empty segments in front of a file's path. -/
def settle : List (List Char) → List (List Char)
  | [] => [[]]
  | [] :: segments => settle segments
  | segments => segments

/-- Reads a path whose first slash, if there was one, has been read. -/
def readSegments (kind : SchemeKind) (cs : List Char) : List (List Char) × List Char :=
  let (segments, rest) := walk kind [] [] cs
  (if kind = .file then settle segments.reverse else segments.reverse, rest)

def Path.ofSegments (segments : List (List Char)) : Path := .segments (segments.map String.ofList)

/-- Reads the path behind an authority. A special URL always has one. -/
def readPath (kind : SchemeKind) (cs : List Char) : List (List Char) × List Char :=
  match cs with
  | [] => if kind = .other then ([], []) else readSegments kind []
  | c :: rest =>
    if kind.isSlash c then readSegments kind rest
    else if kind = .other ∧ endsPath c then ([], cs)
    else readSegments kind cs

/-- Reads query and fragment. -/
def readTail (kind : SchemeKind) (cs : List Char) : Option String × Option String :=
  let encodedIn := if kind = .other then Percent.inQuery else Percent.inSpecialQuery
  let fragment (cs : List Char) : String := String.ofList (Percent.encode Percent.inFragment cs)
  match cs with
  | '?' :: rest =>
    let query := rest.takeWhile (· != '#')
    let tail := rest.drop query.length
    (some (String.ofList (Percent.encode encodedIn query)),
      match tail with
      | [] => none
      | _ :: cs => some (fragment cs))
  | '#' :: rest => (none, some (fragment rest))
  | _ => (none, none)

/-- A URL whose path is followed by this. -/
def withTail (kind : SchemeKind) (scheme : String) (authority : Option Authority) (path : Path)
    (rest : List Char) : Url :=
  let (query, fragment) := readTail kind rest
  { scheme, authority, path, query, fragment }

/-- Splits an authority at its last `@`. -/
def splitCredentials (authority : List Char) : Option (List Char) × List Char :=
  if authority.contains '@' then
    let host := (authority.reverse.takeWhile (· != '@')).reverse
    (some (authority.take (authority.length - host.length - 1)), host)
  else (none, authority)

/-- User name and password, encoded; an empty password is no password. -/
def readCredentials (cs : List Char) : String × Option String :=
  let username := cs.takeWhile (· != ':')
  let encoded (cs : List Char) := String.ofList (Percent.encode Percent.inCredentials cs)
  let password := (cs.drop username.length).drop 1
  (encoded username, if password.isEmpty then none else some (encoded password))

/-- The part in front of a port; a colon in brackets belongs to it. -/
def hostPart : (bracketed : Bool) → List Char → List Char
  | _, [] => []
  | bracketed, c :: cs =>
    if c = ':' ∧ ¬ bracketed then []
    else c :: hostPart (if c = '[' then true else if c = ']' then false else bracketed) cs

/-- The port that digits write, or none for no digits. -/
def readPort (digits : List Char) : Except Fault (Option Nat) :=
  if digits.isEmpty then .ok none
  else if digits.any (! ·.isDigit) then .error .invalidPort
  else
    let port := digits.foldl (fun n c => min 65536 (n * 10 + (c.toNat - 0x30))) 0
    if port > 65535 then .error .invalidPort else .ok (some port)

/-- Reads a host and its port, and what follows. A backslash ends a port in any scheme. -/
def readHostAndPort (kind : SchemeKind) (scheme : String) (cs : List Char) :
    Except Fault (Option Host × Option Nat × List Char) := do
  let hostText := hostPart false (cs.takeWhile (!kind.endsAuthority ·))
  let rest := cs.drop hostText.length
  if kind = .special ∧ hostText.isEmpty then throw .emptyHost
  let host ← if kind = .other then Host.readOpaque hostText else Host.read hostText
  if hostText.isEmpty then
    if rest.head? = some ':' then throw .emptyHost
    return (none, none, rest)
  match rest with
  | ':' :: rest =>
    let digits := rest.takeWhile fun c => c != '/' && c != '\\' && c != '?' && c != '#'
    let port ← readPort digits
    let standard := standardPorts.any fun p => p.1 == scheme && some p.2 == port
    return (some host, if standard then none else port, rest.drop digits.length)
  | _ => return (some host, none, rest)

/-- Reads what stands behind `//`. -/
def readAuthority (kind : SchemeKind) (scheme : String) (cs : List Char) : Except Fault Url := do
  let (credentials, hostStart) := splitCredentials (cs.takeWhile (!kind.endsAuthority ·))
  let rest := cs.drop (cs.takeWhile (!kind.endsAuthority ·)).length
  match credentials with
  | some [] =>
    if hostStart.isEmpty ∧ ¬ rest.isEmpty then throw .emptyHost
  | _ => pure ()
  let (username, password) := readCredentials (credentials.getD [])
  let (host, port, rest) ← readHostAndPort kind scheme (hostStart ++ rest)
  if host.isNone ∧ (¬ username.isEmpty ∨ password.isSome) then throw .emptyHost
  let (segments, rest) := readPath kind rest
  return withTail kind scheme (some { username, password, host, port }) (.ofSegments segments) rest

/-- The host of a file; this machine needs no name. -/
def readFileHost (cs : List Char) : Except Fault (Option Host) :=
  if cs.isEmpty then .ok none
  else (Host.read cs).map fun h => if h = .name "localhost" then none else some h

/-- Reads the URL of a file behind its scheme. A drive letter leaves no host. -/
def readFile (cs : List Char) : Except Fault Url := do
  let kind := SchemeKind.file
  match cs with
  | a :: b :: rest =>
    if kind.isSlash a ∧ kind.isSlash b then
      let hostText := rest.takeWhile (!kind.endsAuthority ·)
      if isDriveLetter hostText then
        let (segments, rest) := readSegments kind rest
        return withTail kind "file" (some {}) (.ofSegments segments) rest
      let host ← readFileHost hostText
      let (segments, rest) := readPath kind (rest.drop hostText.length)
      let host := if segments.any isDriveLetter then none else host
      return withTail kind "file" (some { host }) (.ofSegments segments) rest
  | _ => pure ()
  let (segments, rest) := readSegments kind cs
  return withTail kind "file" (some {}) (.ofSegments segments) rest

/-- Reads a URL of another scheme behind that scheme. -/
def readOther (scheme : String) (cs : List Char) : Except Fault Url :=
  match cs with
  | '/' :: '/' :: rest => readAuthority .other scheme rest
  | '/' :: rest =>
    let (segments, rest) := readSegments .other rest
    .ok (withTail .other scheme none (.ofSegments segments) rest)
  | _ =>
    let path := cs.takeWhile (!endsPath ·)
    .ok (withTail .other scheme none
      (.opaquely (String.ofList (Percent.encode Percent.inAnyPart path))) (cs.drop path.length))

/-- **The URL of a text.** -/
def parse (s : String) : Except Fault Url :=
  match splitScheme? (cleaned s) with
  | none => .error .noScheme
  | some (scheme, rest) =>
    match SchemeKind.ofScheme scheme with
    | .special =>
      readAuthority .special scheme (rest.dropWhile SchemeKind.special.isSlash)
    | .file => readFile rest
    | .other => readOther scheme rest

end RunnerDispatch.Url
