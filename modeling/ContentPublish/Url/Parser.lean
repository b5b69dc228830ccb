import ContentPublish.Url.Host

/-
  URLs: their parts, their text, and reading them

  A URL is a scheme, an optional authority, a path, a query and a fragment,
  each held escaped. It is read from text as the URL standard says, written
  back by `Url.serialize`, and edited by adding segments to its path or
  replacing its query.

  What is stated here:
    1. `Url.serialize` — the text of a URL.
    2. `Url.pathText` — the text of its path alone.
    3. `parse` — the URL of a text, or why it is not one.
    4. `dropLastSegment_append` and `dropLastSegment_append_of_holdsDrive` —
       `..` removes the last segment unless it holds a drive.
    5. `Url.pushSegment` and `Url.pushSegments` — a path with one segment
       added, and the URL with segments added to its path, or `none` when it
       cannot be a base.
    6. `Url.setQuery` — the URL with its query replaced.
-/

/-! ## URLs

A URL is a scheme, an optional authority (user name, password, host and
port), a path, and an optional query and fragment, each part held in its
escaped form. A path is either a list of segments, written each behind a
`/`, or, for a URL that cannot be a base (`mailto:x`), one opaque text.

The schemes `http`, `https`, `ws`, `wss`, `ftp` and `file` are special:
their hosts are domain names or addresses, their paths always have a
segment, and a port equal to the scheme's default is not kept.
-/

namespace ContentPublish.Url

/-- The path of a URL. -/
inductive UrlPath where
  /-- The path of a URL that cannot be a base: one escaped text. -/
  | flat (text : String)
  /-- Escaped segments, each written behind a slash. -/
  | segments (items : List String)
  deriving DecidableEq, Repr

end ContentPublish.Url

namespace ContentPublish

/-- A parsed URL; every text is held escaped. -/
structure Url where
  scheme : String
  username : String
  password : Option String
  host : Option Url.Host
  port : Option Nat
  path : Url.UrlPath
  query : Option String
  fragment : Option String
  deriving DecidableEq, Repr

end ContentPublish

namespace ContentPublish.Url

/-- The special schemes. -/
def isSpecialScheme (scheme : String) : Bool :=
  scheme == "http" || scheme == "https" || scheme == "ws" || scheme == "wss" ||
  scheme == "ftp" || scheme == "file"

/-- The port a special scheme uses when none is given. -/
def defaultPort (scheme : String) : Option Nat :=
  if scheme == "http" || scheme == "ws" then some 80
  else if scheme == "https" || scheme == "wss" then some 443
  else if scheme == "ftp" then some 21
  else none

/-- The text of the path. -/
def pathText (u : Url) : String :=
  match u.path with
  | .flat text => text
  | .segments items => String.join (items.map ("/" ++ ·))

/-- The URL cannot be a base: its path is opaque. -/
def cannotBeABase (u : Url) : Bool :=
  match u.path with
  | .flat _ => true
  | .segments _ => false

/-- The user name and password, with the `@` that ends them, if any. -/
def userinfoText (u : Url) : String :=
  match u.password with
  | some pw => u.username ++ ":" ++ pw ++ "@"
  | none => if u.username.isEmpty then "" else u.username ++ "@"

/-- The text of the URL. A path that would read as an authority, in a URL
without a host, is kept apart by `/.`. -/
def serialize (u : Url) : String :=
  let authority :=
    match u.host with
    | some h =>
      "//" ++ u.userinfoText ++ h.serialize ++
        (match u.port with
         | some p => ":" ++ toString p
         | none => "")
    | none =>
      match u.path with
      | .segments ("" :: _ :: _) => "/."
      | _ => ""
  let query := match u.query with
    | some q => "?" ++ q
    | none => ""
  let fragment := match u.fragment with
    | some f => "#" ++ f
    | none => ""
  u.scheme ++ ":" ++ authority ++ u.pathText ++ query ++ fragment

end ContentPublish.Url

/-! ## Reading a URL

The text is first stripped of the controls and spaces around it, and of
every tab, line feed and carriage return inside it. It must start with a
scheme: a letter, then letters, digits, `+`, `-` or `.`, then a colon;
otherwise it is a relative URL, which has no base here and is refused.

Under a special scheme any run of slashes and backslashes leads to the
authority; under another scheme two slashes do, one slash starts a path
without a host, and anything else is the flat path of a URL that cannot be
a base. The authority is the user information before its last `@`, the
host, and a port of at most 65535. The path is read segment by segment: a
segment `.` or `..` (also escaped as `%2e`) stays put or goes up one level,
and every other segment is kept escaped. The query runs to the first `#`,
and the fragment to the end.

A segment that is a Windows drive letter, such as `C:` or `C|`, is never
removed by `..`, under any scheme. A `file` URL has an empty host or a
domain; `localhost` counts as empty, and after an empty host the path
starts with an empty segment, which is dropped at the end. A drive letter
that is the first segment is spelt `C:` and leaves the URL without a host;
one that stands where the host would be starts the path instead; and a
first segment that starts with `C:` and has a tab or line break after the
colon is cut there.
-/

namespace ContentPublish.Url

namespace Reading

/-- A tab or a line break, which a URL skips wherever it stands. -/
def isTabOrNewline (c : Char) : Bool := c == '\t' || c == '\n' || c == '\r'

/-- The characters between which the URL lies: controls and spaces are cut
from both ends. -/
def trimmed (s : String) : List Char :=
  let cut (cs : List Char) := cs.dropWhile (·.toNat ≤ 0x20)
  (cut (cut s.toList).reverse).reverse

/-- The URL's characters, tabs and line breaks dropped everywhere. -/
def clean (s : String) : List Char := (trimmed s).filter fun c => !isTabOrNewline c

/-- Where tabs and line breaks stood: for each of them, how many other
characters follow it. -/
def breaks (cs : List Char) : List Nat :=
  match cs with
  | [] => []
  | c :: rest =>
    if isTabOrNewline c then (rest.filter fun c => !isTabOrNewline c).length :: breaks rest
    else breaks rest

/-- A character of a scheme after its first letter. -/
def isSchemeChar (c : Char) : Bool := c.isAlphanum || c == '+' || c == '-' || c == '.'

/-- The lowercase scheme and what follows its colon. -/
def scheme? (cs : List Char) : Option (String × List Char) :=
  match cs with
  | c :: _ =>
    if !c.isAlpha then none
    else
      let name := cs.takeWhile isSchemeChar
      match cs.drop name.length with
      | ':' :: rest => some (String.ofList (name.map Char.toLower), rest)
      | _ => none
  | [] => none

/-- A slash, or under a special scheme also a backslash. -/
def isSlash (special : Bool) (c : Char) : Bool := c == '/' || (special && c == '\\')

/-- A segment that means the current level. -/
def isSingleDot (seg : String) : Bool :=
  seg == "." || seg.toLower == "%2e"

/-- A segment that means the level above. -/
def isDoubleDot (seg : String) : Bool :=
  let s := seg.toLower
  s == ".." || s == ".%2e" || s == "%2e." || s == "%2e%2e"

/-- Two characters that name a Windows drive: a letter, then `:` or `|`. -/
def isDriveLetter (seg : String) : Bool :=
  match seg.toList with
  | [a, b] => a.isAlpha && (b == ':' || b == '|')
  | _ => false

/-- A segment that `..` does not remove: a drive letter, alone or followed
by a backslash, which only a scheme that is not special keeps in a segment. -/
def holdsDrive (seg : String) : Bool :=
  match seg.toList with
  | a :: b :: more =>
    a.isAlpha && (b == ':' || b == '|') &&
      match more with
      | [] => true
      | c :: _ => c == '\\'
  | [_] | [] => false

/-- The path that `..` leaves: without its last segment, unless that one
holds a drive. -/
def dropLastSegment (path : List String) : List String :=
  if (path.getLast?.map holdsDrive).getD false then path else path.dropLast

theorem dropLastSegment_append (path : List String) (seg : String) (h : holdsDrive seg = false) :
    dropLastSegment (path ++ [seg]) = path := by
  simp [dropLastSegment, h]

theorem dropLastSegment_append_of_holdsDrive (path : List String) (seg : String)
    (h : holdsDrive seg = true) : dropLastSegment (path ++ [seg]) = path ++ [seg] := by
  simp [dropLastSegment, h]

/-- A segment that starts with a drive letter spelt with `:` and goes on:
the drive letter, and the rest. -/
def splitDrive (seg : String) : Option (String × String) :=
  match seg.toList with
  | a :: ':' :: c :: more => if a.isAlpha then some (String.ofList [a, ':'], String.ofList (c :: more)) else none
  | _ => none

/-- The path so far, and whether a drive letter was its first segment. -/
structure PathState where
  segments : List String
  drive : Bool

/-- Read path segments up to a `?`, a `#` or the end, onto the path so far.
In a `file` URL a drive letter that starts the path is spelt with `:`, and
one that starts a longer first segment, a tab or line break standing after
its colon, is a segment of its own; `breaks` tells where those stood, as in
`breaks`. `..` does not remove a drive letter. -/
def pathSegments (special file : Bool) (breaks : List Nat) :
    Nat → PathState → List Char → PathState × List Char
  | 0, st, cs => (st, cs)
  | fuel + 1, st, cs =>
    let raw := cs.takeWhile fun c => !(isSlash special c || c == '?' || c == '#')
    let rest := cs.drop raw.length
    let seg := String.ofList (encodeWith pathSet raw)
    let atSlash := match rest with
      | c :: _ => isSlash special c
      | [] => false
    let (path, seg) :=
      match (if file && st.segments.isEmpty && breaks.contains (cs.length - 2) then splitDrive seg
        else none) with
      | some (drive, more) => ([drive], more)
      | none => (st.segments, seg)
    let st :=
      if isDoubleDot seg then
        let path := dropLastSegment path
        { st with segments := if atSlash then path else path ++ [""] }
      else if isSingleDot seg then
        { st with segments := if atSlash then path else path ++ [""] }
      else if file && path.isEmpty && isDriveLetter seg then
        { segments := [String.ofList (seg.toList.take 1 ++ [':'])], drive := true }
      else { st with segments := path ++ [seg] }
    if atSlash then pathSegments special file breaks fuel st (rest.drop 1) else (st, rest)

/-- Read a path from its first segment. -/
def path (special file : Bool) (breaks : List Nat) (cs : List Char) : PathState × List Char :=
  pathSegments special file breaks (cs.length + 1) ⟨[], false⟩ cs

/-- The path after the authority: a special scheme always has one, led by one
slash or backslash; another scheme has one only when a slash follows. -/
def pathStart (special file : Bool) (breaks : List Nat) (cs : List Char) :
    PathState × List Char :=
  if special then
    match cs with
    | c :: rest => if isSlash true c then path true file breaks rest else path true file breaks cs
    | [] => path true file breaks []
  else
    match cs with
    | '/' :: rest => path false file breaks rest
    | [] => (⟨[], false⟩, [])
    | '?' :: _ => (⟨[], false⟩, cs)
    | '#' :: _ => (⟨[], false⟩, cs)
    | _ => path false file breaks cs

/-- The query and fragment after the path. -/
def queryAndFragment (special : Bool) (cs : List Char) : Option String × Option String :=
  let querySetFor := if special then specialQuerySet else querySet
  match cs with
  | '?' :: rest =>
    let q := rest.takeWhile (· != '#')
    let query := some (String.ofList ((q.flatMap String.utf8EncodeChar).flatMap fun b =>
      if b.toNat < 0x80 ∧ querySetFor b.toNat = false then [Char.ofNat b.toNat]
      else escapeByte b.toNat))
    match rest.drop q.length with
    | '#' :: f => (query, some (String.ofList (encodeWith fragmentSet f)))
    | _ => (query, none)
  | '#' :: f => (none, some (String.ofList (encodeWith fragmentSet f)))
  | _ => (none, none)

/-- The user name and password before the last `@` of the authority, and
what follows that `@`. -/
def userinfo (special : Bool) (cs : List Char) :
    Except ParseError (String × Option String × List Char) :=
  let span := cs.takeWhile fun c => !(c == '/' || c == '?' || c == '#' || (special && c == '\\'))
  match span.reverse.findIdx? (· == '@') with
  | none => .ok ("", none, cs)
  | some fromEnd =>
    let atIndex := span.length - 1 - fromEnd
    let info := cs.take atIndex
    let rest := cs.drop (atIndex + 1)
    if atIndex = 0 then
      match rest with
      | c :: _ =>
        if c == '/' || c == '?' || c == '#' || (special && c == '\\') then .error .emptyHost
        else .ok ("", none, rest)
      | [] => .ok ("", none, rest)
    else
      let user := info.takeWhile (· != ':')
      let afterUser := info.drop user.length
      let password :=
        match afterUser with
        | ':' :: pw@(_ :: _) => some (String.ofList (encodeWith userinfoSet pw))
        | _ => none
      .ok (String.ofList (encodeWith userinfoSet user), password, rest)

/-- The text of the host: up to a `:` outside brackets, a slash, `?` or `#`. -/
def hostText (special : Bool) : Bool → List Char → List Char × List Char
  | _, [] => ([], [])
  | inBrackets, c :: rest =>
    if (c == ':' && !inBrackets) || c == '/' || c == '?' || c == '#' || (special && c == '\\') then
      ([], c :: rest)
    else
      let inBrackets := if c == '[' then true else if c == ']' then false else inBrackets
      let (h, r) := hostText special inBrackets rest
      (c :: h, r)

/-- A port after its colon: digits up to 65535, ended by a slash, `?`, `#`
or the end. The scheme's default port is dropped. -/
def port (scheme : String) (cs : List Char) : Except ParseError (Option Nat × List Char) :=
  let digits := cs.takeWhile Char.isDigit
  let rest := cs.drop digits.length
  let tooBig := (List.range digits.length).any fun k =>
    (digitsValue 10 (digits.take (k + 1))).getD 0 > 65535
  if tooBig then .error .invalidPort
  else
    match rest with
    | c :: _ =>
      if c == '/' || c == '\\' || c == '?' || c == '#' then
        let value := (digitsValue 10 digits).getD 0
        .ok (if digits.isEmpty || some value = defaultPort scheme then none else some value, rest)
      else .error .invalidPort
    | [] =>
      let value := (digitsValue 10 digits).getD 0
      .ok (if digits.isEmpty || some value = defaultPort scheme then none else some value, rest)

/-- A URL from what follows `//`. -/
def authority (scheme : String) (cs : List Char) : Except ParseError Url :=
  let special := isSpecialScheme scheme
  match userinfo special cs with
  | .error e => .error e
  | .ok (user, password, rest) =>
    let hasAuthority := !user.isEmpty || password.isSome
    let (text, rest) := hostText special false rest
    if special ∧ text.isEmpty then .error .emptyHost
    else
      let host := if special then Host.parseSpecial text else Host.parseOther text
      match host with
      | .error e => .error e
      | .ok host =>
        let emptyHost := host == .domain ""
        if emptyHost ∧ (hasAuthority ∨ rest.head? = some ':') then .error .emptyHost
        else
          let portPart :=
            match rest with
            | ':' :: more => port scheme more
            | _ => .ok (none, rest)
          match portPart with
          | .error e => .error e
          | .ok (portValue, rest) =>
            let (st, rest) := pathStart special false [] rest
            let (query, fragment) := queryAndFragment special rest
            .ok { scheme, username := user, password, host := some host, port := portValue,
                  path := .segments st.segments, query, fragment }

/-- Leading empty segments of a file path are dropped, one always stays. -/
def fileSegments (segs : List String) : List String :=
  match segs.dropWhile (· == "") with
  | [] => [""]
  | s => s

/-- A `file` URL from what follows its colon; `breaks` tells where tabs and
line breaks stood, as in `breaks`. A host that is a drive letter is the
first segment of the path instead, and a path that starts with a drive
letter drops the host. When the host is empty or `localhost`, the slash
after it starts an empty segment, so the segment after that is not the
first: a drive letter there is kept as it is written. -/
def file (breaks : List Nat) (cs : List Char) : Except ParseError Url :=
  let build (st : PathState) (host : Host) (rest : List Char) : Url :=
    let (query, fragment) := queryAndFragment true rest
    { scheme := "file", username := "", password := none,
      host := some (if st.drive then .domain "" else host), port := none,
      path := .segments (fileSegments st.segments), query, fragment }
  let finish (host : Host) (cs : List Char) : Url :=
    let (st, rest) := pathStart true true breaks cs
    build st host rest
  let noHost (cs : List Char) : Url :=
    let (st, rest) := path true true breaks cs
    build st (.domain "") rest
  match cs with
  | a :: b :: rest =>
    if isSlash true a ∧ isSlash true b then
      let text := rest.takeWhile fun c => !(isSlash true c || c == '?' || c == '#')
      let after := rest.drop text.length
      if text.isEmpty then .ok (noHost after)
      else if isDriveLetter (String.ofList text) then .ok (finish (.domain "") rest)
      else
        match Host.parseSpecial text with
        | .error e => .error e
        | .ok h => .ok (if h == .domain "localhost" then noHost after else finish h after)
    else if isSlash true a then .ok (finish (.domain "") cs)
    else .ok (finish (.domain "") ('/' :: cs))
  | [a] => .ok (finish (.domain "") (if isSlash true a then [a] else ['/', a]))
  | [] => .ok (finish (.domain "") [])

end Reading

/-- The URL of a text, or why it is not one. -/
def parse (input : String) : Except ParseError Url :=
  let cs := Reading.clean input
  match Reading.scheme? cs with
  | none => .error .relativeUrlWithoutBase
  | some (scheme, rest) =>
    if scheme == "file" then Reading.file (Reading.breaks (Reading.trimmed input)) rest
    else if isSpecialScheme scheme then
      Reading.authority scheme (rest.dropWhile (Reading.isSlash true))
    else
      match rest with
      | '/' :: '/' :: more => Reading.authority scheme more
      | '/' :: _ =>
        let (st, after) := Reading.pathStart false false [] rest
        let (query, fragment) := Reading.queryAndFragment false after
        .ok { scheme, username := "", password := none, host := none, port := none,
              path := .segments st.segments, query, fragment }
      | _ =>
        let flat := rest.takeWhile fun c => c != '?' && c != '#'
        let (query, fragment) := Reading.queryAndFragment false (rest.drop flat.length)
        .ok { scheme, username := "", password := none, host := none, port := none,
              path := .flat (String.ofList (encodeWith controls flat)), query, fragment }

end ContentPublish.Url

/-! ## Editing the path and query of a URL

Segments are added to the path of a URL that can be a base. An empty last
segment (a trailing slash) is dropped first, then each new segment is
escaped whole, so that a slash, `?`, `#` or `%` inside it stays inside it,
and appended. A segment that is exactly `.` or `..` is skipped. Tabs and
line breaks inside a segment are dropped, and a segment that only reads
`.` or `..` once they are gone moves up as a dot segment would. In a
`file` URL whose path is only `/`, a segment that is a drive letter is
spelt with `:`, and one that starts with `C:`, has a tab or line break
after the colon, and goes on is cut there.
-/

namespace ContentPublish.Url

/-- Drop an empty last segment, unless it is the only one. -/
def popIfEmpty (segs : List String) : List String :=
  match segs.getLast? with
  | some "" => if segs.length ≥ 2 then segs.dropLast else segs
  | _ => segs

/-- A path that is empty or just `/`, which a new segment replaces. -/
def isRootOnly (segs : List String) : Bool := segs.isEmpty || segs == [""]

/-- Append one escaped segment; on a path that is only `/` a drive letter
of a `file` URL is spelt with `:`. -/
def appendSegment (file : Bool) (segs : List String) (seg : String) : List String :=
  if seg == "." then
    if isRootOnly segs then [""] else segs ++ [""]
  else if seg == ".." then
    if segs.isEmpty then [""] else Reading.dropLastSegment segs ++ [""]
  else if isRootOnly segs then
    [if file && Reading.isDriveLetter seg then String.ofList (seg.toList.take 1 ++ [':']) else seg]
  else segs ++ [seg]

/-- Append one escaped segment. When `cut` holds, a drive letter that starts
the first segment of a `file` path is cut from the rest. -/
def appendEncoded (file cut : Bool) (segs : List String) (seg : String) : List String :=
  let next :=
    match (if file && cut && isRootOnly segs then Reading.splitDrive seg else none) with
    | some (drive, more) => appendSegment file [drive] more
    | none => appendSegment file segs seg
  if file then Reading.fileSegments next else next

/-- The escaped form of a segment, its tabs and line breaks dropped. -/
def encodeSegment (special : Bool) (raw : String) : String :=
  let cs := raw.toList.filter fun c => !Reading.isTabOrNewline c
  String.ofList (encodeWith (if special then specialSegmentSet else segmentSet) cs)

/-- A tab or line break stands between the second and the third of the
other characters of a segment. -/
def breaksAfterSecond (raw : String) : Bool :=
  let count := (raw.toList.filter fun c => !Reading.isTabOrNewline c).length
  (Reading.breaks raw.toList).contains (count - 2) && 3 ≤ count

/-- Add one raw segment to a path: a segment that is exactly `.` or `..` is
skipped, any other is escaped and appended. -/
def pushSegment (special file : Bool) (acc : List String) (raw : String) : List String :=
  if raw == "." || raw == ".." then acc
  else appendEncoded file (breaksAfterSecond raw) acc (encodeSegment special raw)

/-- The URL with `segments` added to its path, after an empty last segment
is dropped; `none` when the URL cannot be a base. -/
def pushSegments (u : Url) (segments : List String) : Option Url :=
  match u.path with
  | .flat _ => none
  | .segments segs =>
    let added := segments.foldl (pushSegment (isSpecialScheme u.scheme) (u.scheme == "file"))
      (popIfEmpty segs)
    some { u with path := .segments added }

/-- The URL with its query replaced; the new query is escaped as a query. -/
def setQuery (u : Url) (query : Option String) : Url :=
  match query with
  | none => { u with query := none }
  | some q =>
    let set := if isSpecialScheme u.scheme then specialQuerySet else querySet
    let cs := q.toList.filter fun c => c != '\t' && c != '\n' && c != '\r'
    { u with query := some (String.ofList ((cs.flatMap String.utf8EncodeChar).flatMap fun b =>
        if b.toNat < 0x80 ∧ set b.toNat = false then [Char.ofNat b.toNat]
        else escapeByte b.toNat)) }

end ContentPublish.Url
