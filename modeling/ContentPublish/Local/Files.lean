import ContentPublish.Model

/-
  Local files and their times

  The files a client publishes are read from a directory tree held in
  memory, each with its bytes and its modification time, an instant counted
  in milliseconds since the epoch and written as RFC 3339 text.

  What is stated here:
    1. `LocalFiles` with `writeFile`, `createDirs` and `removeFile`.
    2. `LocalFiles.stat` — what a path names.
    3. `LocalFiles.read` — the bytes of the file a path names.
    4. `civilOfDays` and `daysOfCivil` — the calendar date of a day count, and
       the day count of a date, both counted from 1970-01-01.
    5. `Timestamp.format` — the text of an instant.
-/

/-! ## Local files

The files a client publishes are read from a directory tree held in
memory: every entry is a file, with its bytes and its modification time in
milliseconds since the epoch, or a directory. Paths are resolved against
the tree's root the way the operating system resolves a relative path:
empty pieces are skipped, `.` stays, `..` goes up, every piece but the last
must name a directory, and a trailing slash asks for a directory. An
absolute path, or a path that climbs above the root, leads to directories
outside the tree, which are known to exist but whose entries are not.

Failures carry the operating system's wording: a missing entry is
`No such file or directory (os error 2)`, a file used as a directory is
`Not a directory (os error 20)`, and a directory read as a file is
`Is a directory (os error 21)`.
-/

namespace ContentPublish

/-- What a path in the tree names. -/
inductive LocalEntry where
  /-- A file with its bytes and its modification time. -/
  | file (bytes : List UInt8) (modified : Int)
  /-- A directory. -/
  | directory
  deriving DecidableEq, Repr

/-- Where a resolved path lies: at a path of names inside the tree, or in a
directory outside it. -/
inductive Place where
  | inside (names : List String)
  | outside
  deriving DecidableEq, Repr

/-- A directory tree: the entries below its root, each at its path of names. -/
structure LocalFiles where
  entries : List (List String × LocalEntry)
  deriving Repr

namespace LocalFiles

/-- The tree with nothing in it. -/
def empty : LocalFiles := ⟨[]⟩

/-- A missing entry. -/
def notFound : Error := .io .notFound "No such file or directory (os error 2)"

/-- A file where a directory was needed. -/
def notADirectory : Error := .io .notADirectory "Not a directory (os error 20)"

/-- A directory where a file was needed. -/
def isADirectory : Error := .io .other "Is a directory (os error 21)"

/-- The entry at a path of names; the root is a directory. -/
def entry? (fs : LocalFiles) : List String → Option LocalEntry
  | [] => some .directory
  | names => (fs.entries.find? (·.1 == names)).map (·.2)

/-- The tree with an entry set at a path of names. -/
def set (fs : LocalFiles) (names : List String) (e : LocalEntry) : LocalFiles :=
  ⟨(fs.entries.filter (·.1 != names)) ++ [(names, e)]⟩

/-- The tree with every directory on a path of names made, where nothing is. -/
def createDirs (fs : LocalFiles) (names : List String) : LocalFiles :=
  (List.range names.length).foldl (fun fs k =>
    let lead := names.take (k + 1)
    match fs.entry? lead with
    | some _ => fs
    | none => fs.set lead .directory) fs

/-- The tree with a file written at a path of names, its directories made. -/
def writeFile (fs : LocalFiles) (names : List String) (bytes : List UInt8) (modified : Int) :
    LocalFiles :=
  (fs.createDirs names.dropLast).set names (.file bytes modified)

/-- The tree without the file at a path of names. -/
def removeFile (fs : LocalFiles) (names : List String) : LocalFiles :=
  ⟨fs.entries.filter (·.1 != names)⟩

/-- What a place holds: outside the tree, only directories are known. -/
def entryAt (fs : LocalFiles) : Place → Option LocalEntry
  | .inside names => fs.entry? names
  | .outside => some .directory

/-- Walk the pieces of a path from a place, each step from a directory. -/
def walk (fs : LocalFiles) : Place → List String → Except Error Place
  | place, [] => .ok place
  | place, piece :: rest =>
    match fs.entryAt place with
    | none => .error notFound
    | some (.file _ _) => .error notADirectory
    | some .directory =>
      let next :=
        if piece == "." then some place
        else if piece == ".." then
          match place with
          | .inside [] => some .outside
          | .inside names => some (.inside names.dropLast)
          | .outside => some .outside
        else
          match place with
          | .inside names => some (.inside (names ++ [piece]))
          | .outside => none
      match next with
      | none => .error notFound
      | some next => walk fs next rest

/-- The place a path names, and what is there. -/
def stat (fs : LocalFiles) (path : String) : Except Error (Place × LocalEntry) :=
  if path.isEmpty then .error notFound
  else
    let start := if path.startsWith "/" then Place.outside else .inside []
    let pieces := (path.splitOn "/").filter (· != "")
    match walk fs start pieces with
    | .error e => .error e
    | .ok place =>
      match fs.entryAt place with
      | none => .error notFound
      | some (.file bytes modified) =>
        if path.endsWith "/" then .error notADirectory else .ok (place, .file bytes modified)
      | some .directory => .ok (place, .directory)

/-- The path names a directory. -/
def isDir (fs : LocalFiles) (path : String) : Bool :=
  match fs.stat path with
  | .ok (_, .directory) => true
  | _ => false

/-- The bytes of the file a path names. -/
def read (fs : LocalFiles) (path : String) : Except Error (List UInt8) :=
  match fs.stat path with
  | .error e => .error e
  | .ok (_, .directory) => .error isADirectory
  | .ok (_, .file bytes _) => .ok bytes

end LocalFiles

end ContentPublish

/-! ## Instants and their RFC 3339 text

An instant is a count of milliseconds from 1970-01-01T00:00:00Z, on the
proleptic Gregorian calendar in UTC. Instants can be represented from
-262143-01-01T00:00:00.000Z up to +262142-12-31T23:59:59.999Z.

The text of an instant is `YYYY-MM-DDTHH:MM:SS.mmmZ`. A year from 0 to 9999
has four digits; an earlier year is written with a minus sign and at least
four digits, a later one with a plus sign (`-0001`, `+10000`).
-/

namespace ContentPublish

/-- A date of the proleptic Gregorian calendar. -/
structure CivilDate where
  year : Int
  month : Nat
  day : Nat
  deriving DecidableEq, Repr

/-- The date that lies `z` days after 1970-01-01 (before it, for negative
`z`), by counting whole 400-year eras of 146097 days. -/
def civilOfDays (z : Int) : CivilDate :=
  let z := z + 719468
  let era := z / 146097
  let doe := (z - era * 146097).toNat
  let yoe := (doe - doe / 1460 + doe / 36524 - doe / 146096) / 365
  let doy := doe - (365 * yoe + yoe / 4 - yoe / 100)
  let mp := (5 * doy + 2) / 153
  let day := doy - (153 * mp + 2) / 5 + 1
  let month := if mp < 10 then mp + 3 else mp - 9
  let year := (yoe : Int) + era * 400 + (if month ≤ 2 then 1 else 0)
  { year, month, day }

/-- The number of days from 1970-01-01 to a date. -/
def daysOfCivil (d : CivilDate) : Int :=
  let y := d.year - (if d.month ≤ 2 then 1 else 0)
  let era := y / 400
  let yoe := (y - era * 400).toNat
  let mp := if 2 < d.month then d.month - 3 else d.month + 9
  let doy := (153 * mp + 2) / 5 + d.day - 1
  let doe := yoe * 365 + yoe / 4 - yoe / 100 + doy
  era * 146097 + doe - 719468

/-- A representable instant, in milliseconds from the epoch. -/
structure Timestamp where
  millis : Int
  deriving DecidableEq, Repr

namespace Timestamp

/-- The first representable instant, -262143-01-01T00:00:00.000Z. -/
def earliest : Int := -8334601228800000

/-- The last representable instant, +262142-12-31T23:59:59.999Z. -/
def latest : Int := 8210266876799999

/-- The instant `m` milliseconds from the epoch, if it can be represented. -/
def ofMillis? (m : Int) : Option Timestamp :=
  if earliest ≤ m ∧ m ≤ latest then some ⟨m⟩ else none

/-- `n` in `width` digits, padded with zeros on the left. -/
def padded (width n : Nat) : String :=
  let digits := Nat.toDigits 10 n
  String.ofList (List.replicate (width - digits.length) '0' ++ digits)

/-- A year: four digits from 0 to 9999, otherwise signed. -/
def formatYear (y : Int) : String :=
  if y < 0 then "-" ++ padded 4 y.natAbs
  else if y ≤ 9999 then padded 4 y.toNat
  else "+" ++ padded 4 y.toNat

/-- The RFC 3339 text of the instant, in UTC with milliseconds. -/
def format (t : Timestamp) : String :=
  let days := t.millis / 86400000
  let inDay := (t.millis % 86400000).toNat
  let date := civilOfDays days
  let ms := inDay % 1000
  let secs := inDay / 1000
  formatYear date.year ++ "-" ++ padded 2 date.month ++ "-" ++ padded 2 date.day ++ "T" ++
    padded 2 (secs / 3600) ++ ":" ++ padded 2 (secs / 60 % 60) ++ ":" ++ padded 2 (secs % 60) ++
    "." ++ padded 3 ms ++ "Z"

end Timestamp

end ContentPublish
