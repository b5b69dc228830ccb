import ContentPublish.Text.Basic
import ContentPublish.Url.Idna

/-
  Percent-encoding and hosts

  Each part of a URL escapes its own set of bytes, and the host of a URL is
  read from its percent-decoded text: a domain name, an IPv4 or an IPv6
  address, or an opaque host under a scheme that is not special.

  What is stated here:
    1. `encodeWith` — the escaped text of a string under a set.
    2. `formEncode` — the form-encoded text of a string.
    3. `decodeBytes` — the bytes of an escaped text; a `%` not followed by two
       hex digits stands for itself.
    4. `Host.parseSpecial` and `Host.parseOther` — a host from its text, or
       the reason it is refused.
    5. `Host.serialize` — the text of a host, IPv6 addresses with their
       longest run of zero pieces shortened to `::`.
-/

/-! ## Percent-encoding

Each part of a URL escapes its own set of bytes as `%XX`, in uppercase hex.
Every byte of a non-ASCII character is always escaped; a set names the ASCII
bytes escaped besides. The sets grow one from another: controls (below
U+0020, and DEL), then the fragment set, the query set, the path set, and
from the path set the sets for a user name or password and for a single
path segment, in which `/` and `%` are escaped too.

Form encoding, used for query parameters, keeps letters, digits and
`*-._`, writes a space as `+`, and escapes every other byte.
-/

namespace ContentPublish.Url

/-- A set of ASCII bytes to escape. -/
abbrev EncodeSet := Nat → Bool

/-- Bytes below U+0020, and DEL. -/
def controls : EncodeSet := fun b => b < 0x20 || b == 0x7F

/-- The set for a fragment. -/
def fragmentSet : EncodeSet := fun b =>
  controls b || b == 0x20 || b == 0x22 || b == 0x3C || b == 0x3E || b == 0x60

/-- The set for the query of a URL without a special scheme. -/
def querySet : EncodeSet := fun b =>
  controls b || b == 0x20 || b == 0x22 || b == 0x23 || b == 0x3C || b == 0x3E

/-- The set for the query of a URL with a special scheme: also `'`. -/
def specialQuerySet : EncodeSet := fun b => querySet b || b == 0x27

/-- The set for a path: the query set and `?`, backquote and braces. -/
def pathSet : EncodeSet := fun b =>
  querySet b || b == 0x3F || b == 0x60 || b == 0x7B || b == 0x7D

/-- The set for a user name or password. -/
def userinfoSet : EncodeSet := fun b =>
  pathSet b || b == 0x2F || b == 0x3A || b == 0x3B || b == 0x3D || b == 0x40 ||
  b == 0x5B || b == 0x5C || b == 0x5D || b == 0x5E || b == 0x7C

/-- The set for one path segment: the path set, `/` and `%`. -/
def segmentSet : EncodeSet := fun b => pathSet b || b == 0x2F || b == 0x25

/-- The set for one path segment under a special scheme: also the backslash. -/
def specialSegmentSet : EncodeSet := fun b => segmentSet b || b == 0x5C

/-- An uppercase hex digit. -/
def upperHex (d : Nat) : Char := if d < 10 then Char.ofNat (48 + d) else Char.ofNat (55 + d)

/-- `%XX` for a byte. -/
def escapeByte (b : Nat) : List Char := ['%', upperHex (b / 16), upperHex (b % 16)]

/-- One character under a set: itself, or its escaped bytes. -/
def encodeChar (set : EncodeSet) (c : Char) : List Char :=
  if c.toNat < 0x80 ∧ set c.toNat = false then [c]
  else (String.utf8EncodeChar c).flatMap fun b => escapeByte b.toNat

/-- The escaped text of the characters under a set. -/
def encodeWith (set : EncodeSet) (cs : List Char) : List Char := cs.flatMap (encodeChar set)

/-- Form encoding of one byte. -/
def formByte (b : UInt8) : List Char :=
  let n := b.toNat
  if (0x30 ≤ n ∧ n ≤ 0x39) ∨ (0x41 ≤ n ∧ n ≤ 0x5A) ∨ (0x61 ≤ n ∧ n ≤ 0x7A) ∨
      n = 0x2A ∨ n = 0x2D ∨ n = 0x2E ∨ n = 0x5F then [Char.ofNat n]
  else if n = 0x20 then ['+']
  else escapeByte n

/-- The form-encoded text of a string. -/
def formEncode (s : String) : String :=
  String.ofList ((Text.utf8 s).flatMap formByte)

/-- The bytes of an escaped text. -/
def decodeBytes : List UInt8 → List UInt8
  | 0x25 :: h :: l :: rest =>
    match Text.hexValue? (Char.ofNat h.toNat), Text.hexValue? (Char.ofNat l.toNat) with
    | some x, some y => UInt8.ofNat (x * 16 + y) :: decodeBytes rest
    | _, _ => 0x25 :: decodeBytes (h :: l :: rest)
  | b :: rest => b :: decodeBytes rest
  | [] => []

end ContentPublish.Url

/-! ## Hosts

The host of a URL with a special scheme is a domain name, an IPv4 address
or a bracketed IPv6 address. Its text is percent-decoded first, read as
UTF-8, then brought to its ASCII form (see `domainToAscii`). A name whose
last label is a number (decimal, octal with a leading zero, or hex with
`0x`) is read as an IPv4 address, in one to four parts. Other schemes keep
an opaque host, escaping only controls and non-ASCII bytes.
-/

namespace ContentPublish.Url

/-- Why a text is not a URL. -/
inductive ParseError where
  | emptyHost
  | idnaError
  | invalidPort
  | invalidIpv4Address
  | invalidIpv6Address
  | invalidDomainCharacter
  | relativeUrlWithoutBase
  deriving DecidableEq, Repr

/-- The wording of a refusal. -/
def ParseError.message : ParseError → String
  | .emptyHost => "empty host"
  | .idnaError => "invalid international domain name"
  | .invalidPort => "invalid port number"
  | .invalidIpv4Address => "invalid IPv4 address"
  | .invalidIpv6Address => "invalid IPv6 address"
  | .invalidDomainCharacter => "invalid domain character"
  | .relativeUrlWithoutBase => "relative URL without a base"

/-- The host of a URL. -/
inductive Host where
  /-- A domain name in ASCII form, or the escaped text of an opaque host. -/
  | domain (name : String)
  /-- An IPv4 address as a 32-bit number. -/
  | ipv4 (addr : Nat)
  /-- An IPv6 address as eight 16-bit pieces. -/
  | ipv6 (pieces : List Nat)
  deriving DecidableEq, Repr

/-! ### IPv4 -/

/-- Digits of a radix, as a number. -/
def digitsValue (radix : Nat) (cs : List Char) : Option Nat :=
  cs.foldl (fun acc c =>
    match acc, Text.hexValue? c with
    | some n, some d => if d < radix then some (n * radix + d) else none
    | _, _ => none) (some 0)

/-- A part of an IPv4 address: `none` if it is not a number, `some none` if it
is one beyond 32 bits. -/
def ipv4Number (part : List Char) : Option (Option Nat) :=
  if part.isEmpty then none
  else
    let (radix, digits) :=
      match part with
      | '0' :: 'x' :: rest => (16, rest)
      | '0' :: 'X' :: rest => (16, rest)
      | '0' :: rest@(_ :: _) => (8, rest)
      | _ => (10, part)
    if digits.isEmpty then some (some 0)
    else
      match digitsValue radix digits with
      | none => none
      | some n => if n < Nat.pow 2 32 then some (some n) else some none

/-- The last label of a name, or the one before an empty last label. -/
def lastLabel (name : List Char) : Option (List Char) :=
  match (name.splitOn '.').reverse with
  | [] :: prev :: _ => some prev
  | [] :: [] => none
  | last :: _ => some last
  | [] => none

/-- The name ends in a number, so it must be an IPv4 address. -/
def endsInNumber (name : List Char) : Bool :=
  match lastLabel name with
  | none => false
  | some last =>
    (!last.isEmpty && last.all Char.isDigit) || (ipv4Number last).isSome

/-- An IPv4 address of one to four parts; the last part fills the bytes the
others leave. -/
def parseIpv4 (name : List Char) : Except ParseError Nat :=
  let parts := name.splitOn '.'
  let parts := if parts.getLast? = some [] then parts.dropLast else parts
  if parts.length > 4 then .error .invalidIpv4Address
  else
    let numbers := parts.map ipv4Number
    if numbers.any (fun n => !(n.isSome && (n.getD none).isSome)) then .error .invalidIpv4Address
    else
      let values := numbers.map fun n => (n.getD none).getD 0
      match values.reverse with
      | [] => .error .invalidIpv4Address
      | last :: revFirst =>
        let first := revFirst.reverse
        if last ≥ Nat.pow 256 (4 - first.length) then .error .invalidIpv4Address
        else if first.any (· > 255) then .error .invalidIpv4Address
        else
          .ok (first.zipIdx.foldl (fun acc (n, i) => acc + n * Nat.pow 256 (3 - i)) last)

/-! ### IPv6 -/

/-- State of reading an IPv6 address: the pieces so far, the index of the
next piece, and where `::` stood. -/
structure Ipv6State where
  pieces : List Nat
  index : Nat
  compress : Option Nat

/-- Set piece `i`. -/
def setPiece (ps : List Nat) (i v : Nat) : List Nat := ps.set i v

/-- Up to four hex digits. -/
def hexRun : Nat → List Char → Nat → Nat × Nat × List Char
  | 0, cs, v => (v, 0, cs)
  | k + 1, c :: rest, v =>
    match Text.hexValue? c with
    | some d =>
      let (v', n, cs') := hexRun k rest (v * 16 + d)
      (v', n + 1, cs')
    | none => (v, 0, c :: rest)
  | _ + 1, [], v => (v, 0, [])

/-- A decimal part of an embedded IPv4 address, without leading zeros, up to
255. -/
def ipv4Piece : Nat → List Char → Option Nat → Option (Nat × List Char)
  | 0, cs, acc => acc.map (·, cs)
  | k + 1, c :: rest, acc =>
    if c.isDigit then
      let d := c.toNat - 48
      let next := match acc with
        | none => some d
        | some 0 => none
        | some v => some (v * 10 + d)
      match next with
      | some v => if v > 255 then none else ipv4Piece k rest (some v)
      | none => none
    else acc.map (·, c :: rest)
  | _ + 1, [], acc => acc.map (·, [])

/-- An embedded IPv4 address in the last two pieces. -/
def embeddedIpv4 (st : Ipv6State) (cs : List Char) : Option Ipv6State :=
  let rec go : Nat → Ipv6State → List Char → Nat → Option Ipv6State
    | 0, _, _, _ => none
    | fuel + 1, st, cs, seen =>
      match cs with
      | [] => if seen = 4 then some st else none
      | _ =>
        let cs' :=
          if seen > 0 then
            match cs with
            | '.' :: rest => if seen < 4 then some rest else none
            | _ => none
          else some cs
        match cs' with
        | none => none
        | some cs' =>
          match cs' with
          | c :: _ =>
            if !c.isDigit then none
            else
              match ipv4Piece 4 cs' none with
              | none => none
              | some (v, rest) =>
                let cur := st.pieces.getD st.index 0
                let st := { st with pieces := setPiece st.pieces st.index (cur * 256 + v) }
                let seen := seen + 1
                let st := if seen = 2 ∨ seen = 4 then { st with index := st.index + 1 } else st
                go fuel st rest seen
          | [] => none
  go (cs.length + 1) st cs 0

/-- Read the pieces of an IPv6 address. -/
def ipv6Pieces : Nat → Ipv6State → List Char → Option Ipv6State
  | 0, _, _ => none
  | fuel + 1, st, cs =>
    match cs with
    | [] => some st
    | ':' :: rest =>
      if st.index = 8 then none
      else if st.compress.isSome then none
      else ipv6Pieces fuel { st with index := st.index + 1, compress := some (st.index + 1) } rest
    | _ =>
      if st.index = 8 then none
      else
        let (value, length, rest) := hexRun 4 cs 0
        match rest with
        | '.' :: _ =>
          if length = 0 then none
          else if st.index > 6 then none
          else embeddedIpv4 st cs
        | ':' :: more =>
          if more.isEmpty then none
          else
            ipv6Pieces fuel
              { st with pieces := setPiece st.pieces st.index value, index := st.index + 1 } more
        | [] => some { st with pieces := setPiece st.pieces st.index value, index := st.index + 1 }
        | _ => none

/-- An IPv6 address from the text between the brackets. -/
def parseIpv6 (cs : List Char) : Except ParseError (List Nat) :=
  let start : Option (Ipv6State × List Char) :=
    match cs with
    | ':' :: ':' :: rest => some ({ pieces := List.replicate 8 0, index := 1, compress := some 1 }, rest)
    | ':' :: _ => none
    | _ => some ({ pieces := List.replicate 8 0, index := 0, compress := none }, cs)
  match (if cs.length < 2 then none else start) with
  | none => .error .invalidIpv6Address
  | some (st, rest) =>
    match ipv6Pieces (rest.length + 1) st rest with
    | none => .error .invalidIpv6Address
    | some st =>
      match st.compress with
      | some c =>
        -- move the pieces after `::` to the end
        let before := st.pieces.take c
        let after := (st.pieces.take st.index).drop c
        let zeros := List.replicate (8 - before.length - after.length) 0
        .ok (before ++ zeros ++ after)
      | none => if st.index = 8 then .ok st.pieces else .error .invalidIpv6Address

/-- The longest run of at least two zero pieces, first of equals: its start
and end. -/
def longestZeroRun (ps : List Nat) : Option (Nat × Nat) :=
  let runs := (List.range 8).filterMap fun i =>
    if ps.getD i 1 = 0 ∧ (i = 0 ∨ ps.getD (i - 1) 1 ≠ 0) then
      let len := ((ps.drop i).takeWhile (· = 0)).length
      some (i, len)
    else none
  let best := runs.foldl (fun acc r => match acc with
    | none => some r
    | some b => if r.2 > b.2 then some r else some b) none
  match best with
  | some (i, len) => if len ≥ 2 then some (i, i + len) else none
  | none => none

/-- Lowercase hex of a piece, without leading zeros. -/
def pieceHex (n : Nat) : String := String.ofList (Nat.toDigits 16 n)

/-- The text of an IPv6 address, without brackets. -/
def ipv6Text (ps : List Nat) : String :=
  match longestZeroRun ps with
  | none => ":".intercalate (ps.map pieceHex)
  | some (s, e) =>
    ":".intercalate ((ps.take s).map pieceHex) ++ "::" ++
      ":".intercalate ((ps.drop e).map pieceHex)

/-! ### Parsing hosts -/

namespace Host

/-- The host of a URL with a special scheme, from its text. -/
def parseSpecial (text : List Char) : Except ParseError Host :=
  match text with
  | '[' :: rest =>
    if rest.getLast? = some ']' then (parseIpv6 rest.dropLast).map .ipv6
    else .error .invalidIpv6Address
  | _ =>
    let bytes := decodeBytes (text.flatMap String.utf8EncodeChar)
    match Text.ofUtf8? bytes with
    | none => .error .idnaError
    | some decoded =>
      match domainToAscii decoded with
      | none => .error .idnaError
      | some ascii =>
        if ascii.isEmpty then .error .emptyHost
        else if endsInNumber ascii.toList then (parseIpv4 ascii.toList).map .ipv4
        else .ok (.domain ascii)

/-- Characters that may not stand in an opaque host. -/
def forbiddenInOtherHost (c : Char) : Bool :=
  c == '\x00' || c == '\t' || c == '\n' || c == '\r' || c == ' ' || c == '#' || c == '/' ||
  c == ':' || c == '<' || c == '>' || c == '?' || c == '@' || c == '[' || c == '\\' ||
  c == ']' || c == '^' || c == '|'

/-- The host of a URL with another scheme, from its text. -/
def parseOther (text : List Char) : Except ParseError Host :=
  match text with
  | '[' :: rest =>
    if rest.getLast? = some ']' then (parseIpv6 rest.dropLast).map .ipv6
    else .error .invalidIpv6Address
  | _ =>
    if text.any forbiddenInOtherHost then .error .invalidDomainCharacter
    else .ok (.domain (String.ofList (encodeWith controls text)))

/-- The text of a host. -/
def serialize : Host → String
  | .domain name => name
  | .ipv4 addr =>
    toString (addr / Nat.pow 2 24 % 256) ++ "." ++ toString (addr / Nat.pow 2 16 % 256) ++ "." ++
      toString (addr / Nat.pow 2 8 % 256) ++ "." ++ toString (addr % 256)
  | .ipv6 pieces => "[" ++ ipv6Text pieces ++ "]"

end Host

end ContentPublish.Url
