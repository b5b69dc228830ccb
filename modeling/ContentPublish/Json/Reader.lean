import ContentPublish.Json.Value

/-
  Reading JSON text

  The reader accepts one JSON value, with blanks (space, tab, line feed,
  carriage return) around tokens, and nothing after it. A later member of an
  object replaces an earlier one with the same key. Containers nest at most
  127 deep: opening the 128th is refused.

  Numbers keep their kind: an integer without fraction or exponent that fits
  an unsigned 64-bit word stays a natural, a negative one down to -2^63 stays
  an integer, and any other number becomes a double. A double is assembled
  from the first nineteen or so significant digits as a 64-bit integer, which
  is then scaled by a double power of ten in one rounded multiplication or
  division (by `1e308` first while the power is beyond the table), so a very
  long mantissa is cut rather than rounded, and `-0` reads as the double
  negative zero. An exponent that would make the number infinite is refused;
  one that makes it vanish gives zero.

  A refusal names its cause and the place it was found, as a line and a
  column counted in bytes from the start of the line. The place is either
  just after the last character read, or one byte past it when the cause is
  the character that comes next.

  What is stated here:
    1. `parse` — the value of a text, or the first fault in it.
    2. `SyntaxError.message` — the fault's wording, with its place.
-/

namespace ContentPublish.Json

/-- What can be wrong with a JSON text. -/
inductive Fault where
  | eofWhileParsingList
  | eofWhileParsingObject
  | eofWhileParsingString
  | eofWhileParsingValue
  | expectedColon
  | expectedListCommaOrEnd
  | expectedObjectCommaOrEnd
  | expectedSomeIdent
  | expectedSomeValue
  | invalidEscape
  | invalidNumber
  | numberOutOfRange
  | controlCharacterWhileParsingString
  | keyMustBeAString
  | loneLeadingSurrogateInHexEscape
  | trailingComma
  | trailingCharacters
  | unexpectedEndOfHexEscape
  | recursionLimitExceeded
  deriving DecidableEq, Repr

/-- The wording of a fault. -/
def Fault.message : Fault → String
  | .eofWhileParsingList => "EOF while parsing a list"
  | .eofWhileParsingObject => "EOF while parsing an object"
  | .eofWhileParsingString => "EOF while parsing a string"
  | .eofWhileParsingValue => "EOF while parsing a value"
  | .expectedColon => "expected `:`"
  | .expectedListCommaOrEnd => "expected `,` or `]`"
  | .expectedObjectCommaOrEnd => "expected `,` or `\x7d`"
  | .expectedSomeIdent => "expected ident"
  | .expectedSomeValue => "expected value"
  | .invalidEscape => "invalid escape"
  | .invalidNumber => "invalid number"
  | .numberOutOfRange => "number out of range"
  | .controlCharacterWhileParsingString =>
    "control character (\\u0000-\\u001F) found while parsing a string"
  | .keyMustBeAString => "key must be a string"
  | .loneLeadingSurrogateInHexEscape => "lone leading surrogate in hex escape"
  | .trailingComma => "trailing comma"
  | .trailingCharacters => "trailing characters"
  | .unexpectedEndOfHexEscape => "unexpected end of hex escape"
  | .recursionLimitExceeded => "recursion limit exceeded"

/-- A fault and the place where it was found. -/
structure SyntaxError where
  fault : Fault
  line : Nat
  column : Nat
  deriving DecidableEq, Repr

/-- The fault's wording followed by its place. -/
def SyntaxError.message (e : SyntaxError) : String :=
  e.fault.message ++ " at line " ++ toString e.line ++ " column " ++ toString e.column

namespace Reader

/-- What is left of the text, and how many bytes were read before it. -/
structure Cursor where
  rest : List Char
  offset : Nat

/-- A fault at a byte offset of the text. -/
structure Stop where
  fault : Fault
  offset : Nat

/-- A step of reading: a result and the cursor after it, or where it stopped. -/
abbrev Step (α : Type) := Except Stop (α × Cursor)

/-- Stop just after what was read. -/
def stopHere {α : Type} (c : Cursor) (f : Fault) : Step α := .error ⟨f, c.offset⟩

/-- Stop at the character that comes next, one byte past the cursor. -/
def stopNext {α : Type} (c : Cursor) (f : Fault) : Step α :=
  .error ⟨f, if c.rest.isEmpty then c.offset else c.offset + 1⟩

/-- Skip one character. -/
def Cursor.bump (c : Cursor) : Cursor :=
  match c.rest with
  | [] => c
  | ch :: rest => ⟨rest, c.offset + ch.utf8Size⟩

/-- Blanks between tokens. -/
def isSpace (ch : Char) : Bool := ch = ' ' || ch = '\n' || ch = '\t' || ch = '\r'

/-- Skip the blanks at the cursor. -/
def skipSpace : List Char → Nat → Cursor
  | ch :: rest, off => if isSpace ch then skipSpace rest (off + 1) else ⟨ch :: rest, off⟩
  | [], off => ⟨[], off⟩

/-- The cursor after the blanks. -/
def Cursor.skipSpace (c : Cursor) : Cursor := Reader.skipSpace c.rest c.offset

/-- The next character, if any. -/
def Cursor.peek (c : Cursor) : Option Char := c.rest.head?

/-- The value of a decimal digit character. -/
def digitValue? (ch : Char) : Option Nat :=
  if '0' ≤ ch ∧ ch ≤ '9' then some (ch.toNat - '0'.toNat) else none

/-- The value of a hex digit character. -/
def hexValue? (ch : Char) : Option Nat :=
  if '0' ≤ ch ∧ ch ≤ '9' then some (ch.toNat - '0'.toNat)
  else if 'a' ≤ ch ∧ ch ≤ 'f' then some (ch.toNat - 'a'.toNat + 10)
  else if 'A' ≤ ch ∧ ch ≤ 'F' then some (ch.toNat - 'A'.toNat + 10)
  else none

/-! ### Numbers -/

/-- The largest 64-bit word, over ten. Another digit after a significand above
it, or equal to it with a digit above 5, would overflow the word. -/
def wordTenth : Nat := 1844674407370955161

/-- Another digit `d` would overflow a significand held in a 64-bit word. -/
def overflows (sig d : Nat) : Bool := sig > wordTenth || (sig == wordTenth && d > 5)

/-- Another digit `d` would overflow a 32-bit signed exponent. -/
def exponentOverflows (e d : Nat) : Bool := e > 214748364 || (e == 214748364 && d > 7)

/-- Clamp to the 32-bit signed range. -/
def saturate (i : Int) : Int := max (-2147483648) (min 2147483647 i)

/-- Divide by `1e308` while the power of ten is beyond the table, then by the
rest; stop early once the value is zero. -/
def scaleDown (f : Binary64) (k : Nat) : Binary64 :=
  if k ≤ 308 then f.divMagnitude (Binary64.pow10 k)
  else if f.isZero then f
  else scaleDown (f.divMagnitude (Binary64.pow10 308)) (k - 308)
termination_by k

/-- `significand * 10 ^ exponent` as a double, by one rounded scaling of the
significand's double; `none` when it is too large. -/
def fromParts (significand : Nat) (exponent : Int) : Option Binary64 :=
  let f := Binary64.ofNat significand
  if 0 ≤ exponent then
    if exponent ≤ 308 then f.mulMagnitude (Binary64.pow10 exponent.toNat)
    else if f.isZero then some f else none
  else some (scaleDown f (-exponent).toNat)

/-- Apply the sign to a double. -/
def signed (positive : Bool) (f : Binary64) : Binary64 := if positive then f else f.neg

/-- Finish a double from its parts, or stop at the cursor. -/
def finishFloat (c : Cursor) (positive : Bool) (sig : Nat) (exp : Int) : Step Number :=
  match fromParts sig exp with
  | some f => .ok (.float (signed positive f), c)
  | none => stopHere c .numberOutOfRange

/-- Skip the digits at the cursor. -/
def skipDigits : List Char → Nat → Cursor
  | ch :: rest, off => if (digitValue? ch).isSome then skipDigits rest (off + 1) else ⟨ch :: rest, off⟩
  | [], off => ⟨[], off⟩

/-- The digits of an exponent that no longer fits: the number is refused if it
would be large, and is zero if it would be small. -/
def exponentOverflow (c : Cursor) (positive zeroSig positiveExp : Bool) : Step Number :=
  if !zeroSig && positiveExp then stopHere c .numberOutOfRange
  else
    let c := skipDigits c.rest c.offset
    .ok (.float (signed positive Binary64.zero), c)

/-- The digits of an exponent after its first digit. -/
def exponentDigits (positive : Bool) (sig : Nat) (start : Int) (positiveExp : Bool) :
    List Char → Nat → Nat → Step Number
  | ch :: rest, off, e =>
    match digitValue? ch with
    | some d =>
      let c : Cursor := ⟨rest, off + 1⟩
      if exponentOverflows e d then exponentOverflow c positive (sig == 0) positiveExp
      else exponentDigits positive sig start positiveExp rest (off + 1) (e * 10 + d)
    | none =>
      let exp := if positiveExp then saturate (start + e) else saturate (start - e)
      finishFloat ⟨ch :: rest, off⟩ positive sig exp
  | [], off, e =>
    let exp := if positiveExp then saturate (start + e) else saturate (start - e)
    finishFloat ⟨[], off⟩ positive sig exp

/-- The first digit of an exponent, after its sign, then the digits after it. -/
def exponentStart (c : Cursor) (positive : Bool) (sig : Nat) (start : Int) (positiveExp : Bool) :
    Step Number :=
  match c.rest with
  | [] => stopHere c .eofWhileParsingValue
  | ch :: rest =>
    match digitValue? ch with
    | some d => exponentDigits positive sig start positiveExp rest c.bump.offset d
    | none => stopHere c.bump .invalidNumber

/-- An exponent: the cursor is on the `e`. -/
def exponentPart (c : Cursor) (positive : Bool) (sig : Nat) (start : Int) : Step Number :=
  let c := c.bump
  match c.peek with
  | some '+' => exponentStart c.bump positive sig start true
  | some '-' => exponentStart c.bump positive sig start false
  | _ => exponentStart c positive sig start true

/-- After a significand that no longer fits: skip further digits, then read
an exponent if one follows. -/
def afterOverflow (c : Cursor) (positive : Bool) (sig : Nat) (exp : Int) : Step Number :=
  let c := skipDigits c.rest c.offset
  match c.peek with
  | some 'e' | some 'E' => exponentPart c positive sig exp
  | _ => finishFloat c positive sig exp

/-- The digits after the decimal point; `count` of them are in `sig` so far. -/
def fractionDigits (positive : Bool) (start : Int) :
    List Char → Nat → Nat → Nat → Step Number
  | ch :: rest, off, sig, count =>
    match digitValue? ch with
    | some d =>
      if overflows sig d then afterOverflow ⟨ch :: rest, off⟩ positive sig (start - count)
      else fractionDigits positive start rest (off + 1) (sig * 10 + d) (count + 1)
    | none =>
      let c : Cursor := ⟨ch :: rest, off⟩
      if count = 0 then stopNext c .invalidNumber
      else if ch = 'e' ∨ ch = 'E' then exponentPart c positive sig (start - count)
      else finishFloat c positive sig (start - count)
  | [], off, sig, count =>
    let c : Cursor := ⟨[], off⟩
    if count = 0 then stopNext c .eofWhileParsingValue
    else finishFloat c positive sig (start - count)

/-- A fraction: the cursor is on the point. -/
def fractionPart (c : Cursor) (positive : Bool) (sig : Nat) (start : Int) : Step Number :=
  let c := c.bump
  fractionDigits positive start c.rest c.offset sig 0

/-- The digits of an integer part that no longer fits in a word: each one
only raises the power of ten. -/
def longDigits (positive : Bool) (sig : Nat) : List Char → Nat → Nat → Step Number
  | ch :: rest, off, extra =>
    if (digitValue? ch).isSome then longDigits positive sig rest (off + 1) (extra + 1)
    else
      let c : Cursor := ⟨ch :: rest, off⟩
      if ch = '.' then fractionPart c positive sig extra
      else if ch = 'e' ∨ ch = 'E' then exponentPart c positive sig extra
      else finishFloat c positive sig extra
  | [], off, extra => finishFloat ⟨[], off⟩ positive sig extra

/-- An integer that fits, as a number of the right kind. -/
def integer (positive : Bool) (sig : Nat) : Number :=
  if positive then .nat sig
  else if sig = 0 then .float (Binary64.zero.neg)
  else if sig ≤ Nat.pow 2 63 then .negative (-(sig : Int))
  else .float (Binary64.ofNat sig).neg

/-- What follows the integer part. -/
def afterInteger (c : Cursor) (positive : Bool) (sig : Nat) : Step Number :=
  match c.peek with
  | some '.' => fractionPart c positive sig 0
  | some 'e' | some 'E' => exponentPart c positive sig 0
  | _ => .ok (integer positive sig, c)

/-- The digits of an integer part after its first digit. -/
def integerDigits (positive : Bool) : List Char → Nat → Nat → Step Number
  | ch :: rest, off, sig =>
    match digitValue? ch with
    | some d =>
      if overflows sig d then longDigits positive sig (ch :: rest) off 0
      else integerDigits positive rest (off + 1) (sig * 10 + d)
    | none => afterInteger ⟨ch :: rest, off⟩ positive sig
  | [], off, sig => afterInteger ⟨[], off⟩ positive sig

/-- A number, its sign already read. -/
def number (c : Cursor) (positive : Bool) : Step Number :=
  match c.rest with
  | [] => stopHere c .eofWhileParsingValue
  | ch :: rest =>
    let c' := c.bump
    if ch = '0' then
      match rest.head? with
      | some next =>
        if (digitValue? next).isSome then stopNext c' .invalidNumber
        else afterInteger c' positive 0
      | none => afterInteger c' positive 0
    else
      match digitValue? ch with
      | some d => integerDigits positive rest c'.offset d
      | none => stopHere c' .invalidNumber

/-! ### Strings -/

/-- The byte length of the characters. -/
def byteLength (cs : List Char) : Nat := cs.foldl (fun n c => n + c.utf8Size) 0

/-- Four hex digits after `\u`. The four bytes must be there, and must all be
hex digits. -/
def hexEscape (c : Cursor) : Step Nat :=
  match c.rest with
  | a :: b :: d :: e :: rest =>
    match hexValue? a, hexValue? b, hexValue? d, hexValue? e with
    | some va, some vb, some vd, some ve =>
      .ok (((va * 16 + vb) * 16 + vd) * 16 + ve, ⟨rest, c.offset + 4⟩)
    | _, _, _, _ => stopHere ⟨[], c.offset + 4⟩ .invalidEscape
  | short =>
    if byteLength short < 4 then stopHere ⟨[], c.offset + byteLength short⟩ .eofWhileParsingString
    else stopHere ⟨[], c.offset + 4⟩ .invalidEscape

/-- Skip one byte of the next character for a fault report. -/
def discardOne (c : Cursor) : Cursor := ⟨[], c.offset + 1⟩

/-- A `\u` escape: a code point outside the surrogates, or a leading
surrogate followed by an escaped trailing one. -/
def unicodeEscape (c : Cursor) : Step Char :=
  match hexEscape c with
  | .error e => .error e
  | .ok (n, c) =>
    if 0xDC00 ≤ n ∧ n ≤ 0xDFFF then stopHere c .loneLeadingSurrogateInHexEscape
    else if n < 0xD800 ∨ 0xDBFF < n then .ok (Char.ofNat n, c)
    else
      match c.rest with
      | [] => stopHere c .eofWhileParsingString
      | '\\' :: _ =>
        let c := c.bump
        match c.rest with
        | [] => stopHere c .eofWhileParsingString
        | 'u' :: _ =>
          match hexEscape c.bump with
          | .error e => .error e
          | .ok (n₂, c) =>
            if n₂ < 0xDC00 ∨ 0xDFFF < n₂ then stopHere c .loneLeadingSurrogateInHexEscape
            else .ok (Char.ofNat ((((n - 0xD800) <<< 10) ||| (n₂ - 0xDC00)) + 0x10000), c)
        | _ => stopHere (discardOne c) .unexpectedEndOfHexEscape
      | _ => stopHere (discardOne c) .unexpectedEndOfHexEscape

/-- The character an escape stands for: the cursor is after the backslash. -/
def escape (c : Cursor) : Step Char :=
  match c.rest with
  | [] => stopHere c .eofWhileParsingString
  | ch :: _ =>
    let c := c.bump
    if ch = '"' then .ok ('"', c)
    else if ch = '\\' then .ok ('\\', c)
    else if ch = '/' then .ok ('/', c)
    else if ch = 'b' then .ok ('\x08', c)
    else if ch = 'f' then .ok ('\x0c', c)
    else if ch = 'n' then .ok ('\n', c)
    else if ch = 'r' then .ok ('\r', c)
    else if ch = 't' then .ok ('\t', c)
    else if ch = 'u' then unicodeEscape c
    else stopHere c .invalidEscape

/-- The body of a string after its opening quote; `acc` holds the characters
read so far, last first. Every round reads at least one character, so a fuel
of one more than the characters left is enough. -/
def stringBody : Nat → Cursor → List Char → Step String
  | 0, c, _ => stopHere c .eofWhileParsingString
  | fuel + 1, c, acc =>
    match c.rest with
    | [] => stopHere c .eofWhileParsingString
    | ch :: rest =>
      if ch = '"' then .ok (String.ofList acc.reverse, c.bump)
      else if ch = '\\' then
        match escape c.bump with
        | .error e => .error e
        | .ok (decoded, c') => stringBody fuel c' (decoded :: acc)
      else if ch.toNat < 0x20 then stopHere c.bump .controlCharacterWhileParsingString
      else stringBody fuel ⟨rest, c.offset + ch.utf8Size⟩ (ch :: acc)

/-- A string: the cursor is after the opening quote. -/
def string (c : Cursor) : Step String := stringBody (c.rest.length + 1) c []

/-! ### Values -/

/-- A literal word: the cursor is after its first letter. -/
def word (c : Cursor) (tail : List Char) (v : Value) : Step Value :=
  match tail with
  | [] => .ok (v, c)
  | expected :: more =>
    match c.rest with
    | [] => stopHere c .eofWhileParsingValue
    | ch :: _ =>
      let c := c.bump
      if ch = expected then word c more v else stopHere c .expectedSomeIdent

/-- The deepest nesting of arrays and objects, counting the outermost. -/
def nestingLimit : Nat := 128

mutual

/-- A value at the cursor, blanks first; `room` containers may still open.
An opening bracket costs two rounds of fuel (the value and its items) for one
character, so twice the characters left, and one more, is enough. -/
def value : Nat → Nat → Cursor → Step Value
  | 0, _, c => stopNext c .eofWhileParsingValue
  | fuel + 1, room, c =>
    let c := c.skipSpace
    match c.rest with
    | [] => stopNext c .eofWhileParsingValue
    | ch :: _ =>
      if ch = 'n' then word c.bump ['u', 'l', 'l'] .null
      else if ch = 't' then word c.bump ['r', 'u', 'e'] (.bool true)
      else if ch = 'f' then word c.bump ['a', 'l', 's', 'e'] (.bool false)
      else if ch = '-' then
        match number c.bump false with
        | .ok (n, c) => .ok (.number n, c)
        | .error e => .error e
      else if (digitValue? ch).isSome then
        match number c true with
        | .ok (n, c) => .ok (.number n, c)
        | .error e => .error e
      else if ch = '"' then
        match string c.bump with
        | .ok (s, c) => .ok (.string s, c)
        | .error e => .error e
      else if ch = '[' then
        if room ≤ 1 then stopNext c .recursionLimitExceeded
        else
          match items fuel (room - 1) c.bump true [] with
          | .ok (vs, c) => .ok (.array vs, c.bump)
          | .error e => .error e
      else if ch = '\x7b' then
        if room ≤ 1 then stopNext c .recursionLimitExceeded
        else
          match members fuel (room - 1) c.bump true [] with
          | .ok (o, c) => .ok (.object o, c.bump)
          | .error e => .error e
      else stopNext c .expectedSomeValue

/-- The items of an array up to its closing bracket, which is left at the
cursor; `acc` holds the items read so far, last first. -/
def items : Nat → Nat → Cursor → Bool → List Value → Step (List Value)
  | 0, _, c, _, _ => stopNext c .eofWhileParsingList
  | fuel + 1, room, c, first, acc =>
    let c := c.skipSpace
    match c.rest with
    | [] => stopNext c .eofWhileParsingList
    | ch :: _ =>
      if ch = ']' then .ok (acc.reverse, c)
      else if ch = ',' ∧ !first then
        let c := c.bump.skipSpace
        match c.rest with
        | [] => stopNext c .eofWhileParsingValue
        | ']' :: _ => stopNext c .trailingComma
        | _ =>
          match value fuel room c with
          | .ok (v, c) => items fuel room c false (v :: acc)
          | .error e => .error e
      else if first then
        match value fuel room c with
        | .ok (v, c) => items fuel room c false (v :: acc)
        | .error e => .error e
      else stopNext c .expectedListCommaOrEnd

/-- The members of an object up to its closing brace, which is left at the
cursor; a later key replaces an earlier one. -/
def members : Nat → Nat → Cursor → Bool → Object → Step Object
  | 0, _, c, _, _ => stopNext c .eofWhileParsingObject
  | fuel + 1, room, c, first, acc =>
    let c := c.skipSpace
    match c.rest with
    | [] => stopNext c .eofWhileParsingObject
    | ch :: _ =>
      if ch = '\x7d' then .ok (acc, c)
      else
        let next : Except Stop Cursor :=
          if ch = ',' ∧ !first then .ok c.bump.skipSpace
          else if first then .ok c
          else .error ⟨.expectedObjectCommaOrEnd, c.offset + 1⟩
        match next with
        | .error e => .error e
        | .ok c =>
          match c.rest with
          | [] => stopNext c .eofWhileParsingValue
          | '"' :: _ =>
            match string c.bump with
            | .error e => .error e
            | .ok (key, c) =>
              let c := c.skipSpace
              match c.rest with
              | [] => stopNext c .eofWhileParsingObject
              | ':' :: _ =>
                match value fuel room c.bump with
                | .ok (v, c) => members fuel room c false (acc.insert key v)
                | .error e => .error e
              | _ => stopNext c .expectedColon
          | '\x7d' :: _ => stopNext c .trailingComma
          | _ => stopNext c .keyMustBeAString

end

/-- The line and column of a byte offset: lines count from one, columns are
the bytes since the last line feed before the offset. -/
def locate (text : List Char) (offset : Nat) : Nat × Nat :=
  let rec go : List Char → Nat → Nat → Nat → Nat × Nat
    | [], _, line, start => (line, offset - start)
    | ch :: rest, pos, line, start =>
      if offset ≤ pos then (line, offset - start)
      else if ch = '\n' then go rest (pos + 1) (line + 1) (pos + 1)
      else go rest (pos + ch.utf8Size) line start
  go text 0 1 0

end Reader

/-- The value of a JSON text, or the first fault in it with its place. -/
def parse (text : String) : Except SyntaxError Value :=
  let cs := text.toList
  let fail (s : Reader.Stop) : Except SyntaxError Value :=
    let (line, column) := Reader.locate cs s.offset
    .error ⟨s.fault, line, column⟩
  match Reader.value (2 * cs.length + 2) Reader.nestingLimit ⟨cs, 0⟩ with
  | .error s => fail s
  | .ok (v, c) =>
    let c := c.skipSpace
    match c.rest with
    | [] => .ok v
    | _ => fail ⟨.trailingCharacters, c.offset + 1⟩

end ContentPublish.Json
