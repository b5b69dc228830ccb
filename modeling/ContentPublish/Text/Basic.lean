/-
  Text: bytes, blanks and tables of code points

  Text is kept as `String` and turned into bytes by UTF-8. Names and settings
  are compared once their surrounding blanks are gone, and the properties of
  characters that other modules need are read from tables of code point
  ranges kept as text.

  What is stated here:
    1. `utf8_append` — the bytes of joined texts are the joined bytes.
    2. `hex` — the lowercase hex digits of a byte string, two per byte.
    3. `isBlank_of_isWhitespace` — every character that core calls whitespace
       is a blank, so trimming here removes at least what core's trim removes.
    4. `trimBlank_toList` — trimming drops the blank prefix and the blank
       suffix and keeps the middle untouched.
    5. `hexNumber?` — the value of a hexadecimal numeral.
    6. `RangeTable.ofLines` — a table read from its lines, and
       `RangeTable.ofList` — one of keys and values.
    7. `RangeTable.get` — the value of the range that holds a code point.
    8. `RangeTable.find?` — the value of an entry, if there is one.
-/

/-! ## UTF-8 bytes of text

Files, request bodies and base64 payloads are byte strings; text becomes
bytes by UTF-8, and bytes become text only when they are valid UTF-8.
-/

namespace ContentPublish.Text

/-- The UTF-8 bytes of a text. -/
def utf8 (s : String) : List UInt8 := s.toList.flatMap String.utf8EncodeChar

theorem utf8_append (s t : String) : utf8 (s ++ t) = utf8 s ++ utf8 t := by
  simp [utf8]

/-- The text whose UTF-8 bytes these are, if they are valid UTF-8. -/
def ofUtf8? (bytes : List UInt8) : Option String := String.fromUTF8? ⟨bytes.toArray⟩

/-- A lowercase hex digit. -/
def hexDigit (d : Nat) : Char := if d < 10 then Char.ofNat (48 + d) else Char.ofNat (87 + d)

/-- The lowercase hex digits of a byte string, two per byte. -/
def hex (bytes : List UInt8) : String :=
  String.ofList (bytes.flatMap fun b => [hexDigit (b.toNat / 16), hexDigit (b.toNat % 16)])

/-- The value of a hex digit of either case. -/
def hexValue? (c : Char) : Option Nat :=
  if '0' ≤ c ∧ c ≤ '9' then some (c.toNat - 48)
  else if 'a' ≤ c ∧ c ≤ 'f' then some (c.toNat - 87)
  else if 'A' ≤ c ∧ c ≤ 'F' then some (c.toNat - 55)
  else none

/-- The bytes written as pairs of hex digits, if the text is such pairs. -/
def ofHex? : List Char → Option (List UInt8)
  | [] => some []
  | a :: b :: rest =>
    match hexValue? a, hexValue? b, ofHex? rest with
    | some x, some y, some tail => some (UInt8.ofNat (x * 16 + y) :: tail)
    | _, _, _ => none
  | [_] => none

end ContentPublish.Text

/-! ## Blank characters and trimming

Names, URLs and settings read from users and servers are compared after
their surrounding blanks are removed. A blank is a character with the
Unicode White_Space property: the ASCII tab, line feed, vertical tab, form
feed, carriage return and space, and the seventeen other separators of the
standard. The information separators U+001C to U+001F and the zero-width
space U+200B are not blanks.
-/

namespace ContentPublish.Text

/-- The Unicode White_Space property. -/
def isBlank (c : Char) : Bool :=
  let n := c.toNat
  (0x09 ≤ n && n ≤ 0x0D) || n == 0x20 || n == 0x85 || n == 0xA0 || n == 0x1680 ||
  (0x2000 ≤ n && n ≤ 0x200A) || n == 0x2028 || n == 0x2029 || n == 0x202F ||
  n == 0x205F || n == 0x3000

theorem isBlank_of_isWhitespace (c : Char) (h : c.isWhitespace = true) :
    isBlank c = true := by
  simp only [Char.isWhitespace, Bool.or_eq_true, decide_eq_true_eq] at h
  simp only [isBlank, Bool.or_eq_true, Bool.and_eq_true, decide_eq_true_eq, beq_iff_eq]
  rcases h with ((h | h) | h) | h <;> subst h <;> decide

/-- The characters of `cs` with the blank prefix and the blank suffix removed. -/
def trimBlankList (cs : List Char) : List Char :=
  ((cs.dropWhile isBlank).reverse.dropWhile isBlank).reverse

/-- The text with its leading and trailing blanks removed. -/
def trimBlank (s : String) : String :=
  String.ofList (trimBlankList s.toList)

/-- The text with its trailing blanks removed. -/
def trimBlankEnd (s : String) : String :=
  String.ofList (s.toList.reverse.dropWhile isBlank).reverse

theorem trimBlank_toList (s : String) : (trimBlank s).toList = trimBlankList s.toList := by
  simp [trimBlank]

/-- True when the text holds nothing but blanks. -/
def isBlankText (s : String) : Bool :=
  s.toList.all isBlank

end ContentPublish.Text

/-! ## Tables of code point ranges

Properties of characters are read from tables of the Unicode Character
Database. Each table is kept as text, in lines of blank-separated records
`key=value` whose keys are hexadecimal numbers in ascending order. In a
table of ranges a record gives its value to every code point from its key
up to the next record's key, so a property needs one record per change of
value; in a table of entries only the keys themselves have a value.
-/

namespace ContentPublish.Text

/-- The value of a hexadecimal numeral of at least one digit. -/
def hexNumber? (s : String) : Option Nat :=
  match s.toList with
  | [] => none
  | cs => cs.foldl (fun acc c => do
      let n ← acc
      let d ← hexValue? c
      pure (n * 16 + d)) (some 0)

example : hexNumber? "" = none := rfl

/-- The records of a table's lines: their blank-separated words, each split
at its first `=`. Words without `=` are skipped. -/
def tableRecords (lines : List String) : List (String × String) :=
  lines.flatMap fun line =>
    (line.splitOn " ").filterMap fun word =>
      match word.splitOn "=" with
      | key :: rest@(_ :: _) => some (key, "=".intercalate rest)
      | _ => none

/-- A table over numeric keys in ascending order. -/
structure RangeTable (α : Type) where
  keys : Array Nat
  values : Array α

namespace RangeTable

variable {α : Type}

/-- The table of these keys and values, the keys in ascending order. -/
def ofList (entries : List (Nat × α)) : RangeTable α :=
  { keys := (entries.map Prod.fst).toArray, values := (entries.map Prod.snd).toArray }

/-- The table of the records whose key reads with `key` and whose value reads
with `value`; other records are skipped. -/
def ofRecords (key : String → Option Nat) (value : String → Option α)
    (records : List (String × String)) : RangeTable α :=
  ofList (records.filterMap fun (k, v) => do
    let n ← key k
    let x ← value v
    pure (n, x))

/-- The table written in these lines, its keys hexadecimal. -/
def ofLines (value : String → Option α) (lines : List String) : RangeTable α :=
  ofRecords hexNumber? value (tableRecords lines)

/-- The index of the last key at most `n` among the indices from `lo` up to
`hi`, assuming the key at `lo` is at most `n`. -/
def lastAtMost (keys : Array Nat) (n lo hi : Nat) : Nat :=
  if h : lo + 1 < hi then
    let mid := (lo + hi) / 2
    if keys.getD mid 0 ≤ n then lastAtMost keys n mid hi else lastAtMost keys n lo mid
  else lo
termination_by hi - lo

/-- The record whose range holds `n`: the last one whose key is at most `n`. -/
def index? (t : RangeTable α) (n : Nat) : Option Nat :=
  if t.keys.getD 0 0 ≤ n ∧ 0 < t.keys.size then some (lastAtMost t.keys n 0 t.keys.size)
  else none

/-- The value of the range that holds `n`, or `fallback` below the first key. -/
def get (t : RangeTable α) (fallback : α) (n : Nat) : α :=
  match t.index? n with
  | some i => t.values.getD i fallback
  | none => fallback

/-- The value of the entry whose key is exactly `n`. -/
def find? (t : RangeTable α) (n : Nat) : Option α :=
  match t.index? n with
  | some i => if t.keys.getD i 0 = n then t.values[i]? else none
  | none => none

end RangeTable

end ContentPublish.Text
