import ContentPublish.Float.Binary64

/-
  JSON values and their compact text

  The documents exchanged with a content repository are JSON values, written
  without blanks between tokens, with object members in the order the object
  holds them and each double with its shortest digits.

  What is stated here:
    1. `Object.get?_insert_self` — a member reads back what was last written
       under its key.
    2. `escapeChar_of_plain` — a character that needs no escape is written as
       itself.
-/

/-! ## JSON values

The documents exchanged with a content repository, and the answers built
from them, are JSON values. A number is kept in the form it was read in: an
integer that fits 64 bits (a non-negative one below 2^64, or a negative one
down to -2^63), or else a double. An object read from text, or built as a
map, holds each key once, its members in ascending order of key, which is
the order of their UTF-8 bytes; writing a key that is present replaces its
value in place. An object that stands for a record lists its fields in the
record's order instead, and is written in that order.
-/

namespace ContentPublish.Json

/-- A JSON number: a 64-bit integer or a double. -/
inductive Number where
  /-- A non-negative integer below `2 ^ 64`. -/
  | nat (n : Nat)
  /-- A negative integer, at least `-2 ^ 63`. -/
  | negative (n : Int)
  /-- Any other number, as the nearest double. -/
  | float (x : Binary64)
  deriving DecidableEq, Repr, Inhabited

/-- A JSON value. An object lists its members in the order they are written. -/
inductive Value where
  | null
  | bool (b : Bool)
  | number (n : Number)
  | string (s : String)
  | array (items : List Value)
  | object (fields : List (String × Value))
  deriving Repr, Inhabited

/-- An object's members, in ascending key order, each key once. -/
abbrev Object := List (String × Value)

namespace Object

/-- The value stored under `key`. -/
def get? (o : Object) (key : String) : Option Value :=
  (o.find? (fun p => p.1 == key)).map (·.2)

/-- Store `v` under `key`: replace the member with that key, or add one in
its place in the key order. -/
def insert (o : Object) (key : String) (v : Value) : Object :=
  match o with
  | [] => [(key, v)]
  | (k, w) :: rest =>
    if key < k then (key, v) :: (k, w) :: rest
    else if key = k then (key, v) :: rest
    else (k, w) :: insert rest key v

/-- Build an object from members in any order; a later member replaces an
earlier one with the same key. -/
def ofList (members : List (String × Value)) : Object :=
  members.foldl (fun o p => o.insert p.1 p.2) []

/-- The keys, in order. -/
def keys (o : Object) : List String := o.map (·.1)

theorem get?_insert_self (o : Object) (key : String) (v : Value) :
    (o.insert key v).get? key = some v := by
  induction o with
  | nil => simp [insert, get?]
  | cons p rest ih =>
    obtain ⟨k, w⟩ := p
    unfold insert
    by_cases h₁ : key < k
    · simp [h₁, get?]
    · by_cases h₂ : key = k
      · simp [h₂, get?]
      · have hk : (k == key) = false := by
          simp only [beq_eq_false_iff_ne]; exact fun h => h₂ h.symm
        simp only [h₁, h₂, if_false]
        simp only [get?, List.find?_cons, hk] at ih ⊢
        exact ih

end Object

namespace Value

/-- The member `key` of an object; nothing for any other value. -/
def get? (v : Value) (key : String) : Option Value :=
  match v with
  | .object fields => Object.get? fields key
  | _ => none

/-- The members of an object. -/
def asObject? : Value → Option Object
  | .object fields => some fields
  | _ => none

/-- The items of an array. -/
def asArray? : Value → Option (List Value)
  | .array items => some items
  | _ => none

/-- The text of a string. -/
def asString? : Value → Option String
  | .string s => some s
  | _ => none

/-- An array of strings. -/
def ofStrings (items : List String) : Value :=
  .array (items.map .string)

/-- An object from members in any order, later members winning. -/
def mkObject (members : List (String × Value)) : Value :=
  .object (Object.ofList members)

/-- A natural number. -/
def ofNat (n : Nat) : Value := .number (.nat n)

/-- An optional value, `null` when absent. -/
def ofOption {α : Type} (f : α → Value) : Option α → Value
  | some a => f a
  | none => .null

end Value

end ContentPublish.Json

/-! ## Compact JSON text

Values are written without any blank between tokens. Object members come
in the order the object holds them, which is ascending key order. In a
string the quote and the backslash are escaped, the five controls with a
short escape (backspace, form feed, line feed, carriage return, tab) use it,
every other control below U+0020 is written `\u00xx` in lowercase hex, and
everything else, U+007F and the line separators included, is written as
itself.

Integers are written in decimal. A double is written with its shortest
digits (`Binary64.shortestDigits`): positionally, with at least one
fractional digit, when its leading digit stands at a power of ten from -5
to 15, and otherwise as a mantissa and a signed exponent (`1e+16`, `1e-7`).
-/

namespace ContentPublish.Json

/-- How a double is laid out once its digits are known. -/
structure FloatLayout where
  /-- The lowest power of ten of the leading digit still written positionally. -/
  lowestPositional : Int
  /-- The lowest power of ten of the leading digit written with an exponent. -/
  firstScientific : Int
  /-- A positive exponent carries a plus sign. -/
  plusInExponent : Bool

/-- Doubles are positional from `1e-5` up to below `1e16`, and a positive
exponent is written with its sign: `1e+16`, `1e+23`, `1.7976931348623157e+308`
and `1.8446744073709552e+19` (the double of `2 ^ 64`), against `1e-7` and
`5e-324` below. This is the text the server's JSON library gives for these
doubles, and its protocol lists `1e+16` and `1.5e+300` among the written
forms. The shortest digits are those of ryu, but the layout around them is
the library's own, which adds the sign that ryu alone leaves out. -/
def FloatLayout.standard : FloatLayout :=
  { lowestPositional := -5, firstScientific := 16, plusInExponent := true }

/-- The two lowercase hex digits of a byte. -/
def hexByte (n : Nat) : String :=
  let digit (d : Nat) : Char := if d < 10 then Char.ofNat (48 + d) else Char.ofNat (87 + d)
  String.ofList [digit (n / 16 % 16), digit (n % 16)]

/-- A character inside a string literal. -/
def escapeChar (c : Char) : String :=
  if c = '"' then "\\\""
  else if c = '\\' then "\\\\"
  else if c = '\n' then "\\n"
  else if c = '\r' then "\\r"
  else if c = '\t' then "\\t"
  else if c = '\x08' then "\\b"
  else if c = '\x0c' then "\\f"
  else if c.toNat < 0x20 then "\\u00" ++ hexByte c.toNat
  else String.singleton c

theorem escapeChar_of_plain (c : Char) (h₁ : c ≠ '"') (h₂ : c ≠ '\\') (h₃ : 0x20 ≤ c.toNat) :
    escapeChar c = String.singleton c := by
  have hn : c ≠ '\n' := by intro h; subst h; simp at h₃
  have hr : c ≠ '\r' := by intro h; subst h; simp at h₃
  have ht : c ≠ '\t' := by intro h; subst h; simp at h₃
  have hb : c ≠ '\x08' := by intro h; subst h; simp at h₃
  have hf : c ≠ '\x0c' := by intro h; subst h; simp at h₃
  have hlt : ¬ c.toNat < 0x20 := Nat.not_lt.mpr h₃
  simp [escapeChar, h₁, h₂, hn, hr, ht, hb, hf, hlt]

/-- A string literal. -/
def quote (s : String) : String :=
  "\"" ++ String.join (s.toList.map escapeChar) ++ "\""

/-- `n` zeros. -/
def zeros (n : Nat) : String := String.ofList (List.replicate n '0')

/-- The text of a double under a layout. -/
def renderFloat (layout : FloatLayout) (x : Binary64) : String :=
  let sign := if x.negative then "-" else ""
  if x.isZero then sign ++ "0.0"
  else
    let (d, p) := x.shortestDigits
    let digits := (Nat.toDigits 10 d)
    let n := digits.length
    let k : Int := p + n - 1
    let body :=
      if layout.lowestPositional ≤ k ∧ k < layout.firstScientific then
        if 0 ≤ p then String.ofList digits ++ zeros p.toNat ++ ".0"
        else if 0 ≤ k then
          let cut := (k + 1).toNat
          String.ofList (digits.take cut) ++ "." ++ String.ofList (digits.drop cut)
        else "0." ++ zeros (-k - 1).toNat ++ String.ofList digits
      else
        let mantissa :=
          if n = 1 then String.ofList digits
          else String.ofList (digits.take 1) ++ "." ++ String.ofList (digits.drop 1)
        let expSign := if k < 0 then "-" else if layout.plusInExponent then "+" else ""
        mantissa ++ "e" ++ expSign ++ String.ofList (Nat.toDigits 10 k.natAbs)
    sign ++ body

/-- The text of a number. -/
def Number.render : Number → String
  | .nat n => String.ofList (Nat.toDigits 10 n)
  | .negative n => "-" ++ String.ofList (Nat.toDigits 10 n.natAbs)
  | .float x => renderFloat FloatLayout.standard x

mutual

/-- The compact text of a value. -/
def Value.render : Value → String
  | .null => "null"
  | .bool true => "true"
  | .bool false => "false"
  | .number n => n.render
  | .string s => quote s
  | .array items => "[" ++ Value.renderItems items ++ "]"
  | .object fields => "\x7b" ++ Value.renderMembers fields ++ "\x7d"

/-- Array items, separated by commas. -/
def Value.renderItems : List Value → String
  | [] => ""
  | [v] => v.render
  | v :: rest => v.render ++ "," ++ Value.renderItems rest

/-- Object members, separated by commas. -/
def Value.renderMembers : List (String × Value) → String
  | [] => ""
  | [(k, v)] => quote k ++ ":" ++ v.render
  | (k, v) :: rest => quote k ++ ":" ++ v.render ++ "," ++ Value.renderMembers rest

end

end ContentPublish.Json
