import ContentPublish.Text.Normalization
import ContentPublish.Text.Properties
import ContentPublish.Url.IdnaMapping

/-
  Domain names to ASCII

  A domain name beyond ASCII is mapped, normalized and checked label by
  label, and each label beyond ASCII travels as `xn--` and its Punycode.

  What is stated here:
    1. `Punycode.encode` and `Punycode.decode`.
    2. `threshold_pos` and `threshold_le` — every place has a threshold from 1
       to 26, so every digit of a number but the last carries a value.
    3. `digitValue?_digit` — a digit reads back as its value.
    4. `readNumber_length` — reading a number consumes at least one character.
    5. `mapDomain`, `labelValid`, `joinersAllowed`, `bidiRule` and
       `convertLabel` — the steps.
    6. `domainToAscii` — the ASCII form of a domain name, or `none`.
-/

/-! ## Punycode

A label of a domain name that holds characters beyond ASCII travels as
Punycode (RFC 3492): its ASCII characters first, then a `-` if there were
any, then the other code points, in ascending order, each as the distance
from the previous insertion written as a number of variable length in
base 36. The digits `a`–`z` stand for 0–25 and `0`–`9` for 26–35; a digit
below the threshold of its place ends a number, and the thresholds follow
a bias that adapts to the distances seen so far.

Reading is strict: a character that is not a digit, a number that does not
end, a value past 32 bits, or a code point that is no character is refused.
A `-` that leads the text does not end any ASCII part; it is read as a
digit, and refused.
-/

namespace ContentPublish.Url.Punycode

/-- The base of the numbers. -/
def base : Nat := 36

/-- The first code point beyond ASCII. -/
def initialCode : Nat := 0x80

/-- The bias before the first number. -/
def initialBias : Nat := 72

/-- Numbers must stay below 2³². -/
def limit : Nat := 0x100000000

/-- The digit of a value below 36: `a`–`z`, then `0`–`9`. -/
def digit (d : Nat) : Char :=
  if d < 26 then Char.ofNat (0x61 + d) else Char.ofNat (0x30 + d - 26)

/-- The value of a digit; letters of either case count. -/
def digitValue? (c : Char) : Option Nat :=
  let n := c.toNat
  if 0x61 ≤ n ∧ n ≤ 0x7A then some (n - 0x61)
  else if 0x41 ≤ n ∧ n ≤ 0x5A then some (n - 0x41)
  else if 0x30 ≤ n ∧ n ≤ 0x39 then some (n - 0x30 + 26)
  else none

theorem digitValue?_digit (d : Nat) (h : d < 36) : digitValue? (digit d) = some d := by
  have all : ∀ e ∈ List.range 36, digitValue? (digit e) = some e := by decide
  exact all d (List.mem_range.mpr h)

/-- The threshold of the place at `k` (a multiple of 36) under `bias`: from
1 to 26. -/
def threshold (k bias : Nat) : Nat :=
  if k ≤ bias then 1 else if bias + 26 ≤ k then 26 else k - bias

theorem threshold_pos (k bias : Nat) : 1 ≤ threshold k bias := by
  unfold threshold
  split
  · exact Nat.le_refl 1
  · split <;> omega

theorem threshold_le (k bias : Nat) : threshold k bias ≤ 26 := by
  unfold threshold
  split
  · omega
  · split <;> omega

/-- Scale a large distance down by 35 at a time, counting 36 for each step. -/
def scaleDown (delta k : Nat) : Nat × Nat :=
  if h : 455 < delta then scaleDown (delta / 35) (k + 36) else (delta, k)
termination_by delta
decreasing_by exact Nat.div_lt_self (by omega) (by omega)

/-- The bias after a distance, given how many code points the label will
then hold and whether it was the first distance. -/
def adapt (delta count : Nat) (first : Bool) : Nat :=
  let delta := if first then delta / 700 else delta / 2
  let delta := delta + delta / count
  let (delta, k) := scaleDown delta 0
  k + 36 * delta / (delta + 38)

/-! ### Writing -/

/-- The digits of a distance, from the place at `k` on. -/
def digits (bias k q : Nat) : List Char :=
  if _h : q < threshold k bias then [digit q]
  else
    digit (threshold k bias + (q - threshold k bias) % (base - threshold k bias)) ::
      digits bias (k + base) ((q - threshold k bias) / (base - threshold k bias))
termination_by q
decreasing_by
  all_goals
    have h1 := threshold_pos k bias
    exact Nat.lt_of_le_of_lt (Nat.div_le_self _ _) (by omega)

/-- Put a number into an ascending list without repeats. -/
def insertAscending (n : Nat) : List Nat → List Nat
  | [] => [n]
  | m :: rest =>
    if n < m then n :: m :: rest else if n = m then m :: rest else m :: insertAscending n rest

/-- What has been written so far, the distance, the bias, and the number of
code points handled. -/
structure Writing where
  out : List Char
  delta : Nat
  bias : Nat
  handled : Nat

/-- Pass one code point of the label while inserting `m`: a smaller one adds
to the distance, `m` itself writes the distance and starts a new one. -/
def Writing.pass (basicCount m : Nat) (st : Writing) (c : Nat) : Writing :=
  if c < m then { st with delta := st.delta + 1 }
  else if c = m then
    { out := st.out ++ digits st.bias base st.delta, delta := 0,
      bias := adapt st.delta (st.handled + 1) (st.handled == basicCount),
      handled := st.handled + 1 }
  else st

/-- Insert the code points `ms`, in ascending order, the last inserted being
below `n`. -/
def Writing.insertAll (codes : List Nat) (basicCount : Nat) : List Nat → Nat → Writing → Writing
  | [], _, st => st
  | m :: ms, n, st =>
    let st := { st with delta := st.delta + (m - n) * (st.handled + 1) }
    let st := codes.foldl (Writing.pass basicCount m) st
    Writing.insertAll codes basicCount ms (m + 1) { st with delta := st.delta + 1 }

/-- The Punycode of a label, without the `xn--` in front. -/
def encode (label : List Char) : List Char :=
  let codes := label.map Char.toNat
  let basic := label.filter (·.toNat < initialCode)
  let others := (codes.filter (initialCode ≤ ·)).foldr insertAscending []
  let start := if basic.isEmpty then [] else basic ++ ['-']
  (Writing.insertAll codes basic.length others initialCode
    ⟨start, 0, initialBias, basic.length⟩).out

/-! ### Reading -/

/-- Read one number from the place at `k` on, adding each digit times its
weight `w` to `i`; the sum and the rest of the text, or `none`. -/
def readNumber (bias : Nat) : List Char → Nat → Nat → Nat → Option (Nat × List Char)
  | [], _, _, _ => none
  | c :: rest, k, w, i =>
    match digitValue? c with
    | none => none
    | some d =>
      let i := i + d * w
      let t := threshold k bias
      if limit ≤ i then none
      else if d < t then some (i, rest)
      else if limit ≤ w * (base - t) then none
      else readNumber bias rest (k + base) (w * (base - t)) i

theorem readNumber_length (bias : Nat) :
    ∀ (cs : List Char) (k w i : Nat) (r : Nat × List Char),
      readNumber bias cs k w i = some r → r.2.length < cs.length
  | [], _, _, _, _, h => by simp [readNumber] at h
  | c :: rest, k, w, i, r, h => by
    simp only [readNumber] at h
    split at h
    · simp at h
    · split at h
      · simp at h
      · split at h
        · simp only [Option.some.injEq] at h
          rw [← h]
          simp
        · split at h
          · simp at h
          · have := readNumber_length bias rest _ _ _ r h
            simp only [List.length_cons]
            omega

/-- Insert the code points that the numbers of `cs` give into `out`, which
holds `out.length` code points. -/
def readAll (n bias i : Nat) (out : List Char) (cs : List Char) : Option (List Char) :=
  match cs with
  | [] => some out
  | c :: rest =>
    match h : readNumber bias (c :: rest) base 1 i with
    | none => none
    | some (j, more) =>
      let count := out.length + 1
      let code := n + j / count
      let pos := j % count
      if limit ≤ code ∨ ¬ code.isValidChar then none
      else
        readAll code (adapt (j - i) count (i == 0)) (pos + 1) (out.insertIdx pos (Char.ofNat code))
          more
termination_by cs.length
decreasing_by
  all_goals
    have := readNumber_length bias (c :: rest) base 1 i (j, more) h
    simpa using this

/-- The label that a Punycode text stands for. The ASCII characters are
those before the last `-`, if there is one after the first character; a
text whose only `-` leads it is read whole as numbers, and so refused. -/
def decode (text : List Char) : Option (List Char) :=
  let (basic, extended) :=
    match text.reverse.findIdx? (· == '-') with
    | some fromEnd =>
      if text.length - 1 - fromEnd = 0 then ([], text)
      else (text.take (text.length - 1 - fromEnd), text.drop (text.length - fromEnd))
    | none => ([], text)
  if basic.any (initialCode ≤ ·.toNat) then none
  else readAll initialCode initialBias 0 basic extended

end ContentPublish.Url.Punycode

/-! ## Domain names to ASCII

The host of a URL with a special scheme is a domain name, which is
brought to its ASCII form as Unicode Technical Standard #46 says, with
the choices of the URL standard: hyphens are not checked, the bidi and
joiner rules are, deviations are kept, and lengths are not checked.

  1. Every character is mapped by its status, and the text is normalized
     to Normalization Form C.
  2. The text is cut into labels at each `.`.
  3. A label that starts with `xn--` must be ASCII Punycode that stands
     for a label with a character beyond ASCII; that label replaces it.
  4. Every label that is not empty must be valid: in Normalization Form
     C, not starting with `xn--` or with a combining mark, holding only
     valid or deviation characters, and with each zero-width joiner and
     non-joiner where the joiner rules allow it.
  5. If a label holds a right-to-left letter or an Arabic digit, every
     label must keep to the bidi rule of RFC 5893.
  6. No label may hold a control, a space, or one of `%#/:<>?@[\]^|`.

The ASCII form then writes each label beyond ASCII as `xn--` and its
Punycode. Any fault refuses the whole name, and so does a label of more
than 1000 characters beyond ASCII, or an `xn--` label whose Punycode
passes 2000 characters.
-/

namespace ContentPublish.Url

open Text

/-- The zero-width non-joiner, U+200C. -/
def zeroWidthNonJoiner : Char := Char.ofNat 0x200C

/-- The zero-width joiner, U+200D. -/
def zeroWidthJoiner : Char := Char.ofNat 0x200D

/-- Characters that a host may not hold once mapped: controls, the space,
DEL and `%#/:<>?@[\]^|`. -/
def forbiddenInDomain (c : Char) : Bool :=
  let n := c.toNat
  n < 0x21 || n == 0x7F || c == '#' || c == '%' || c == '/' || c == ':' || c == '<' ||
  c == '>' || c == '?' || c == '@' || c == '[' || c == '\\' || c == ']' || c == '^' || c == '|'

/-- Every character replaced by what its status maps it to, then the text
normalized. -/
def mapDomain (cs : List Char) : List Char :=
  nfc (cs.flatMap fun c => (idnaStatus c).image c)

/-- The label starts with the Punycode marker `xn--`. -/
def hasAcePrefix (label : List Char) : Bool := label.take 4 == ['x', 'n', '-', '-']

/-- A zero-width joiner or non-joiner may follow a virama; a non-joiner may
also stand between a letter that joins to its right and one that joins to
its left, with only transparent characters around it. `before` holds the
characters before it, the nearest first. -/
def joinerAllowed (before after : List Char) (c : Char) : Bool :=
  match before with
  | b :: _ =>
    if isVirama b then true
    else if c == zeroWidthNonJoiner then
      let notTransparent (x : Char) := joiningType x != .transparent
      let joinsRight := match before.find? notTransparent with
        | some x => joiningType x == .leftJoining || joiningType x == .dualJoining
        | none => false
      let joinsLeft := match after.find? notTransparent with
        | some x => joiningType x == .rightJoining || joiningType x == .dualJoining
        | none => false
      joinsRight && joinsLeft
    else false
  | [] => false

/-- Every zero-width joiner and non-joiner of the label stands where it is
allowed; `before` holds what was passed, the nearest first. -/
def joinersAllowedFrom (before : List Char) : List Char → Bool
  | [] => true
  | c :: after =>
    (if c == zeroWidthNonJoiner || c == zeroWidthJoiner then joinerAllowed before after c
     else true) && joinersAllowedFrom (c :: before) after

/-- Every zero-width joiner and non-joiner of the label is allowed. -/
def joinersAllowed (label : List Char) : Bool := joinersAllowedFrom [] label

/-- The validity criteria of a label that is not empty. A label read back
from Punycode (`readBack`) may not hold a code point no version of Unicode
has assigned yet. -/
def labelValid (readBack : Bool) (label : List Char) : Bool :=
  match label with
  | [] => true
  | first :: _ =>
    isNfc label && !hasAcePrefix label && !label.contains '.' && !isMark first &&
      label.all (fun c =>
        if readBack then (idnaStatus c).assigned else (idnaStatus c).allowed) &&
      joinersAllowed label

/-- A right-to-left letter or an Arabic digit: its presence makes the name a
bidi domain name. -/
def isRightToLeft (c : Char) : Bool :=
  match bidiClass c with
  | .rightToLeft | .arabicLetter | .arabicNumber => true
  | _ => false

/-- The classes a left-to-right label may hold. -/
def allowedLeftToRight : BidiClass → Bool
  | .leftToRight | .europeanNumber | .europeanSeparator | .commonSeparator
  | .europeanTerminator | .otherNeutral | .boundaryNeutral | .nonspacingMark => true
  | _ => false

/-- The classes a right-to-left label may hold. -/
def allowedRightToLeft : BidiClass → Bool
  | .rightToLeft | .arabicLetter | .arabicNumber | .europeanNumber | .europeanSeparator
  | .commonSeparator | .europeanTerminator | .otherNeutral | .boundaryNeutral
  | .nonspacingMark => true
  | _ => false

/-- The bidi rule of RFC 5893 for one label. A label starts with a
left-to-right or a right-to-left letter and holds only the classes of its
direction; it ends, before any nonspacing marks, in a letter of its
direction or a digit; and a right-to-left label does not mix European and
Arabic digits. -/
def bidiRule (label : List Char) : Bool :=
  match label with
  | [] => true
  | first :: _ =>
    let classes := label.map bidiClass
    let last := (classes.reverse.dropWhile (· == .nonspacingMark)).head?
    match bidiClass first with
    | .leftToRight =>
      classes.all allowedLeftToRight &&
        (last == some .leftToRight || last == some .europeanNumber)
    | .rightToLeft | .arabicLetter =>
      classes.all allowedRightToLeft &&
        (last == some .rightToLeft || last == some .arabicLetter ||
          last == some .europeanNumber || last == some .arabicNumber) &&
        !(classes.contains .europeanNumber && classes.contains .arabicNumber)
    | _ => false

/-- The longest Punycode text, after `xn--`, that is read back. -/
def maxDecodedInput : Nat := 2000

/-- The most characters a label may have to be written as Punycode. -/
def maxEncodedInput : Nat := 1000

/-- A label after its Punycode, if it has the `xn--` marker, is read back;
`none` if it is not valid. -/
def convertLabel (label : List Char) : Option (List Char) :=
  if hasAcePrefix label then
    if label.any (0x80 ≤ ·.toNat) || maxDecodedInput < label.length - 4 then none
    else
      match Punycode.decode (label.drop 4) with
      | none => none
      | some decoded =>
        if decoded.all (·.toNat < 0x80) then none
        else if labelValid true decoded then some decoded
        else none
  else if labelValid false label then some label
  else none

/-- The ASCII form of a label: itself, or `xn--` and its Punycode; `none`
for a label too long to be written as Punycode. -/
def asciiLabel (label : List Char) : Option (List Char) :=
  if label.all (·.toNat < 0x80) then some label
  else if maxEncodedInput < label.length then none
  else some (['x', 'n', '-', '-'] ++ Punycode.encode label)

/-- The ASCII form of a domain name, or `none` when it has none. -/
def domainToAscii (name : String) : Option String :=
  match ((mapDomain name.toList).splitOn '.').mapM convertLabel with
  | none => none
  | some labels =>
    if labels.any (·.any isRightToLeft) && !labels.all bidiRule then none
    else if labels.any (·.any forbiddenInDomain) then none
    else (labels.mapM asciiLabel).map fun ascii => String.ofList (ascii.intersperse ['.']).flatten

end ContentPublish.Url
