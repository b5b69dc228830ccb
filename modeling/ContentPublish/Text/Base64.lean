/-
  Base64 with padding

  Binary payloads travel as the standard base64 alphabet (`A`–`Z`, `a`–`z`,
  `0`–`9`, `+`, `/`), written in groups of four symbols for each three bytes,
  the last group padded with `=` to four symbols.

  Reading is strict, and each refusal names the first fault found:
    * a symbol outside the alphabet, or a `=` that does not end the text, is
      refused with its byte and its offset; a lone symbol left over at the
      end is looked at first;
    * a last group of one symbol is refused as a bad length;
    * a last group not padded to four symbols is refused as bad padding;
    * a last symbol carrying bits that no byte uses is refused, since only
      one text may stand for each byte string.

  What is stated here:
    1. `encode` and `decode`, with `DecodeError.message` for the refusals.
    2. `encodeGroup_length` — every group of up to three bytes is written as
       four symbols.
-/

namespace ContentPublish.Base64

/-- Why a text is not canonical padded base64. -/
inductive DecodeError where
  /-- A byte outside the alphabet, or a misplaced `=`, at an offset. -/
  | invalidByte (offset : Nat) (byte : UInt8)
  /-- A last group of one symbol: the count of symbols up to it. -/
  | invalidLength (count : Nat)
  /-- A last symbol carrying bits that no byte uses. -/
  | invalidLastSymbol (offset : Nat) (byte : UInt8)
  /-- A last group not padded to four symbols. -/
  | invalidPadding
  deriving DecidableEq, Repr

/-- The wording of a refusal. -/
def DecodeError.message : DecodeError → String
  | .invalidByte offset byte => s!"Invalid symbol {byte.toNat}, offset {offset}."
  | .invalidLength count => s!"Invalid input length: {count}"
  | .invalidLastSymbol offset byte => s!"Invalid last symbol {byte.toNat}, offset {offset}."
  | .invalidPadding => "Invalid padding"

/-- The symbol for a six-bit value. -/
def symbol (v : Nat) : Char :=
  if v < 26 then Char.ofNat (65 + v)
  else if v < 52 then Char.ofNat (97 + v - 26)
  else if v < 62 then Char.ofNat (48 + v - 52)
  else if v = 62 then '+'
  else '/'

/-- The six-bit value of a symbol byte. -/
def symbolValue? (b : UInt8) : Option Nat :=
  let n := b.toNat
  if 65 ≤ n ∧ n ≤ 90 then some (n - 65)
  else if 97 ≤ n ∧ n ≤ 122 then some (n - 97 + 26)
  else if 48 ≤ n ∧ n ≤ 57 then some (n - 48 + 52)
  else if n = 43 then some 62
  else if n = 47 then some 63
  else none

/-- The padding byte `=`. -/
def padByte : UInt8 := 61

/-- The four symbols of a group of one to three bytes. -/
def encodeGroup : List UInt8 → List Char
  | [a] =>
    let n := a.toNat <<< 16
    [symbol (n >>> 18), symbol (n >>> 12 &&& 63), '=', '=']
  | [a, b] =>
    let n := a.toNat <<< 16 ||| b.toNat <<< 8
    [symbol (n >>> 18), symbol (n >>> 12 &&& 63), symbol (n >>> 6 &&& 63), '=']
  | a :: b :: c :: _ =>
    let n := a.toNat <<< 16 ||| b.toNat <<< 8 ||| c.toNat
    [symbol (n >>> 18), symbol (n >>> 12 &&& 63), symbol (n >>> 6 &&& 63), symbol (n &&& 63)]
  | [] => []

theorem encodeGroup_length (bs : List UInt8) (h₁ : bs ≠ []) :
    (encodeGroup bs).length = 4 := by
  match bs, h₁ with
  | [_], _ => rfl
  | [_, _], _ => rfl
  | _ :: _ :: _ :: _, _ => rfl

/-- The symbols of a byte string. -/
def encodeList : List UInt8 → List Char
  | a :: b :: c :: rest => encodeGroup [a, b, c] ++ encodeList rest
  | rest => encodeGroup rest

/-- The padded base64 text of a byte string. -/
def encode (bytes : List UInt8) : String := String.ofList (encodeList bytes)

/-- The three bytes of four six-bit values. -/
def bytesOfQuad (a b c d : Nat) : List UInt8 :=
  let n := a <<< 18 ||| b <<< 12 ||| c <<< 6 ||| d
  [UInt8.ofNat (n >>> 16), UInt8.ofNat (n >>> 8 &&& 255), UInt8.ofNat (n &&& 255)]

/-- Decode the full groups before the last one, which may hold padding. -/
def decodeBody : List UInt8 → Nat → Except DecodeError (List UInt8)
  | a :: b :: c :: d :: rest, offset =>
    match symbolValue? a, symbolValue? b, symbolValue? c, symbolValue? d with
    | some va, some vb, some vc, some vd =>
      match decodeBody rest (offset + 4) with
      | .ok tail => .ok (bytesOfQuad va vb vc vd ++ tail)
      | .error e => .error e
    | none, _, _, _ => .error (.invalidByte offset a)
    | _, none, _, _ => .error (.invalidByte (offset + 1) b)
    | _, _, none, _ => .error (.invalidByte (offset + 2) c)
    | _, _, _, none => .error (.invalidByte (offset + 3) d)
  | _, _ => .ok []

/-- What the last group holds so far: its values, the count of padding bytes,
the offset of the first of them, and the last symbol byte. -/
structure Tail where
  values : List Nat
  pads : Nat
  firstPad : Nat
  last : UInt8

/-- Read the last group, byte by byte. A `=` may only come third or later and
only be followed by more `=`. -/
def scanTail (start : Nat) : Tail → List (Nat × UInt8) → Except DecodeError Tail
  | t, [] => .ok t
  | t, (i, b) :: rest =>
    if b = padByte then
      if i < 2 then .error (.invalidByte (start + i) b)
      else
        let t := if t.pads = 0 then { t with firstPad := i } else t
        scanTail start { t with pads := t.pads + 1 } rest
    else if 0 < t.pads then .error (.invalidByte (start + t.firstPad) padByte)
    else
      match symbolValue? b with
      | none => .error (.invalidByte (start + i) b)
      | some v => scanTail start { t with values := t.values ++ [v], last := b } rest

/-- Decode the last group, which starts at offset `start`. -/
def decodeTail (start : Nat) (group : List UInt8) (whole : Bool) :
    Except DecodeError (List UInt8) :=
  match scanTail start ⟨[], 0, 0, 0⟩ (group.zipIdx.map fun (b, i) => (i, b)) with
  | .error e => .error e
  | .ok t =>
    let k := t.values.length
    if whole ∧ k < 2 then .error (.invalidLength (start + k))
    else if (t.pads + k) % 4 ≠ 0 then .error .invalidPadding
    else
      let v (j : Nat) : Nat := t.values.getD j 0
      let n := v 0 <<< 18 ||| v 1 <<< 12 ||| v 2 <<< 6 ||| v 3
      let keep := k * 6 / 8
      let unused := n &&& ((1 <<< (24 - keep * 8)) - 1)
      if unused ≠ 0 then .error (.invalidLastSymbol (start + k - 1) t.last)
      else .ok ((bytesOfQuad (v 0) (v 1) (v 2) (v 3)).take keep)

/-- Decode canonical padded base64. -/
def decode (input : List UInt8) : Except DecodeError (List UInt8) :=
  let n := input.length
  let rem := n % 4
  let lastInvalid :=
    match input.getLast? with
    | some b => rem == 1 && b != padByte && (symbolValue? b).isNone
    | none => false
  if lastInvalid then .error (.invalidByte (n - 1) (input.getLastD 0))
  else
    let bodyLength := n - rem - (if rem = 0 then 4 else 0)
    match decodeBody (input.take bodyLength) 0 with
    | .error e => .error e
    | .ok body =>
      match decodeTail bodyLength (input.drop bodyLength) (n ≠ 0) with
      | .error e => .error e
      | .ok tail => .ok (body ++ tail)

end ContentPublish.Base64
