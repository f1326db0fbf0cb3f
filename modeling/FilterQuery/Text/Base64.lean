/-!
# Base 64

Bytes written with sixty-four letters, four letters for three bytes.  When a text is read, what is
no letter does not count, and padding ends the text.  Texts that may stand in addresses have two
letters of their own.

* `decodeBase64?` — the bytes of such a text, if its last group is complete.
* `encodeBase64` — bytes written so, with the letters for addresses.
-/

namespace FilterQuery.Text

/-- The value of a letter. -/
def base64Value? (c : Char) : Option Nat :=
  if 'A' ≤ c && c ≤ 'Z' then some (c.toNat - 'A'.toNat)
  else if 'a' ≤ c && c ≤ 'z' then some (c.toNat - 'a'.toNat + 26)
  else if '0' ≤ c && c ≤ '9' then some (c.toNat - '0'.toNat + 52)
  else if c = '+' then some 62
  else if c = '/' then some 63
  else none

/-- The bytes of the letters to come.  `bits` are the bits left over from the `letters` of the
current group, and `pads` the padding in it. -/
def base64From (letters pads bits : Nat) : List Char → Option (List UInt8)
  | [] => if letters = 0 then some [] else none
  | c :: rest =>
    if c = '=' then
      if 2 ≤ letters && 4 ≤ letters + pads + 1 then some []
      else base64From letters (if 2 ≤ letters then pads + 1 else pads) bits rest
    else
      match base64Value? c with
      | none => base64From letters pads bits rest
      | some value =>
        let all := bits * 64 + value
        if letters = 0 then base64From 1 0 all rest
        else if letters = 1 then (base64From 2 0 (all % 16) rest).map ((all / 16).toUInt8 :: ·)
        else if letters = 2 then (base64From 3 0 (all % 4) rest).map ((all / 4).toUInt8 :: ·)
        else (base64From 0 0 0 rest).map (all.toUInt8 :: ·)

/-- The bytes that a text writes. -/
def decodeBase64? (chars : List Char) : Option (List UInt8) :=
  base64From 0 0 0 chars

/-- The letter of a value, one that may stand in addresses. -/
def base64Letter (value : Nat) : Char :=
  if value < 26 then Char.ofNat ('A'.toNat + value)
  else if value < 52 then Char.ofNat ('a'.toNat + (value - 26))
  else if value < 62 then Char.ofNat ('0'.toNat + (value - 52))
  else if value = 62 then '-'
  else '_'

/-- The letters of bytes; the last group is filled up with padding. -/
def encodeBase64 : List UInt8 → List Char
  | [] => []
  | [a] =>
    let bits := a.toNat * 16
    [base64Letter (bits / 64), base64Letter (bits % 64), '=', '=']
  | [a, b] =>
    let bits := (a.toNat * 256 + b.toNat) * 4
    [base64Letter (bits / 4096), base64Letter (bits / 64 % 64), base64Letter (bits % 64), '=']
  | a :: b :: c :: rest =>
    let bits := (a.toNat * 256 + b.toNat) * 256 + c.toNat
    base64Letter (bits / 262144) :: base64Letter (bits / 4096 % 64)
      :: base64Letter (bits / 64 % 64) :: base64Letter (bits % 64) :: encodeBase64 rest

end FilterQuery.Text
