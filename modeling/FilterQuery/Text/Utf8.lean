import FilterQuery.Text.Quoted

/-!
# UTF-8

Bytes as characters.  Reading goes byte by byte; of an unfinished character the bytes so far are
held back, and each further byte has to be in the range that the first two bytes leave open.

* `decodeUtf8` — the characters of bytes, or the first place at which they are none.
* `Utf8Fault.message` — the wording of that place.
* `decodeUtf8Lossy` — the characters of bytes, with a mark in place of those that are none.
-/

namespace FilterQuery.Text

/-- Why bytes are no characters. -/
inductive Utf8Problem where
  /-- No character starts with this byte. -/
  | noStart
  /-- The next byte does not continue the character that these bytes start. -/
  | notContinued
  /-- The bytes end within a character. -/
  | unfinished
  deriving DecidableEq, Repr

/-- Bytes that are no character, and where they are. -/
structure Utf8Fault where
  octets : List UInt8
  position : Nat
  problem : Utf8Problem
  deriving DecidableEq, Repr

namespace Utf8Fault

/-- The reason of a fault. -/
def reason (fault : Utf8Fault) : String :=
  match fault.problem with
  | .noStart => "invalid start byte"
  | .notContinued => "invalid continuation byte"
  | .unfinished => "unexpected end of data"

/-- The wording of a fault: a single byte is shown, of several only the place. -/
def message (fault : Utf8Fault) : String :=
  let lead := "'utf-8' codec can't decode byte"
  let place :=
    match fault.octets with
    | [octet] =>
      " 0x" ++ String.ofList (hexDigits 2 octet.toNat) ++ " in position "
        ++ toString fault.position
    | octets =>
      "s in position " ++ toString fault.position ++ "-"
        ++ toString (fault.position + octets.length - 1)
  lead ++ place ++ ": " ++ fault.reason

end Utf8Fault

/-- The number of bytes of a character that starts with this byte; none if no character does. -/
def utf8Length? (octet : UInt8) : Option Nat :=
  if octet < 0x80 then some 1
  else if octet < 0xc2 then none
  else if octet < 0xe0 then some 2
  else if octet < 0xf0 then some 3
  else if octet < 0xf5 then some 4
  else none

/-- Whether a byte continues a character whose bytes so far are given.  The second byte may
neither make a longer form of a shorter character nor leave the code points. -/
def continuesUtf8 (held : List UInt8) (octet : UInt8) : Bool :=
  let (low, high) : UInt8 × UInt8 :=
    match held with
    | [0xe0] => (0xa0, 0xbf)
    | [0xed] => (0x80, 0x9f)
    | [0xf0] => (0x90, 0xbf)
    | [0xf4] => (0x80, 0x8f)
    | _ => (0x80, 0xbf)
  low ≤ octet && octet ≤ high

/-- The character of complete bytes. -/
def charOfUtf8 : List UInt8 → Char
  | [] => '\x00'
  | [octet] => Char.ofNat octet.toNat
  | lead :: tail =>
    let top := if tail.length = 1 then 0xc0 else if tail.length = 2 then 0xe0 else 0xf0
    Char.ofNat (tail.foldl (fun n octet => n * 64 + (octet.toNat - 0x80)) (lead.toNat - top))

/-- The characters of bytes.  `position` is the place of the next byte and `held` are the bytes of
an unfinished character.  Bytes that are still held back at the end count from zero. -/
def decodeUtf8From (position : Nat) (held : List UInt8) :
    List UInt8 → Except Utf8Fault (List Char)
  | [] => if held.isEmpty then .ok [] else .error ⟨held, 0, .unfinished⟩
  | octet :: rest =>
    match held with
    | [] =>
      match utf8Length? octet with
      | none => .error ⟨[octet], position, .noStart⟩
      | some 1 => (decodeUtf8From (position + 1) [] rest).map (charOfUtf8 [octet] :: ·)
      | some _ => decodeUtf8From (position + 1) [octet] rest
    | lead :: _ =>
      if continuesUtf8 held octet then
        let known := held ++ [octet]
        if utf8Length? lead = some known.length then
          (decodeUtf8From (position + 1) [] rest).map (charOfUtf8 known :: ·)
        else decodeUtf8From (position + 1) known rest
      else .error ⟨held, position - held.length, .notContinued⟩

/-- The characters of bytes. -/
def decodeUtf8 (octets : List UInt8) : Except Utf8Fault (List Char) :=
  decodeUtf8From 0 [] octets

/-! ## Reading what is there -/

/-- The mark in place of bytes that are no character. -/
def replacementMark : Char := '\ufffd'

/-- What the first byte of a character gives: characters, and bytes to hold back. -/
def startUtf8 (octet : UInt8) : List Char × List UInt8 :=
  match utf8Length? octet with
  | none => ([replacementMark], [])
  | some 1 => ([charOfUtf8 [octet]], [])
  | some _ => ([], [octet])

/-- What a further byte gives.  Held bytes that it does not continue get one mark together. -/
def stepUtf8 (held : List UInt8) (octet : UInt8) : List Char × List UInt8 :=
  match held with
  | [] => startUtf8 octet
  | lead :: _ =>
    if continuesUtf8 held octet then
      let known := held ++ [octet]
      if utf8Length? lead = some known.length then ([charOfUtf8 known], []) else ([], known)
    else
      let (chars, later) := startUtf8 octet
      (replacementMark :: chars, later)

/-- The characters of bytes that follow the held ones. -/
def decodeUtf8LossyFrom (held : List UInt8) : List UInt8 → List Char
  | [] => if held.isEmpty then [] else [replacementMark]
  | octet :: rest =>
    let (chars, later) := stepUtf8 held octet
    chars ++ decodeUtf8LossyFrom later rest

/-- The characters of bytes, with a mark in place of those that are none. -/
def decodeUtf8Lossy (octets : List UInt8) : List Char :=
  decodeUtf8LossyFrom [] octets

end FilterQuery.Text
