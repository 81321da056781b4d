import Mathlib.Data.List.Basic

/-! Bytes as text and text as bytes: base64, and UTF-8. Both are written strictly
and read leniently. A base64 text may use either alphabet, ends at the first
`=`, and has whatever belongs to no alphabet ignored; a sequence of bytes that
is no UTF-8 is read as replacement characters. The reader of base64 looks at the
low byte of each UTF-16 unit, so a character outside of Latin-1 may pass for
one of the alphabet.

`decode_encode` and `decode_ascii` say that leniency costs nothing: what was
written is what is read. -/
namespace EmissionsPlatform
set_option autoImplicit false

namespace Base64

def alphabet : List Char := "ABCDEFGHIJKLMNOPQRSTUVWXYZabcdefghijklmnopqrstuvwxyz0123456789+/".toList

/-- The character of six bits. -/
def digit (bits : Nat) : Char := alphabet.getD bits '='

/-- The six bits of a character, in the common alphabet or the one for URLs. -/
def sextet (character : Char) : Option Nat :=
  if character = '-' then some 62
  else if character = '_' then some 63
  else alphabet.findIdx? (· == character)

/-- Three bytes as four characters, the last group filled up. -/
def encode : List UInt8 → List Char
  | [] => []
  | [a] => [digit (a.toNat / 4), digit (a.toNat % 4 * 16), '=', '=']
  | [a, b] =>
    [digit (a.toNat / 4), digit (a.toNat % 4 * 16 + b.toNat / 16), digit (b.toNat % 16 * 4), '=']
  | a :: b :: c :: rest =>
    digit (a.toNat / 4) :: digit (a.toNat % 4 * 16 + b.toNat / 16) ::
      digit (b.toNat % 16 * 4 + c.toNat / 64) :: digit (c.toNat % 64) :: encode rest

/-- Four groups of six bits as three bytes. Bits that fill no byte are lost. -/
def bytes : List Nat → List UInt8
  | a :: b :: c :: d :: rest =>
    UInt8.ofNat (a * 4 + b / 16) :: UInt8.ofNat (b % 16 * 16 + c / 4) :: UInt8.ofNat (c % 4 * 64 + d) ::
      bytes rest
  | [a, b, c] => [UInt8.ofNat (a * 4 + b / 16), UInt8.ofNat (b % 16 * 16 + c / 4)]
  | [a, b] => [UInt8.ofNat (a * 4 + b / 16)]
  | [_] | [] => []

/-- The UTF-16 units of a character. -/
def units (character : Char) : List Nat :=
  if character.toNat < 0x10000 then [character.toNat]
  else [0xD800 + (character.toNat - 0x10000) / 0x400, 0xDC00 + (character.toNat - 0x10000) % 0x400]

/-- The low bytes of the units of a text, as characters. -/
def lowBytes (text : List Char) : List Char :=
  text.flatMap fun character => (units character).map fun unit => Char.ofNat (unit % 256)

/-- What a text says before it is filled up. -/
def sextets (text : List Char) : List Nat := ((lowBytes text).takeWhile (· != '=')).filterMap sextet

/-- `Buffer.from(text, "base64")`. -/
def decode (text : List Char) : List UInt8 := bytes (sextets text)

theorem digit_read {bits : Nat} (small : bits < 64) :
    lowBytes [digit bits] = [digit bits] ∧ sextet (digit bits) = some bits ∧ digit bits ≠ '=' := by
  revert bits
  decide +kernel

theorem lowBytes_cons (head : Char) (tail : List Char) :
    lowBytes (head :: tail) = lowBytes [head] ++ lowBytes tail := by
  rw [lowBytes, List.flatMap_cons, lowBytes, List.flatMap_singleton, lowBytes]

/-- Reading on behind a written digit. -/
theorem sextets_digit {bits : Nat} (small : bits < 64) (rest : List Char) :
    sextets (digit bits :: rest) = bits :: sextets rest := by
  obtain ⟨own, reads, notFill⟩ := digit_read small
  rw [sextets, lowBytes_cons, own, List.singleton_append, List.takeWhile_cons_of_pos (by simpa using notFill),
    List.filterMap_cons_some reads, sextets]

theorem sextets_fill (rest : List Char) : sextets ('=' :: rest) = [] := rfl

private theorem ofNat_eq (byte : UInt8) {value : Nat} (same : value = byte.toNat) : UInt8.ofNat value = byte := by
  rw [same, UInt8.ofNat_toNat]

/-- **What was written is what is read.** -/
theorem decode_encode (written : List UInt8) : decode (encode written) = written := by
  induction written using encode.induct with
  | case1 => rfl
  | case2 a =>
    have below := a.toNat_lt
    rw [encode, decode, sextets_digit (by omega), sextets_digit (by omega), sextets_fill, bytes,
      ofNat_eq a (by omega)]
  | case3 a b =>
    have belowA := a.toNat_lt
    have belowB := b.toNat_lt
    rw [encode, decode, sextets_digit (by omega), sextets_digit (by omega), sextets_digit (by omega),
      sextets_fill, bytes, ofNat_eq a (by omega), ofNat_eq b (by omega)]
  | case4 a b c rest ih =>
    have belowA := a.toNat_lt
    have belowB := b.toNat_lt
    have belowC := c.toNat_lt
    rw [encode, decode, sextets_digit (by omega), sextets_digit (by omega), sextets_digit (by omega),
      sextets_digit (by omega), bytes, ofNat_eq a (by omega), ofNat_eq b (by omega),
      ofNat_eq c (by omega), ← decode, ih]

-- The low byte of U+0161 is an `a`, so that this reads `id:`.
example : decode "šWQ6".toList = [105, 100, 58] := by decide

end Base64

namespace Utf8

/-- A character whose first bytes have been read: its bits so far, the bytes it
still takes, and the range the next one must lie in. -/
structure Sequence where
  bits : Nat
  owed : Nat
  lower : Nat
  upper : Nat

def replacement : Char := Char.ofNat 0xFFFD

/-- A byte that begins a character. -/
def first (byte : Nat) : List Char × Option Sequence :=
  if byte < 0x80 then ([Char.ofNat byte], none)
  else if 0xC2 ≤ byte ∧ byte ≤ 0xDF then ([], some ⟨byte - 0xC0, 1, 0x80, 0xBF⟩)
  else if 0xE0 ≤ byte ∧ byte ≤ 0xEF then
    ([], some ⟨byte - 0xE0, 2, if byte = 0xE0 then 0xA0 else 0x80, if byte = 0xED then 0x9F else 0xBF⟩)
  else if 0xF0 ≤ byte ∧ byte ≤ 0xF4 then
    ([], some ⟨byte - 0xF0, 3, if byte = 0xF0 then 0x90 else 0x80, if byte = 0xF4 then 0x8F else 0xBF⟩)
  else ([replacement], none)

/-- The characters one more byte completes. A byte that cannot go on a
character begins another. -/
def next (pending : Option Sequence) (byte : Nat) : List Char × Option Sequence :=
  match pending with
  | none => first byte
  | some sequence =>
    if sequence.lower ≤ byte ∧ byte ≤ sequence.upper then
      let bits := sequence.bits * 64 + (byte - 0x80)
      if sequence.owed = 1 then ([Char.ofNat bits], none)
      else ([], some ⟨bits, sequence.owed - 1, 0x80, 0xBF⟩)
    else
      let (characters, pending) := first byte
      (replacement :: characters, pending)

def decodeFrom (pending : Option Sequence) : List UInt8 → List Char
  | [] => if pending.isSome then [replacement] else []
  | byte :: rest =>
    let (characters, pending) := next pending byte.toNat
    characters ++ decodeFrom pending rest

/-- `buffer.toString("utf8")`. -/
def decode : List UInt8 → List Char := decodeFrom none

/-- `Buffer.from(text, "utf8")`. -/
def encode (text : List Char) : List UInt8 := text.flatMap String.utf8EncodeChar

theorem encode_cons {head : Char} (ascii : head.toNat < 128) (tail : List Char) :
    encode (head :: tail) = UInt8.ofNat head.toNat :: encode tail := by
  have small : head.val.toNat ≤ 0x7F := by
    change head.toNat ≤ 127
    omega
  simp only [encode, List.flatMap_cons, String.utf8EncodeChar, small, ↓reduceIte, List.singleton_append]
  rfl

/-- ASCII characters are their own bytes. -/
theorem decode_ascii {text : List Char} (ascii : ∀ character ∈ text, character.toNat < 128) :
    decode (encode text) = text := by
  induction text with
  | nil => rfl
  | cons head tail ih =>
    obtain ⟨small, later⟩ := List.forall_mem_cons.mp ascii
    have byte : (UInt8.ofNat head.toNat).toNat = head.toNat := by
      rw [UInt8.toNat_ofNat']
      exact Nat.mod_eq_of_lt (by omega)
    rw [encode_cons small, decode, decodeFrom, next, byte, first, if_pos small]
    simp only [Char.ofNat_toNat, List.singleton_append, List.cons.injEq, true_and]
    exact ih later

end Utf8

end EmissionsPlatform
