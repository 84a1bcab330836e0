import RamUsb.Go.Str

/-!
# `encoding/hex` and `encoding/base64`

The Vault stores an e-mail salt as lower-case hex (`hex.EncodeToString`) and the
ciphertext in standard padded base64 (`base64.StdEncoding.EncodeToString`), and decodes
both when it decrypts. Both codecs work on bytes:

* `hexEncode` writes two digits of `0123456789abcdef` per byte; `hexDecode` reads pairs of
  digits in either case and fails on an odd length or a byte that is no digit, naming the
  byte as `fmt`'s `%#U` does (`encoding/hex: invalid byte: U+0067 'g'`);
* `base64Encode` writes four characters of the standard alphabet per three bytes, padding
  the last group with `=`; `base64Decode` is `Decode`'s loop of `decodeQuantum` calls, read
  one input byte at a time: it skips `\r` and `\n`, reads groups of four with padding only
  in the last one, and reports the offset `CorruptInputError` names
  (`illegal base64 data at input byte 4`).

The round trips `hexDecode_hexEncode` and `base64Decode_base64Encode` are what decryption
relies on.
-/

namespace RamUsb.Go

/-- A Go `[]byte`. -/
abbrev Bytes := List UInt8

theorem ofNat_toNat (b : UInt8) : UInt8.ofNat b.toNat = b := by
  apply UInt8.eq_of_toBitVec_eq
  simp [UInt8.ofNat, UInt8.toNat]

theorem toNat_lt (b : UInt8) : b.toNat < 256 := b.toBitVec.isLt

theorem ofNat_eq_of_toNat {b : UInt8} {n : Nat} (h : n = b.toNat) : UInt8.ofNat n = b :=
  h ▸ ofNat_toNat b

/-! ### Hex -/

/-- The digits `hex.EncodeToString` writes. -/
def hexTable : List UInt8 := lit "0123456789abcdef"

/-- `hex.EncodeToString(src)`. -/
def hexEncode (src : Bytes) : Str :=
  src.flatMap fun b => [hexTable.getD (b.toNat / 16) 0, hexTable.getD (b.toNat % 16) 0]

/-- The value of one hex digit, in either case. -/
def fromHexChar (c : UInt8) : Option Nat :=
  if 48 ≤ c ∧ c ≤ 57 then some (c.toNat - 48)
  else if 97 ≤ c ∧ c ≤ 102 then some (c.toNat - 87)
  else if 65 ≤ c ∧ c ≤ 70 then some (c.toNat - 55)
  else none

/-- The digits `fmt` writes for `%X` and `%U`. -/
def upperHexTable : List UInt8 := lit "0123456789ABCDEF"

/-- `strconv.IsPrint` of a rune below `0x100`. -/
def isPrintLatin1 (b : UInt8) : Bool := (32 ≤ b && b ≤ 126) || (161 ≤ b && b != 173)

/-- The UTF-8 encoding of a rune below `0x100`. -/
def utf8Latin1 (b : UInt8) : Str :=
  if b < 128 then [b] else [UInt8.ofNat (192 + b.toNat / 64), UInt8.ofNat (128 + b.toNat % 64)]

/-- `fmt.Sprintf("%#U", rune(b))`: `U+` and four upper-case hex digits, then the character
in single quotes when it is printable. -/
def sharpU (b : UInt8) : Str :=
  lit "U+00" ++ [upperHexTable.getD (b.toNat / 16) 0, upperHexTable.getD (b.toNat % 16) 0] ++
    if isPrintLatin1 b then lit " '" ++ utf8Latin1 b ++ lit "'" else []

/-- `hex.InvalidByteError(b).Error()`. -/
def errInvalidByte (b : UInt8) : Str := lit "encoding/hex: invalid byte: " ++ sharpU b

/-- `hex.ErrLength`. -/
def errLength : Str := lit "encoding/hex: odd length hex string"

/-- `hex.DecodeString(s)`: pairs of digits, the first of a pair checked first; a lone last
digit is checked before the length is reported. -/
def hexDecode : Str → Except Str Bytes
  | [] => .ok []
  | [c] => .error (if fromHexChar c = none then errInvalidByte c else errLength)
  | a :: b :: rest =>
    match fromHexChar a, fromHexChar b with
    | some x, some y => (hexDecode rest).map (UInt8.ofNat (x * 16 + y) :: ·)
    | none, _ => .error (errInvalidByte a)
    | some _, none => .error (errInvalidByte b)

theorem fromHexChar_hexTable_fin : ∀ n : Fin 16, fromHexChar (hexTable.getD n.val 0) = some n.val := by
  decide

theorem fromHexChar_hexTable {n : Nat} (h : n < 16) : fromHexChar (hexTable.getD n 0) = some n :=
  fromHexChar_hexTable_fin ⟨n, h⟩

/-- **Hex round trip.** -/
theorem hexDecode_hexEncode (src : Bytes) : hexDecode (hexEncode src) = .ok src := by
  induction src with
  | nil => rfl
  | cons b bs ih =>
    have hb := toNat_lt b
    have hi := fromHexChar_hexTable (n := b.toNat / 16) (by omega)
    have hj := fromHexChar_hexTable (n := b.toNat % 16) (by omega)
    simp only [hexEncode, List.flatMap_cons, List.cons_append, List.nil_append] at ih ⊢
    simp only [hexDecode, hi, hj, ih, Except.map]
    rw [ofNat_eq_of_toNat (b := b) (by omega)]

example : hexEncode [171, 1] = lit "ab01" := by decide

example : hexDecode (lit "abc") = .error errLength := rfl

example : hexDecode (lit "0z") = .error (lit "encoding/hex: invalid byte: U+007A 'z'") := rfl

/-! ### Base64 -/

/-- The alphabet of `base64.StdEncoding`. -/
def base64Alphabet : List UInt8 :=
  lit "ABCDEFGHIJKLMNOPQRSTUVWXYZabcdefghijklmnopqrstuvwxyz0123456789+/"

/-- The character of a six-bit value. -/
def encodeChar (n : Nat) : UInt8 := base64Alphabet.getD n 0

/-- `=`, the padding of `StdEncoding`. -/
def pad : UInt8 := 61

/-- `base64.StdEncoding.EncodeToString(src)`. -/
def base64Encode : Bytes → Str
  | [] => []
  | [a] => [encodeChar (a.toNat / 4), encodeChar (a.toNat % 4 * 16), pad, pad]
  | [a, b] =>
    [encodeChar (a.toNat / 4), encodeChar (a.toNat % 4 * 16 + b.toNat / 16),
      encodeChar (b.toNat % 16 * 4), pad]
  | a :: b :: c :: rest =>
    [encodeChar (a.toNat / 4), encodeChar (a.toNat % 4 * 16 + b.toNat / 16),
      encodeChar (b.toNat % 16 * 4 + c.toNat / 64), encodeChar (c.toNat % 64)] ++
      base64Encode rest

/-- The six-bit value of a character of the alphabet. -/
def decodeChar (c : UInt8) : Option Nat :=
  if 65 ≤ c ∧ c ≤ 90 then some (c.toNat - 65)
  else if 97 ≤ c ∧ c ≤ 122 then some (c.toNat - 71)
  else if 48 ≤ c ∧ c ≤ 57 then some (c.toNat + 4)
  else if c = 43 then some 62
  else if c = 47 then some 63
  else none

/-- `base64.CorruptInputError(offset).Error()`. -/
def errCorrupt (offset : Nat) : Str := lit "illegal base64 data at input byte " ++ itoa offset

/-- Where `decodeQuantum` stands in a group: reading its digits, after the first `=` of a
`==` in the third place, or past the padding. -/
inductive Base64Mode
  | digits
  | secondPad
  | padded

/-- The bytes of a group of two, three or four digits. -/
def quantumBytes : List Nat → Bytes
  | [v1, v2, v3, v4] =>
    [UInt8.ofNat (v1 * 4 + v2 / 16), UInt8.ofNat (v2 % 16 * 16 + v3 / 4),
      UInt8.ofNat (v3 % 4 * 64 + v4)]
  | [v1, v2, v3] => [UInt8.ofNat (v1 * 4 + v2 / 16), UInt8.ofNat (v2 % 16 * 16 + v3 / 4)]
  | [v1, v2] => [UInt8.ofNat (v1 * 4 + v2 / 16)]
  | _ => []

/-- `Decode`'s loop of `decodeQuantum` calls, one input byte at a time: `si` is the offset
of the byte, `vals` the digits of the current group; the result is the decoded bytes, or the
offset `CorruptInputError` reports. A line break is skipped anywhere; a byte that is neither
a digit nor `=` is reported where it stands, and so is an `=` among the first two of a
group; after `=` in the third place a second `=` must follow, else the offset before the
byte found, or the input's length when there is none; past the padding only line breaks
may follow, else the first other byte is reported; and a group cut short by the end of the
input is reported at its start, the input's length less its digits. -/
def decodeFrom (si : Nat) (vals : List Nat) : Base64Mode → Str → Except Nat Bytes
  | .digits, [] => if vals = [] then .ok [] else .error (si - vals.length)
  | .secondPad, [] => .error si
  | .padded, [] => .ok []
  | mode, c :: rest =>
    if c = 10 ∨ c = 13 then decodeFrom (si + 1) vals mode rest
    else match mode with
    | .digits =>
      match decodeChar c with
      | some v =>
        if vals.length = 3 then
          (decodeFrom (si + 1) [] .digits rest).map (quantumBytes (vals ++ [v]) ++ ·)
        else decodeFrom (si + 1) (vals ++ [v]) .digits rest
      | none =>
        if c ≠ pad ∨ vals.length < 2 then .error si
        else if vals.length = 2 then decodeFrom (si + 1) vals .secondPad rest
        else (decodeFrom (si + 1) vals .padded rest).map (quantumBytes vals ++ ·)
    | .secondPad =>
      if c = pad then (decodeFrom (si + 1) vals .padded rest).map (quantumBytes vals ++ ·)
      else .error (si - 1)
    | .padded => .error si

/-- `base64.StdEncoding.DecodeString(s)`. -/
def base64Decode (s : Str) : Except Str Bytes := (decodeFrom 0 [] .digits s).mapError errCorrupt

/-- Each character of the alphabet decodes to its index and is no line break. -/
theorem encodeChar_fin : ∀ n : Fin 64,
    decodeChar (encodeChar n.val) = some n.val ∧ encodeChar n.val ≠ 10 ∧ encodeChar n.val ≠ 13 := by
  decide

theorem decodeChar_encodeChar {n : Nat} (h : n < 64) : decodeChar (encodeChar n) = some n :=
  (encodeChar_fin ⟨n, h⟩).1

theorem encodeChar_not_break {n : Nat} (h : n < 64) : encodeChar n ≠ 10 ∧ encodeChar n ≠ 13 :=
  (encodeChar_fin ⟨n, h⟩).2

/-! Each byte an encoding holds moves `decodeFrom` by one step. -/

@[simp] theorem decodeFrom_digit {n : Nat} (h : n < 64) (si : Nat) (vals : List Nat) (rest : Str) :
    decodeFrom si vals .digits (encodeChar n :: rest) =
      if vals.length = 3 then
        (decodeFrom (si + 1) [] .digits rest).map (quantumBytes (vals ++ [n]) ++ ·)
      else decodeFrom (si + 1) (vals ++ [n]) .digits rest := by
  obtain ⟨h10, h13⟩ := encodeChar_not_break h
  simp only [decodeFrom, h10, h13, or_self, if_false, decodeChar_encodeChar h]

@[simp] theorem decodeFrom_pad_third (si v1 v2 : Nat) (rest : Str) :
    decodeFrom si [v1, v2] .digits (pad :: rest) = decodeFrom (si + 1) [v1, v2] .secondPad rest :=
  rfl

@[simp] theorem decodeFrom_pad_second (si : Nat) (vals : List Nat) (rest : Str) :
    decodeFrom si vals .secondPad (pad :: rest) =
      (decodeFrom (si + 1) vals .padded rest).map (quantumBytes vals ++ ·) := rfl

@[simp] theorem decodeFrom_pad_fourth (si v1 v2 v3 : Nat) (rest : Str) :
    decodeFrom si [v1, v2, v3] .digits (pad :: rest) =
      (decodeFrom (si + 1) [v1, v2, v3] .padded rest).map (quantumBytes [v1, v2, v3] ++ ·) := rfl

@[simp] theorem decodeFrom_padded_nil (si : Nat) (vals : List Nat) :
    decodeFrom si vals .padded [] = .ok [] := rfl

/-- Decoding an encoding from the start of a group gives the bytes back. -/
theorem decodeFrom_base64Encode (src : Bytes) :
    ∀ si, decodeFrom si [] .digits (base64Encode src) = .ok src := by
  induction src using base64Encode.induct with
  | case1 => intro si; rfl
  | case2 a =>
    intro si
    have ha := toNat_lt a
    simp [base64Encode, decodeFrom_digit (show a.toNat / 4 < 64 by omega),
      decodeFrom_digit (show a.toNat % 4 * 16 < 64 by omega), quantumBytes, Except.map]
    exact ofNat_eq_of_toNat (by omega)
  | case3 a b =>
    intro si
    have ha := toNat_lt a
    have hb := toNat_lt b
    simp [base64Encode, decodeFrom_digit (show a.toNat / 4 < 64 by omega),
      decodeFrom_digit (show a.toNat % 4 * 16 + b.toNat / 16 < 64 by omega),
      decodeFrom_digit (show b.toNat % 16 * 4 < 64 by omega), quantumBytes, Except.map]
    exact ⟨ofNat_eq_of_toNat (by omega), ofNat_eq_of_toNat (by omega)⟩
  | case4 a b c rest ih =>
    intro si
    have ha := toNat_lt a
    have hb := toNat_lt b
    have hc := toNat_lt c
    simp [base64Encode, decodeFrom_digit (show a.toNat / 4 < 64 by omega),
      decodeFrom_digit (show a.toNat % 4 * 16 + b.toNat / 16 < 64 by omega),
      decodeFrom_digit (show b.toNat % 16 * 4 + c.toNat / 64 < 64 by omega),
      decodeFrom_digit (show c.toNat % 64 < 64 by omega), ih, quantumBytes, Except.map]
    exact ⟨ofNat_eq_of_toNat (by omega), ofNat_eq_of_toNat (by omega), ofNat_eq_of_toNat (by omega)⟩

/-- **Base64 round trip.** -/
theorem base64Decode_base64Encode (src : Bytes) : base64Decode (base64Encode src) = .ok src := by
  rw [base64Decode, decodeFrom_base64Encode]
  rfl

example : base64Encode (lit "Ma") = lit "TWE=" := by decide

example : base64Decode (lit "TW\nFu") = .ok (lit "Man") := rfl

example : base64Decode (lit "TWE=x") = .error (lit "illegal base64 data at input byte 4") := rfl

end RamUsb.Go
