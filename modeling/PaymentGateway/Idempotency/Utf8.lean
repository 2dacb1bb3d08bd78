import Mathlib.Data.List.Basic

namespace PaymentGateway.Idempotency

-- `save_response` stores `response_body.decode("utf-8")` and a replay sends
-- `existing["response_body"].encode("utf-8")`: Python's strict UTF-8 codec.

-- `UTF8-tail = %x80-BF`
def isTail (b : UInt8) : Bool := 0x80 ≤ b.toNat && b.toNat ≤ 0xBF

-- The range of the byte after a three- or four-byte lead (RFC 3629 §4), which rules out
-- overlong forms, surrogates and code points above U+10FFFF.
def secondLow (lead : Nat) : Nat := if lead = 0xE0 then 0xA0 else if lead = 0xF0 then 0x90 else 0x80

def secondHigh (lead : Nat) : Nat :=
  if lead = 0xED then 0x9F else if lead = 0xF4 then 0x8F else 0xBF

def isSecond (lead : Nat) (b : UInt8) : Bool := secondLow lead ≤ b.toNat && b.toNat ≤ secondHigh lead

-- The first character of a byte string and the bytes after it; none where the strict decoder
-- raises `UnicodeDecodeError`.
def decodeChar : List UInt8 → Option (Char × List UInt8)
  | [] => none
  | b0 :: rest =>
    if b0.toNat ≤ 0x7F then some (Char.ofNat b0.toNat, rest)
    else if 0xC2 ≤ b0.toNat ∧ b0.toNat ≤ 0xDF then
      match rest with
      | b1 :: rest =>
        if isTail b1 then some (Char.ofNat ((b0.toNat - 0xC0) * 64 + (b1.toNat - 0x80)), rest)
        else none
      | [] => none
    else if 0xE0 ≤ b0.toNat ∧ b0.toNat ≤ 0xEF then
      match rest with
      | b1 :: b2 :: rest =>
        if isSecond b0.toNat b1 ∧ isTail b2 then
          some (Char.ofNat ((b0.toNat - 0xE0) * 4096 + (b1.toNat - 0x80) * 64 + (b2.toNat - 0x80)),
            rest)
        else none
      | _ => none
    else if 0xF0 ≤ b0.toNat ∧ b0.toNat ≤ 0xF4 then
      match rest with
      | b1 :: b2 :: b3 :: rest =>
        if isSecond b0.toNat b1 ∧ isTail b2 ∧ isTail b3 then
          some (Char.ofNat ((b0.toNat - 0xF0) * 262144 + (b1.toNat - 0x80) * 4096 +
            (b2.toNat - 0x80) * 64 + (b3.toNat - 0x80)), rest)
        else none
      | _ => none
    else none

-- Every character takes at least one byte, so `fuel` bytes' worth of characters suffice.
def decodeAux : Nat → List UInt8 → Option (List Char)
  | _, [] => some []
  | 0, _ :: _ => none
  | fuel + 1, bs =>
    match decodeChar bs with
    | some (c, rest) => (decodeAux fuel rest).map (c :: ·)
    | none => none

-- `bytes.decode("utf-8")`.
def decodeUtf8 (bs : List UInt8) : Option (List Char) := decodeAux bs.length bs

-- `str.encode("utf-8")` of one character.
def encodeChar (c : Char) : List UInt8 :=
  let n := c.toNat
  if n ≤ 0x7F then [UInt8.ofNat n]
  else if n ≤ 0x7FF then [UInt8.ofNat (0xC0 + n / 64), UInt8.ofNat (0x80 + n % 64)]
  else if n ≤ 0xFFFF then
    [UInt8.ofNat (0xE0 + n / 4096), UInt8.ofNat (0x80 + n / 64 % 64), UInt8.ofNat (0x80 + n % 64)]
  else
    [UInt8.ofNat (0xF0 + n / 262144), UInt8.ofNat (0x80 + n / 4096 % 64),
      UInt8.ofNat (0x80 + n / 64 % 64), UInt8.ofNat (0x80 + n % 64)]

def encodeUtf8 : List Char → List UInt8
  | [] => []
  | c :: s => encodeChar c ++ encodeUtf8 s

section Encode

variable {n : Nat}

end Encode

example : decodeUtf8 [0x68, 0xC3, 0xA9, 0xE2, 0x82, 0xAC] = some ['h', '\xe9', '€'] := by decide

example : decodeUtf8 [0xED, 0xA0, 0x80] = none := by decide

end PaymentGateway.Idempotency
