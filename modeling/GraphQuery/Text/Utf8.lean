/-
This file reads characters from their UTF-8 bytes.
-/

namespace GraphQuery.Text.Utf8

def isTail (byte : UInt8) : Bool := 0x80 ≤ byte && byte ≤ 0xBF

def tailBits (byte : UInt8) : Nat := byte.toNat % 64

/-- The first character and the number of its bytes.
Overlong forms, surrogates and codes above U+10FFFF are refused. -/
def decode? : List UInt8 → Option (Char × Nat)
  | [] => none
  | first :: rest =>
    if first < 0x80 then some (Char.ofNat first.toNat, 1)
    else match rest with
      | [] => none
      | second :: rest =>
        if 0xC2 ≤ first && first ≤ 0xDF && isTail second then
          some (Char.ofNat (first.toNat % 32 * 64 + tailBits second), 2)
        else match rest with
          | [] => none
          | third :: rest =>
            if 0xE0 ≤ first && first ≤ 0xEF && isTail second && isTail third &&
                (first != 0xE0 || 0xA0 ≤ second) && (first != 0xED || second ≤ 0x9F) then
              some (Char.ofNat ((first.toNat % 16 * 64 + tailBits second) * 64 + tailBits third), 3)
            else match rest with
              | [] => none
              | fourth :: _ =>
                if 0xF0 ≤ first && first ≤ 0xF4 && isTail second && isTail third &&
                    isTail fourth && (first != 0xF0 || 0x90 ≤ second) &&
                    (first != 0xF4 || second ≤ 0x8F) then
                  some (Char.ofNat (((first.toNat % 8 * 64 + tailBits second) * 64 +
                    tailBits third) * 64 + tailBits fourth), 4)
                else none

/-- The characters that the bytes spell; where they spell none, the number of bytes from the first
wrong one on is the alternative. -/
def characters : List UInt8 → Except Nat (List Char)
  | [] => .ok []
  | first :: rest =>
    match decode? (first :: rest.take 3) with
    | none => .error (rest.length + 1)
    | some (char, count) => do return char :: (← characters (rest.drop (count - 1)))
termination_by bytes => bytes.length
decreasing_by simp only [List.length_drop, List.length_cons]; omega

def bytes (text : String) : List UInt8 := text.toUTF8.toList

end GraphQuery.Text.Utf8
