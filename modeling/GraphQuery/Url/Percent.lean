import GraphQuery.Text.Hexadecimal
import GraphQuery.Text.Utf8

/-
This file writes characters that a URL cannot hold as bytes.
-/

namespace GraphQuery.Url

/-- The two digits of a byte in capitals after a percent sign. -/
def percentByte (byte : UInt8) : List Char :=
  ['%', Text.Hexadecimal.digit (byte.toNat / 16), Text.Hexadecimal.digit (byte.toNat % 16)]

/-- Controls and all characters beyond ASCII are encoded everywhere. -/
def percentEncode (reserved : List Char) (text : List Char) : String :=
  String.ofList (text.flatMap fun char =>
    if char.toNat < 0x20 ∨ 0x7E < char.toNat ∨ char ∈ reserved then
      (Text.Utf8.bytes (String.singleton char)).flatMap percentByte
    else [char])

def fragmentReserved : List Char := [' ', '"', '<', '>', Char.ofNat 0x60]

def pathReserved : List Char := fragmentReserved ++ ['#', '?', '{', '}']

def credentialReserved : List Char :=
  pathReserved ++ ['/', ':', ';', '=', '@', '[', '\\', ']', '^', '|']

def queryReserved (special : Bool) : List Char :=
  [' ', '"', '#', '<', '>'] ++ if special then ['\''] else []

/-- A percent sign without two digits after it stands for itself. -/
def percentBytes : List UInt8 → List UInt8
  | 0x25 :: high :: low :: rest =>
    match Text.Hexadecimal.number? [high, low] with
    | some value => UInt8.ofNat value :: percentBytes rest
    | none => 0x25 :: percentBytes (high :: low :: rest)
  | byte :: rest => byte :: percentBytes rest
  | [] => []

/-- The characters that percent-encoded bytes spell; `none` means that they spell none. -/
def percentDecode? (text : List Char) : Option (List Char) :=
  (Text.Utf8.characters (percentBytes (Text.Utf8.bytes (String.ofList text)))).toOption

end GraphQuery.Url
