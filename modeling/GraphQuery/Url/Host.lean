import GraphQuery.Decimal.Layout
import GraphQuery.Decimal.Numeral
import GraphQuery.Text.Joined
import GraphQuery.Url.Domain
import GraphQuery.Url.Percent
import GraphQuery.Url.Problem

/-
This file reads the hosts of URLs.
-/

namespace GraphQuery.Url.Host

def numeral? (base : Nat) (digits : List Char) : Option Nat :=
  digits.foldl
    (fun value digit => do
      let place ← Text.Hexadecimal.charValue? digit
      if place < base then return base * (← value) + place else none)
    (some 0)

/-- A part of an address is decimal, octal after a zero or hexadecimal after `0x`. -/
def ipv4Part? : List Char → Option Nat
  | [] => none
  | ['0'] => some 0
  | '0' :: mark :: digits =>
    if mark = 'x' ∨ mark = 'X' then numeral? 16 digits else numeral? 8 (mark :: digits)
  | digits => numeral? 10 digits

/-- The parts of a host between dots; a dot at the end closes the last part. -/
def parts (host : List Char) : List (List Char) :=
  let parts := Text.pieces '.' host
  if 1 < parts.length ∧ parts.getLast? = some [] then parts.dropLast else parts

/-- A host whose last part is a number is an address. -/
def endsInNumber (host : List Char) : Bool :=
  match (parts host).getLast? with
  | none => false
  | some last => !last.isEmpty && (last.all Char.isDigit || (ipv4Part? last).isSome)

/-- The last part fills all bytes that the parts before it leave. -/
def ipv4? (host : List Char) : Option Nat := do
  let numbers ← (parts host).mapM ipv4Part?
  let last ← numbers.getLast?
  let before := numbers.dropLast
  if before.length < 4 ∧ before.all (· < 256) ∧ last < Nat.pow 256 (4 - before.length) then
    return before.zipIdx.foldl (fun sum (part, index) => sum + part * Nat.pow 256 (3 - index)) last
  else none

def ipv4Chars (address : Nat) : List Char :=
  Text.joined ['.']
    ([3, 2, 1, 0].map fun place => Decimal.digitChars (address / Nat.pow 256 place % 256))

/-- Four decimal parts without leading zeros make the last two groups of a longer address. -/
def embeddedIpv4? (text : List Char) : Option (List Nat) := do
  let parts ← (Text.pieces '.' text).mapM fun part =>
    if part.all Char.isDigit ∧ part ≠ [] ∧ (part.head? ≠ some '0' ∨ part = ['0']) ∧
        Decimal.digitsValue part < 256 then some (Decimal.digitsValue part) else none
  match parts with
  | [first, second, third, fourth] => some [256 * first + second, 256 * third + fourth]
  | _ => none

/-- The groups of one side of a double colon. -/
def ipv6Groups? : List (List Char) → Option (List Nat)
  | [] => some []
  | [last] =>
    if '.' ∈ last then embeddedIpv4? last
    else if last.length ≤ 4 ∧ last ≠ [] then (numeral? 16 last).map ([·]) else none
  | group :: rest => do
    if group.length ≤ 4 ∧ group ≠ [] then
      return (← numeral? 16 group) :: (← ipv6Groups? rest)
    else none

def sideGroups? (text : List Char) : Option (List Nat) :=
  if text.isEmpty then some [] else ipv6Groups? (Text.pieces ':' text)

/-- The text is cut at the first double colon. -/
def splitDoubleColon : List Char → Option (List Char × List Char)
  | ':' :: ':' :: rest => some ([], rest)
  | char :: rest => (splitDoubleColon rest).map fun (before, after) => (char :: before, after)
  | [] => none

/-- Eight groups, or fewer on both sides of a double colon that stands for zeros.
An address of dotted parts stands only at the end. -/
def ipv6? (text : List Char) : Option (List Nat) :=
  match splitDoubleColon text with
  | none => (sideGroups? text).filter (·.length == 8)
  | some (before, after) => do
    if '.' ∈ before then none
    else
      let first ← sideGroups? before
      let last ← sideGroups? after
      let count := first.length + last.length
      if count < 8 then return first ++ List.replicate (8 - count) 0 ++ last else none

/-- The start and the length of the first longest run of zeros. -/
def longestZeros (groups : List Nat) : Nat × Nat :=
  let lengths := (List.range groups.length).map fun start =>
    (start, ((groups.drop start).takeWhile (· == 0)).length)
  lengths.foldl (fun best run => if best.2 < run.2 then run else best) (0, 0)

def groupsChars (groups : List Nat) : List Char :=
  Text.joined [':'] (groups.map (Nat.toDigits 16))

/-- A run of at least two zeros is left out. -/
def ipv6Chars (groups : List Nat) : List Char :=
  let (start, length) := longestZeros groups
  let content :=
    if length < 2 then groupsChars groups
    else groupsChars (groups.take start) ++ [':', ':'] ++ groupsChars (groups.drop (start + length))
  '[' :: content ++ [']']

def domain (host : List Char) : Except UrlProblem (List Char) :=
  match (percentDecode? host).bind Domain.ascii? with
  | none => .error .invalidDomain
  | some ascii => if ascii.isEmpty then .error .emptyHost else .ok ascii

def bracketed (content : List Char) : Except UrlProblem (List Char) :=
  if content.getLast? = some ']' then
    match ipv6? content.dropLast with
    | some groups => .ok (ipv6Chars groups)
    | none => .error .invalidIpv6
  else .error .invalidIpv6

/-- The written form of the host of a special scheme. -/
def read (host : List Char) : Except UrlProblem (List Char) :=
  match host with
  | '[' :: content => bracketed content
  | _ => do
    let ascii ← domain host
    if endsInNumber ascii then
      match ipv4? ascii with
      | some address => return ipv4Chars address
      | none => throw .invalidIpv4
    else return ascii

/-- These characters end or confuse the host of a URL. -/
def isForbidden (char : Char) : Bool :=
  char ∈ ['\x00', '\t', '\n', '\r', ' ', '#', '/', ':', '<', '>', '?', '@', '[', '\\', ']', '^',
    '|']

/-- The hosts of other schemes keep their characters. -/
def readOpen (host : List Char) : Except UrlProblem (List Char) :=
  match host with
  | '[' :: content => bracketed content
  | _ =>
    if host.any isForbidden then .error .invalidHostCharacter
    else .ok (percentEncode [] host).toList

end GraphQuery.Url.Host
