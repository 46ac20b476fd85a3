import ResourceServer.Number.Shortest
import ResourceServer.Url.Domain.Label
import ResourceServer.Url.Percent
/-! Hosts of URLs: domains and addresses. -/

namespace ResourceServer.Url

/-- Why a text is no URL. -/
inductive UrlError
  | emptyHost
  | invalidDomain
  | invalidPort
  | invalidIpv4
  | invalidIpv6
  | invalidHostCharacter
  | relativeWithoutBase
  | relativeWithRootlessBase
  deriving DecidableEq

namespace UrlError

def message : UrlError → String
  | .emptyHost => "empty host"
  | .invalidDomain => "invalid international domain name"
  | .invalidPort => "invalid port number"
  | .invalidIpv4 => "invalid IPv4 address"
  | .invalidIpv6 => "invalid IPv6 address"
  | .invalidHostCharacter => "invalid domain character"
  | .relativeWithoutBase => "relative URL without a base"
  | .relativeWithRootlessBase => "relative URL with a cannot-be-a-base base"

end UrlError

namespace Host

/-- Characters that no host may hold. -/
def isForbidden (c : Char) : Bool :=
  ['\x00', '\t', '\n', '\r', ' ', '#', '/', ':', '<', '>', '?', '@', '[', '\\', ']', '^', '|'].contains c

/-- Characters that no domain may hold. -/
def isForbiddenInDomain (c : Char) : Bool :=
  isForbidden c || c.toNat < 32 || c = '%' || c = '\x7f'

/-- A domain in lower case and in ASCII. -/
def readDomain (text : List Char) : Except UrlError (List Char) :=
  match Domain.read? (decodeText (percentDecode text)) with
  | none => .error .invalidDomain
  | some domain =>
    if domain.any isForbiddenInDomain then .error .invalidDomain
    else if domain.isEmpty then .error .emptyHost
    else .ok domain

/-- A number of an address: hexadecimal after `0x`, octal after `0`, else decimal. -/
def readAddressNumber? (text : List Char) : Option Nat :=
  let read (base : Nat) (digits : List Char) : Option Nat :=
    digits.foldl (fun value c => do
      let value ← value
      let digit ← hexValue? c
      if digit < base then some (base * value + digit) else none) (some 0)
  match text with
  | [] => none
  | '0' :: 'x' :: digits => read 16 digits
  | '0' :: 'X' :: digits => read 16 digits
  | '0' :: digits => read 8 digits
  | digits => read 10 digits

/-- The parts of a domain, a single empty part at the end left out. -/
def addressParts (domain : List Char) : List (List Char) :=
  let parts := Text.splitChars '.' [] domain
  if 1 < parts.length ∧ parts.getLast? = some [] then parts.dropLast else parts

/-- Whether a domain must be read as an address. -/
def endsInNumber (domain : List Char) : Bool :=
  match (addressParts domain).getLast? with
  | none | some [] => false
  | some part =>
    part.all Char.isDigit ||
      ((part.take 2 = ['0', 'x'] || part.take 2 = ['0', 'X']) && (readAddressNumber? part).isSome)

def readIpv4 (domain : List Char) : Except UrlError (List Char) :=
  let parts := addressParts domain
  match parts.mapM readAddressNumber? with
  | none => .error .invalidIpv4
  | some numbers =>
    let count := numbers.length
    let leading := numbers.dropLast
    let last := numbers.getLast?.getD 0
    if 4 < count ∨ (leading.any fun number => 255 < number) ∨ Nat.pow 256 (5 - count) ≤ last then
      .error .invalidIpv4
    else
      let shifted := leading.zipIdx.map fun (number, position) => number * Nat.pow 256 (3 - position)
      let address := shifted.foldl (· + ·) last
      let bytes := [address / 16777216, address / 65536 % 256, address / 256 % 256, address % 256]
      .ok (".".intercalate (bytes.map Number.digitText)).toList

/-- A piece of an address in brackets: up to four hexadecimal digits. -/
def readPiece? (text : List Char) : Option Nat :=
  if text.isEmpty ∨ 4 < text.length then none
  else text.foldl (fun value c => do return 16 * (← value) + (← hexValue? c)) (some 0)

/-- A number of a dotted address in brackets, without leading zeros. -/
def readDottedNumber? (text : List Char) : Option Nat :=
  let value : Nat := text.foldl (fun value c => 10 * value + (c.toNat - 48)) 0
  let isPlain := !text.isEmpty && text.all Char.isDigit && (text.length = 1 || text.head? ≠ some '0')
  if isPlain && text.length ≤ 3 && value < 256 then some value else none

/-- The two pieces that a dotted address stands for. -/
def readDotted? (text : List Char) : Option (List Nat) := do
  match ← (Text.splitChars '.' [] text).mapM readDottedNumber? with
  | [a, b, c, d] => some [256 * a + b, 256 * c + d]
  | _ => none

/-- Pieces joined by colons. -/
def readPieces? (text : List Char) : Option (List Nat) :=
  if text.isEmpty then some [] else (Text.splitChars ':' [] text).mapM readPiece?

/-- Pieces joined by colons, of which the last may be a dotted address. -/
def readLastPieces? (text : List Char) : Option (List Nat) :=
  let parts := Text.splitChars ':' [] text
  let last := parts.getLast?.getD []
  if last.contains '.' then do
    let pieces ← parts.dropLast.mapM readPiece?
    some (pieces ++ (← readDotted? last))
  else readPieces? text

/-- The texts around the first double colon. -/
def cutDoubleColon (before : List Char) : List Char → Option (List Char × List Char)
  | ':' :: ':' :: rest => some (before.reverse, rest)
  | c :: rest => cutDoubleColon (c :: before) rest
  | [] => none

def readIpv6Pieces? (text : List Char) : Option (List Nat) :=
  match cutDoubleColon [] text with
  | some (front, back) => do
    let front ← readPieces? front
    let back ← readLastPieces? back
    let missing := 8 - (front.length + back.length)
    if missing = 0 then none else some (front ++ List.replicate missing 0 ++ back)
  | none => do
    let pieces ← readLastPieces? text
    if pieces.length = 8 then some pieces else none

/-- The start and length of the first longest run of zeros among pieces that begin at a position. -/
def longestRun : Nat → List Nat → Nat × Nat
  | _, [] => (0, 0)
  | position, pieces@(_ :: rest) =>
    let here := (pieces.takeWhile (· = 0)).length
    let (start, size) := longestRun (position + 1) rest
    if size ≤ here ∧ 0 < here then (position, here) else (start, size)

/-- An address in brackets, the first longest run of at least two zeros left out. -/
def ipv6Text (pieces : List Nat) : List Char :=
  let join (pieces : List Nat) : List Char :=
    [':'].intercalate (pieces.map fun piece => Nat.toDigits 16 piece)
  let (start, size) := longestRun 0 pieces
  if size < 2 then '[' :: join pieces ++ [']']
  else '[' :: join (pieces.take start) ++ "::".toList ++ join (pieces.drop (start + size)) ++ [']']

/-- An address in brackets, a domain, or an address in numbers. -/
def read (special : Bool) (text : List Char) : Except UrlError String :=
  match text with
  | '[' :: rest =>
    if rest.getLast? = some ']' then
      match readIpv6Pieces? rest.dropLast with
      | some pieces => .ok (String.ofList (ipv6Text pieces))
      | none => .error .invalidIpv6
    else .error .invalidIpv6
  | text =>
    if special then do
      let domain ← readDomain text
      if endsInNumber domain then return String.ofList (← readIpv4 domain)
      else return String.ofList domain
    else if text.any isForbidden then .error .invalidHostCharacter
    else .ok (String.ofList (percentEncode isControl text))

end Host

end ResourceServer.Url
