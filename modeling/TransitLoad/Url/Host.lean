import TransitLoad.Url.Domain
import TransitLoad.Url.Percent

/-!
# Hosts

The host of a URL is a domain name, an IPv4 address or an IPv6 address.  Under a
special scheme a name is decoded and written in ASCII, if it is one, and a name that ends
in a number must be an IPv4 address; under any other scheme a name is opaque.
-/

namespace TransitLoad

/-- Why a text is no URL. -/
inductive UrlError where
  | emptyHost
  | invalidDomain
  | invalidDomainCharacter
  | invalidPort
  | invalidIpv4
  | invalidIpv6
  | relativeWithoutBase
  | relativeToOpaqueBase
  deriving DecidableEq, Inhabited

/-- The text that a URL error shows. -/
def UrlError.message : UrlError → String
  | .emptyHost => "empty host"
  | .invalidDomain => "invalid international domain name"
  | .invalidDomainCharacter => "invalid domain character"
  | .invalidPort => "invalid port number"
  | .invalidIpv4 => "invalid IPv4 address"
  | .invalidIpv6 => "invalid IPv6 address"
  | .relativeWithoutBase => "relative URL without a base"
  | .relativeToOpaqueBase => "relative URL with a cannot-be-a-base base"

/-- The host of a URL.  The empty name stands for no host at all. -/
inductive Host where
  | name (text : String)
  | ipv4 (address : Nat)
  | ipv6 (pieces : List Nat)
  deriving DecidableEq, Inhabited

namespace Host

/-- No host at all. -/
def none : Host := .name ""

/-- Whether there is no host at all. -/
def isNone (host : Host) : Bool := host = none

/-! ## Writing -/

/-- The length of the run of zeros at the front. -/
def zeroRun (pieces : List Nat) : Nat :=
  (pieces.takeWhile (· == 0)).length

/-- Where the first of the longest runs of zeros starts, and its length. -/
def longestZeroRun : List Nat → Nat × Nat
  | [] => (0, 0)
  | piece :: rest =>
      let here := zeroRun (piece :: rest)
      let (start, length) := longestZeroRun rest
      if length ≤ here then (0, here) else (start + 1, length)

/-- Hexadecimal pieces between colons. -/
def piecesText (pieces : List Nat) : String :=
  ":".intercalate (pieces.map fun piece => String.ofList (Nat.toDigits 16 piece))

/-- The eight pieces of an IPv6 address; the longest run of two or more zeros is
left out. -/
def ipv6Text (pieces : List Nat) : String :=
  let (start, length) := longestZeroRun pieces
  if length < 2 then piecesText pieces
  else piecesText (pieces.take start) ++ "::" ++ piecesText (pieces.drop (start + length))

/-- A host as it is written in a URL. -/
def text : Host → String
  | .name text => text
  | .ipv4 address =>
      ".".intercalate ([16777216, 65536, 256, 1].map fun place =>
        toString (address / place % 256))
  | .ipv6 pieces => "[" ++ ipv6Text pieces ++ "]"

/-! ## Reading addresses -/

/-- The value of a digit in a base up to sixteen. -/
def digit? (base : Nat) (c : Char) : Option Nat :=
  let value? : Option Nat :=
    if '0' ≤ c ∧ c ≤ '9' then some (c.toNat - 0x30)
    else if 'a' ≤ c ∧ c ≤ 'f' then some (c.toNat - 0x61 + 10)
    else if 'A' ≤ c ∧ c ≤ 'F' then some (c.toNat - 0x41 + 10)
    else Option.none
  value?.filter (· < base)

/-- The value of digits in a base. -/
def number? (base : Nat) (digits : List Char) : Option Nat :=
  digits.foldlM (fun value c => (digit? base c).map (value * base + ·)) 0

/-- A part of an IPv4 address: decimal, octal after `0`, hexadecimal after `0x`.
Nothing after these marks is zero. -/
def ipv4Part? : List Char → Option Nat
  | [] => Option.none
  | '0' :: 'x' :: digits => number? 16 digits
  | '0' :: 'X' :: digits => number? 16 digits
  | '0' :: digit :: digits => number? 8 (digit :: digits)
  | digits => number? 10 digits

/-- Whether the last part of a name, a final dot apart, is a number. -/
def endsInNumber (name : List Char) : Bool :=
  let parts := (name.splitOn '.').reverse
  let last? := match parts with
    | [] :: part :: _ => some part
    | [] :: [] => Option.none
    | part :: _ => some part
    | [] => Option.none
  match last? with
  | Option.none => false
  | some last => (!last.isEmpty && last.all Char.isDigit) || (ipv4Part? last).isSome

/-- An IPv4 address of up to four parts.  All but the last are bytes; the last one
fills the bytes that are left. -/
def ipv4? (name : List Char) : Except UrlError Host :=
  let parts := name.splitOn '.'
  let parts := if parts.getLast? = some [] then parts.dropLast else parts
  match parts.mapM ipv4Part? with
  | Option.none => .error .invalidIpv4
  | some numbers =>
      let last := numbers.getLast?.getD 0
      let leading := numbers.dropLast
      if 4 < numbers.length ∨ leading.any (255 < ·) ∨ Nat.pow 256 (4 - leading.length) ≤ last then
        .error .invalidIpv4
      else
        let upper := leading.foldl (fun value byte => value * 256 + byte) 0
        .ok (.ipv4 (upper * Nat.pow 256 (4 - leading.length) + last))

/-- A decimal byte without leading zeros. -/
def decimalByte? (digits : List Char) : Option Nat :=
  if digits.isEmpty || (digits.length > 1 && digits.head? = some '0') then Option.none
  else (number? 10 digits).filter (· ≤ 255)

/-- The pieces of one group between colons: one to four hexadecimal digits, or,
at the end of the address, a dotted IPv4 address as two pieces. -/
def ipv6Group? (isLast : Bool) (group : List Char) : Option (List Nat) :=
  if group.contains '.' then
    match (group.splitOn '.').mapM decimalByte? with
    | some [a, b, c, d] => if isLast then some [a * 256 + b, c * 256 + d] else Option.none
    | _ => Option.none
  else if group.isEmpty || 4 < group.length then Option.none
  else (number? 16 group).map ([·])

/-- The pieces of groups between colons; nothing at all has no pieces. -/
def ipv6Groups? (endsAddress : Bool) (text : List Char) : Option (List Nat) :=
  if text.isEmpty then some []
  else
    let groups := text.splitOn ':'
    let places := (List.range groups.length).zip groups
    (places.mapM fun (place, group) =>
      ipv6Group? (endsAddress && place + 1 == groups.length) group).map List.flatten

/-- Split at the first double colon. -/
def splitDoubleColon? : List Char → Option (List Char × List Char)
  | [] => Option.none
  | ':' :: ':' :: rest => some ([], rest)
  | c :: rest => (splitDoubleColon? rest).map fun (before, after) => (c :: before, after)

/-- Eight pieces, or fewer around a double colon that stands for zeros. -/
def ipv6? (text : List Char) : Except UrlError Host :=
  let pieces? : Option (List Nat) := match splitDoubleColon? text with
    | Option.none => (ipv6Groups? true text).filter (·.length == 8)
    | some (before, after) => do
        let before ← ipv6Groups? false before
        let after ← ipv6Groups? true after
        let known := before.length + after.length
        if known ≤ 7 then some (before ++ List.replicate (8 - known) 0 ++ after) else Option.none
  match pieces? with
  | Option.none => .error .invalidIpv6
  | some pieces => .ok (.ipv6 pieces)

/-! ## Reading hosts -/

/-- An address between brackets. -/
def bracketed? (text : List Char) : Except UrlError Host :=
  if text.getLast? = some ']' then ipv6? text.dropLast else .error .invalidIpv6

/-- A host under a special scheme. -/
def parse (text : List Char) : Except UrlError Host :=
  match text with
  | '[' :: rest => bracketed? rest
  | _ =>
      let decoded? := Json.textOfUtf8? (Url.decodeBytes (text.flatMap String.utf8EncodeChar))
      match decoded?.bind fun decoded => Url.domainName? decoded.toList with
      | Option.none => .error .invalidDomain
      | some domain =>
          if domain.isEmpty then .error .emptyHost
          else if endsInNumber domain then ipv4? domain
          else .ok (.name (String.ofList domain))

/-- Characters that no opaque host may hold. -/
def isForbiddenInOpaque (c : Char) : Bool :=
  ['\x00', '\t', '\n', '\r', ' ', '#', '/', ':', '<', '>', '?', '@', '[', '\\', ']', '^',
    '|'].contains c

/-- A host under a scheme that is not special. -/
def parseOpaque (text : List Char) : Except UrlError Host :=
  match text with
  | '[' :: rest => bracketed? rest
  | _ =>
      if text.any isForbiddenInOpaque then .error .invalidDomainCharacter
      else .ok (.name (String.ofList (Url.encode Url.controlSet text)))

end Host
end TransitLoad
