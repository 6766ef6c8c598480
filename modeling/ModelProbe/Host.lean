import ModelProbe.Host.Address
import ModelProbe.Host.Domain
import ModelProbe.Text.Utf8
/-!
# Hosts

A host is a domain name or a numeric address. Where the scheme says nothing about its hosts, a
host is kept as it is written, with bytes that are not ASCII escaped.
-/

namespace ModelProbe

/-- The host of an address. -/
inductive Host
  /-- A domain name in its ASCII form, or a host of another scheme. -/
  | name (s : List Char)
  | address32 (n : Nat)
  | address128 (groups : List Nat)
  deriving DecidableEq, Repr

namespace Host

/-- The text of a host. -/
def text : Host → List Char
  | name s => s
  | address32 n => address32Text n
  | address128 groups => '[' :: address128Text groups ++ [']']

/-- The bytes of a text in which escapes `%XX` stand for bytes. -/
def unescape : List UInt8 → List UInt8
  | 37 :: a :: b :: rest =>
    match Text.hexDigit? (Char.ofNat a.toNat), Text.hexDigit? (Char.ofNat b.toNat) with
    | some high, some low => (high * 16 + low).toUInt8 :: unescape rest
    | _, _ => 37 :: unescape (a :: b :: rest)
  | b :: rest => b :: unescape rest
  | [] => []

/-- The escape of a byte. -/
def escapeByte (b : UInt8) : List Char :=
  let n := b.toNat
  ['%', (Nat.digitChar (n / 16)).toUpper, (Nat.digitChar (n % 16)).toUpper]

/-- A character as it stands in a host of another scheme: controls and what is not ASCII are
escaped. -/
def escapeChar (c : Char) : List Char :=
  if 32 ≤ c.toNat ∧ c.toNat < 127 then [c] else (Text.utf8Bytes [c]).flatMap escapeByte

/-- Reads an address in brackets, after the first one. -/
def readBracketed? (s : List Char) : Option Host :=
  match s.getLast? with
  | some ']' => (readAddress128? s.dropLast).map address128
  | _ => none

/-- Reads the host of a scheme whose hosts are domain names and addresses. -/
def ofDomain? (s : List Char) : Option Host :=
  match s with
  | '[' :: rest => readBracketed? rest
  | _ => do
    let domain ← domainToAscii? (← Text.utf8? (unescape (Text.utf8Bytes s)))
    if domain.isEmpty then none
    else if endsInNumber domain then (readAddress32? domain).map address32
    else some (name domain)

/-- Whether a host of another scheme must not hold the character. -/
def isExcluded (c : Char) : Bool :=
  "\x00\t\n\r #/:<>?@[\\]^|".toList.contains c

/-- Reads the host of another scheme. -/
def ofOther? (s : List Char) : Option Host :=
  match s with
  | '[' :: rest => readBracketed? rest
  | _ => if s.any isExcluded then none else some (name (s.flatMap escapeChar))

end Host

end ModelProbe
