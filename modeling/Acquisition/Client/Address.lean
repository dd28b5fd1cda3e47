import Acquisition.Client.Basic
import Acquisition.Domain.Number

/-!
# Addresses of clients

The address of a client is checked before anything is sent to it.  It has a scheme, and what may
follow depends on that.  An address of the web has a host, which is a name or a numeric address,
and may have a user before the host and a port behind it.  An address of a file may have a host.
Of other addresses, only those with two slashes behind the scheme have a host, which is any plain
text and may be empty.

## Main definitions

* `AddressFault`: what is wrong with an address.
* `addressFault?`, `checkAddress`: the first thing that is wrong.
-/

namespace Acquisition

/-- What is wrong with an address. -/
inductive AddressFault
  | noScheme
  | emptyHost
  | badName
  | badCharacter
  | badPort
  | badIPv4
  | badIPv6
  deriving DecidableEq, Repr, Inhabited

/-- The report of the fault. -/
def AddressFault.message : AddressFault → String
  | noScheme => "relative URL without a base"
  | emptyHost => "empty host"
  | badName => "invalid international domain name"
  | badCharacter => "invalid domain character"
  | badPort => "invalid port number"
  | badIPv4 => "invalid IPv4 address"
  | badIPv6 => "invalid IPv6 address"

namespace Address

/-! ### Schemes -/

/-- A character of a scheme behind the first. -/
def isSchemeChar (c : Char) : Bool :=
  c.isAlphanum || c == '+' || c == '-' || c == '.'

/-- The scheme at the front of an address in lower case, and what follows its colon. -/
def splitScheme? : List Char → Option (String × List Char)
  | [] => none
  | first :: rest =>
    match rest.span isSchemeChar with
    | (scheme, ':' :: rest) =>
      if first.isAlpha then some ((String.ofList (first :: scheme)).toLower, rest) else none
    | _ => none

/-- The schemes of the web, whose addresses have to have a host. -/
def webSchemes : List String := ["http", "https", "ws", "wss", "ftp"]

/-! ### Pieces -/

/-- A slash of either direction. -/
def isSlash (c : Char) : Bool :=
  c == '/' || c == '\\'

/-- The beginning of the path, the query or the fragment. -/
def endsAuthority (c : Char) : Bool :=
  c == '/' || c == '?' || c == '#'

/-- The user in front of the last at sign, if there is one, and the text behind it. -/
def splitUser (authority : List Char) : Option (List Char) × List Char :=
  match authority.reverse.span (· != '@') with
  | (rest, _ :: user) => (some user.reverse, rest.reverse)
  | (_, []) => (none, authority)

/-- The host and what follows it; a colon inside brackets belongs to the host. -/
def splitHost (inside : Bool) : List Char → List Char × List Char
  | [] => ([], [])
  | c :: cs =>
    if c == ':' && !inside then ([], c :: cs)
    else
      let inside := if c == '[' then true else if c == ']' then false else inside
      let (host, rest) := splitHost inside cs
      (c :: host, rest)

/-- The rest of a host that begins with a bracket is an address and the other bracket. -/
def bracketFault? (rest : List Char) : Option AddressFault :=
  if rest.getLast? == some ']' && Domain.bracketedOk rest.dropLast then none else some .badIPv6

/-- A port is a colon and digits up to 65535, which a slash of either direction may end. -/
def portFault? : List Char → Option AddressFault
  | ':' :: rest =>
    let digits := rest.takeWhile (!isSlash ·)
    if digits.all Char.isDigit && digits.foldl (fun n c => 10 * n + (c.toNat - 48)) 0 < 65536 then
      none
    else some .badPort
  | _ => none

/-! ### Names of hosts -/

/-- The bytes of a text in which a percent sign and two hexadecimal digits stand for a byte. -/
def percentDecode : List Char → List UInt8
  | '%' :: a :: b :: rest =>
    match Domain.numberIn? 16 [a, b] with
    | some byte => byte.toUInt8 :: percentDecode rest
    | none => 37 :: percentDecode (a :: b :: rest)
  | c :: rest => (String.singleton c).toUTF8.toList ++ percentDecode rest
  | [] => []

/-- The labels of the domain name that a host writes, some of it perhaps as bytes. -/
def hostLabels? (host : List Char) : Option (List Domain.Label) := do
  let text ← String.fromUTF8? (percentDecode host).toByteArray
  Domain.labels? text.toList

/-- The first thing that is wrong with a host of the web. -/
def hostFault? : List Char → Option AddressFault
  | [] => some .emptyHost
  | '[' :: rest => bracketFault? rest
  | host =>
    match hostLabels? host with
    | none => some .badName
    | some [[]] => some .emptyHost
    | some labels =>
      if Domain.endsInNumber labels && !Domain.dottedOk labels then some .badIPv4 else none

/-! ### Addresses by scheme -/

/-- The first thing that is wrong with what follows the scheme of an address of the web.  Slashes
of either direction part it. -/
def webFault? (rest : List Char) : Option AddressFault :=
  let authority := (rest.dropWhile isSlash).takeWhile fun c => !(isSlash c || endsAuthority c)
  let (host, port) := splitHost false (splitUser authority).2
  (hostFault? host) <|> (portFault? port)

/-- The letter of a drive, and a colon or bar. -/
def isDrive : List Char → Bool
  | [letter, c] => letter.isAlpha && (c == ':' || c == '|')
  | _ => false

/-- The first thing that is wrong with what follows the scheme of the address of a file.  A drive
is no host. -/
def fileFault? : List Char → Option AddressFault
  | a :: b :: rest =>
    let host := rest.takeWhile fun c => !(isSlash c || endsAuthority c)
    if !(isSlash a && isSlash b) || host.isEmpty || isDrive host then none else hostFault? host
  | _ => none

/-- A character that no plain host contains. -/
def isForbidden (c : Char) : Bool :=
  ['\x00', '\t', '\n', '\r', ' ', '#', '/', ':', '<', '>', '?', '@', '[', '\\', ']', '^',
    '|'].contains c

/-- The first thing that is wrong with a plain host. -/
def plainHostFault? : List Char → Option AddressFault
  | '[' :: rest => bracketFault? rest
  | host => if host.any isForbidden then some .badCharacter else none

/-- Nothing is told about the user. -/
def isNobody (user : List Char) : Bool :=
  user == [] || user == [':']

/-- The first thing that is wrong with what follows the scheme of any other address.  A user or a
port needs a host. -/
def plainFault? : List Char → Option AddressFault
  | '/' :: '/' :: rest =>
    let (authority, path) := rest.span (!endsAuthority ·)
    let (user, place) := splitUser authority
    let (host, port) := splitHost false place
    if host.isEmpty && (!port.isEmpty || !user.all isNobody) then some .emptyHost
    else if user == some [] && place.isEmpty && !path.isEmpty then some .emptyHost
    else (plainHostFault? host) <|> (portFault? port)
  | _ => none

/-! ### Whole addresses -/

/-- A control character or a space: such characters around an address do not count. -/
def isPadding (c : Char) : Bool := c.toNat ≤ 32

/-- The characters of an address that count. -/
def significant (text : String) : List Char :=
  let inner := (text.toList.dropWhile isPadding).reverse.dropWhile isPadding
  inner.reverse.filter fun c => c != '\t' && c != '\n' && c != '\r'

end Address

/-- The first thing that is wrong with an address. -/
def addressFault? (text : String) : Option AddressFault :=
  match Address.splitScheme? (Address.significant text) with
  | none => some .noScheme
  | some (scheme, rest) =>
    if Address.webSchemes.contains scheme then Address.webFault? rest
    else if scheme == "file" then Address.fileFault? rest
    else Address.plainFault? rest

/-- An address at which a client may be reached, or the error that tells why not. -/
def checkAddress (text : String) : Except ClientError String :=
  match addressFault? text with
  | none => .ok text
  | some fault => .error (.invalidBaseUrl fault.message)

/-- The base of the addresses of a client, which ends before trailing slashes. -/
def trimBase (base : String) : String :=
  String.ofList (base.toList.reverse.dropWhile (· == '/')).reverse

end Acquisition
