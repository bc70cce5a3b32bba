import SealedDrop.Text.Blank
import SealedDrop.Text.Percent
import SealedDrop.Url.Address
import SealedDrop.Url.Domain

/-!
# URLs

Checks an absolute URL and tells its scheme, which is all that the settings need of it.

## The model

* White space and control characters at the ends are ignored, and so are tabs and line ends anywhere.
* The schemes of the web always have a host: any number of slashes and backslashes precedes it, and it must be a domain name
  or an address. A file may have such a host after two slashes. Any other scheme has a host only after two slashes, and
  then almost any text will do.
* Before a host may stand user information, up to the last at-sign; after it a port. What follows is never at fault.
-/

namespace SealedDrop

/-- An absolute URL. -/
structure Url where
  /-- The scheme, in lower case. -/
  scheme : String
deriving DecidableEq, Repr

namespace Url

/-- Why a text is not an absolute URL. -/
inductive Fault where
  /-- There is no scheme. -/
  | relative
  /-- A host is needed and missing. -/
  | emptyHost
  /-- The host is not a domain name. -/
  | domain
  /-- The host has a character that no host has. -/
  | domainCharacter
  /-- The host is a malformed address of four bytes. -/
  | ipv4
  /-- The host is a malformed address of eight groups. -/
  | ipv6
  /-- The port is not a number of 16 bits. -/
  | port
deriving DecidableEq, Repr

/-- What is wrong, in words. -/
def Fault.message : Fault → String
  | relative => "relative URL without a base"
  | emptyHost => "empty host"
  | domain => "invalid international domain name"
  | domainCharacter => "invalid domain character"
  | ipv4 => "invalid IPv4 address"
  | ipv6 => "invalid IPv6 address"
  | port => "invalid port number"

/-! ### Schemes -/

/-- The kinds of schemes that differ in their hosts. -/
inductive Kind where
  /-- A scheme of the web. -/
  | web
  /-- The scheme of local files. -/
  | file
  /-- Any other scheme. -/
  | plain
deriving DecidableEq, Repr

/-- The kind of a scheme. -/
def Kind.ofScheme (scheme : String) : Kind :=
  if ["http", "https", "ws", "wss", "ftp"].contains scheme then .web
  else if scheme = "file" then .file
  else .plain

/-- Whether a character may stand in a scheme after the first place. -/
def isSchemeChar (c : Char) : Bool :=
  c.isAlphanum || c == '+' || c == '-' || c == '.'

/-- Splits off a scheme and its colon. -/
def splitScheme? (l : List Char) : Option (String × List Char) :=
  let scheme := l.takeWhile isSchemeChar
  match scheme.head?, l.drop scheme.length with
  | some c, ':' :: rest => if c.isAlpha then some (String.ofList (scheme.map Char.toLower), rest) else none
  | _, _ => none

/-! ### Hosts and ports -/

/-- Whether a character ends the part of a URL that names the host. -/
def endsAuthority (kind : Kind) (c : Char) : Bool :=
  c == '/' || c == '?' || c == '#' || (c == '\\' && kind != .plain)

/-- Checks a numeric host in brackets. -/
def checkBracketed (host : List Char) : Except Fault Unit :=
  match host.reverse with
  | ']' :: inner => if Address.isIpv6 (inner.reverse.drop 1) then .ok () else .error .ipv6
  | _ => .error .ipv6

/-- Checks a host that must be a domain name or an address. -/
def checkHost (host : List Char) : Except Fault Unit := do
  if host.head? = some '[' then checkBracketed host
  else
    let some domain := Domain.ofBytes? (Text.Percent.decode (utf8 (String.ofList host))) | throw .domain
    if domain.isEmpty then throw .emptyHost
    if Address.endsInNumber domain ∧ ¬ Address.isIpv4 domain then throw .ipv4

/-- Whether a character may not stand in a host of a plain scheme. -/
def isForbidden (c : Char) : Bool :=
  "\x00\t\n\r #/:<>?@[\\]^|".toList.contains c

/-- Checks a host of a plain scheme. -/
def checkPlainHost (host : List Char) : Except Fault Unit :=
  if host.head? = some '[' then checkBracketed host
  else if host.any isForbidden then .error .domainCharacter
  else .ok ()

/-- Splits off a host; a colon inside brackets belongs to it. -/
def splitHost (kind : Kind) (inBrackets : Bool) : List Char → List Char × List Char
  | [] => ([], [])
  | c :: rest =>
    if endsAuthority kind c ∨ (c = ':' ∧ ¬ inBrackets) then ([], c :: rest)
    else
      let (host, rest) := splitHost kind (if c = '[' then true else if c = ']' then false else inBrackets) rest
      (c :: host, rest)

/-- Checks the digits of a port and what follows them, after the number so far. -/
def checkPort (n : Nat) : List Char → Except Fault Unit
  | [] => .ok ()
  | c :: rest =>
    if c.isDigit then
      let n := 10 * n + (c.toNat - 48)
      if 65535 < n then .error .port else checkPort n rest
    else if c = '/' ∨ c = '\\' ∨ c = '?' ∨ c = '#' then .ok ()
    else .error .port

/-- Checks user information, host and port. -/
def checkAuthority (kind : Kind) (l : List Char) : Except Fault Unit := do
  let authority := l.takeWhile fun c => !endsAuthority kind c
  let afterAt := authority.reverse.takeWhile (· ≠ '@')
  let userLength := authority.length - afterAt.length
  let user := l.take (userLength - 1)
  let l := l.drop userLength
  if userLength = 1 ∧ l.head?.any (endsAuthority kind) then throw .emptyHost
  let (host, rest) := splitHost kind false l
  if kind = .plain then checkPlainHost host
  else
    if host.isEmpty then throw .emptyHost
    checkHost host
  match rest with
  | ':' :: rest =>
    if host.isEmpty then throw .emptyHost
    checkPort 0 rest
  | _ => pure ()
  if host.isEmpty ∧ user ≠ [] ∧ user ≠ [':'] then throw .emptyHost

/-- Whether a text is the letter of a drive with its mark. -/
def isDrive (l : List Char) : Bool :=
  match l with
  | [c, d] => c.isAlpha && (d == ':' || d == '|')
  | _ => false

/-- Whether a character separates components of a path. -/
def isSlash (c : Char) : Bool :=
  c == '/' || c == '\\'

/-- Checks what follows the colon of a scheme of this kind. -/
def checkRest (kind : Kind) (l : List Char) : Except Fault Unit :=
  match kind with
  | .web => checkAuthority .web (l.dropWhile isSlash)
  | .file =>
    if (l.take 2).all isSlash ∧ 2 ≤ l.length then
      let host := (l.drop 2).takeWhile fun c => !endsAuthority .file c
      if host.isEmpty ∨ isDrive host then .ok () else checkHost host
    else .ok ()
  | .plain => if "//".toList.isPrefixOf l then checkAuthority .plain (l.drop 2) else .ok ()

/-- The absolute URL that a text is. -/
def parse (s : String) : Except Fault Url := do
  let l := (Text.strip (·.toNat ≤ 0x20) s.toList).filter fun c => !(c == '\t' || c == '\n' || c == '\r')
  let some (scheme, rest) := splitScheme? l | throw .relative
  checkRest (.ofScheme scheme) rest
  return ⟨scheme⟩

end Url

end SealedDrop
