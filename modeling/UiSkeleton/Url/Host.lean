/-
Hosts of URLs: a name, or a network address. In a special scheme a name is a domain name and may
turn out to be an address; in any other scheme it is kept as it is. Most texts that are no URL fail
at their host, so the errors stand here too.
-/
import UiSkeleton.Url.Address
import UiSkeleton.Url.Domain
import UiSkeleton.Url.Percent

namespace UiSkeleton

/-- What is wrong with a URL. -/
inductive UrlError where
  | noScheme
  | emptyHost
  | invalidPortNumber
  | invalidFourBytes
  | invalidEightPieces
  | invalidDomain
  /-- A forbidden character in a host that is no domain name. -/
  | forbiddenCharacter
  deriving DecidableEq, Repr

/-- The text of an error. -/
def UrlError.message : UrlError → String
  | .noScheme => "relative URL without a base"
  | .emptyHost => "empty host"
  | .invalidPortNumber => "invalid port number"
  | .invalidFourBytes => "invalid IPv4 address"
  | .invalidEightPieces => "invalid IPv6 address"
  | .invalidDomain => "invalid international domain name"
  | .forbiddenCharacter => "invalid domain character"

/-- A host. -/
inductive UrlHost where
  | name (text : List Char)
  | fourBytes (address : Nat)
  | eightPieces (pieces : List Nat)
  deriving DecidableEq, Repr

namespace UrlHost

/-- The host without a name. -/
def empty : UrlHost := .name []

/-- The text of a host. -/
def text : UrlHost → List Char
  | .name cs => cs
  | .fourBytes address => Address.fourBytesText address
  | .eightPieces pieces => ['['] ++ Address.eightPiecesText pieces ++ [']']

/-- The address between brackets that a host starting with one must be. -/
def ofBracketed (text : List Char) : Except UrlError UrlHost :=
  if text.getLast? != some ']' then .error .invalidEightPieces
  else match Address.eightPieces? text.tail.dropLast with
    | some pieces => .ok (.eightPieces pieces)
    | none => .error .invalidEightPieces

/-- The host that a name stands for in a special scheme. -/
def ofDomain (text : List Char) : Except UrlError UrlHost :=
  if text.head? = some '[' then ofBracketed text
  else match (Percent.decodeText? text).bind Domain.ascii? with
    | none => .error .invalidDomain
    | some [] => .error .emptyHost
    | some domain =>
      if Address.endsInNumber domain then
        match Address.fourBytes? domain with
        | some address => .ok (.fourBytes address)
        | none => .error .invalidFourBytes
      else .ok (.name domain)

/-- The characters that no host holds, whatever the scheme. -/
def isForbidden (c : Char) : Bool :=
  ['\x00', '\t', '\n', '\r', ' ', '#', '/', ':', '<', '>', '?', '@', '[', '\\', ']', '^',
    '|'].contains c

/-- The host that a text stands for in a scheme that is not special. -/
def ofText (text : List Char) : Except UrlError UrlHost :=
  if text.head? = some '[' then ofBracketed text
  else if text.any isForbidden then .error .forbiddenCharacter
  else .ok (.name (Percent.encode Percent.isControl text))

end UrlHost
end UiSkeleton
