import SealedSync.Http.Host.Address
import SealedSync.Http.Host.Name
import SealedSync.Text.Percent

/-!
# Hosts

A host of the web is an IPv6 address in brackets, an IPv4 address or a name, and has one normal
form; escapes in it are resolved first. The host of another scheme is an IPv6 address or any text
without the characters that end or split an authority.
-/
namespace SealedSync.Http.Host

/-- Characters that end or split an authority. -/
def isForbidden (c : Char) : Bool :=
  c ∈ ['\x00', '\t', '\n', '\r', ' ', '#', '/', ':', '<', '>', '?', '@', '[', '\\', ']', '^', '|']

def isForbiddenInName (c : Char) : Bool :=
  isForbidden c || c == '%' || c.toNat < 0x20 || c.toNat = 0x7F

def readBracketed (rest : List Char) : Option String :=
  if rest.getLast? = some ']' then
    (HostAddress.ipv6Groups rest.dropLast).map fun groups =>
      "[" ++ HostAddress.ipv6Text groups ++ "]"
  else none

/-- A name or an IPv4 address; a name that ends in a number has to be an address. -/
def readName (host : List Char) : Option String := do
  let text ← Utf8.decode? (Percent.decodeChars host)
  let name ← HostName.toAscii text.toList
  if name.isEmpty || name.any isForbiddenInName then none
  match HostAddress.ipv4Parts name with
  | some parts =>
      return HostAddress.ipv4Text (← HostAddress.ipv4Address (← parts.mapM HostAddress.ipv4Part))
  | none => return String.ofList name

/-- The normal form of a host of the web. -/
def read : List Char → Option String
  | '[' :: rest => readBracketed rest
  | host => readName host

/-- The host of another scheme, which is kept as it is. -/
def readOpaque : List Char → Option String
  | '[' :: rest => readBracketed rest
  | host => if host.any isForbidden then none else some (Percent.encodeBeyond [] host)

end SealedSync.Http.Host
