import TokenSurvey.Service.Address
import TokenSurvey.Settings.Environment

/-! Proxies that variables name, and the hosts that they are not for. -/
namespace TokenSurvey.Service

/-- One who passes requests on. -/
structure Proxy where
  secure : Bool
  host : Host
  port : Nat

/-- Hosts that are asked directly: a network of numbers, or a name with all names below it. -/
inductive Direct where
  | network (width bits number : Nat)
  | name (text : List Char)

/-- A proxy for plain requests, one for secure ones, and the hosts that neither is for. -/
structure Proxies where
  plain : Option Proxy := none
  secure : Option Proxy := none
  direct : List Direct := []

namespace Proxy

/-- What may stand in a host, a port or the names before them. -/
def isAllowed (c : Char) : Bool :=
  c.isAlphanum || "-._~:@[]!$&'()*+,;=%".toList.contains c

/-- The end of a scheme, and what follows it. -/
def afterScheme : List Char → Option (List Char × List Char)
  | ':' :: '/' :: '/' :: s => some ([], s)
  | c :: s =>
    if c.isAlphanum || c = '+' || c = '-' || c = '.' then
      (afterScheme s).map fun (scheme, rest) => (c :: scheme, rest)
    else none
  | [] => none

/-- Schemes of proxies that are spoken to in plain text. -/
def plainSchemes : List String := ["http", "socks4", "socks4a", "socks5", "socks5h"]

def secure? (scheme : List Char) : Option Bool :=
  let name := String.ofList (scheme.map Char.toLower)
  if name = "https" then some true
  else if name = "http" ∨ String.ofList scheme ∈ plainSchemes then some false
  else none

def isEnd (c : Char) : Bool := c = '/' || c = '?' || c = '#'

/-- A path after the port is passed over, as long as an address may hold it. -/
def isPath (s : List Char) : Bool :=
  (s.takeWhile (· ≠ '#')).all fun c => 0x20 < c.toNat && !"<>".toList.contains c

/-- Brackets come as one pair at most. -/
def isPaired (authority : List Char) : Bool :=
  let brackets := authority.filter fun c => c = '[' || c = ']'
  brackets = [] || brackets = ['[', ']']

/-- A port that is no number does not count. -/
def place? (secure : Bool) (authority : List Char) : Option Proxy :=
  let place := (authority.reverse.takeWhile (· ≠ '@')).reverse
  let (host, rest) := Address.splitHost false place
  if place = [] ∨ !authority.all isAllowed ∨ !isPaired authority ∨ '%' ∈ place ∨
      1 < rest.count ':' then none
  else
    let port := (Text.Numeral.read (rest.drop 1)).toOption.filter (· ≤ 65535)
    some { secure, host := .ofSetting host, port := port.getD (schemePort secure) }

/-- Without a scheme a proxy is spoken to in plain text, and has no path. -/
def ofText? (text : String) : Option Proxy :=
  match afterScheme text.toList with
  | some (scheme, rest) =>
    let authority := rest.takeWhile fun c => !isEnd c
    if isPath (rest.drop authority.length) then
      (secure? scheme).bind fun secure => place? secure authority
    else none
  | none => place? false text.toList

end Proxy

namespace Direct

/-- A network of numbers has as many bits as a slash tells, or all of them. -/
def network? (s : List Char) : Option Direct := do
  let text := s.takeWhile (· ≠ '/')
  let host ← ((Host.strictShort? text).map .short).or (Host.long? text)
  let (width, number) ← host.bits?
  match s.drop text.length with
  | [] => some (.network width width number)
  | _ :: digits =>
    let bits ← Text.ofDigits? 10 digits
    if digits ≠ [] ∧ bits ≤ width then some (.network width bits number) else none

/-- Entries stand between commas. -/
def ofList (text : String) : List Direct :=
  (((Text.pieces ',' text.toList).map Unicode.trim).filter (· ≠ [])).map fun entry =>
    (network? entry).getD (.name (entry.map Char.toLower))

/-- A dot in front of a name makes no difference, and a star is for every name. -/
def covers (host : Host) : Direct → Bool
  | network width bits number =>
    match host.bits? with
    | some (w, n) => w = width && n >>> (width - bits) = number >>> (width - bits)
    | none => false
  | name text =>
    match host with
    | .name s =>
      let bare := if text.head? = some '.' then text.drop 1 else text
      text = ['*'] || s = bare || ('.' :: bare).isSuffixOf s
    | _ => false

end Direct

namespace Proxies

open Settings (Environment)

/-- What the first variable that is set holds, which may be nothing. -/
def setting (env : Environment) (names : List String) : String := (names.findSome? env).getD ""

/-- A program that serves a request of its own trusts no such variable. -/
def ofEnvironment (env : Environment) : Proxies :=
  if (env "REQUEST_METHOD").isSome then {}
  else
    let named (names : List String) : Option Proxy :=
      (Proxy.ofText? (setting env names)).or
        (Proxy.ofText? (setting env ["ALL_PROXY", "all_proxy"]))
    { plain := named ["HTTP_PROXY", "http_proxy"]
      secure := named ["HTTPS_PROXY", "https_proxy"]
      direct := Direct.ofList (setting env ["NO_PROXY", "no_proxy"]) }

/-- The proxy that a request for an address takes. -/
def proxyFor (p : Proxies) (a : Address) : Option Proxy :=
  if p.direct.any (Direct.covers a.host) then none else if a.secure then p.secure else p.plain

end Proxies
end TokenSurvey.Service
