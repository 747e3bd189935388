import MissionTracking.Settings.Basic
import MissionTracking.Text.Decimal

/-!
Addresses of database servers and connecting to them. An address is a scheme, a host and perhaps the
number of a service; what follows does not matter here. There is no client in this library, so that
no server answers at an address even when it is well formed.
-/
namespace MissionTracking
open Text

structure Address where
  scheme : String
  host : String
  service : Option UInt16
deriving DecidableEq, Repr

namespace Address

def isSchemeChar (c : Char) : Bool := c.isAlphanum || c = '+' || c = '-' || c = '.'

/-- The number of a service after its colon. An empty one is not set. -/
def service? : List Char → Option (Option UInt16)
  | [] | [':'] => some none
  | ':' :: cs => do
    let n ← natural? cs
    if n < 65536 then some (some (UInt16.ofNat n)) else none
  | _ => none

def host? : List Char → Option (List Char × List Char)
  | '[' :: cs =>
    match cs.dropWhile (· != ']') with
    | _ :: rest => some (cs.takeWhile (· != ']'), rest)
    | [] => none
  | cs =>
    let host := cs.takeWhile (· != ':')
    if host.any fun c => c = ' ' || c = '[' || c = ']' then none
    else some (host, cs.dropWhile (· != ':'))

def withoutUser (cs : List Char) : List Char := (cs.reverse.takeWhile (· != '@')).reverse

def ofText? (text : String) : Option Address := do
  let scheme := text.toList.takeWhile isSchemeChar
  guard (scheme.head?.any Char.isAlpha)
  match text.toList.dropWhile isSchemeChar with
  | ':' :: '/' :: '/' :: rest =>
    let authority := rest.takeWhile fun c => c ≠ '/' && c ≠ '?' && c ≠ '#'
    let (host, rest) ← host? (withoutUser authority)
    let service ← service? rest
    some ⟨String.ofList scheme, String.ofList host, service⟩
  | _ => none

end Address

def DatabaseSettings.connect (s : DatabaseSettings) : Except TrackingError Unit :=
  match Address.ofText? s.address with
  | some _ => .error (.database .unreachable)
  | none => .error (.database .malformedAddress)

end MissionTracking
