import Mathlib.Algebra.Group.Nat.Defs
import Mathlib.Data.List.Basic

/-!
# Addresses

The parts of `net` and `net/netip` that read addresses, networks in prefix notation, and host and
port.
-/
namespace Porter.Go

abbrev IP := List UInt8

def v4InV6 : IP := List.replicate 10 0 ++ [0xff, 0xff]

def decimal (digits : List Char) : Nat :=
  digits.foldl (fun value c => value * 10 + (c.toNat - '0'.toNat)) 0

def octet (field : List Char) : Option UInt8 :=
  if field ≠ [] ∧ field.all Char.isDigit ∧ (field.length = 1 ∨ field.head? ≠ some '0') ∧
      decimal field ≤ 255 then
    some (UInt8.ofNat (decimal field))
  else none

def parseIPv4 (text : List Char) : Option IP :=
  match text.splitOn '.' with
  | [a, b, c, d] => do return [← octet a, ← octet b, ← octet c, ← octet d]
  | _ => none

def hexDigit (c : Char) : Option Nat :=
  if '0' ≤ c ∧ c ≤ '9' then some (c.toNat - '0'.toNat)
  else if 'a' ≤ c ∧ c ≤ 'f' then some (c.toNat - 'a'.toNat + 10)
  else if 'A' ≤ c ∧ c ≤ 'F' then some (c.toNat - 'A'.toNat + 10)
  else none

def groupBytes (digits : List Char) : IP :=
  let value := digits.foldl (fun value c => value * 16 + (hexDigit c).getD 0) 0
  [UInt8.ofNat (value / 256), UInt8.ofNat (value % 256)]

def parseGroups : Nat → IP → Option Nat → List Char → Option (IP × Option Nat × List Char)
  | 0, ip, ellipsis, text => some (ip, ellipsis, text)
  | room + 1, ip, ellipsis, text =>
    let digits := text.takeWhile (fun c => (hexDigit c).isSome)
    if digits = [] ∨ 4 < digits.length then none
    else
      let next := ip ++ groupBytes digits
      match text.drop digits.length with
      | [] => some (next, ellipsis, [])
      -- An embedded IPv4 address ends the text and takes the place of two groups.
      | '.' :: _ =>
        if ellipsis = none ∧ ip.length ≠ 12 ∨ 16 < ip.length + 4 then none
        else (parseIPv4 text).map (fun last => (ip ++ last, ellipsis, []))
      | [':'] => none
      | ':' :: ':' :: more =>
        if ellipsis.isSome then none
        else if more = [] then some (next, some next.length, [])
        else parseGroups room next (some next.length) more
      | ':' :: more => parseGroups room next ellipsis more
      | _ => none

def parseIPv6 (text : List Char) : Option IP :=
  let started : Option (IP × Option Nat × List Char) :=
    match text with
    | [':', ':'] => some ([], some 0, [])
    | ':' :: ':' :: more => parseGroups 8 [] (some 0) more
    | _ => parseGroups 8 [] none text
  match started with
  | some (ip, some ellipsis, []) =>
    if ip.length < 16 then
      some (ip.take ellipsis ++ List.replicate (16 - ip.length) 0 ++ ip.drop ellipsis)
    else none
  | some (ip, none, []) => if ip.length = 16 then some ip else none
  | _ => none

def parseAddr (text : List Char) : Option IP :=
  if '%' ∈ text then none
  else
    match text.find? (fun c => c = '.' || c = ':') with
    | some '.' => parseIPv4 text
    | some _ => parseIPv6 text
    | none => none

def as16 (ip : IP) : IP := if ip.length = 4 then v4InV6 ++ ip else ip

def to4 (ip : IP) : Option IP :=
  if ip.length = 4 then some ip
  else if ip.length = 16 ∧ ip.take 12 = v4InV6 then some (ip.drop 12)
  else none

def parseIP (text : String) : Option IP := (parseAddr text.toList).map as16

structure IPNet where
  ip : IP
  mask : List UInt8

def cidrMask (ones bytes : Nat) : List UInt8 :=
  (List.range bytes).map (fun i => UInt8.ofNat (256 - 2 ^ (8 - min 8 (ones - 8 * i))))

def masked (ip : IP) (mask : List UInt8) : IP := List.zipWith (· &&& ·) ip mask

def prefixLength (text : List Char) : Option Nat :=
  if text ≠ [] ∧ text.all Char.isDigit ∧ decimal text < 0xFFFFFF then some (decimal text) else none

def parseCIDR (text : String) : Option IPNet :=
  let chars := text.toList
  if '/' ∉ chars then none
  else do
    let addr ← parseAddr (chars.takeWhile (· ≠ '/'))
    let ones ← prefixLength ((chars.dropWhile (· ≠ '/')).drop 1)
    if ones ≤ 8 * addr.length then
      some ⟨masked addr (cidrMask ones addr.length), cidrMask ones addr.length⟩
    else none

def IPNet.contains (network : IPNet) (ip : IP) : Bool :=
  let number := (to4 network.ip).getD network.ip
  let mask := if number.length = 4 ∧ network.mask.length = 16 then network.mask.drop 12
    else network.mask
  let ip := (to4 ip).getD ip
  ip.length = number.length && masked number mask = masked ip mask

def splitHostPort (hostport : String) : Option (String × String) :=
  let chars := hostport.toList
  if ':' ∉ chars then none
  else
    let port := (chars.reverse.takeWhile (· ≠ ':')).reverse
    let before := chars.take (chars.length - port.length - 1)
    match chars with
    | '[' :: rest =>
      let host := rest.takeWhile (· ≠ ']')
      if before = '[' :: host ++ [']'] ∧ '[' ∉ rest ∧ ']' ∉ port then
        some (String.ofList host, String.ofList port)
      else none
    | _ =>
      if ':' ∈ before ∨ '[' ∈ chars ∨ ']' ∈ chars then none
      else some (String.ofList before, String.ofList port)

example : parseIP "10.0.0.1" = some (v4InV6 ++ [10, 0, 0, 1]) := by decide
example : parseIP "2001:db8::ff:10.0.0.1" =
    some [0x20, 0x01, 0x0d, 0xb8, 0, 0, 0, 0, 0, 0, 0, 0xff, 10, 0, 0, 1] := by decide +kernel
example : parseIP "010.0.0.1" = none := by decide
example : ((parseCIDR "10.1.0.0/16").map fun network =>
    ((parseIP "10.1.2.3").map network.contains, (parseIP "10.2.2.3").map network.contains)) =
    some (some true, some false) := by decide +kernel
example : splitHostPort "[::1]:443" = some ("::1", "443") := by decide +kernel

end Porter.Go
