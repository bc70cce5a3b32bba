import SealedDrop.Bytes

/-!
# Numeric hosts

Which hosts of a URL are numeric addresses, and which of these are well-formed.

## The model

* A domain whose last label is a number is an IPv4 address: up to four numbers, decimal, octal after a zero or hexadecimal
  after `0x`, of which the last one fills the places that are left.
* A host in brackets is an IPv6 address: eight groups of up to four hexadecimal digits, of which one run of groups may be
  left out, and the last two may be written as four decimal numbers.
-/

namespace SealedDrop.Url.Address

/-- The number that digits of a base denote; no digits denote zero. -/
def number? (base : Nat) (digits : List Char) : Option Nat := do
  let l ← digits.mapM Bytes.hexValue?
  if l.any (base ≤ ·) then none
  return l.foldl (fun n d => base * n + d) 0

/-! ### Four numbers -/

/-- The number that a part of an address denotes. -/
def part? : List Char → Option Nat
  | [] => none
  | '0' :: 'x' :: rest => number? 16 rest
  | '0' :: 'X' :: rest => number? 16 rest
  | '0' :: c :: rest => number? 8 (c :: rest)
  | l => number? 10 l

/-- The parts between dots; an empty one at the end is not counted. -/
def parts (domain : List Char) : List (List Char) :=
  let l := ((String.ofList domain).splitOn ".").map String.toList
  if l.getLast? = some [] then l.dropLast else l

/-- Whether the last label of a domain is a number, so that the domain must be an address. -/
def endsInNumber (domain : List Char) : Bool :=
  match (parts domain).getLast? with
  | some last => (!last.isEmpty && last.all fun c => '0' ≤ c && c ≤ '9') || (part? last).isSome
  | none => false

/-- Whether a domain is an address of four bytes. -/
def isIpv4 (domain : List Char) : Bool :=
  let parts := parts domain
  match parts.mapM part? with
  | none => false
  | some numbers =>
    match numbers.getLast? with
    | none => false
    | some last =>
      parts.length ≤ 4 && last < Nat.pow 256 (5 - numbers.length) && numbers.dropLast.all (· ≤ 255)

/-! ### Eight groups -/

/-- Whether a text is a decimal number up to 255 without a superfluous leading zero. -/
def isDecimalByte (l : List Char) : Bool :=
  !l.isEmpty && l.all (fun c => '0' ≤ c && c ≤ '9') && (l.length == 1 || l.head? != some '0') &&
    l.length ≤ 3 && (number? 10 l).any (· ≤ 255)

/-- Whether a text is four decimal numbers with dots between them. -/
def isDottedQuad (l : List Char) : Bool :=
  let numbers := (String.ofList l).splitOn "."
  numbers.length == 4 && numbers.all fun n => isDecimalByte n.toList

/-- Whether the rest of an address is well-formed, after `count` groups; `shortened` tells whether groups have been left
out. -/
def isIpv6Rest (count : Nat) (shortened : Bool) (l : List Char) : Bool :=
  match l with
  | [] => shortened || count == 8
  | ':' :: rest => count < 8 && !shortened && isIpv6Rest (count + 1) true rest
  | c :: rest =>
    let digits := (c :: rest).take 4 |>.takeWhile fun c => (Bytes.hexValue? c).isSome
    if count < 8 then
      match _h : (c :: rest).drop digits.length with
      | [] => shortened || count == 7
      | '.' :: _ => !digits.isEmpty && count ≤ 6 && isDottedQuad (c :: rest) && (shortened || count == 6)
      | ':' :: d :: rest => isIpv6Rest (count + 1) shortened (d :: rest)
      | _ => false
    else false
termination_by l.length
decreasing_by
  · simp only [List.length_cons]; omega
  · have := congrArg List.length _h
    simp only [List.length_drop, List.length_cons] at this ⊢
    omega

/-- Whether a text is an address of eight groups. -/
def isIpv6 : List Char → Bool
  | ':' :: ':' :: rest => isIpv6Rest 1 true rest
  | ':' :: _ => false
  | [_] => false
  | l => isIpv6Rest 0 false l

end SealedDrop.Url.Address
