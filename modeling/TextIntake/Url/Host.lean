import TextIntake.File.Path
import TextIntake.Url.Percent

set_option autoImplicit false

/-!
# Hosts of URLs

A special scheme has a host that is a domain name or an address; any other scheme
has a host that is kept as it is.  A domain name that ends in a number has to be an IPv4
address, in any of the forms that were ever accepted for one.  An IPv6 address
stands in square brackets and is written back in its shortest form.
-/

namespace TextIntake.Url

/-- A host. -/
inductive Host where
  /-- a domain name, or the host of a scheme that is not special; it may be empty -/
  | name (text : Text)
  | ipv4 (address : Nat)
  | ipv6 (pieces : List Nat)
  deriving DecidableEq, Repr, Inhabited

namespace Host

/-! ## IPv4 -/

/-- The digits of a number in a base. -/
def digits? (base : Nat) (t : Text) : Option Nat :=
  t.foldlM (fun n c => do
    let d ← Percent.digitValue? c
    if d < base then some (n * base + d) else none) 0

/-- A part of an IPv4 address: decimal, octal behind `0`, hexadecimal behind `0x`. -/
def ipv4Number? : Text → Option Nat
  | [] => none
  | '0' :: x :: t => if x = 'x' ∨ x = 'X' then digits? 16 t else digits? 8 (x :: t)
  | t => digits? 10 t

/-- The parts between dots, without an empty one at the end. -/
def dotted (t : Text) : List Text :=
  let parts := Path.splitOn '.' t
  if parts.length > 1 ∧ parts.getLast? = some [] then parts.dropLast else parts

/-- Whether a domain name has to be an IPv4 address. -/
def endsInNumber (t : Text) : Bool :=
  match (dotted t).getLast? with
  | none | some [] => false
  | some last => last.all Character.isDecimalDigit || (ipv4Number? last).isSome

/-- Reads an IPv4 address.  The last part fills all the bytes that the parts in
front of it leave. -/
def ipv4? (t : Text) : Option Nat := do
  let parts := dotted t
  if parts.length > 4 then none
  let numbers ← parts.mapM ipv4Number?
  let last ← numbers.getLast?
  let first := numbers.dropLast
  if first.any (255 < ·) ∨ Nat.pow 256 (4 - first.length) ≤ last then none
  return last + first.zipIdx.foldl (fun total (n, i) => total + n * Nat.pow 256 (3 - i)) 0

/-- Writes an IPv4 address. -/
def ipv4Text (address : Nat) : Text :=
  let numbers := [3, 2, 1, 0].map fun i => toString (address / Nat.pow 256 i % 256)
  (String.intercalate "." numbers).toList

/-! ## IPv6 -/

/-- A piece of up to four hexadecimal digits. -/
def ipv6Piece? (t : Text) : Option Nat :=
  if t = [] ∨ 4 < t.length then none else digits? 16 t

/-- The two pieces of an IPv4 address at the end, four numbers without leading
zeros. -/
def ipv6Tail? (t : Text) : Option (List Nat) := do
  let parts := Path.splitOn '.' t
  if parts.length ≠ 4 then none
  let numbers ← parts.mapM fun p =>
    if p = [] ∨ (p.length > 1 ∧ p.head? = some '0') then none
    else
      match digits? 10 p with
      | some n => if n < 256 then some n else none
      | none => none
  match numbers with
  | [a, b, c, d] => some [a * 256 + b, c * 256 + d]
  | _ => none

/-- The pieces between colons; the last may be an IPv4 address. -/
def ipv6Pieces? : List Text → Option (List Nat)
  | [] => some []
  | [last] => if last.contains '.' then ipv6Tail? last else (ipv6Piece? last).map ([·])
  | p :: ps => do
    let n ← ipv6Piece? p
    let ns ← ipv6Pieces? ps
    return n :: ns

/-- The two sides of the first `::`. -/
def atDoubleColon? : Text → Option (Text × Text)
  | ':' :: ':' :: t => some ([], t)
  | c :: t => (atDoubleColon? t).map fun (a, b) => (c :: a, b)
  | [] => none

/-- Reads an IPv6 address: eight pieces, or fewer with `::` for the zeros left out. -/
def ipv6? (t : Text) : Option (List Nat) :=
  let side (s : Text) : Option (List Nat) :=
    if s = [] then some [] else ipv6Pieces? (Path.splitOn ':' s)
  match atDoubleColon? t with
  | none => do
    let ps ← side t
    if ps.length = 8 then some ps else none
  | some (a, b) => do
    let left ← if a.contains '.' then none else side a
    let right ← side b
    if left.length + right.length < 8 then
      some (left ++ List.replicate (8 - left.length - right.length) 0 ++ right)
    else none

/-- The length of the run of zeros at the start. -/
def zeroRun (ps : List Nat) : Nat := (ps.takeWhile (· == 0)).length

/-- Where the first of the longest runs of at least two zeros starts, and its length. -/
def longestZeroRun (ps : List Nat) : Option (Nat × Nat) :=
  (List.range ps.length).foldl (fun best i =>
    let n := zeroRun (ps.drop i)
    if n < 2 then best
    else
      match best with
      | none => some (i, n)
      | some (_, m) => if m < n then some (i, n) else best) none

/-- Writes pieces with colons between them. -/
def ipv6Join (ps : List Nat) : Text :=
  (String.intercalate ":" (ps.map fun n => String.ofList (Nat.toDigits 16 n))).toList

/-- Writes an IPv6 address with `::` for its longest run of zeros. -/
def ipv6Text (ps : List Nat) : Text :=
  match longestZeroRun ps with
  | none => ipv6Join ps
  | some (i, n) => ipv6Join (ps.take i) ++ [':', ':'] ++ ipv6Join (ps.drop (i + n))

/-! ## Reading and writing -/

/-- Characters that no host holds. -/
def forbidden : List Char := [
  '\x00', '\t', '\n', '\r', ' ', '#', '/', ':', '<', '>', '?', '@', '[', '\\', ']', '^', '|']

/-- Characters that no domain name holds. -/
def forbiddenInDomain (c : Char) : Bool :=
  c.toNat < 0x20 || c.toNat == 0x7F || c == '%' || forbidden.contains c

/-- An address in square brackets. -/
def bracketed? (t : Text) : Option Host :=
  if t.getLast? = some ']' then (ipv6? t.dropLast).map ipv6 else none

/-- Reads the host of a special scheme. -/
def special? (t : Text) : Option Host :=
  match t with
  | '[' :: inside => bracketed? inside
  | _ => do
    let domain ← Utf8.decode? (Percent.decode t)
    let domain := Text.lowerAscii domain
    if domain = [] ∨ domain.any forbiddenInDomain then none
    if endsInNumber domain then (ipv4? domain).map ipv4 else some (name domain)

/-- Reads the host of a scheme that is not special. -/
def generic? (t : Text) : Option Host :=
  match t with
  | '[' :: inside => bracketed? inside
  | _ => if t.any forbidden.contains then none else some (name (Percent.encode Percent.controls t))

/-- Writes a host. -/
def text : Host → Text
  | name t => t
  | ipv4 address => ipv4Text address
  | ipv6 pieces => ['['] ++ ipv6Text pieces ++ [']']

end Host

end TextIntake.Url
