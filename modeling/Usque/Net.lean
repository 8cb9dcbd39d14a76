import Usque.Packet

/-! Textual IP addresses as `std::net` reads them, and the string helpers the
configuration code uses on them. A parser takes the characters left and answers
the value read with what follows it. -/
namespace Usque

structure Ipv4Addr where
  bits : BitVec 32
  deriving DecidableEq, Repr

structure Ipv6Addr where
  bits : BitVec 128
  deriving DecidableEq, Repr

inductive IpAddr where
  | v4 (address : Ipv4Addr)
  | v6 (address : Ipv6Addr)
  deriving DecidableEq, Repr

structure SocketAddr where
  ip : IpAddr
  port : UInt16
  deriving DecidableEq, Repr

namespace Net

/-! ## `str` -/

/-- Unicode `White_Space`, what `str::trim` removes. -/
def isWhiteSpace (c : Char) : Bool :=
  let code := c.toNat
  (0x9 ≤ code && code ≤ 0xd) || code == 0x20 || code == 0x85 || code == 0xa0 || code == 0x1680 ||
    (0x2000 ≤ code && code ≤ 0x200a) || code == 0x2028 || code == 0x2029 || code == 0x202f ||
    code == 0x205f || code == 0x3000

def trim (text : List Char) : List Char :=
  ((text.dropWhile isWhiteSpace).reverse.dropWhile isWhiteSpace).reverse

def stripPrefix (first : Char) : List Char → Option (List Char)
  | c :: rest => if c = first then some rest else none
  | [] => none

def stripSuffix (last : Char) (text : List Char) : Option (List Char) :=
  (stripPrefix last text.reverse).map List.reverse

/-! ## The address parser -/

abbrev Parser (α : Type) := List Char → Option (α × List Char)

/-- `char::to_digit`. -/
def toDigit (radix : ℕ) (c : Char) : Option ℕ :=
  let code := c.toNat
  let value :=
    if 0x30 ≤ code ∧ code ≤ 0x39 then some (code - 0x30)
    else if 0x61 ≤ code ∧ code ≤ 0x7a then some (code - 0x61 + 10)
    else if 0x41 ≤ code ∧ code ≤ 0x5a then some (code - 0x41 + 10)
    else none
  value.filter (· < radix)

/-- The leading digits and what follows them. -/
def readDigits (radix : ℕ) : List Char → List ℕ × List Char
  | [] => ([], [])
  | c :: rest =>
    match toDigit radix c with
    | some digit => let (digits, left) := readDigits radix rest; (digit :: digits, left)
    | none => ([], c :: rest)

/-- `read_number` with a digit limit; `bound` is the first value that does not
fit the number's type. -/
def readNumber (radix maxDigits bound : ℕ) (allowZeroPrefix : Bool) : Parser ℕ := fun text =>
  let (digits, left) := readDigits radix text
  let number := digits.foldl (fun number digit => number * radix + digit) 0
  if digits.length > maxDigits || digits.isEmpty || number ≥ bound then none
  else if !allowZeroPrefix && text.head? == some '0' && digits.length > 1 then none
  else some (number, left)

/-- `read_separator`: from the second value on, the separator comes first. -/
def readSeparator (separator : Char) (index : ℕ) (inner : Parser α) : Parser α := fun text =>
  if index > 0 then (stripPrefix separator text).bind inner else inner text

/-- `count` decimal octets from the one with this index on, as one number. -/
def readOctets : ℕ → ℕ → ℕ → Parser ℕ
  | 0, _, number => fun text => some (number, text)
  | count + 1, index, number => fun text =>
    (readSeparator '.' index (readNumber 10 3 256 false) text).bind fun (octet, rest) =>
      readOctets count (index + 1) (number * 256 + octet) rest

def readIpv4Addr : Parser Ipv4Addr := fun text =>
  (readOctets 4 0 0 text).map fun (number, rest) => (⟨BitVec.ofNat 32 number⟩, rest)

/-- `read_groups` from the group with this index on: the groups, whether they
end in an embedded IPv4 address, and what follows. -/
def readGroups : ℕ → ℕ → List Char → List ℕ × Bool × List Char
  | 0, _, text => ([], false, text)
  | left + 1, index, text =>
    match if left > 0 then readSeparator ':' index readIpv4Addr text else none with
    | some (address, rest) =>
      ([address.bits.toNat / 65536, address.bits.toNat % 65536], true, rest)
    | none =>
      match readSeparator ':' index (readNumber 16 4 65536 true) text with
      | some (group, rest) =>
        let (groups, embedded, rest) := readGroups left (index + 1) rest
        (group :: groups, embedded, rest)
      | none => ([], false, text)

def ofGroups (groups : List ℕ) : Ipv6Addr :=
  ⟨BitVec.ofNat 128 (groups.foldl (fun number group => number * 65536 + group) 0)⟩

def readIpv6Addr : Parser Ipv6Addr := fun text =>
  let (head, embedded, rest) := readGroups 8 0 text
  if head.length = 8 then some (ofGroups head, rest)
  else if embedded then none
  else do
    let rest ← stripPrefix ':' rest
    let rest ← stripPrefix ':' rest
    let (tail, _, rest) := readGroups (8 - (head.length + 1)) 0 rest
    let zeros := List.replicate (8 - head.length - tail.length) 0
    some (ofGroups (head ++ zeros ++ tail), rest)

/-- `parse_with`: the whole text must be used up. -/
def parseWith (inner : Parser α) (text : List Char) : Option α :=
  match inner text with
  | some (value, []) => some value
  | _ => none

def parseIpv6Addr (text : List Char) : Option Ipv6Addr := parseWith readIpv6Addr text

/-- `IpAddr::from_str`. -/
def parseIpAddr (text : List Char) : Option IpAddr :=
  parseWith (fun text => ((readIpv4Addr text).map fun (address, rest) => (.v4 address, rest)) <|>
    ((readIpv6Addr text).map fun (address, rest) => (.v6 address, rest))) text

end Net
end Usque
