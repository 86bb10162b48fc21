import CameraConsole.Text.Bytes
import CameraConsole.Text.Numeral
import CameraConsole.Text.Percent
import CameraConsole.Text.Split
import CameraConsole.Url.Basic
import CameraConsole.Url.Label
import CameraConsole.Url.PlainForm

/-!
# Hosts

Names and addresses in canonical form. Names are written in ASCII, with international labels spelled
after `xn--`; a name whose last label is a number has to be an IPv4 address.
-/

namespace CameraConsole.Host

/-! ## IPv4 -/

/-- The value of digits in a base up to sixteen, when all of them are digits of that base. -/
def numberIn (base : Nat) : Nat → List Char → Option Nat
  | value, [] => some value
  | value, c :: cs =>
    match Text.hexValue? c with
    | none => none
    | some d => if d < base then numberIn base (value * base + d) cs else none

/-- A part of an IPv4 address: decimal, octal after `0`, hexadecimal after `0x`. -/
def ipv4Number? : List Char → Option Nat
  | [] => none
  | '0' :: 'x' :: cs | '0' :: 'X' :: cs => numberIn 16 0 cs
  | '0' :: c :: cs => numberIn 8 0 (c :: cs)
  | cs => numberIn 10 0 cs

/-- The labels of a name, without the empty one after a final dot. -/
def labels (name : List Char) : List (List Char) :=
  let parts := Text.splitAll (· = '.') name
  if parts.getLast? = some [] ∧ 1 < parts.length then parts.dropLast else parts

/-- Whether a name has to be read as an IPv4 address. -/
def endsInNumber (name : List Char) : Bool :=
  match (labels name).getLast? with
  | none | some [] => false
  | some last => last.all Char.isDigit || (ipv4Number? last).isSome

/-- The address of its parts: all but the last are bytes, the last fills the bytes that are left. -/
def ipv4Value? : List Nat → Option Nat
  | [] => none
  | parts =>
    let init := parts.dropLast
    let last := parts.getLastD 0
    if parts.length ≤ 4 ∧ init.all (· ≤ 255) ∧ last < Nat.pow 256 (4 - init.length) then
      some (init.foldl (fun v p => v * 256 + p) 0 * Nat.pow 256 (4 - init.length) + last)
    else none

def dotted (v : Nat) : List Char :=
  let part (k : Nat) := Nat.toDigits 10 (v / Nat.pow 256 k % 256)
  part 3 ++ '.' :: part 2 ++ '.' :: part 1 ++ '.' :: part 0

def ipv4 (name : List Char) : Except UrlFault (List Char) :=
  match (labels name).mapM ipv4Number? with
  | none => .error .invalidIpv4
  | some parts =>
    match ipv4Value? parts with
    | none => .error .invalidIpv4
    | some v => .ok (dotted v)

/-! ## IPv6 -/

/-- A group of one to four hexadecimal digits. -/
def group? (cs : List Char) : Option Nat :=
  if cs = [] ∨ 4 < cs.length then none else numberIn 16 0 cs

/-- A byte in decimal without leading zeros. -/
def byte? (cs : List Char) : Option Nat :=
  match cs with
  | [] => none
  | '0' :: _ :: _ => none
  | _ => (numberIn 10 0 cs).filter (· ≤ 255)

/-- The two groups of an IPv4 address at the end of an IPv6 one. -/
def embedded? (cs : List Char) : Option (List Nat) :=
  match (Text.splitAll (· = '.') cs).mapM byte? with
  | some [a, b, c, d] => some [a * 256 + b, c * 256 + d]
  | _ => none

/-- The groups between colons; the last part may be an IPv4 address when `last` is set. -/
def groups? (last : Bool) (cs : List Char) : Option (List Nat) :=
  if cs = [] then some [] else
    let parts := Text.splitAll (· = ':') cs
    let tail := parts.getLastD []
    if last ∧ '.' ∈ tail then do
      let front ← parts.dropLast.mapM group?
      let back ← embedded? tail
      some (front ++ back)
    else parts.mapM group?

/-- Splits at the first double colon. -/
def splitGap : List Char → Option (List Char × List Char)
  | [] => none
  | ':' :: ':' :: cs => some ([], cs)
  | c :: cs => (splitGap cs).map fun (a, b) => (c :: a, b)

/-- The eight groups of an IPv6 address. A double colon stands for one or more zero groups. -/
def ipv6Groups? (cs : List Char) : Option (List Nat) :=
  match splitGap cs with
  | none => (groups? true cs).filter (·.length = 8)
  | some (a, b) => do
    let front ← groups? false a
    let back ← groups? true b
    if front.length + back.length ≤ 7 then
      some (front ++ List.replicate (8 - front.length - back.length) 0 ++ back)
    else none

/-- The start and length of the first longest run of zero groups; `index` is that of the first
group. -/
def longestGap : (index : Nat) → (best : Nat × Nat) → List Nat → Nat × Nat
  | _, best, [] => best
  | i, best, g :: gs =>
    let run := ((g :: gs).takeWhile (· = 0)).length
    longestGap (i + 1) (if best.2 < run then (i, run) else best) gs

/-- The text of eight groups, with the longest run of two or more zero groups left out. -/
def ipv6Text (groups : List Nat) : List Char :=
  let write (gs : List Nat) := Text.joinAll ':' (gs.map (Nat.toDigits 16))
  let (start, length) := longestGap 0 (0, 0) groups
  if length < 2 then write groups
  else write (groups.take start) ++ ':' :: ':' :: write (groups.drop (start + length))

def ipv6 (cs : List Char) : Except UrlFault (List Char) :=
  match ipv6Groups? cs with
  | none => .error .invalidIpv6
  | some gs => .ok ('[' :: (ipv6Text gs ++ [']']))

/-- An address in brackets. -/
def bracketed (cs : List Char) : Except UrlFault (List Char) :=
  match cs.reverse with
  | ']' :: back => ipv6 back.reverse
  | _ => .error .invalidIpv6

/-! ## Names -/

/-- What a name may not contain in ASCII. -/
def forbidden (c : Char) : Bool :=
  c.toNat ≤ 0x20 || c.toNat = 0x7F || "%#/:<>?@[\\]^|".toList.contains c

/-- The name that a text stands for, in plain and composed form; none when its bytes are no text. -/
def name? (cs : List Char) : Option (List Char) :=
  let bytes := Text.percentDecode cs
  if bytes.all (·.toNat < 0x80) then some (bytes.map fun b => (Char.ofNat b.toNat).toLower)
  else
    (Text.fromUtf8? bytes).map fun s => Text.composedForm (s.toList.flatMap Url.plainForm)

/-- The canonical form of a host of the web. -/
def web (cs : List Char) : Except UrlFault (List Char) :=
  match cs with
  | '[' :: rest => bracketed rest
  | _ =>
    match name? cs with
    | none => .error .invalidInternationalName
    | some name =>
      let labels := Text.splitAll (· = '.') name
      if name.any forbidden || !Label.wellFormed labels then .error .invalidInternationalName
      else
        let name := Text.joinAll '.' (labels.map Label.written)
        if name = [] then .error .emptyHost
        else if endsInNumber name then ipv4 name
        else .ok name

/-- What a host of any other scheme may not contain. -/
def forbiddenElsewhere (c : Char) : Bool :=
  c = '\x00' || c = ' ' || "#/:<>?@[\\]^|".toList.contains c

/-- The host of a URL of any other scheme. -/
def elsewhere (cs : List Char) : Except UrlFault (List Char) :=
  match cs with
  | '[' :: rest => bracketed rest
  | _ =>
    if cs.any forbiddenElsewhere then .error .invalidHostCharacter
    else .ok (Text.percentEncode (fun c => c.toNat < 0x20 || c.toNat = 0x7F) cs)

end CameraConsole.Host
