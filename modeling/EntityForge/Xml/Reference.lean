import EntityForge.Word
import EntityForge.Xml.Fault

/-!
# References

A reference stands for one character: by number, decimal or hexadecimal, or by one of the five names
that need no declaration. Texts resolve references one at a time; an attribute value resolves all of
its references at once and reports positions inside the value.
-/

namespace EntityForge.Xml

/-- The value of a digit of a base up to sixteen. -/
def digitIn? (base : Nat) (c : Char) : Option Nat :=
  let value? :=
    if '0' ≤ c ∧ c ≤ '9' then some (c.toNat - '0'.toNat)
    else if 'a' ≤ c ∧ c ≤ 'f' then some (c.toNat - 'a'.toNat + 10)
    else if 'A' ≤ c ∧ c ≤ 'F' then some (c.toNat - 'A'.toNat + 10)
    else none
  value?.filter (· < base)

/-- The value of the digits, read on from the value of those before them. The first digit that is
wrong or too much is the fault reported. -/
def numberFrom (base value : Nat) : List Char → Except CharRefFault Nat
  | [] => .ok value
  | c :: cs =>
    match digitIn? base c with
    | none => .error .badDigit
    | some d =>
      if base * value + d < Word.count 32 then numberFrom base (base * value + d) cs
      else .error .overflow

/-- The character a number stands for. -/
def charOfNumber (value : Nat) : Except CharRefFault Char :=
  if value = 0 then .error .zero
  else if h : value.isValidChar then .ok (Char.ofNatAux value h)
  else .error (.notChar value)

/-- The character that the digits stand for, a sign being refused. -/
def charOfDigits (base : Nat) : List Char → Except CharRefFault Char
  | [] => .error .empty
  | '+' :: _ | '-' :: _ => .error .signed
  | cs => do charOfNumber (← numberFrom base 0 cs)

/-- The character of a numeric reference, given what follows the number sign. -/
def numericReference : List Char → Except CharRefFault Char
  | 'x' :: cs => charOfDigits 16 cs
  | cs => charOfDigits 10 cs

/-- The character that one of the five predefined names stands for. -/
def namedReference? (name : List Char) : Option Char :=
  match String.ofList name with
  | "lt" => some '<'
  | "gt" => some '>'
  | "amp" => some '&'
  | "apos" => some '\''
  | "quot" => some '"'
  | _ => none

/-- The character of a reference in text, given what stands between `&` and `;`. -/
def resolveReference : List Char → Except Fault Char
  | '#' :: cs =>
    match numericReference cs with
    | .ok c => .ok c
    | .error fault => .error (.charRef fault)
  | name =>
    match namedReference? name with
    | some c => .ok c
    | none => .error (.unknownEntity (String.ofList name))

/-- The number of bytes of a text in UTF-8. -/
def byteLength (cs : List Char) : Nat :=
  cs.foldr (fun c size => c.utf8Size + size) 0

/-- The character of a reference in an attribute value, given its name and the place of the name. -/
def resolveValueReference (start stop : Nat) : List Char → Except Fault Char
  | '#' :: digits =>
    match numericReference digits with
    | .ok c => .ok c
    | .error fault => .error (.charRef fault)
  | name =>
    match namedReference? name with
    | some c => .ok c
    | none => .error (.unknownValueEntity start stop (String.ofList name))

/-- Whether a character can stand in a reference of an attribute value. -/
def inValueReference (c : Char) : Bool :=
  c != '&' && c != ';'

/-- The text of an attribute value, read from a position on. `size` is the length of the whole
value; the faults carry positions in bytes. -/
def resolveValueFrom (size position : Nat) : List Char → Except Fault (List Char)
  | [] => .ok []
  | '&' :: rest =>
    let name := rest.takeWhile inValueReference
    let stop := position + 1 + byteLength name
    match _h : rest.dropWhile inValueReference with
    | ';' :: after =>
      match resolveValueReference (position + 1) stop name with
      | .ok c => (resolveValueFrom size (stop + 1) after).map (c :: ·)
      | .error fault => .error fault
    | _ => .error (.unclosedValueReference position size)
  | c :: rest => (resolveValueFrom size (position + c.utf8Size) rest).map (c :: ·)
  termination_by cs => cs.length
  decreasing_by
    · have hle := (List.dropWhile_sublist inValueReference (l := rest)).length_le
      rw [_h] at hle
      simp only [List.length_cons] at hle ⊢
      omega
    · simp

/-- The text of an attribute value as it stands between its quotes. -/
def resolveValue (cs : List Char) : Except Fault (List Char) :=
  resolveValueFrom (byteLength cs) 0 cs

end EntityForge.Xml
