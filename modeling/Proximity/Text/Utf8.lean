/-!
# Text from octets

Reading octets as UTF-8 when some of them may be wrong. `decodeLossy` reads every well-formed
character and writes one replacement character for each longest run of octets that begins a
character and cannot be completed, and for each octet that begins none.
-/
namespace Proximity.Text
set_option autoImplicit false

/-- The character that stands for octets that are not text. -/
def replacement : Char := '\ufffd'

/-- A character under way: the bits read so far, the number of octets still owed, and the bounds of
the next one. -/
structure Pending where
  bits : Nat
  owed : Nat
  low : UInt8
  high : UInt8
  deriving DecidableEq, Repr

/-- What the first octet of a character says: the character itself, or what has to follow. -/
def leadOctet (b : UInt8) : Char ⊕ Pending :=
  if b < 0x80 then .inl (Char.ofNat b.toNat)
  else if 0xC2 ≤ b ∧ b ≤ 0xDF then .inr ⟨b.toNat - 0xC0, 1, 0x80, 0xBF⟩
  else if b = 0xE0 then .inr ⟨0, 2, 0xA0, 0xBF⟩
  else if b = 0xED then .inr ⟨0xD, 2, 0x80, 0x9F⟩
  else if 0xE1 ≤ b ∧ b ≤ 0xEF then .inr ⟨b.toNat - 0xE0, 2, 0x80, 0xBF⟩
  else if b = 0xF0 then .inr ⟨0, 3, 0x90, 0xBF⟩
  else if 0xF1 ≤ b ∧ b ≤ 0xF3 then .inr ⟨b.toNat - 0xF0, 3, 0x80, 0xBF⟩
  else if b = 0xF4 then .inr ⟨4, 3, 0x80, 0x8F⟩
  else .inl replacement

/-- What a following octet makes of a character under way: the character, what is still owed, or
nothing if the octet cannot follow. -/
def Pending.next (p : Pending) (b : UInt8) : Option (Char ⊕ Pending) :=
  if p.low ≤ b ∧ b ≤ p.high then
    let bits := p.bits * 64 + (b.toNat - 0x80)
    if p.owed = 1 then some (.inl (Char.ofNat bits))
    else some (.inr ⟨bits, p.owed - 1, 0x80, 0xBF⟩)
  else none

/-- Reads octets after a character under way, if there is one. -/
def decodeAfter : Option Pending → List UInt8 → List Char
  | none, [] => []
  | some _, [] => [replacement]
  | none, b :: bs =>
    match leadOctet b with
    | .inl c => c :: decodeAfter none bs
    | .inr p => decodeAfter (some p) bs
  | some p, b :: bs =>
    match p.next b with
    | some (.inl c) => c :: decodeAfter none bs
    | some (.inr q) => decodeAfter (some q) bs
    | none =>
      match leadOctet b with
      | .inl c => replacement :: c :: decodeAfter none bs
      | .inr q => replacement :: decodeAfter (some q) bs

/-- The text of some octets, with a replacement character for what is not text. -/
def decodeLossy (bs : List UInt8) : String :=
  String.ofList (decodeAfter none bs)

end Proximity.Text
