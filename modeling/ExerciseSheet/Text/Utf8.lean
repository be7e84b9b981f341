import ExerciseSheet.Text.Basic

/-!
# Text as octets

Texts are stored as UTF-8. Octets that are not UTF-8 either refuse the whole text or, where a text
is wanted at any price, become one replacement character for each longest part that could have begun
a character.
-/

namespace ExerciseSheet

/-- The content of a file. -/
abbrev Octets := List UInt8

/-- The octets of a text. -/
def Text.utf8 (t : Text) : Octets := t.flatMap String.utf8EncodeChar

namespace Octets

/-- What a character's first octet says: how many octets follow, the range of the next one, and the
bits it carries itself. -/
def leading? (b : Nat) : Option (Nat × Nat × Nat × Nat) :=
  if b ≤ 0x7F then some (0, 0x80, 0xBF, b)
  else if b < 0xC2 then none
  else if b ≤ 0xDF then some (1, 0x80, 0xBF, b - 0xC0)
  else if b = 0xE0 then some (2, 0xA0, 0xBF, 0)
  else if b = 0xED then some (2, 0x80, 0x9F, 0xD)
  else if b ≤ 0xEF then some (2, 0x80, 0xBF, b - 0xE0)
  else if b = 0xF0 then some (3, 0x90, 0xBF, 0)
  else if b ≤ 0xF3 then some (3, 0x80, 0xBF, b - 0xF0)
  else if b = 0xF4 then some (3, 0x80, 0x8F, 4)
  else none

/-- Reads `n` further octets of a character, the next of them between `low` and `high`, onto the
bits read so far. The octets that do not belong to the character are left. -/
def following : (n low high bits : Nat) → Octets → Option Nat × Octets
  | 0, _, _, bits, rest => (some bits, rest)
  | _ + 1, _, _, _, [] => (none, [])
  | n + 1, low, high, bits, b :: rest =>
    if low ≤ b.toNat && b.toNat ≤ high then
      following n 0x80 0xBF (bits * 64 + (b.toNat - 0x80)) rest
    else (none, b :: rest)

/-- The characters of at most `fuel` characters' octets, `none` for each part that begins no
character. -/
def charsFrom : (fuel : Nat) → Octets → List (Option Char)
  | 0, _ => []
  | _ + 1, [] => []
  | fuel + 1, b :: rest =>
    match leading? b.toNat with
    | none => none :: charsFrom fuel rest
    | some (n, low, high, bits) =>
      let (code, rest) := following n low high bits rest
      code.map Char.ofNat :: charsFrom fuel rest

/-- The characters of the octets, `none` for each part that begins no character. -/
def chars (bs : Octets) : List (Option Char) := charsFrom bs.length bs

/-- The text, when every octet belongs to a character. -/
def text? (bs : Octets) : Option Text := bs.chars.mapM id

/-- The text with the replacement character for each part that is none. -/
def textLossy (bs : Octets) : Text := bs.chars.map (·.getD (Char.ofNat 0xFFFD))

end Octets

end ExerciseSheet
