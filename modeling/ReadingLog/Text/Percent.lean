import ReadingLog.Text.Basic

/-!
# Percent coding

In the targets of links a percent sign with two hexadecimal digits stands for a byte; the bytes are UTF-8.
-/

namespace ReadingLog.Text

/-- The value of a hexadecimal digit given as a byte. -/
def hexValue? (b : UInt8) : Option UInt8 :=
  if 48 ≤ b ∧ b ≤ 57 then some (b - 48)
  else if 65 ≤ b ∧ b ≤ 70 then some (b - 55)
  else if 97 ≤ b ∧ b ≤ 102 then some (b - 87)
  else none

/-- Bytes with every percent sign that two hexadecimal digits follow replaced by the byte they give. -/
def percentBytes : List UInt8 → List UInt8
  | [] => []
  | 37 :: high :: low :: rest =>
    match hexValue? high, hexValue? low with
    | some h, some l => (h * 16 + l) :: percentBytes rest
    | _, _ => 37 :: percentBytes (high :: low :: rest)
  | b :: rest => b :: percentBytes rest
termination_by bytes => bytes.length

/-- The text that bytes encode in UTF-8. -/
def ofUTF8? (bytes : List UInt8) : Option Text := (String.fromUTF8? ⟨bytes.toArray⟩).map String.toList

/-- Percent-coded text decoded, unless its bytes are no UTF-8. -/
def percentDecode? (s : Text) : Option Text := ofUTF8? (percentBytes (String.ofList s).toUTF8.toList)

end ReadingLog.Text
