/-!
Texts and their bytes in UTF-8.

Bytes that are no text can still be shown: every stretch of them that starts a character and does not
end it, or that starts none, becomes one replacement character.
-/

namespace ApiLens

/-- The text in bytes, if they are UTF-8. -/
def utf8Text? (bytes : List UInt8) : Option String :=
  String.fromUTF8? ⟨bytes.toArray⟩

theorem flatMap_of_utf8Text? {s : String} (h : utf8Text? bytes = some s) :
    s.toList.flatMap String.utf8EncodeChar = bytes := by
  unfold utf8Text? String.fromUTF8? at h
  split at h
  case isFalse => cases h
  case isTrue hv =>
    cases h
    have hb : (String.fromUTF8 ⟨bytes.toArray⟩ hv).toList.utf8Encode = ⟨bytes.toArray⟩ := by
      rw [← String.toByteArray_ofList, String.ofList_toList]
      rfl
    have hd := congrArg (·.data.toList) hb
    simpa [List.utf8Encode] using hd

/-- A text has a slash in it where its bytes have one. -/
theorem slash_notMem_of_utf8Text? {s : String} (h : utf8Text? bytes = some s)
    (hb : '/'.toUInt8 ∉ bytes) : '/' ∉ s.toList := by
  intro hs
  rw [← flatMap_of_utf8Text? h] at hb
  exact hb <| List.mem_flatMap.mpr ⟨'/', hs, by decide⟩

namespace Utf8

/-- A character that has been begun: its bits so far, how many more bytes it takes, and between which
two the next of them lies. -/
structure Begun where
  bits : Nat
  wanted : Nat
  low : UInt8 := 0x80
  high : UInt8 := 0xbf
deriving DecidableEq, Repr

/-- What a first byte begins. Long forms, surrogates and what lies beyond the last character are ruled
out by the second byte. -/
def begin? (b : UInt8) : Option Begun :=
  if b < 0xc2 then none
  else if b < 0xe0 then some { bits := b.toNat - 0xc0, wanted := 1 }
  else if b < 0xf0 then
    some { bits := b.toNat - 0xe0, wanted := 2
           low := if b = 0xe0 then 0xa0 else 0x80
           high := if b = 0xed then 0x9f else 0xbf }
  else if b < 0xf5 then
    some { bits := b.toNat - 0xf0, wanted := 3
           low := if b = 0xf0 then 0x90 else 0x80
           high := if b = 0xf4 then 0x8f else 0xbf }
  else none

/-- What is shown at the first byte of a character, and what it begins. -/
def first (b : UInt8) : List Char × Option Begun :=
  if b < 0x80 then ([Char.ofNat b.toNat], none)
  else
    match begin? b with
    | some begun => ([], some begun)
    | none => (['\ufffd'], none)

/-- One more byte. A character that it does not go on with is given up, and it may begin another. -/
def step (begun : Option Begun) (b : UInt8) : List Char × Option Begun :=
  match begun with
  | none => first b
  | some c =>
    if c.low ≤ b && b ≤ c.high then
      let bits := 64 * c.bits + (b.toNat - 0x80)
      if c.wanted = 1 then ([Char.ofNat bits], none) else ([], some { bits, wanted := c.wanted - 1 })
    else
      let (shown, next) := first b
      ('\ufffd' :: shown, next)

def lossyFrom (begun : Option Begun) : List UInt8 → List Char
  | [] => if begun.isSome then ['\ufffd'] else []
  | b :: rest =>
    let (shown, next) := step begun b
    shown ++ lossyFrom next rest

end Utf8

/-- Bytes as they are shown. -/
def lossyText (bytes : List UInt8) : String := String.ofList (Utf8.lossyFrom none bytes)

end ApiLens
