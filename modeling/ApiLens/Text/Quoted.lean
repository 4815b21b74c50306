import ApiLens.Text.PrintTable
import ApiLens.Text.Lowercase

/-!
Text between quotes as it stands in messages: what does not show on its own is written by its number.
-/

namespace ApiLens

namespace Quoted

def hexText (n : Nat) : String :=
  String.ofList (Nat.toDigits 16 n)

def shows (c : Char) : Bool :=
  !(inRanges PrintTable.invisible c || inRanges PrintTable.extending c)

def char : Char → String
  | '\x00' => "\\0"
  | '\t' => "\\t"
  | '\r' => "\\r"
  | '\n' => "\\n"
  | '"' => "\\\""
  | '\\' => "\\\\"
  | c => if shows c then c.toString else "\\u\x7b" ++ hexText c.toNat ++ "\x7d"

end Quoted

def quoted (s : String) : String :=
  "\"" ++ s.toList.foldl (fun text c => text ++ Quoted.char c) "" ++ "\""

end ApiLens
