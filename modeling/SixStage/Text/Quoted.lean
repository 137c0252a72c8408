-- Quoted text, as messages show what they found. Quotes and backslashes are
-- escaped, and so is every character that would not be seen.
import SixStage.Text.Hex
import SixStage.Text.Hidden

namespace SixStage.Text

/-- A character between quotes. A hidden one shows its code point. -/
def quotedChar (c : Char) : String :=
  match c with
  | '"' => "\\\""
  | '\\' => "\\\\"
  | '\n' => "\\n"
  | '\r' => "\\r"
  | '\t' => "\\t"
  | '\x00' => "\\0"
  | c => if isHidden c then "\\u\x7b" ++ hex 1 c.toNat ++ "\x7d" else c.toString

def quoted (s : String) : String :=
  s.toList.foldl (fun text c => text ++ quotedChar c) "\"" ++ "\""

end SixStage.Text
