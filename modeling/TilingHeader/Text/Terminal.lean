namespace TilingHeader.Text

/-! A text on a terminal.  The control characters that a terminal may take for a
command are escaped: the bell, the backspace, the form feed, the escape, the
delete, and all of the second set of controls. -/

def isSecondControl (character : Char) : Bool :=
  0x80 ≤ character.toNat && character.toNat ≤ 0x9F

def disarm (character : Char) : List Char :=
  if character = '\x07' then "\\x07".toList
  else if character = '\x08' then "\\x08".toList
  else if character = '\x0c' then "\\x0c".toList
  else if character = '\x1b' then "\\x1b".toList
  else if character = '\x7f' then "\\x7f".toList
  else if isSecondControl character then
    ['\\', 'u', '\x7b'] ++ Nat.toDigits 16 character.toNat ++ ['\x7d']
  else [character]

def disarmed (text : String) : String :=
  String.ofList (text.toList.flatMap disarm)

end TilingHeader.Text
