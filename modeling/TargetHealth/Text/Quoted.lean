import TargetHealth.Text.Hex
import TargetHealth.Text.Unseen

namespace TargetHealth.Text

def codePointDigits (n : Nat) : List Char := Nat.toDigits 16 n

def quoteChar (c : Char) : List Char :=
  if c = '"' || c = '\\' then ['\\', c]
  else if c = '\n' then ['\\', 'n']
  else if c = '\r' then ['\\', 'r']
  else if c = '\t' then ['\\', 't']
  else if c = '\x00' then ['\\', '0']
  else if isSeen c then [c]
  else ['\\', 'u', '\x7b'] ++ codePointDigits c.toNat ++ ['\x7d']

def quote (s : String) : String := String.ofList ('"' :: s.toList.flatMap quoteChar ++ ['"'])

end TargetHealth.Text
