import AtomData.Text.Blank
import AtomData.Text.Hidden

/-!
# Text quoted in messages

A text inside a message stands between double quotes on one line: quotes, backslashes and
line characters have an escape of two characters, and hidden characters are given by number.
-/

namespace AtomData.Text.Quoted

def escape? : Char → Option Char
  | '"' => some '"'
  | '\\' => some '\\'
  | '\n' => some 'n'
  | '\t' => some 't'
  | '\r' => some 'r'
  | '\x00' => some '0'
  | _ => none

def numbered (c : Char) : List Char :=
  '\\' :: 'u' :: '\x7b' :: Nat.toDigits 16 c.toNat ++ ['\x7d']

def encodeChar (c : Char) : List Char :=
  match escape? c with
  | some e => ['\\', e]
  | none => if inRanges hiddenRanges c.toNat then numbered c else [c]

def quote (s : String) : String :=
  String.ofList ('"' :: s.toList.flatMap encodeChar ++ ['"'])

end AtomData.Text.Quoted
