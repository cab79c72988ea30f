import TextIntake.Tool.Basic

set_option autoImplicit false

/-!
# Quoted names

Messages show names in a form that a shell reads back: bare where that is possible,
else between apostrophes, with escapes for what does not print.  A name with
apostrophes and nothing that means more to a shell stands between double quotes.
-/

namespace TextIntake.Tool.Quoting

/-- The escape of a character that does not print. -/
def escape (c : Char) : Text :=
  match controlLetters.find? fun (_, d) => d == c with
  | some (letter, _) => ['\\', letter]
  | none => '\\' :: padLeft 3 '0' (Nat.toDigits 8 c.toNat)

/-- The characters that mean something to a shell wherever they stand. -/
def special : Text := "!\"$&()*;<=>[^`|?\\".toList

/-- Whether a name has to be quoted on account of the shell. -/
def needsQuotes (t : Text) : Bool :=
  t = [] || t.any (fun c => !isPrintable c || special.contains c || c == '\'' || c == ' ') ||
    t.head? == some '~' || t.head? == some '#' || t == ['\x7b'] || t == ['\x7d']

/-- Whether a name can stand between double quotes as it is. -/
def fitsDouble (t : Text) : Bool :=
  let plain (c : Char) : Bool := isPrintable c && !special.contains c
  let brace (c : Char) : Bool := c == '\x7b' || c == '\x7d'
  let first (c : Char) : Bool := c == '#' || c == '~'
  t.all plain && !(t.drop 1).any first && (t.length = 1 || !t.any brace)

/-- The inside of a quotation and its end, behind an escape or not. -/
def inside : Bool → Text → Text
  | _, [] => ['\'']
  | escaped, c :: t =>
    let reopened : Text := if escaped then ['\'', '\''] else []
    if c = '\'' then "'\\''".toList ++ inside false t
    else if isPrintable c then reopened ++ c :: inside false t
    else (if escaped then [] else "'$'".toList) ++ escape c ++ inside true t

/-- A name between quotes. -/
def always (t : Text) : Text :=
  if t.contains '\'' then
    if fitsDouble t then '"' :: (t ++ ['"'])
    else '\'' :: inside ((t.getLast?.map fun c => !isPrintable c).getD false) t
  else '\'' :: inside false t

/-- A name between quotes where it has to be. -/
def whereNeeded (t : Text) : Text := if needsQuotes t || t.contains ':' then always t else t

end TextIntake.Tool.Quoting
