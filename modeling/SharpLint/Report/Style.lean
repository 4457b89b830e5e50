/-!
# Styled text

Terminals switch styles by codes between an escape and the letter `m`. A styled text is followed by
the code that resets all styles; where it holds such a code itself, its own style is switched on
again after it.
-/

namespace SharpLint.Report

structure Style where
  codes : List Nat

namespace Style

def bold : Style := ⟨[1]⟩
def dimmed : Style := ⟨[2]⟩
def red : Style := ⟨[31]⟩
def green : Style := ⟨[32]⟩
def blue : Style := ⟨[34]⟩
def cyan : Style := ⟨[36]⟩
def boldRed : Style := ⟨[1, 31]⟩
def boldGreen : Style := ⟨[1, 32]⟩
def boldCyan : Style := ⟨[1, 36]⟩

def opening (style : Style) : String :=
  "\x1b[" ++ ";".intercalate (style.codes.map toString) ++ "m"

end Style

def reset : String := "\x1b[0m"

/-- The characters with `again` after every reset. -/
def reopen (again : List Char) : List Char → List Char
  | '\x1b' :: '[' :: '0' :: 'm' :: cs => reset.toList ++ again ++ reopen again cs
  | c :: cs => c :: reopen again cs
  | [] => []

def padded (width : Nat) (text : String) : String :=
  text ++ String.ofList (List.replicate (width - text.length) ' ')

/-- The text in a style, with blanks up to a width inside it, or as it is when colours are off. -/
def paintPadded (colours : Bool) (style : Style) (width : Nat) (text : String) : String :=
  if colours then
    let inner := String.ofList (reopen style.opening.toList text.toList)
    style.opening ++ padded width inner ++ reset
  else padded width text

def paint (colours : Bool) (style : Style) (text : String) : String :=
  paintPadded colours style 0 text

end SharpLint.Report
