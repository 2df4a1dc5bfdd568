/-!
# Colours

Text can be set off by colours and weights where they can be seen, and is written plainly
elsewhere.
-/

namespace Converge.Cli

/-- How text is set off. -/
inductive Style where
  | bold
  | dimmed
  | red
  | green
  | yellow
  | blue
  | purple
  deriving DecidableEq, Repr

/-- The number of a style. -/
def Style.code : Style → String
  | .bold => "1"
  | .dimmed => "2"
  | .red => "31"
  | .green => "32"
  | .yellow => "33"
  | .blue => "34"
  | .purple => "35"

/-- What begins a style. -/
def Style.start (s : Style) : String := "\x1b[" ++ s.code ++ "m"

/-- What ends every style. -/
def Style.stop : String := "\x1b[0m"

/-- Text in a style.  A style that ends inside the text gives way to this one again. -/
def Style.wrap (s : Style) (text : String) : String :=
  s.start ++ text.replace Style.stop (Style.stop ++ s.start) ++ Style.stop

/-- Text in a style, where styles can be seen. -/
def Style.paint (s : Style) (visible : Bool) (text : String) : String :=
  if visible then s.wrap text else text

end Converge.Cli
