/-!
Module: QuantumAssembler.Report.Style
Purpose: Terminal styles. Styled text stands between the sequence that starts its style and the
  sequence that ends all styles. Where the text itself ends all styles, its own style is started
  again.
Main exports: Style, Style.paint
-/

namespace QuantumAssembler

/-- The styles of reports. -/
inductive Style where
  | boldBrightRed
  | brightWhite
  | brightBlue
  | brightRed
  | dimmed
deriving DecidableEq, Repr

namespace Style

/-- The sequence that starts a style. -/
def start : Style → String
  | boldBrightRed => "\x1b[1;91m"
  | brightWhite => "\x1b[97m"
  | brightBlue => "\x1b[94m"
  | brightRed => "\x1b[91m"
  | dimmed => "\x1b[2m"

/-- The sequence that ends all styles. -/
def stop : String := "\x1b[0m"

/-- A text in a style, or plain if there are no colours. -/
def paint (coloured : Bool) (style : Style) (text : String) : String :=
  if coloured then style.start ++ text.replace stop (stop ++ style.start) ++ stop else text

end Style

end QuantumAssembler
