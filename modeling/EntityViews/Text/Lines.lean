/-! The lines of a text.
A line break ends a line, with or without a carriage return before it.
-/

namespace EntityViews.Text

def dropReturn (line : String) : String :=
  if line.endsWith "\r" then (line.dropEnd 1).toString else line

/-- The lines of a text; a line break at the end opens no further line. -/
def lines (text : String) : List String :=
  let parts := text.splitOn "\n"
  let last := parts.getLast?.getD ""
  parts.dropLast.map dropReturn ++ (if last.isEmpty then [] else [last])

end EntityViews.Text
