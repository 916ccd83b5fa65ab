import VideoCapture.Notice
import VideoCapture.Text.Shown
/-!
# Records as the log shows them

A record takes a line that begins with its level. Further lines of its text are set in. What a
terminal would obey is left out, so that a record cannot colour or hide what comes after it; but a
sequence that is still open at the end takes the line end with it.
-/
namespace VideoCapture

def Level.label (level : Level) : String :=
  String.ofList ((level.name.toList.map Char.toUpper).rightpad 5 ' ')

/-- A record as the log shows it. -/
def Record.entry (r : Record) : String :=
  Text.shown (s!"[{r.level.label}] " ++ "\n    ".intercalate (r.text.splitOn "\n") ++ "\n")

end VideoCapture
