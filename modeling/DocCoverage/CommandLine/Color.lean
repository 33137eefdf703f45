/-!
# Colours

The table has colours on a terminal unless the environment turns them off. The environment may also
ask for them where there is no terminal.
-/

namespace DocCoverage.CommandLine

/-- What the environment says about colours. -/
structure ColorSettings where
  /-- The value that asks for colours everywhere. -/
  force : Option String
  /-- The value that, whatever it is, turns colours off. -/
  noColor : Option String
  /-- The value that turns colours off on a terminal. -/
  onTerminal : Option String
  deriving DecidableEq, Repr

/-- Whether the value of a variable of the environment is no zero. -/
def isOn (value : String) : Bool := value != "0"

/-- Whether output is coloured; `terminal` says that it goes to a terminal. -/
def ColorSettings.color (settings : ColorSettings) (terminal : Bool) : Bool :=
  if settings.force.any isOn then true
  else if settings.noColor.isSome then false
  else settings.onTerminal.all isOn && terminal

end DocCoverage.CommandLine
