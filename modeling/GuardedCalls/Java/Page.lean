/-!
Text under construction, with the level that its lines are indented to.
-/

namespace GuardedCalls

structure Page where
  text : String := ""
  level : Nat := 0

namespace Page

def write (p : Page) (s : String) : Page :=
  { p with text := p.text ++ s }

def margin (level : Nat) : String :=
  String.ofList (List.replicate (4 * level) ' ')

def startLine (p : Page) : Page :=
  p.write (margin p.level)

def endLine (p : Page) : Page :=
  p.write "\n"

def indent (p : Page) : Page :=
  { p with level := p.level + 1 }

def dedent (p : Page) : Page :=
  { p with level := p.level - 1 }

end Page

end GuardedCalls
