import MapAudit.Script.Raw

/-! # Signals

    A process can be sent a signal. Most signals end it, unless it has made
    other provisions; a few are ignored from the start.
-/

namespace MapAudit.Script

/-- **Signal**, by its number. -/
abbrev Signal := Nat

namespace Signal

/-- The signals with their names and what is said of a process that one ended. -/
def table : List (Signal × String × String) :=
  [(1, "HUP", "Hangup"), (2, "INT", "Interrupt"), (3, "QUIT", "Quit"),
    (4, "ILL", "Illegal instruction"), (5, "TRAP", "Trace/breakpoint trap"),
    (6, "ABRT", "Aborted"), (7, "BUS", "Bus error"), (8, "FPE", "Floating point exception"),
    (9, "KILL", "Killed"), (10, "USR1", "User defined signal 1"),
    (11, "SEGV", "Segmentation fault"), (12, "USR2", "User defined signal 2"),
    (13, "PIPE", "Broken pipe"), (14, "ALRM", "Alarm clock"), (15, "TERM", "Terminated"),
    (16, "STKFLT", "Stack fault"), (17, "CHLD", "Child exited"), (18, "CONT", "Continued"),
    (19, "STOP", "Stopped (signal)"), (20, "TSTP", "Stopped"), (21, "TTIN", "Stopped (tty input)"),
    (22, "TTOU", "Stopped (tty output)"), (23, "URG", "Urgent I/O condition"),
    (24, "XCPU", "CPU time limit exceeded"), (25, "XFSZ", "File size limit exceeded"),
    (26, "VTALRM", "Virtual timer expired"), (27, "PROF", "Profiling timer expired"),
    (28, "WINCH", "Window changed"), (29, "IO", "I/O possible"), (30, "PWR", "Power failure"),
    (31, "SYS", "Bad system call")]

/-- The signal that ends a process for good. -/
def kill : Signal := 9

/-- The signal for what is written where nobody reads. -/
def pipe : Signal := 13

/-- The signal for a file that would get too big. -/
def sizeLimit : Signal := 25

/-- What stands for a command that is about to be run. -/
def step : Signal := 65

/-- What stands for the failure of a command. -/
def failure : Signal := 66

/-- What stands for the end of a function. -/
def departure : Signal := 67

/-- The greatest number of a signal. -/
def greatest : Signal := 64

/-- The name of a signal. Those from 34 on are counted from the first or the last of
    them. -/
def name? (s : Signal) : Option Raw :=
  if s < 34 || greatest < s then (table.lookup s).map fun entry => entry.1.toList
  else if s = 34 then some "RTMIN".toList
  else if s = greatest then some "RTMAX".toList
  else if s < 50 then some ("RTMIN+".toList ++ Raw.ofNat (s - 34))
  else some ("RTMAX-".toList ++ Raw.ofNat (greatest - s))

/-- The signal with a name. -/
def ofName? (r : Raw) : Option Signal :=
  (List.range' 1 greatest).find? fun s => name? s = some (r.map Char.toUpper)

/-- The signal with a name or a number. -/
def ofRaw? (r : Raw) : Option Signal :=
  match Raw.toNat? r with
  | some n => if n ≤ greatest then some n else none
  | none => ofName? r

/-- What is said of a process that a signal ended. -/
def message (s : Signal) : Raw :=
  match table.lookup s with
  | some entry => entry.2.toList
  | none => "Real-time signal " ++ Raw.ofNat (s - 34)

/-- Whether a process that makes no provisions ignores a signal. -/
def isHarmless (s : Signal) : Bool :=
  [0, 17, 18, 23, 28].contains s

/-- Whether nothing is said of a process that a signal ended. -/
def isQuiet (s : Signal) : Bool :=
  s == 2 || s == 13

end Signal

end MapAudit.Script
