import Stepwise.Machine.Raw

/-!
# Signals

The signals that processes send each other, with their numbers, names and words, and what a signal
does to a process that has not arranged for it.
-/

namespace Stepwise.Machine

/-- A signal, by its number. -/
abbrev Signal := Nat

namespace Signal

def hangup : Signal := 1
def interrupt : Signal := 2
def quit : Signal := 3
def kill : Signal := 9
def pipe : Signal := 13
def terminate : Signal := 15
def child : Signal := 17
def resume : Signal := 18
def stop : Signal := 19

/-- What a signal does to a process that has not arranged for it. -/
inductive Effect where
  | ends
  | stops
  | resumes
  | nothing
  deriving DecidableEq

/-- The signals with their numbers, names and words. -/
def table : List (Signal × String × String) := [
  (1, "HUP", "Hangup"), (2, "INT", "Interrupt"), (3, "QUIT", "Quit"),
  (4, "ILL", "Illegal instruction"), (5, "TRAP", "Trace/breakpoint trap"), (6, "ABRT", "Aborted"),
  (7, "BUS", "Bus error"), (8, "FPE", "Floating point exception"), (9, "KILL", "Killed"),
  (10, "USR1", "User defined signal 1"), (11, "SEGV", "Segmentation fault"),
  (12, "USR2", "User defined signal 2"), (13, "PIPE", "Broken pipe"), (14, "ALRM", "Alarm clock"),
  (15, "TERM", "Terminated"), (16, "STKFLT", "Stack fault"), (17, "CHLD", "Child exited"),
  (18, "CONT", "Continued"), (19, "STOP", "Stopped (signal)"), (20, "TSTP", "Stopped"),
  (21, "TTIN", "Stopped (tty input)"), (22, "TTOU", "Stopped (tty output)"),
  (23, "URG", "Urgent I/O condition"), (24, "XCPU", "CPU time limit exceeded"),
  (25, "XFSZ", "File size limit exceeded"), (26, "VTALRM", "Virtual timer expired"),
  (27, "PROF", "Profiling timer expired"), (28, "WINCH", "Window changed"),
  (29, "IO", "I/O possible"), (30, "PWR", "Power failure"), (31, "SYS", "Bad system call")]

/-- The effect of a signal by default. -/
def effect (s : Signal) : Effect :=
  if s ∈ [17, 23, 28] then .nothing
  else if s = resume then .resumes
  else if s ∈ [19, 20, 21, 22] then .stops
  else .ends

/-- Whether a process can arrange for a signal. -/
def isFixed (s : Signal) : Bool := s = kill || s = stop

/-- The name of a signal. -/
def name? (s : Signal) : Option Raw := (table.lookup s).map fun (name, _) => Raw.ofString name

/-- What is said of a process that a signal has ended. -/
def words (s : Signal) : Raw := match table.lookup s with
  | some (_, words) => Raw.ofString words
  | none => Raw.ofString "Unknown signal " ++ Raw.ofNat s

/-- A character as a capital. -/
private def capital (c : Char) : Char := c.toUpper

/-- The signal with a number or a name, with or without `SIG` in front of the name. -/
def parse? (text : Raw) : Option Signal :=
  match Raw.toNat? text with
  | some n => if n < 65 then some n else none
  | none =>
    let upper := text.map capital
    let bare := if upper.take 3 = ['S', 'I', 'G'] then upper.drop 3 else upper
    (table.find? fun entry => entry.2.1.toList = bare).map (·.1)

end Signal

end Stepwise.Machine
