import Scaffold.Shell.Machine

/-!
# Signals

A signal that is sent to the shell is ignored, answered or the end of it.

* `signalNumber?`: the number of the signal that a text names.
* `sendSignals`: the command that sends signals.
* `Machine.wait`: what the end of a program by a signal leaves.
-/

namespace Scaffold.Shell

/-! ## Names -/

/-- The names of signals by number. -/
def signals : List (Nat × String) :=
  [(0, "EXIT"), (1, "HUP"), (2, "INT"), (3, "QUIT"), (4, "ILL"), (5, "TRAP"), (6, "ABRT"),
    (7, "BUS"), (8, "FPE"), (9, "KILL"), (10, "USR1"), (11, "SEGV"), (12, "USR2"), (13, "PIPE"),
    (14, "ALRM"), (15, "TERM"), (16, "STKFLT"), (17, "CHLD"), (18, "CONT"), (19, "STOP"),
    (20, "TSTP"), (21, "TTIN"), (22, "TTOU"), (23, "URG"), (24, "XCPU"), (25, "XFSZ"),
    (26, "VTALRM"), (27, "PROF"), (28, "WINCH"), (29, "POLL"), (30, "PWR"), (31, "SYS")]

/-- The number of signals. -/
def signalLimit : Nat := 65

/-- The signal that cannot be answered. -/
def killSignal : Nat := 9

/-- The signals that do nothing if they are not answered. -/
def harmlessSignals : List Nat :=
  [17, 18, 23, 28]

/-- What is said of a program that was killed by a signal. -/
def signalReports : List (Nat × String) :=
  [(1, "Hangup"), (3, "Quit"), (4, "Illegal instruction"), (5, "Trace/breakpoint trap"),
    (6, "Aborted"), (7, "Bus error"), (8, "Floating point exception"), (9, "Killed"),
    (10, "User defined signal 1"), (11, "Segmentation fault"), (12, "User defined signal 2"),
    (14, "Alarm clock"), (15, "Terminated")]

/-- The name of a signal. -/
def signalName (n : Nat) : String :=
  (signals.lookup n).getD (toString n)

/-- The number of the signal that a text names. -/
def signalNumber? (s : String) : Option Nat :=
  match s.toNat? with
  | some n => if n < signalLimit then some n else none
  | none => (signals.find? fun x => x.2 == s.map Char.toUpper).map Prod.fst

/-! ## Sending -/

/-- The effect of a signal on the shell. -/
def Machine.receive (m : Machine) (n : Nat) : Machine :=
  match m.traps.lookup (signalName n) with
  | some "" => m
  | some _ =>
    if n = killSignal then m.finish (.killed n) else { m with caught := m.caught ++ [signalName n] }
  | none => if n = 0 ∨ harmlessSignals.contains n then m else m.finish (.killed n)

/-- The effect of a signal on a process. -/
def sendSignal (n : Nat) (m : Machine) (process : String) : Machine :=
  if process = Machine.process then m.receive n
  else if process = Machine.backgroundProcess ∧ m.backgroundStatus.isSome then m
  else
    match process.toInt? with
    | some _ => m.complain "No such process\n" 1
    | none =>
      if process.startsWith "%" then m.complain ("No such job: " ++ process) 2
      else m.complain ("Illegal number: " ++ process) 2

/-- How the command that sends signals is used. -/
def sendingUsage : String :=
  "Usage: kill [-s sigspec | -signum | -sigspec] [pid | job]... or\nkill -l [exitstatus]"

/-- The effect of a signal on some processes. -/
def sendTo (signal : Option Nat) (name : String) (processes : List String) (m : Machine) :
    Machine :=
  match signal, processes with
  | none, _ => m.complain ("invalid signal number or name: " ++ name) 2
  | some _, [] => m.complain sendingUsage 2
  | some n, processes => processes.foldl (sendSignal n) (m.exit 0)

/-- The command that sends signals. -/
def sendSignals (arguments : List String) (m : Machine) : Machine :=
  match arguments with
  | ["-l"] =>
    m.settle (.saying (String.join (signals.map fun x =>
      (if x.1 = 0 then "0" else x.2) ++ "\n")))
  | ["-l", n] =>
    match n.toNat? with
    | some n => m.settle (.saying (signalName (n % 128) ++ "\n"))
    | none => m.complain ("Illegal number: " ++ n) 2
  | "-s" :: name :: processes => sendTo (signalNumber? name) name processes m
  | "--" :: processes => sendTo (some 15) "" processes m
  | option :: processes =>
    match option.toList with
    | '-' :: name =>
      match signalNumber? (String.ofList name) with
      | some n => sendTo (some n) "" processes m
      | none => m.complain ("Illegal option -" ++ String.ofList (name.take 1)) 2
    | _ => sendTo (some 15) "" arguments m
  | [] => m.complain sendingUsage 2

/-! ## Waiting -/

/-- The exit code that is left by a program that was killed, which is reported. -/
def Machine.wait (m : Machine) : Machine :=
  match m.ending with
  | some (.killed signal) =>
    let m := { m with ending := none }
    match signalReports.lookup signal with
    | some report => m.fail report (128 + signal)
    | none => m.exit (128 + signal)
  | _ => m

end Scaffold.Shell
