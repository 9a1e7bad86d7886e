namespace JobShell

/-!
# Signals

The thirty-one standard signals with their numbers and names. Real-time signals
are left out: waiting for a child that one of them ended or stopped answers with
an error, `EINVAL`, and no such signal is named anywhere else.
-/

/-- A standard signal; a real-time signal is none of these. -/
inductive Signal where
  | hup | int | quit | ill | trap | abrt | bus | fpe | kill | usr1 | segv
  | usr2 | pipe | alrm | term | stkflt | chld | cont | stop | tstp | ttin
  | ttou | urg | xcpu | xfsz | vtalrm | prof | winch | io | pwr | sys
  deriving DecidableEq, Repr

namespace Signal

/-- Every signal, in the order of the numbers from 1 to 31. -/
def all : List Signal :=
  [.hup, .int, .quit, .ill, .trap, .abrt, .bus, .fpe, .kill, .usr1, .segv,
    .usr2, .pipe, .alrm, .term, .stkflt, .chld, .cont, .stop, .tstp, .ttin,
    .ttou, .urg, .xcpu, .xfsz, .vtalrm, .prof, .winch, .io, .pwr, .sys]

/-- The number of a signal. -/
def number : Signal → Int
  | .hup => 1 | .int => 2 | .quit => 3 | .ill => 4 | .trap => 5 | .abrt => 6
  | .bus => 7 | .fpe => 8 | .kill => 9 | .usr1 => 10 | .segv => 11
  | .usr2 => 12 | .pipe => 13 | .alrm => 14 | .term => 15 | .stkflt => 16
  | .chld => 17 | .cont => 18 | .stop => 19 | .tstp => 20 | .ttin => 21
  | .ttou => 22 | .urg => 23 | .xcpu => 24 | .xfsz => 25 | .vtalrm => 26
  | .prof => 27 | .winch => 28 | .io => 29 | .pwr => 30 | .sys => 31

/-- The signal with a number. -/
def ofNumber? (number : Int) : Option Signal :=
  all.find? fun s => s.number == number

/-- The name of a signal. -/
def name : Signal → String
  | .hup => "SIGHUP" | .int => "SIGINT" | .quit => "SIGQUIT"
  | .ill => "SIGILL" | .trap => "SIGTRAP" | .abrt => "SIGABRT"
  | .bus => "SIGBUS" | .fpe => "SIGFPE" | .kill => "SIGKILL"
  | .usr1 => "SIGUSR1" | .segv => "SIGSEGV" | .usr2 => "SIGUSR2"
  | .pipe => "SIGPIPE" | .alrm => "SIGALRM" | .term => "SIGTERM"
  | .stkflt => "SIGSTKFLT" | .chld => "SIGCHLD" | .cont => "SIGCONT"
  | .stop => "SIGSTOP" | .tstp => "SIGTSTP" | .ttin => "SIGTTIN"
  | .ttou => "SIGTTOU" | .urg => "SIGURG" | .xcpu => "SIGXCPU"
  | .xfsz => "SIGXFSZ" | .vtalrm => "SIGVTALRM" | .prof => "SIGPROF"
  | .winch => "SIGWINCH" | .io => "SIGIO" | .pwr => "SIGPWR"
  | .sys => "SIGSYS"

/-- The signal with a name. -/
def ofName? (text : String) : Option Signal :=
  all.find? fun s => s.name == text

/-- The signals a terminal and job control send, which a shell must survive. -/
def jobControl : List Signal :=
  [.int, .quit, .tstp, .ttin, .ttou]

end Signal
end JobShell
