import JobShell.Host.Basic

namespace JobShell

/-!
# Ownership of the terminal

An interactive shell takes the terminal when it starts, hands it to each
foreground job and takes it back afterwards, together with the modes it saved.
A shell whose input is no terminal leaves the terminal alone. A recorder stands
in for a terminal where only the order of hand-overs matters.
-/

/-- Who answers for the terminal. -/
inductive Terminal where
  /-- Nobody: the input is no terminal. The shell's group is noted. -/
  | detached (group : Pid)
  /-- The shell's group, with the modes to go back to if they could be read. -/
  | claimed (group : Pid) (modes : Option Modes)
  /-- A recorder, which fails after recording where it is told to. -/
  | recorder (failForeground failReclaim : Bool)
  deriving DecidableEq, Repr

namespace Terminal

/-- The shell reads from a terminal. -/
def isInteractive : Terminal → Bool
  | claimed .. => true
  | detached _ | recorder .. => false

/-- The shell's own group. -/
def group : Terminal → Pid
  | detached group => group
  | claimed group _ => group
  | recorder .. => 0

/--
Wait until the shell's group owns the terminal, for as many answers as are
still to come and one more: the shell stops itself at each other answer.
-/
def awaitForeground : Nat → HostE Unit
  | 0 => do
      let _ ← Host.getOwner
      return
  | answers + 1 => do
      let group := (← getThe Host).group
      let owner ← Host.getOwner
      if owner = group then return
      Host.note .debug
        s!"jobsh: terminal owned by {owner}, waiting for foreground"
      Host.demand "kill" .killpg (.killGroup group .ttin)
      awaitForeground answers

/-- Become the leader of a group; a session leader is one already. -/
def leadGroup : HostE Unit := do
  let pid := (← getThe Host).pid
  match ← Host.setGroup pid pid with
  | none => return
  | some .eperm => Host.note .debug "jobsh: already a session leader"
  | some errno => throw (.sys "setpgid" errno)

/-- Save the modes; the shell does without them if they cannot be read. -/
def saveModes : HostM (Option Modes) := do
  match ← Host.getModes with
  | .ok modes => return some modes
  | .error errno =>
      Host.note .warn s!"jobsh: cannot save terminal modes: {errno.callText}"
      return none

/-- Take the terminal on standard input, if it is one. -/
def claim : HostE Terminal := do
  let host ← getThe Host
  if !host.stdinIsTerminal then
    Host.note .debug "jobsh: stdin is not a terminal, job control disabled"
    return detached host.group
  awaitForeground host.script.owners.length
  Host.ignoreJobControl
  leadGroup
  let group := (← getThe Host).group
  Host.setOwner group
  let modes ← saveModes
  Host.note .debug s!"jobsh: terminal claimed by group {group}"
  return claimed group modes

/-- Go back to the saved modes, if there are any. -/
def restoreModes : Terminal → HostE Unit
  | claimed _ (some modes) => Host.setModes modes
  | _ => return

/-- Give the terminal to a group. -/
def foreground (terminal : Terminal) (pid : Pid) : HostE Unit :=
  match terminal with
  | detached _ => return
  | claimed .. => do
      Host.note .debug s!"jobsh: terminal -> group {pid}"
      Host.setOwner pid
  | recorder fails _ => do
      Host.emit (.call (.mark s!"foreground {pid}") none)
      if fails then throw (.sys "tcsetpgrp" .enotty)

/-- Take the terminal back for the shell. -/
def reclaim (terminal : Terminal) : HostE Unit :=
  match terminal with
  | detached _ => return
  | claimed group _ => do
      Host.note .debug s!"jobsh: terminal -> shell group {group}"
      Host.setOwner group
      terminal.restoreModes
  | recorder _ fails => do
      Host.emit (.call (.mark "reclaim") none)
      if fails then throw (.sys "tcsetpgrp" .eio)

/-- Give the terminal to a job; a failure is only logged. -/
def handOver (terminal : Terminal) (pid : Pid) : HostM Unit := do
  match ← (terminal.foreground pid).run with
  | .ok () => return
  | .error e =>
      Host.note .warn s!"jobsh: cannot hand terminal to {pid}: {e.message}"

/-- Take the terminal back from a job; a failure is only logged. -/
def takeBack (terminal : Terminal) : HostM Unit := do
  match ← terminal.reclaim.run with
  | .ok () => return
  | .error e => Host.note .error s!"jobsh: cannot reclaim terminal: {e.message}"

/-- Leave the terminal as it was found; a failure is only logged. -/
def release (terminal : Terminal) : HostM Unit := do
  match ← terminal.restoreModes.run with
  | .ok () => return
  | .error e =>
      Host.note .warn s!"jobsh: cannot restore terminal modes: {e.message}"

end Terminal
end JobShell
