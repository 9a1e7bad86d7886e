import JobShell.Proofs.Session.Trail

namespace JobShell

/-!
# The turns of a session

Each turn of a session collects the jobs that changed, shows a prompt if there is
a terminal, and reads a line. `Turns` follows a session turn by turn, with what
each adds to the trail of these events, and tells how it ends. From the turns
follows which lines are handled: the first ones, each once, up to one that
leaves, or all of them.
-/

open Host (Adds Silent)

namespace Event

/--
The event is part of a turn: SIGCHLD is blocked, jobs are collected, a prompt is
shown or fails, or a line is taken up.
-/
def isTurn : Event → Bool
  | .call .blockChild _ => true
  | .collected _ => true
  | .prompt _ _ => true
  | .unprompted _ _ => true
  | .line _ _ => true
  | _ => false

/-- The line that is taken up, and its number. -/
def taken? : Event → Option (Bytes × Nat)
  | .line number raw => some (raw, number)
  | _ => none

theorem not_isTurn_of_isPlain
    {event : Event}
    (plain : event.isPlain = true) :
    event.isTurn = false := by
  unfold isPlain at plain
  unfold isTurn
  split <;> simp_all

theorem not_isTurn_of_isTerminal
    {event : Event}
    (terminal : event.isTerminal = true) :
    event.isTurn = false := by
  unfold isTerminal at terminal
  unfold isTurn
  split <;> simp_all

end Event

namespace Host

instance : Unowned (Silent Event.isTurn) where
  same history _ children _ :=
    silent_of_same history (congrArg Prod.fst children)
  plain _ plain := silent_emit_of_unchosen (Event.not_isTurn_of_isPlain plain)
  terminal _ terminal :=
    silent_emit_of_unchosen (Event.not_isTurn_of_isTerminal terminal)

instance : Attending (Silent Event.isTurn) where
  fork := adds_fork Event.isTurn
  wait pid host := by
    have waits := adds_wait Event.isTurn pid host
    have unchosen :
        ((wait pid host).1.answers.map fun answer =>
          Event.call (.wait pid answer) none).filter Event.isTurn = [] := by
      simp [Event.isTurn]
    rwa [unchosen] at waits
  track _ := silent_track fun _ => rfl

/-- The reaper runs between turns and during them, and is no part of them. -/
theorem silent_deliver : Keeps (Silent Event.isTurn) deliver := by
  intro host
  rw [deliver_eq]
  split
  · let lowered : Host := { host with raised := false }
    have lowers : Silent Event.isTurn host lowered := silent_of_same rfl rfl
    have delivers :
        Silent Event.isTurn lowered (emit (.call .deliver none) lowered).2 :=
      silent_emit_of_unchosen rfl lowered
    exact (lowers.then_silent delivers).then_silent (silent_reap (fun _ => rfl) _)
  · exact Adds.refl host

theorem silent_unblock (previous : Bool) :
    Keeps (Silent Event.isTurn) (unblock previous) := by
  refine unblock_of_setMask ?_
  refine
    Keeps.bind (keeps_attempt (fun _ => silent_emit_of_unchosen rfl) _)
      fun fault => ?_
  cases fault with
  | some errno =>
      exact Keeps.pure _
  | none =>
      refine Keeps.bind (fun host => silent_of_same rfl rfl) fun _ => ?_
      exact Keeps.bind silent_deliver fun _ => Keeps.pure _

/-- The error of an answer, if it is one. -/
def fault? : Except Errno Bool → Option Errno
  | .ok _ => none
  | .error errno => some errno

/-- SIGCHLD is blocked by one call, which answers for the blocking. -/
theorem adds_block
    {before after : Host}
    {answer : Except Errno Bool}
    (ran : block before = (answer, after)) :
    Adds Event.isTurn [.call .blockChild (fault? answer)] before after := by
  have batches : Silent Event.isTurn before (nextBatch before).2 :=
    nextBatch_of_deliver silent_deliver before
  have attempts :=
    batches.after_silent
      (adds_attempt Event.isTurn .sigprocmask .blockChild (nextBatch before).2)
  simp only [block, run_bind, run_get] at ran
  cases fault :
      (attempt .sigprocmask .blockChild (nextBatch before).2).1 with
  | some errno =>
      rw [fault] at ran attempts
      obtain ⟨rfl, rfl⟩ := Prod.mk.inj ran
      exact attempts
  | none =>
      rw [fault] at ran attempts
      obtain ⟨rfl, rfl⟩ := Prod.mk.inj ran
      exact attempts.then_silent (silent_of_same rfl rfl)

end Host

namespace Session

/-- A collection of the jobs that changed, unless SIGCHLD cannot be blocked. -/
inductive Collecting : History → Prop where
  | collected (jobs : List Job) :
      Collecting [.call .blockChild none, .collected jobs]
  | notBlocked (errno : Errno) :
      Collecting [.call .blockChild (some errno)]

/-- What a line adds to a trail after itself: it blocks SIGCHLD for a launch. -/
inductive Blocking : History → Prop where
  | never : Blocking []
  | once (fault : Option Errno) : Blocking [.call .blockChild fault]

/--
The turns of a session from the line with a number on: what they add, and how the
session ends. Each turn begins with a collection, and a prompt on a terminal.
-/
inductive Turns
    (session : Session)
    (trouble : Option Errno) :
    Nat → List Bytes → Shell → History → SessionResult → Prop
  /-- The prompt fails. -/
  | unprompted
      (number : Nat)
      (lines : List Bytes)
      (before : Shell)
      (collecting : History)
      (errno : Errno) :
      session.terminal.isInteractive = true →
      Collecting collecting →
      Turns session trouble number lines before
        (collecting ++ [.unprompted number errno])
        (.failed (.io (Utf8.ofString "<stdout>") (.refused errno)))
  /-- The input is over. -/
  | finished
      (number : Nat)
      (before : Shell)
      (collecting : History) :
      trouble = none →
      Collecting collecting →
      Turns session trouble number [] before
        (collecting ++ session.prompted number) (.exit 0)
  /-- Reading fails. -/
  | broken
      (number : Nat)
      (before : Shell)
      (collecting : History)
      (errno : Errno) :
      trouble = some errno →
      Collecting collecting →
      Turns session trouble number [] before
        (collecting ++ session.prompted number)
        (.failed (.io (Utf8.ofString "<stdin>") (.refused errno)))
  /-- The line leaves the session. -/
  | left
      (number : Nat)
      (raw : Bytes)
      (rest : List Bytes)
      (before prompted after : Shell)
      (collecting : History)
      (code : Int) :
      Collecting collecting →
      session.beforeLine number before = (.ok (), prompted) →
      session.handleLine number raw prompted = (.flow (.exit code), after) →
      Turns session trouble number (raw :: rest) before
        (collecting ++ session.prompted number ++ [.line number raw])
        (.exit code)
  /-- The session goes on with the next line, whether this one failed or not. -/
  | goesOn
      (number : Nat)
      (raw : Bytes)
      (rest : List Bytes)
      (before prompted handled : Shell)
      (line : LineResult)
      (collecting blocking later : History)
      (result : SessionResult) :
      Collecting collecting →
      session.beforeLine number before = (.ok (), prompted) →
      session.handleLine number raw prompted = (line, handled) →
      line.goesOn = true →
      Blocking blocking →
      Turns session trouble (number + 1) rest
        (session.reported number line handled) later result →
      Turns session trouble number (raw :: rest) before
        (collecting ++ session.prompted number ++
          .line number raw :: blocking ++ later)
        result

/-- A collection blocks SIGCHLD, or hands out nothing. -/
theorem adds_collect
    {before after : Shell}
    {jobs : List Job}
    (ran : Shell.collect before = (jobs, after)) :
    ∃ collecting,
      Collecting collecting ∧
        Adds Event.isTurn collecting before.host after.host := by
  cases Shell.collect_collected ran with
  | notBlocked errno unblocked message blocking =>
      have adds := Host.adds_block blocking
      exact
        ⟨_, .notBlocked errno, adds.then_silent (Host.keeps_note _ _ _)⟩
  | handedOut previous blocked jobs blocking handed =>
      have adds := Host.adds_block blocking
      have drained :
          (Host.drain blocked).2.history =
            blocked.history ++ [.drained blocked.slots.drain.1] :=
        rfl
      have drains : Silent Event.isTurn blocked (Host.drain blocked).2 :=
        Host.silent_of_unchosen drained (by simp [Event.isTurn]) rfl
      have empties :
          Silent Event.isTurn blocked (Shell.emptied previous blocked) :=
        drains.then_silent (Host.silent_unblock previous _)
      have collects :=
        Host.adds_emit Event.isTurn (.collected jobs)
          (Shell.emptied previous blocked)
      exact
        ⟨_, .collected jobs, (adds.then_silent empties).trans collects⟩

/-- A launch blocks SIGCHLD at most once. -/
theorem turns_traced (session : Session) :
    session.Traced Event.isTurn fun _ => Blocking where
  line _ _ := rfl
  refused _ := .never
  launch := by
    intro descriptor before after launch asParent ran
    have announces :
        Silent Event.isTurn before.host
          (Shell.announced descriptor before.host) :=
      Host.keeps_note _ _ before.host
    have forks (blocked : Host) :
        Silent Event.isTurn blocked (Host.fork blocked).2 :=
      Attending.fork blocked
    cases Shell.execute_executed ran with
    | malformed e problem =>
        exact ⟨⟨[], .never, Adds.refl _⟩, fun _ => nofun⟩
    | notBlocked errno unblocked blocking =>
        have blocks := announces.after_silent (Host.adds_block blocking)
        exact ⟨⟨_, .once (some errno), blocks⟩, fun _ => nofun⟩
    | notForked previous blocked errno blocking forked =>
        have blocks := announces.after_silent (Host.adds_block blocking)
        exact
          ⟨⟨_, .once none,
            (blocks.then_silent (forks blocked)).then_silent
              (Host.silent_unblock previous _)⟩, fun _ => nofun⟩
    | child previous blocked program arguments blocking forked =>
        have blocks := announces.after_silent (Host.adds_block blocking)
        exact absurd forked (Host.fork_ne_child (blocks.asParent asParent))
    | parent previous blocked pid adopted blocking forked adopting =>
        have blocks := announces.after_silent (Host.adds_block blocking)
        have adopts :
            Silent Event.isTurn (Host.fork blocked).2 adopted.host := by
          have adopts :
              Keeps (OnHost (Silent Event.isTurn))
                (Shell.adopt session.terminal descriptor pid) :=
            Shell.follows_adopt (Silent Event.isTurn) _ _ _
          rw [← adopting]
          exact adopts (before.on (Host.fork blocked).2)
        exact
          ⟨⟨_, .once none,
            ((blocks.then_silent (forks blocked)).then_silent
              adopts).then_silent (Host.silent_unblock previous _)⟩,
            fun _ => nofun⟩

/-- A turn begins with a collection, and then the prompt is shown or fails. -/
theorem adds_beforeLine
    {session : Session}
    {number : Nat}
    {before after : Shell}
    {answer : Except SessionResult Unit}
    (ran : session.beforeLine number before = (answer, after)) :
    ∃ collecting shown,
      Collecting collecting ∧
        session.Opening number after answer shown ∧
        Adds Event.isTurn (collecting ++ shown) before.host after.host := by
  obtain ⟨collecting, isCollecting, collects⟩ :=
    adds_collect (Prod.eta (Shell.collect before)).symm
  have reports :
      Adds Event.isTurn collecting before.host
        (session.reportJobs before).2.host :=
    collects.then_silent
      (keeps_reportEach session (Shell.collect before).1
        (Shell.collect before).2.host)
  obtain ⟨shown, opens, adds⟩ :=
    adds_opening Event.isTurn (fun _ => rfl) (fun _ => rfl) reports ran
  exact ⟨collecting, shown, isCollecting, opens, adds⟩

/-- The session of a parent stays one, and panics at most. -/
theorem stays_course
    {session : Session}
    {trouble : Option Errno}
    {number : Nat}
    {lines : List Bytes}
    {before after : Shell}
    {result : SessionResult}
    (course : Course session trouble number lines before result after)
    (asParent : ForkAnswer.child ∉ before.host.script.forks) :
    Stays result after := by
  induction course with
  | unprompted _ prompting =>
      obtain ⟨_, _, -, opens, -⟩ := adds_beforeLine prompting
      cases opens with
      | panicked unwritten =>
          exact stays_of_unwritten unwritten
      | failed errno interactive =>
          exact fun _ => nofun
  | unread prompting ends =>
      exact (endInput_closed ends).stays
  | left code prompting ran =>
      exact fun _ => nofun
  | parted ending prompting ran =>
      obtain ⟨_, _, -, -, adds⟩ := adds_beforeLine prompting
      obtain ⟨_, -, -, (goesOn | ⟨same, unwritten⟩) | ⟨-, code, leaves⟩⟩ :=
        (turns_traced session).handleLine (adds.asParent asParent) ran
      · contradiction
      · obtain rfl := LineResult.ended.inj same
        exact stays_of_unwritten unwritten
      · contradiction
  | @unreported number _ _ _ _ _ e prompting ran told =>
      exact stays_of_unwritten ((tells_reportError session number e).unwritten told)
  | @goesOn number _ _ _ _ handled _ line _ prompting ran _ _ _
      inductionHypothesis =>
      obtain ⟨_, _, -, -, adds⟩ := adds_beforeLine prompting
      obtain ⟨_, -, handles, -⟩ :=
        (turns_traced session).handleLine (adds.asParent asParent) ran
      have reports :=
        (adds.trans handles).then_silent
          (reported_aside session number line handled).onHost
      exact inductionHypothesis (reports.asParent asParent)

theorem stays_of_asParent
    {session : Session}
    {input : Input}
    {before after : Shell}
    {result : SessionResult}
    (plays : session.run input before = (result, after))
    (asParent : ForkAnswer.child ∉ before.host.script.forks) :
    Stays result after := by
  have opens :
      Silent Event.isTurn before.host (session.opened before).host :=
    (opened_aside session before).onHost
  exact stays_course (run_course plays) (opens.asParent asParent)

/-- How a session ends once it has handled a number of its lines. -/
inductive Ends
    (session : Session)
    (trouble : Option Errno)
    (number : Nat)
    (lines : List Bytes)
    (count : Nat) :
    SessionResult → Prop
  /-- It has handled all lines. -/
  | finished :
      trouble = none →
      count = lines.length →
      Ends session trouble number lines count (.exit 0)
  /-- It has handled all lines that could be read. -/
  | broken (errno : Errno) :
      trouble = some errno →
      count = lines.length →
      Ends session trouble number lines count
        (.failed (.io (Utf8.ofString "<stdin>") (.refused errno)))
  | unprompted (errno : Errno) :
      session.terminal.isInteractive = true →
      Ends session trouble number lines count
        (.failed (.io (Utf8.ofString "<stdout>") (.refused errno)))
  /-- The last of the lines leaves with a code. -/
  | left
      (earlier : Nat)
      (raw : Bytes)
      (prompted after : Shell)
      (code : Int) :
      count = earlier + 1 →
      lines[earlier]? = some raw →
      session.handleLine (number + earlier) raw prompted =
        (.flow (.exit code), after) →
      Ends session trouble number lines count (.exit code)

/-- A line handled before counts with the others. -/
theorem Ends.cons
    {session : Session}
    {trouble : Option Errno}
    {number count : Nat}
    {lines : List Bytes}
    {result : SessionResult}
    (ends : Ends session trouble (number + 1) lines count result)
    (raw : Bytes) :
    Ends session trouble number (raw :: lines) (count + 1) result := by
  cases ends with
  | finished clean all =>
      exact .finished clean (by simp [all])
  | broken errno troubled all =>
      exact .broken errno troubled (by simp [all])
  | unprompted errno interactive =>
      exact .unprompted errno interactive
  | left earlier last prompted after code counted found ran =>
      have later : number + 1 + earlier = number + (earlier + 1) := by omega
      rw [later] at ran
      exact
        .left (earlier + 1) last prompted after code (by rw [counted])
          (by simpa using found) ran

theorem Collecting.untaken
    {collecting : History}
    (collects : Collecting collecting) :
    collecting.filterMap Event.taken? = [] := by
  cases collects <;> rfl

theorem Blocking.untaken
    {blocking : History}
    (blocks : Blocking blocking) :
    blocking.filterMap Event.taken? = [] := by
  cases blocks <;> rfl

theorem untaken_prompted (session : Session) (number : Nat) :
    (session.prompted number).filterMap Event.taken? = [] := by
  unfold prompted
  split <;> rfl

/-- The lines that are handled are the first ones, each once and in order. -/
theorem Turns.takes
    {session : Session}
    {trouble : Option Errno}
    {number : Nat}
    {lines : List Bytes}
    {before : Shell}
    {trail : History}
    {result : SessionResult}
    (turns : Turns session trouble number lines before trail result) :
    ∃ count ≤ lines.length,
      trail.filterMap Event.taken? = (lines.take count).zipIdx number ∧
        Ends session trouble number lines count result := by
  induction turns with
  | unprompted number lines before collecting errno interactive collects =>
      refine ⟨0, Nat.zero_le _, ?_, .unprompted errno interactive⟩
      simp [collects.untaken, Event.taken?]
  | finished number before collecting clean collects =>
      refine ⟨0, Nat.le_refl _, ?_, .finished clean rfl⟩
      simp [collects.untaken, untaken_prompted]
  | broken number before collecting errno troubled collects =>
      refine ⟨0, Nat.le_refl _, ?_, .broken errno troubled rfl⟩
      simp [collects.untaken, untaken_prompted]
  | left number raw rest before prompted after collecting code collects
      prompting ran =>
      refine
        ⟨1, by simp, ?_, .left 0 raw prompted after code rfl rfl ran⟩
      simp [collects.untaken, untaken_prompted, Event.taken?]
  | goesOn number raw rest before prompted handled line collecting blocking
      later result collects prompting ran goesOn blocks _
      inductionHypothesis =>
      obtain ⟨count, within, takes, ends⟩ := inductionHypothesis
      refine ⟨count + 1, by simpa using within, ?_, ends.cons raw⟩
      simp [collects.untaken, untaken_prompted, blocks.untaken, takes,
        Event.taken?]

end Session
end JobShell
