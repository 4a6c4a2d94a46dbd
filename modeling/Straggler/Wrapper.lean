import Straggler.Posix.WaitStatus
import Straggler.Supervisor
import Straggler.Trap

/-!
# Running a command under supervision

One child runs in the foreground. Either it exits, or a signal comes first: then one cascade is
run that spares the child and the caller, the signal is handed on to the child, and a child that
does not go within the window of grace is killed.
-/

namespace Straggler

set_option autoImplicit false

inductive Notice
  | signal (s : Signal)
  | closed
  deriving DecidableEq, Repr

/-- What waiting for the child comes to: the status that it has left, or why there is none. -/
inductive Ending
  | status (s : Posix.WaitStatus)
  | lost (cause : Posix.SystemError)
  deriving DecidableEq, Repr

/-- A child that cannot be waited for counts as one that has failed. -/
def Ending.exitCode : Ending → Nat
  | status s => s.exitCode
  | lost _ => 1

inductive Event
  | notice (n : Notice)
  | exit (e : Ending)
  deriving DecidableEq, Repr

inductive Deciding
  | exited (e : Ending)
  | trapped (s : Signal) (t : Trap)
  deriving DecidableEq, Repr

/-- The loop over what arrives. A closed inbox is not read any more, and only a signal that trips
the trap ends the loop before the child does. Where neither comes it goes on waiting. -/
def Deciding.of (t : Trap) (inboxOpen : Bool) : List Event → Option Deciding
  | [] => none
  | .exit e :: _ => some (.exited e)
  | .notice n :: events =>
    match inboxOpen, n with
    | true, .signal s =>
      match t.trip s with
      | (true, t) => some (.trapped s t)
      | (false, t) => Deciding.of t true events
    | true, .closed => Deciding.of t false events
    | false, _ => Deciding.of t false events

/-- What arrives at the loop of a run that does not wait for ever. -/
structure Arrivals where
  events : List Event
  decided : (Deciding.of .running true events).isSome
  deriving DecidableEq, Repr

namespace Arrivals

def deciding (a : Arrivals) : Deciding :=
  (Deciding.of .running true a.events).get a.decided

theorem isSome_of_exit (t : Trap) (inboxOpen : Bool) (notices : List Notice) (e : Ending) :
    (Deciding.of t inboxOpen (notices.map .notice ++ [.exit e])).isSome := by
  induction notices generalizing t inboxOpen with
  | nil => rfl
  | cons n notices ih =>
    cases inboxOpen with
    | false => exact ih t false
    | true =>
      cases n with
      | closed => exact ih t false
      | signal s =>
        -- A trap that is not tripped by the signal has been tripped before.
        cases t with
        | running => rfl
        | signalReceived | cleaningUp | exited => exact ih _ true

def upTo (notices : List Notice) (e : Ending) : Arrivals where
  events := notices.map .notice ++ [.exit e]
  decided := isSome_of_exit .running true notices e

end Arrivals

structure Host (σ : Type) extends Machine σ where
  self : Pid
  parent : Pid
  spawn : List String → StateM σ (Except Posix.SystemError Pid)
  arrivals : Pid → StateM σ Arrivals
  hasExited : Pid → StateM σ Bool
  /-- Waits for the child, but no longer than so many milliseconds. Says whether it has exited. -/
  waitFor : Pid → Nat → StateM σ Bool
  /-- Kills the child and waits for it. -/
  forceKill : Pid → StateM σ Unit

structure WrapOutcome where
  exitCode : Nat
  childPid : Pid
  trapped : Option Signal
  cascade : Option CascadeReport
  state : Trap
  deriving DecidableEq, Repr

namespace Supervisor

variable {σ : Type}

def spawnChild (h : Host σ) (command : List String) : Attempt σ Pid := do
  if command.isEmpty then
    throw (.spawn "" (.described .invalidInput "no command given"))
  match ← ExceptT.lift (h.spawn command) with
  | .ok pid => return pid
  | .error cause => throw (.spawn (" ".intercalate command) cause)

/-- A child that has not exited gets the signal, and is killed if that does not end it in time. -/
def handOn (sv : Supervisor) (h : Host σ) (child : Pid) (s : Signal) : StateM σ Unit := do
  if !(← h.hasExited child) then
    let _ ← h.send child s
    if !(← h.waitFor child sv.settings.policy.graceWindow) then
      h.forceKill child

def trappedCode (s : Signal) : Nat :=
  128 + s.number

/-- Runs the command. After an ordinary exit the cascade is run if asked for, and its failure
changes nothing. -/
def wrap (sv : Supervisor) (h : Host σ) (command : List String) (sweepOnExit : Bool) :
    Attempt σ WrapOutcome := do
  let child ← spawnChild h command
  let p := (Protected.ofCaller h.self h.parent).insert child
  let arrivals ← ExceptT.lift (h.arrivals child)
  match arrivals.deciding with
  | .exited e =>
    let cascade ←
      if sweepOnExit then Except.toOption <$> ExceptT.lift (sv.cascade h.toMachine p).run
      else pure none
    return {
      exitCode := e.exitCode
      childPid := child
      trapped := none
      cascade
      state := Trap.running.exit e.exitCode }
  | .trapped s t =>
    let t := t.beginCleanup.2
    let cascade ← sv.cascade h.toMachine p
    ExceptT.lift (sv.handOn h child s)
    return {
      exitCode := trappedCode s
      childPid := child
      trapped := some s
      cascade := some cascade
      state := t.exit (trappedCode s) }

end Supervisor

end Straggler
