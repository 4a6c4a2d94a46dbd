import Straggler.Machine

/-!
# Rehearsals

A process table that is played by a script: each process says how it reacts to signals, and time
passes only when it is let pass. A cascade can be rehearsed on it, and what was asked of it is on
record.
-/

namespace Straggler.Rehearsal

set_option autoImplicit false

/-- How a process takes a signal. It may leave without a trace, so that the sender finds nobody,
and it may hand over to another process. -/
inductive Reaction (α : Type)
  | exit
  | ignore
  | zombie
  | vanish
  | fail (reason : String)
  | delay (ms : Nat)
  | exec (command : String)
  | spawn (successor : α)

/-- A process of the script. Its reactions to a signal are used one after the other, and the last
one for good; those under no signal answer signals that have none of their own. -/
structure Actor where
  pid : Pid
  command : String
  reactions : List (Option Signal × List (Reaction Actor)) := []
  exitAt : Option Nat := none
  zombie : Bool := false

inductive Entry
  | snapshot (at_ : Nat) (count : Option Nat)
  | send (at_ : Nat) (pid : Pid) (signal : Signal) (delivery : Delivery)
  | probe (at_ : Nat) (pid : Pid) (alive : Bool)
  | forward (signal : Signal) (delivery : Delivery)

/-- A table can be set to become unreadable after so many more readings. The log has its latest
entry first. -/
structure Table where
  actors : List Actor := []
  now : Nat := 0
  unreadable : Option (Nat × String) := none
  log : List Entry := []

namespace Table

/-- Puts a process into the place of the one with its number, or at the end. -/
def put (a : Actor) : List Actor → List Actor
  | [] => [a]
  | b :: bs => if b.pid = a.pid then a :: bs else b :: put a bs

def putAll (t : Table) (actors : List Actor) : Table :=
  { t with actors := actors.foldl (fun bs a => put a bs) t.actors }

def remove (t : Table) (pid : Pid) : Table :=
  { t with actors := t.actors.filter (·.pid != pid) }

/-- Processes whose time has come are gone. -/
def settle (t : Table) : Table :=
  { t with actors := t.actors.filter fun a => a.exitAt.all (t.now < ·) }

def find? (t : Table) (pid : Pid) : Option Actor :=
  t.actors.find? (·.pid == pid)

def note (t : Table) (e : Entry) : Table :=
  { t with log := e :: t.log }

def records (t : Table) : List Record :=
  t.actors.map fun a => { pid := a.pid, commandLine := a.command }

def advance (t : Table) (ms : Nat) : Table :=
  { t with now := t.now + ms }

end Table

/-- The key under which a process reacts to a signal, if there is one. -/
def Actor.key? (a : Actor) (s : Signal) : Option (Option Signal) :=
  if a.reactions.any (·.1 == some s) then some (some s)
  else if a.reactions.any (·.1 == none) then some none
  else none

/-- Drops the reaction that has been used, unless it is the last one. -/
def used {α : Type} : List (Reaction α) → List (Reaction α)
  | _ :: r :: rs => r :: rs
  | rs => rs

def Actor.react (a : Actor) (s : Signal) : Reaction Actor × Actor :=
  match a.key? s with
  | none => (.exit, a)
  | some key =>
    let reaction := ((a.reactions.lookup key).bind List.head?).getD .exit
    (reaction, { a with
      reactions := a.reactions.map fun (k, rs) => if k == key then (k, used rs) else (k, rs) })

def Table.deliver (t : Table) (pid : Pid) (s : Signal) : Delivery × Table :=
  match t.find? pid with
  | none => (.noSuchProcess, t)
  | some a =>
    if a.zombie then (.sent, t)
    else
      match a.react s with
      | (.exit, _) => (.sent, t.remove pid)
      | (.ignore, a) => (.sent, t.putAll [a])
      | (.zombie, a) => (.sent, t.putAll [{ a with zombie := true }])
      | (.vanish, _) => (.noSuchProcess, t.remove pid)
      | (.fail reason, a) => (.failed reason, t.putAll [a])
      | (.delay ms, a) => (.sent, t.putAll [{ a with exitAt := some (t.now + ms) }])
      | (.exec command, a) => (.sent, t.putAll [{ a with command := command }])
      | (.spawn successor, _) => (.sent, (t.remove pid).putAll [successor])

def Table.snapshot (t : Table) : Except Error Snapshot × Table :=
  let t := t.settle
  match t.unreadable with
  | some (0, reason) => (.error (.processTable reason), t.note (.snapshot t.now none))
  | some (n + 1, reason) =>
    (.ok (.ofRecords t.records),
      { t with unreadable := some (n, reason) }.note (.snapshot t.now (some t.actors.length)))
  | none => (.ok (.ofRecords t.records), t.note (.snapshot t.now (some t.actors.length)))

def Table.send (t : Table) (pid : Pid) (s : Signal) : Delivery × Table :=
  let (delivery, t) := t.settle.deliver pid s
  (delivery, t.note (.send t.now pid s delivery))

def Table.isAlive (t : Table) (pid : Pid) : Bool × Table :=
  let t := t.settle
  let alive := (t.find? pid).any (!·.zombie)
  (alive, t.note (.probe t.now pid alive))

def machine : Machine Table where
  snapshot := Table.snapshot
  send := fun pid s t => t.send pid s
  isAlive := fun pid t => t.isAlive pid
  sleep := fun ms t => ((), t.advance ms)

end Straggler.Rehearsal
