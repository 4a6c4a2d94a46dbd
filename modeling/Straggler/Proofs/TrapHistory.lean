import Straggler.Trap

/-!
# The history of a trap

A trap may be called in any order, also before a signal has come and after the exit. Its state is a
matter of the calls made so far and nothing else (`Reached`): one step of the trap follows the rules
for histories, so a whole run does. From the state each answer is read off, and each answer that
lets a cleanup begin uses up something that no call gives back.
-/

namespace Straggler.Trap

set_option autoImplicit false

/-! ## Calls and their answers -/

inductive Move
  | trip (s : Signal)
  | beginCleanup
  | exit (code : Int)
  deriving DecidableEq, Repr

inductive Answer
  | tripped (first : Bool)
  | cleanup (s : Option Signal)
  | exited
  deriving DecidableEq, Repr

namespace Move

def isTrip : Move → Bool
  | trip _ => true
  | _ => false

def isCleanup : Move → Bool
  | beginCleanup => true
  | _ => false

def isExit : Move → Bool
  | exit _ => true
  | _ => false

def apply (t : Trap) : Move → Answer × Trap
  | trip s => (.tripped (t.trip s).1, (t.trip s).2)
  | beginCleanup => (.cleanup t.beginCleanup.1, t.beginCleanup.2)
  | exit code => (.exited, t.exit code)

end Move

def advance (t : Trap) (moves : List Move) : Trap :=
  moves.foldl (fun t m => (m.apply t).2) t

def answers (t : Trap) : List Move → List Answer
  | [] => []
  | m :: moves => (m.apply t).1 :: answers (m.apply t).2 moves

def after (moves : List Move) : Trap :=
  running.advance moves

variable {t : Trap} {m : Move} {moves before between rest : List Move} {s : Signal} {code : Int}

theorem advance_append (t : Trap) (moves later : List Move) :
    t.advance (moves ++ later) = (t.advance moves).advance later :=
  List.foldl_append

/-- Each call is answered from the state that the calls before it have left. -/
theorem answers_append (t : Trap) (moves later : List Move) :
    t.answers (moves ++ later) = t.answers moves ++ (t.advance moves).answers later := by
  induction moves generalizing t with
  | nil => rfl
  | cons m moves ih => exact congrArg ((m.apply t).1 :: ·) (ih (m.apply t).2)

theorem length_answers (t : Trap) (moves : List Move) :
    (t.answers moves).length = moves.length := by
  induction moves generalizing t with
  | nil => rfl
  | cons m moves ih => exact congrArg (· + 1) (ih (m.apply t).2)

theorem advance_eq_self (stays : ∀ m ∈ moves, (m.apply t).2 = t) : t.advance moves = t := by
  induction moves with
  | nil => rfl
  | cons m moves ih =>
    obtain ⟨first, later⟩ := List.forall_mem_cons.mp stays
    have moved : t.advance (m :: moves) = (m.apply t).2.advance moves := rfl
    rw [moved, first, ih later]

/-! ## States and histories -/

/-- Neither a signal nor an exit. -/
def Quiet (moves : List Move) : Prop :=
  ∀ m ∈ moves, m.isTrip = false ∧ m.isExit = false

def Open (moves : List Move) : Prop :=
  ∀ m ∈ moves, m.isExit = false

/-- Neither the beginning of a cleanup nor an exit. -/
def Waiting (moves : List Move) : Prop :=
  ∀ m ∈ moves, m.isCleanup = false ∧ m.isExit = false

/-- The histories that lead to a state. Signals after the first one leave no trace. -/
inductive Reached : List Move → Trap → Prop
  | running {moves : List Move} : Quiet moves → Reached moves running
  | signalReceived {before between : List Move} (s : Signal) : Quiet before → Waiting between →
      Reached (before ++ .trip s :: between) (signalReceived s)
  | cleaningUp {before between rest : List Move} (s : Signal) : Quiet before → Waiting between →
      Open rest →
      Reached (before ++ .trip s :: between ++ .beginCleanup :: rest) (cleaningUp s)
  | exited {before rest : List Move} (code : Int) : Open rest →
      Reached (before ++ .exit code :: rest) (exited code)

theorem forall_mem_concat {p : Move → Prop} (h : ∀ m ∈ moves, p m) (hm : p m) :
    ∀ n ∈ moves ++ [m], p n :=
  List.forall_mem_append.mpr ⟨h, List.forall_mem_singleton.mpr hm⟩

theorem Quiet.advance (quiet : Quiet moves) : running.advance moves = running := by
  apply advance_eq_self
  intro m hm
  obtain ⟨trip, exit⟩ := quiet m hm
  cases m with
  | trip s => cases trip
  | beginCleanup => rfl
  | exit code => cases exit

theorem Waiting.advance (waiting : Waiting moves) (s : Signal) :
    (Trap.signalReceived s).advance moves = .signalReceived s := by
  apply advance_eq_self
  intro m hm
  obtain ⟨cleanup, exit⟩ := waiting m hm
  cases m with
  | trip s => rfl
  | beginCleanup => cases cleanup
  | exit code => cases exit

theorem Open.advance_cleaningUp (h : Open moves) (s : Signal) :
    (Trap.cleaningUp s).advance moves = .cleaningUp s := by
  apply advance_eq_self
  intro m hm
  have exit := h m hm
  cases m with
  | trip s => rfl
  | beginCleanup => rfl
  | exit code => cases exit

theorem Open.advance_exited (h : Open moves) (code : Int) :
    (Trap.exited code).advance moves = .exited code := by
  apply advance_eq_self
  intro m hm
  have exit := h m hm
  cases m with
  | trip s => rfl
  | beginCleanup => rfl
  | exit code => cases exit

namespace Reached

theorem after_eq (h : Reached moves t) : after moves = t := by
  rw [after]
  -- Each piece of the history either moves the state or leaves it as it is.
  cases h with
  | running quiet => exact quiet.advance
  | @signalReceived before between s quiet waiting =>
    rw [advance_append, quiet.advance]
    exact waiting.advance s
  | @cleaningUp before between rest s quiet waiting later =>
    rw [advance_append, advance_append, quiet.advance]
    have received : Trap.running.advance (.trip s :: between) = .signalReceived s :=
      waiting.advance s
    rw [received]
    exact later.advance_cleaningUp s
  | @exited before rest code later =>
    rw [advance_append]
    exact later.advance_exited code

theorem step (h : Reached moves t) (m : Move) : Reached (moves ++ [m]) (m.apply t).2 := by
  cases m with
  | exit code => exact .exited code nofun
  | trip s =>
    cases h with
    | running quiet => exact .signalReceived s quiet nofun
    | signalReceived first quiet waiting =>
      rw [List.append_assoc]
      exact .signalReceived first quiet (forall_mem_concat waiting ⟨rfl, rfl⟩)
    | cleaningUp first quiet waiting later =>
      rw [List.append_assoc]
      exact .cleaningUp first quiet waiting (forall_mem_concat later rfl)
    | exited code later =>
      rw [List.append_assoc]
      exact .exited code (forall_mem_concat later rfl)
  | beginCleanup =>
    cases h with
    | running quiet => exact .running (forall_mem_concat quiet ⟨rfl, rfl⟩)
    | signalReceived s quiet waiting => exact .cleaningUp s quiet waiting nofun
    | cleaningUp s quiet waiting later =>
      rw [List.append_assoc]
      exact .cleaningUp s quiet waiting (forall_mem_concat later rfl)
    | exited code later =>
      rw [List.append_assoc]
      exact .exited code (forall_mem_concat later rfl)

theorem advance (h : Reached moves t) (later : List Move) :
    Reached (moves ++ later) (t.advance later) := by
  induction later generalizing moves t with
  | nil => rwa [List.append_nil]
  | cons m later ih =>
    have next := ih (h.step m)
    rwa [List.append_assoc] at next

end Reached

theorem reached_after (moves : List Move) : Reached moves (after moves) := by
  have new : Reached [] running := .running nofun
  exact new.advance moves

theorem after_eq_iff : after moves = t ↔ Reached moves t :=
  ⟨fun h => h ▸ reached_after moves, Reached.after_eq⟩

/-! ## What a call is answered -/

theorem trip_fst_iff : (t.trip s).1 = true ↔ t = running := by
  cases t <;> simp [trip]

theorem beginCleanup_fst_iff : t.beginCleanup.1 = some s ↔ t = signalReceived s := by
  cases t <;> simp [beginCleanup]

theorem reached_running_iff : Reached moves running ↔ Quiet moves := by
  constructor
  · rintro ⟨quiet⟩
    exact quiet
  · exact .running

theorem reached_signalReceived_iff : Reached moves (signalReceived s) ↔
    ∃ before between, moves = before ++ .trip s :: between ∧ Quiet before ∧ Waiting between := by
  constructor
  · rintro ⟨⟩
    rename_i before between quiet waiting
    exact ⟨before, between, rfl, quiet, waiting⟩
  · rintro ⟨before, between, rfl, quiet, waiting⟩
    exact .signalReceived s quiet waiting

theorem reached_exited_iff : Reached moves (exited code) ↔
    ∃ before rest, moves = before ++ .exit code :: rest ∧ Open rest := by
  constructor
  · rintro ⟨⟩
    rename_i before rest later
    exact ⟨before, rest, rfl, later⟩
  · rintro ⟨before, rest, rfl, later⟩
    exact .exited code later

theorem advance_exited (code : Int) (moves : List Move) :
    ∃ last, (Trap.exited code).advance moves = .exited last := by
  induction moves generalizing code with
  | nil => exact ⟨code, rfl⟩
  | cons m moves ih =>
    cases m with
    | trip s => exact ih code
    | beginCleanup => exact ih code
    | exit last => exact ih last

theorem after_of_exit_mem (hm : m ∈ moves) (exit : m.isExit = true) :
    ∃ code, after moves = .exited code := by
  obtain ⟨before, rest, rfl⟩ := List.append_of_mem hm
  cases m with
  | trip s => cases exit
  | beginCleanup => cases exit
  | exit code =>
    rw [after, advance_append]
    exact advance_exited code rest

/-! ## At most once -/

/-- What each call takes away from a number that depends on the state is taken away by the whole
run. -/
theorem countP_answers_add_le (left : Trap → Nat) {p : Answer → Bool}
    (spends : ∀ t m, (if p (Move.apply t m).1 then 1 else 0) + left (m.apply t).2 ≤ left t)
    (t : Trap) (moves : List Move) :
    (t.answers moves).countP p + left (t.advance moves) ≤ left t := by
  induction moves generalizing t with
  | nil => exact Nat.le_of_eq (Nat.zero_add _)
  | cons m moves ih =>
    have now := spends t m
    have later := ih (m.apply t).2
    have moved : t.advance (m :: moves) = (m.apply t).2.advance moves := rfl
    rw [answers, List.countP_cons, moved]
    omega

def Answer.isFirst : Answer → Bool
  | tripped first => first
  | _ => false

def Answer.begins : Answer → Bool
  | cleanup s => s.isSome
  | _ => false

/-- A new trap can be tripped once, and one cleanup can begin as long as none has begun. -/
def tripsLeft : Trap → Nat
  | running => 1
  | _ => 0

def cleanupsLeft : Trap → Nat
  | running => 1
  | signalReceived _ => 1
  | _ => 0

theorem trips_le (moves : List Move) : (running.answers moves).countP Answer.isFirst ≤ 1 := by
  have spent : (running.answers moves).countP Answer.isFirst + tripsLeft (after moves) ≤ 1 := by
    refine countP_answers_add_le tripsLeft ?_ running moves
    intro t m
    cases t <;> cases m <;>
      simp [Move.apply, trip, beginCleanup, exit, Answer.isFirst, tripsLeft]
  omega

theorem cleanups_le (moves : List Move) : (running.answers moves).countP Answer.begins ≤ 1 := by
  have spent : (running.answers moves).countP Answer.begins + cleanupsLeft (after moves) ≤ 1 := by
    refine countP_answers_add_le cleanupsLeft ?_ running moves
    intro t m
    cases t <;> cases m <;>
      simp [Move.apply, trip, beginCleanup, exit, Answer.begins, cleanupsLeft]
  omega

/-- What can be said of a new trap when these calls have been made to it. -/
structure Guarded (moves : List Move) : Prop where
  answered : ∀ m later,
    (running.answers (moves ++ m :: later))[moves.length]? = some (m.apply (after moves)).1
  trip_iff : ∀ s, ((after moves).trip s).1 = true ↔ Quiet moves
  trips_le : (running.answers moves).countP Answer.isFirst ≤ 1
  cleanup_iff : ∀ s, (after moves).beginCleanup.1 = some s ↔
    ∃ before between, moves = before ++ .trip s :: between ∧ Quiet before ∧ Waiting between
  cleanups_le : (running.answers moves).countP Answer.begins ≤ 1
  running_iff : after moves = running ↔ Quiet moves
  exited_iff : ∀ code, after moves = exited code ↔
    ∃ before rest, moves = before ++ .exit code :: rest ∧ Open rest
  closed : ∀ m ∈ moves, m.isExit = true → (∃ code, after moves = exited code) ∧
    (∀ s, ((after moves).trip s).1 = false) ∧ (after moves).beginCleanup.1 = none

/-- Whatever calls are made to a trap, the first signal before an exit trips it, and no other one;
one cleanup begins after that, for that signal and before an exit; and an exit is the end. -/
theorem trap_trips_at_most_once (moves : List Move) : Guarded moves where
  answered := by
    intro m later
    rw [answers_append, List.getElem?_append_right (Nat.le_of_eq (length_answers _ _)),
      length_answers, Nat.sub_self]
    rfl
  trip_iff := by
    intro s
    rw [trip_fst_iff, after_eq_iff, reached_running_iff]
  trips_le := trips_le moves
  cleanup_iff := by
    intro s
    rw [beginCleanup_fst_iff, after_eq_iff, reached_signalReceived_iff]
  cleanups_le := cleanups_le moves
  running_iff := after_eq_iff.trans reached_running_iff
  exited_iff := fun code => after_eq_iff.trans reached_exited_iff
  closed := by
    intro m hm exit
    obtain ⟨code, h⟩ := after_of_exit_mem hm exit
    rw [h]
    exact ⟨⟨code, rfl⟩, fun _ => rfl, rfl⟩

end Straggler.Trap
