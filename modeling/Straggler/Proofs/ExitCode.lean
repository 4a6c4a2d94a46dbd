import Mathlib.Data.Nat.Bitwise
import Straggler.Proofs.Verdict
import Straggler.Session

/-!
# Exit codes

A status word tells by its low seven bits how a child has ended, and whatever else it holds the
code made of it is a byte. So nothing is lost where the program exits with that code, and the code
is zero only if the child has ended by itself with a zero: no other word, no trapped signal and no
command that could not be started is reported as a success.

The code is compared with the one that the tests of the system give in the arithmetic of signed
words. They tell a stop from a signal by a byte that wraps around.
-/

namespace Straggler

set_option autoImplicit false

namespace Posix.WaitStatus

/-! ## Status words as numbers -/

def word (s : WaitStatus) : Nat :=
  s.raw.toUInt32.toNat

theorem word_lt (s : WaitStatus) : s.word < 2 ^ 32 :=
  s.raw.toUInt32.toNat_lt

theorem toInt_eq_toNat {x : Int32} (unsigned : x.toBitVec.toNat < 2 ^ 31) :
    x.toInt = x.toBitVec.toNat :=
  BitVec.toInt_eq_toNat_of_lt (by omega)

theorem toNat_and_seven_bits (x : Int32) :
    (x &&& 0x7F).toBitVec.toNat = x.toBitVec.toNat % 128 := by
  rw [Int32.toBitVec_and, BitVec.toNat_and]
  exact Nat.and_two_pow_sub_one_eq_mod x.toBitVec.toNat 7

theorem toNat_and_byte (x : Int32) : (x &&& 0xFF).toBitVec.toNat = x.toBitVec.toNat % 256 := by
  rw [Int32.toBitVec_and, BitVec.toNat_and]
  exact Nat.and_two_pow_sub_one_eq_mod x.toBitVec.toNat 8

theorem toInt_low (s : WaitStatus) : s.low.toInt = (s.word % 128 : Nat) := by
  have bits : s.low.toBitVec.toNat = s.word % 128 := toNat_and_seven_bits s.raw
  rw [toInt_eq_toNat (by omega), bits]

theorem toInt_second_byte (s : WaitStatus) :
    ((s.raw >>> 8) &&& 0xFF).toInt = (s.word / 256 % 256 : Nat) := by
  have bound := s.word_lt
  have shifted : (s.raw >>> 8).toBitVec = s.raw.toBitVec.sshiftRight 8 := rfl
  have unsigned : s.raw.toBitVec.toNat = s.word := rfl
  have bits : ((s.raw >>> 8) &&& 0xFF).toBitVec.toNat = s.word / 256 % 256 := by
    -- The sign comes in from the left, but not as far as the byte that is kept.
    rw [toNat_and_byte, shifted, BitVec.toNat_sshiftRight, unsigned, Nat.shiftRight_eq_div_pow,
      Nat.shiftRight_eq_div_pow]
    split <;> omega
  rw [toInt_eq_toNat (by omega), bits]

theorem low_eq_zero_iff {s : WaitStatus} : s.low = 0 ↔ s.word % 128 = 0 := by
  have zero : (0 : Int32).toInt = 0 := rfl
  rw [← Int32.toInt_inj, toInt_low, zero]
  omega

theorem low_eq_ones_iff {s : WaitStatus} : s.low = 0x7F ↔ s.word % 128 = 127 := by
  have ones : (0x7F : Int32).toInt = 127 := rfl
  rw [← Int32.toInt_inj, toInt_low, ones]
  omega

/-! ## By the tests of the system -/

def code? (s : WaitStatus) : Option Int32 :=
  if s.low = 0 then some ((s.raw >>> 8) &&& 0xFF) else none

/-- The signal that a child has died of. The low seven bits and one more are a signed byte above
one, but for an exit, where they are one, and for a stop, where they wrap around. -/
def signal? (s : WaitStatus) : Option Int32 :=
  if 2 ≤ (s.low + 1).toInt8 then some s.low else none

def shellCode (s : WaitStatus) : Int32 :=
  match s.code?, s.signal? with
  | some code, _ => code
  | none, some signal => 128 + signal
  | none, none => 1

def toByte (code : Int32) : UInt8 :=
  if code < 0 then 0 else if 255 < code then 255 else code.toUInt32.toUInt8

theorem signal?_eq (s : WaitStatus) :
    s.signal? = if 0 < s.word % 128 ∧ s.word % 128 < 127 then some s.low else none := by
  have one : (1 : Int32).toInt = 1 := rfl
  have sum : (s.low + 1).toInt = ((s.word % 128 : Nat) : Int) + 1 := by
    rw [Int32.toInt_add, toInt_low, one]
    exact Int.bmod_eq_of_le (by omega) (by omega)
  have wraps : (s.low + 1).toInt8.toInt = (((s.word % 128 : Nat) : Int) + 1).bmod (2 ^ 8) := by
    rw [Int32.toInt_toInt8, sum]
  have two : (2 : Int8).toInt = 2 := rfl
  have killed : 2 ≤ (s.low + 1).toInt8 ↔ 0 < s.word % 128 ∧ s.word % 128 < 127 := by
    rw [Int8.le_iff_toInt_le, wraps, two, Int.bmod_def]
    omega
  rw [signal?]
  simp only [killed]

theorem toNat_toByte {code : Int32} (lo : 0 ≤ code.toInt) (hi : code.toInt ≤ 255) :
    ((toByte code).toNat : Int) = code.toInt := by
  have zero : (0 : Int32).toInt = 0 := rfl
  have top : (255 : Int32).toInt = 255 := rfl
  have notBelow : ¬ code < 0 := by
    rw [Int32.lt_iff_toInt_lt, zero]
    omega
  have notAbove : ¬ 255 < code := by
    rw [Int32.lt_iff_toInt_lt, top]
    omega
  rw [toByte, if_neg notBelow, if_neg notAbove, UInt32.toNat_toUInt8]
  have unsigned : code.toInt = (code.toUInt32.toNat : Int).bmod (2 ^ 32) :=
    BitVec.toInt_eq_toNat_bmod code.toBitVec
  have bound := code.toUInt32.toNat_lt
  rw [Int.bmod_def] at unsigned
  omega

/-! ## The code of a word -/

/-- The child has ended by itself and with a zero. -/
def Succeeded (s : WaitStatus) : Prop :=
  s.word % 128 = 0 ∧ s.word / 256 % 256 = 0

/-- What becomes of a word. The bit above the low seven, which tells whether a child that died has
left a core, makes no difference. -/
structure Translated (s : WaitStatus) : Prop where
  exited : s.word % 128 = 0 → s.exitCode = s.word / 256 % 256
  killed : 0 < s.word % 128 → s.word % 128 < 127 → s.exitCode = 128 + s.word % 128
  neither : s.word % 128 = 127 → s.exitCode = 1
  le : s.exitCode ≤ Transcript.maxCode
  eq_zero_iff : s.exitCode = 0 ↔ s.Succeeded
  shell : s.shellCode.toInt = s.exitCode
  byte : (toByte s.shellCode).toNat = s.exitCode

variable {s : WaitStatus}

theorem exitCode_of_exited (exited : s.word % 128 = 0) : s.exitCode = s.word / 256 % 256 := by
  rw [exitCode, if_pos (low_eq_zero_iff.mpr exited), exitByte, toInt_second_byte, Int.toNat_natCast]

theorem exitCode_of_killed (some_bit : 0 < s.word % 128) (notAll : s.word % 128 < 127) :
    s.exitCode = 128 + s.word % 128 := by
  have notExited : ¬ s.low = 0 := by
    rw [low_eq_zero_iff]
    omega
  have notStopped : ¬ s.low = 0x7F := by
    rw [low_eq_ones_iff]
    omega
  rw [exitCode, if_neg notExited, if_neg notStopped, toInt_low, Int.toNat_natCast]

theorem exitCode_of_neither (stopped : s.word % 128 = 127) : s.exitCode = 1 := by
  have notExited : ¬ s.low = 0 := by
    rw [low_eq_zero_iff]
    omega
  rw [exitCode, if_neg notExited, if_pos (low_eq_ones_iff.mpr stopped)]

theorem word_cases (s : WaitStatus) : s.word % 128 = 0 ∨
    (0 < s.word % 128 ∧ s.word % 128 < 127) ∨ s.word % 128 = 127 := by
  omega

theorem exitCode_le (s : WaitStatus) : s.exitCode ≤ Transcript.maxCode := by
  rw [Transcript.maxCode]
  rcases s.word_cases with exited | ⟨lo, hi⟩ | stopped
  · rw [exitCode_of_exited exited]
    omega
  · rw [exitCode_of_killed lo hi]
    omega
  · rw [exitCode_of_neither stopped]
    omega

theorem exitCode_eq_zero_iff : s.exitCode = 0 ↔ s.Succeeded := by
  rw [Succeeded]
  rcases s.word_cases with exited | ⟨lo, hi⟩ | stopped
  · rw [exitCode_of_exited exited, and_iff_right exited]
  · rw [exitCode_of_killed lo hi]
    omega
  · rw [exitCode_of_neither stopped]
    omega

theorem toInt_shellCode (s : WaitStatus) : s.shellCode.toInt = s.exitCode := by
  rcases s.word_cases with exited | ⟨lo, hi⟩ | stopped
  · have code : s.code? = some ((s.raw >>> 8) &&& 0xFF) := if_pos (low_eq_zero_iff.mpr exited)
    rw [shellCode, code, exitCode_of_exited exited]
    exact toInt_second_byte s
  · have code : s.code? = none := if_neg (low_eq_zero_iff.not.mpr (by omega))
    have signal : s.signal? = some s.low := by rw [signal?_eq, if_pos ⟨lo, hi⟩]
    have base : (128 : Int32).toInt = 128 := rfl
    rw [shellCode, code, signal, exitCode_of_killed lo hi]
    -- The sum is far below the sign.
    change (128 + s.low).toInt = _
    rw [Int32.toInt_add, toInt_low, base, Int.bmod_def]
    omega
  · have code : s.code? = none := if_neg (low_eq_zero_iff.not.mpr (by omega))
    have signal : s.signal? = none := by rw [signal?_eq, if_neg (by omega)]
    rw [shellCode, code, signal, exitCode_of_neither stopped]
    rfl

theorem translated (s : WaitStatus) : s.Translated where
  exited := exitCode_of_exited
  killed := exitCode_of_killed
  neither := exitCode_of_neither
  le := s.exitCode_le
  eq_zero_iff := exitCode_eq_zero_iff
  shell := s.toInt_shellCode
  byte := by
    have bound : s.exitCode ≤ 255 := s.exitCode_le
    have same := s.toInt_shellCode
    have kept : ((toByte s.shellCode).toNat : Int) = s.shellCode.toInt :=
      toNat_toByte (by omega) (by omega)
    omega

/-- A stop, the word of a child that goes on, a death that left a core, and a word that no child
leaves. -/
example : [0x137F, 0xFFFF, 0x8B, -0x80000000].map (fun raw => exitCode ⟨raw⟩) = [1, 1, 139, 0] := by
  decide

end Posix.WaitStatus

/-! ## The other codes -/

theorem Ending.exitCode_le (e : Ending) : e.exitCode ≤ Transcript.maxCode := by
  cases e with
  | status w => exact w.exitCode_le
  | lost cause => exact Nat.le_of_ble_eq_true rfl

theorem Ending.exitCode_eq_zero_iff {e : Ending} :
    e.exitCode = 0 ↔ ∃ w, e = .status w ∧ w.Succeeded := by
  cases e with
  | status w => simpa [exitCode] using Posix.WaitStatus.exitCode_eq_zero_iff
  | lost cause => simp [exitCode]

/-- A code that a process can exit with, and that tells of no success. -/
def TellsFailure (code : Nat) : Prop :=
  0 < code ∧ code ≤ Transcript.maxCode

theorem Signal.number_bounds (s : Signal) : 0 < s.number ∧ s.number < 32 := by
  cases s <;> decide

theorem trappedCode_tellsFailure (s : Signal) : TellsFailure (Supervisor.trappedCode s) := by
  have bounds := s.number_bounds
  rw [TellsFailure, Supervisor.trappedCode, Transcript.maxCode]
  omega

theorem Error.spawnCode_cases (e : Error) :
    e.spawnCode = notFoundCode ∨ e.spawnCode = cannotExecuteCode := by
  cases e with
  | spawn command cause =>
    by_cases missing : cause.kind = .notFound
    · exact .inl (if_pos missing)
    · exact .inr (if_neg missing)
  | processTable | invalidPattern | invalidSignal | config => exact .inr rfl

theorem Error.spawnCode_tellsFailure (e : Error) : TellsFailure e.spawnCode := by
  rcases e.spawnCode_cases with found | found
  · rw [found]
    exact ⟨by decide, by decide⟩
  · rw [found]
    exact ⟨by decide, by decide⟩

/-! ## The code of a session -/

variable {σ : Type}

def Transcript.ofAnswer (json : Bool) : Except Error WrapOutcome → Transcript
  | .ok outcome => .ofWrap json outcome
  | .error e => .ofFailure e

theorem Transcript.code_ofFailure (e : Error) : 0 < (Transcript.ofFailure e).code := by
  unfold ofFailure
  split
  · exact Nat.one_pos
  · exact e.spawnCode_tellsFailure.1

namespace Decided

variable {sv : Supervisor} {h : Host σ} {child : Pid} {sweepOnExit json : Bool} {s : σ}
variable {d : Deciding} {answer : Except Error WrapOutcome} {outcome : WrapOutcome}
variable {calls : List Call}

theorem code_ofWrap (decided : Decided sv h child sweepOnExit s d (.ok outcome) calls)
    (json : Bool) : (Transcript.ofWrap json outcome).code = outcome.exitCode := by
  apply Nat.min_eq_left
  cases decided with
  | exited e | swept e => exact e.exitCode_le
  | cleaned signal => exact (trappedCode_tellsFailure signal).2

theorem code_eq_zero_iff (decided : Decided sv h child sweepOnExit s d answer calls) :
    (Transcript.ofAnswer json answer).code = 0 ↔
      ∃ w, d = .exited (.status w) ∧ w.Succeeded := by
  cases answer with
  | error e =>
    have failed := Transcript.code_ofFailure e
    cases decided with
    | failed signal trap => simpa [Transcript.ofAnswer] using failed.ne'
  | ok outcome =>
    rw [Transcript.ofAnswer, decided.code_ofWrap json]
    cases decided with
    | exited e | swept e => simpa [WrapOutcome.ofExit] using e.exitCode_eq_zero_iff
    | cleaned signal => simpa [WrapOutcome.ofSignal] using (trappedCode_tellsFailure signal).1.ne'

end Decided

namespace Session

variable [Pattern.Engine] {h : Host σ} {surroundings : Surroundings} {o : Options} {s : σ}

def supervisor (surroundings : Surroundings) (o : Options) : Supervisor where
  settings := Settings.effective surroundings o.config o.graceMs
  dryRun := o.dryRun

theorem run_command (named : o.command ≠ []) (s : σ) :
    run h surroundings o s =
      (.ofAnswer o.json (((supervisor surroundings o).wrap h o.command o.sweepOnExit).run s).1,
        (((supervisor surroundings o).wrap h o.command o.sweepOnExit).run s).2) := by
  have given : ¬ o.command.isEmpty = true := by rwa [List.isEmpty_iff]
  unfold run
  rw [if_neg given, bind_apply]
  change _ = (Transcript.ofAnswer o.json _, _)
  rw [supervisor]
  cases (ExceptT.run (Supervisor.wrap _ h o.command o.sweepOnExit) s).1 <;> rfl

/-- A session reports a success exactly if its command was started and has ended well by itself. -/
theorem code_eq_zero_iff (named : o.command ≠ []) :
    (run h surroundings o s).1.code = 0 ↔
      ∃ child a t w, Started h o.command s child a t ∧ a.deciding = .exited (.status w) ∧
        w.Succeeded := by
  rw [run_command named]
  rcases unstarted_or_started h o.command s with unstarted | ⟨child, a, t, started⟩
  · obtain ⟨text, cause, t, failed, -⟩ :=
      (supervisor surroundings o).wrap_unstarted unstarted o.sweepOnExit
    rw [failed]
    constructor
    · exact fun success => absurd success (Transcript.code_ofFailure _).ne'
    · rintro ⟨child, a, t, w, started, -⟩
      exact absurd unstarted started.not_unstarted
  · obtain ⟨answer, calls, u, -, plain, decided⟩ :=
      (supervisor surroundings o).wrap_decided started o.sweepOnExit
    rw [plain, decided.code_eq_zero_iff]
    constructor
    · rintro ⟨w, exited, succeeded⟩
      exact ⟨child, a, t, w, started, exited, succeeded⟩
    · rintro ⟨child', a', t', w, started', exited, succeeded⟩
      obtain ⟨rfl, rfl, rfl⟩ := started.unique started'
      exact ⟨w, exited, succeeded⟩

end Session

/-- The code of a command is a byte and is passed on as it is, and it is a zero exactly if the
command has ended by itself with a zero. Every other word is told from that by its code, and so are
trapped signals and commands that could not be started. -/
theorem failure_never_passes_for_success [Pattern.Engine] (h : Host σ)
    (surroundings : Surroundings) (o : Options) (program : String) (arguments : List String)
    (s : σ) :
    (∀ w : Posix.WaitStatus, w.Translated) ∧
      (∀ signal : Signal, TellsFailure (Supervisor.trappedCode signal)) ∧
      (∀ e : Error, TellsFailure e.spawnCode) ∧
      (∀ (sv : Supervisor) (sweepOnExit json : Bool) (outcome : WrapOutcome) (t : σ),
        (sv.wrap h (program :: arguments) sweepOnExit).run s = (.ok outcome, t) →
          (Transcript.ofWrap json outcome).code = outcome.exitCode) ∧
      ((Session.run h surroundings { o with command := program :: arguments } s).1.code = 0 ↔
        ∃ child a t w, Started h (program :: arguments) s child a t ∧
          a.deciding = .exited (.status w) ∧ w.Succeeded) := by
  refine ⟨Posix.WaitStatus.translated, trappedCode_tellsFailure, Error.spawnCode_tellsFailure, ?_,
    Session.code_eq_zero_iff (List.cons_ne_nil _ _)⟩
  intro sv sweepOnExit json outcome t done
  rcases unstarted_or_started h (program :: arguments) s with unstarted | ⟨child, a, u, started⟩
  · obtain ⟨text, cause, v, failed, -⟩ := sv.wrap_unstarted unstarted sweepOnExit
    rw [failed] at done
    cases done
  · obtain ⟨answer, calls, v, -, plain, decided⟩ := sv.wrap_decided started sweepOnExit
    rw [plain] at done
    cases done
    exact decided.code_ofWrap json

end Straggler
