import Straggler.Proofs.Delimited
import Straggler.Toml.Quoted

/-!
# Strings are read back

A string may be written in quotes with any choice of escapes for its characters. Whatever the
choice, it is read as the string that was written.
-/

namespace Straggler.Toml

set_option autoImplicit false

open Unicode (hexValue? charOfNat?)

/-! ## Strings as they may be written -/

def HexDigit (d : Nat) (c : Char) : Prop :=
  d < 16 ∧ (c = Nat.digitChar d ∨ c = (Nat.digitChar d).toUpper)

def shortEscapes : List (Char × Char) :=
  [('\x08', 'b'), ('\t', 't'), ('\n', 'n'), ('\x0c', 'f'), ('\r', 'r'), ('"', '"'), ('\\', '\\')]

/-- The characters that need no escape. A tab is the one control character among them. -/
def Plain (c : Char) : Prop :=
  c = '\t' ∨ 0x20 ≤ c.toNat ∧ c.toNat ≠ 0x7F ∧ c ≠ '"' ∧ c ≠ '\\'

/-- How a character may stand in a string: as it is, by its letter after a backslash, or by its
number in four or in eight digits. -/
inductive Spells (c : Char) : List Char → Prop
  | plain (h : Plain c) : Spells c [c]
  | short {letter : Char} (h : (c, letter) ∈ shortEscapes) : Spells c ['\\', letter]
  | code {ds : List Nat} {cs : List Char} (four : ds.length = 4)
      (digits : List.Forall₂ HexDigit ds cs)
      (value : ds.foldl (fun v d => v * 16 + d) 0 = c.toNat) : Spells c ('\\' :: 'u' :: cs)
  | longCode {ds : List Nat} {cs : List Char} (eight : ds.length = 8)
      (digits : List.Forall₂ HexDigit ds cs)
      (value : ds.foldl (fun v d => v * 16 + d) 0 = c.toNat) : Spells c ('\\' :: 'U' :: cs)

/-- What may stand between the quotes of a string. -/
inductive Spelled : List Char → List Char → Prop
  | nil : Spelled [] []
  | cons {c : Char} {t cs ts : List Char} (first : Spells c t) (rest : Spelled cs ts) :
      Spelled (c :: cs) (t ++ ts)

/-- A control character has no letter of its own in general, but its number fits four digits. -/
theorem exists_spells (c : Char) : ∃ t, Spells c t := by
  by_cases quote : c = '"'
  · subst quote
    exact ⟨['\\', '"'], .short (by decide)⟩
  by_cases backslash : c = '\\'
  · subst backslash
    exact ⟨['\\', '\\'], .short (by decide)⟩
  by_cases control : c.toNat < 0x20 ∨ c.toNat = 0x7F
  · have digits : List.Forall₂ HexDigit [0, 0, c.toNat / 16, c.toNat % 16]
        ([0, 0, c.toNat / 16, c.toNat % 16].map Nat.digitChar) := by
      simp only [List.map_cons, List.map_nil, List.forall₂_cons, HexDigit, true_or, and_true]
      exact ⟨by omega, by omega, by omega, by omega, .nil⟩
    refine ⟨_, .code rfl digits ?_⟩
    simp only [List.foldl_cons, List.foldl_nil]
    omega
  · exact ⟨_, .plain (.inr ⟨by omega, by omega, quote, backslash⟩)⟩

theorem exists_spelled (cs : List Char) : ∃ ts, Spelled cs ts := by
  induction cs with
  | nil => exact ⟨_, .nil⟩
  | cons c cs ih =>
    obtain ⟨t, first⟩ := exists_spells c
    obtain ⟨ts, rest⟩ := ih
    exact ⟨_, .cons first rest⟩

theorem spelled_plain {cs : List Char} (h : ∀ c ∈ cs, Plain c) : Spelled cs cs := by
  induction cs with
  | nil => exact .nil
  | cons c cs ih =>
    exact .cons (.plain (h c List.mem_cons_self)) (ih fun d hd => h d (List.mem_cons_of_mem _ hd))

/-! ## Reading strings -/

def basic : Style where
  quote := '"'
  escapes := true
  multiline := false

theorem hexValue?_of_hexDigit {d : Nat} {c : Char} (h : HexDigit d c) : hexValue? c = some d := by
  have all : ∀ m < 16, hexValue? (Nat.digitChar m) = some m ∧
      hexValue? (Nat.digitChar m).toUpper = some m := by decide
  obtain ⟨below, rfl | rfl⟩ := h
  · exact (all d below).1
  · exact (all d below).2

section Strings

variable {taken rest : List Char}

theorem read_step {c : Char} {m m' : Mode} {out : List Char} (h : basic.step c m = some (m', out))
    (inside : ∀ n, m ≠ .quotes n) :
    basic.read m taken (c :: rest) = basic.read m' (out.reverse ++ taken) rest := by
  cases m with
  | quotes n => exact absurd rfl (inside n)
  | _ => simp [Style.read, h]

/-- The digits of a character's number, of which some may have been read already. -/
theorem read_code {c : Char} {ds : List Nat} {cs : List Char}
    (digits : List.Forall₂ HexDigit ds cs) (some : ds ≠ []) {value : Nat}
    (all : ds.foldl (fun v d => v * 16 + d) value = c.toNat) :
    basic.read (.code ds.length value) taken (cs ++ rest) =
      basic.read .plain (c :: taken) rest := by
  induction digits generalizing value with
  | nil => exact absurd rfl some
  | @cons d e ds cs first others ih =>
    cases ds with
    | nil =>
      cases others
      have number : value * 16 + d = c.toNat := all
      have last : basic.step e (.code 1 value) = .some (.plain, [c]) := by
        simp [Style.step, hexValue?_of_hexDigit first, number, Unicode.charOfNat?_toNat]
      exact read_step last nofun
    | cons d' ds =>
      have next : basic.step e (.code (d :: d' :: ds).length value) =
          .some (.code (d' :: ds).length (value * 16 + d), []) := by
        simp [Style.step, hexValue?_of_hexDigit first]
      exact (read_step next nofun).trans (ih (List.cons_ne_nil _ _) all)

theorem read_spells {c : Char} {t : List Char} (h : Spells c t) :
    basic.read .plain taken (t ++ rest) = basic.read .plain (c :: taken) rest := by
  have backslash {text : List Char} :
      basic.read .plain taken ('\\' :: text) = basic.read .escaped taken text := by
    have opens : basic.step '\\' .plain = some (.escaped, []) := by decide
    exact read_step opens nofun
  cases h with
  | plain h =>
    have itself : basic.step c .plain = some (.plain, [c]) := by
      rcases h with rfl | ⟨low, delete, quote, slash⟩
      · decide
      · simp [Style.step, Style.plain, basic, isPlain, low, delete, quote, slash]
    exact read_step itself nofun
  | @short letter h =>
    have letters : ∀ e ∈ shortEscapes, basic.step e.2 .escaped = some (.plain, [e.1]) := by decide
    exact backslash.trans (read_step (letters _ h) nofun)
  | @code ds cs four digits value =>
    have marked : basic.step 'u' .escaped = some (.code ds.length 0, []) := by rw [four]; decide
    have some : ds ≠ [] := List.ne_nil_of_length_pos (by omega)
    exact backslash.trans ((read_step marked nofun).trans (read_code digits some value))
  | @longCode ds cs eight digits value =>
    have marked : basic.step 'U' .escaped = some (.code ds.length 0, []) := by rw [eight]; decide
    have some : ds ≠ [] := List.ne_nil_of_length_pos (by omega)
    exact backslash.trans ((read_step marked nofun).trans (read_code digits some value))

theorem read_spelled {cs ts : List Char} (h : Spelled cs ts) :
    basic.read .plain taken (ts ++ rest) = basic.read .plain (cs.reverse ++ taken) rest := by
  induction h generalizing taken with
  | nil => rfl
  | cons first others ih => rw [List.append_assoc, read_spells first, ih]; simp

theorem read_quote :
    basic.read .plain taken ('"' :: rest) = .ok (.ofList taken.reverse, rest) := by
  have closes : basic.step '"' .plain = some (.quotes 1, []) := by decide
  rw [read_step closes nofun]
  cases rest <;> simp [Style.read, Style.closing, basic]

end Strings

/-- A quote in a string is never written as it is. -/
theorem Spells.head_ne {c : Char} {t : List Char} (h : Spells c t) :
    ∃ d ds, t = d :: ds ∧ d ≠ '"' := by
  cases h with
  | plain h =>
    refine ⟨_, _, rfl, ?_⟩
    rcases h with rfl | ⟨-, -, quote, -⟩
    · decide
    · exact quote
  | short h => exact ⟨_, _, rfl, by decide⟩
  | code four digits value => exact ⟨_, _, rfl, by decide⟩
  | longCode eight digits value => exact ⟨_, _, rfl, by decide⟩

/-- A second quote at once would open a string of several lines only before a third one. -/
theorem readString_spelled {s : String} {ts rest : List Char} (h : Spelled s.toList ts)
    (hr : StopsAt (· = '"') rest) : readString '"' (ts ++ '"' :: rest) = .ok (s, rest) := by
  have line : readLineString '"' (ts ++ '"' :: rest) = .ok (s, rest) := by
    have read : basic.read .plain [] (ts ++ '"' :: rest) = _ := (read_spelled h).trans read_quote
    simp only [List.append_nil, List.reverse_reverse, String.ofList_toList] at read
    exact read
  rw [← line]
  generalize text : ts ++ '"' :: rest = cs
  unfold readString
  split
  · next a b others =>
    rw [if_neg]
    rw [Bool.and_eq_true, decide_eq_true_eq, decide_eq_true_eq]
    rintro ⟨rfl, rfl⟩
    generalize s.toList = chars at h
    cases h with
    | nil =>
      have second : rest = '"' :: others := (List.cons.inj text).2
      simpa using hr '"' (by rw [second]; rfl)
    | cons first _ =>
      obtain ⟨d, ds, rfl, quote⟩ := first.head_ne
      exact quote (List.cons.inj text).1
  · rfl

end Straggler.Toml
