import Straggler.Proofs.TomlNumber
import Straggler.Proofs.TomlString
import Straggler.Toml.Reader

/-!
# Documents are read line by line

An entry or the header of an element stands on a line of its own, with blanks where nothing is
asked for and empty lines in between. What a line says is done to the document read so far, so a
document is read as what its lines do one after another.
-/

namespace Straggler.Toml

set_option autoImplicit false

/-! ## Values -/

/-- How a value may be written. A whole number has to fit 64 bits. -/
inductive Writes : Value → List Char → Prop
  | string {s : String} {ts : List Char} (spelled : Spelled s.toList ts) :
      Writes (.string s) ('"' :: (ts ++ ['"']))
  | integer {n : Nat} (small : n < Nat.pow 2 63) : Writes (.integer n) (toString n).toList
  | noItems : Writes (.array []) ['[', ']']

theorem readScalar_digit {c : Char} (hc : c.isDigit = true) (cs : List Char) :
    readScalar (c :: cs) = readNumber (c :: cs) := by
  unfold readScalar
  split
  case h_7 =>
    next h =>
      cases h
      simp [hc]
  all_goals
    next h =>
      cases h
      try cases hc

theorem readValue_digit {c : Char} (hc : c.isDigit = true) (levels : Nat) (cs : List Char) :
    readValue (levels + 1) (c :: cs) = readNumber (c :: cs) := by
  rw [← readScalar_digit hc]
  unfold readValue
  split
  · next h => cases h; cases hc
  · next h => cases h; cases hc
  · rfl

theorem readValue_writes {v : Value} {t s : List Char} (h : Writes v t) (hs : Closes s)
    {levels : Nat} (some : levels ≠ 0) : readValue levels (t ++ s) = .ok (v, s) := by
  obtain ⟨levels, rfl⟩ := Nat.exists_eq_succ_of_ne_zero some
  cases h with
  | @string text ts spelled =>
    have read := readString_spelled spelled (hs.stopsAt (by decide))
    simp [readValue, readScalar, read, Except.map]
  | @integer n small =>
    have read := readNumber_numeral hs small
    obtain ⟨c, cs, text, digit⟩ := toString_eq_cons n
    rw [text, List.cons_append] at read ⊢
    rw [readValue_digit digit, read]
  | noItems => rfl

/-! ## Lines as they may be written -/

def Blank (b : List Char) : Prop :=
  ∀ c ∈ b, c = ' ' ∨ c = '\t'

theorem blank_nil : Blank [] := nofun

def Bare (key : String) : Prop :=
  key.toList ≠ [] ∧ ∀ c ∈ key.toList, c.isAlphanum = true ∨ c = '-' ∨ c = '_'

/-- What a line says: a key has a value, or another element of an array of tables begins. -/
inductive Statement
  | entry (key : String) (v : Value)
  | element (key : String)

inductive Statement.Line : Statement → List Char → Prop
  | entry {key : String} {v : Value} {t b₁ b₂ b₃ b₄ : List Char} (bare : Bare key)
      (value : Writes v t) (h₁ : Blank b₁) (h₂ : Blank b₂) (h₃ : Blank b₃) (h₄ : Blank b₄) :
      Line (.entry key v) (b₁ ++ (key.toList ++ (b₂ ++ '=' :: (b₃ ++ (t ++ b₄)))))
  | element {key : String} {b₁ b₂ b₃ b₄ : List Char} (bare : Bare key)
      (h₁ : Blank b₁) (h₂ : Blank b₂) (h₃ : Blank b₃) (h₄ : Blank b₄) :
      Line (.element key) (b₁ ++ '[' :: '[' :: (b₂ ++ (key.toList ++ (b₃ ++ ']' :: ']' :: b₄))))

/-- The lines that say these things in this order, with empty lines anywhere. -/
inductive Lines : List Statement → List (List Char) → Prop
  | nil : Lines [] []
  | empty {b : List Char} {ss : List Statement} {ls : List (List Char)} (blank : Blank b)
      (rest : Lines ss ls) : Lines ss (b :: ls)
  | line {s : Statement} {l : List Char} {ss : List Statement} {ls : List (List Char)}
      (first : s.Line l) (rest : Lines ss ls) : Lines (s :: ss) (l :: ls)

theorem Statement.Line.spaced (key : String) {v : Value} {t : List Char} (bare : Bare key)
    (value : Writes v t) : (Statement.entry key v).Line (key.toList ++ ' ' :: '=' :: ' ' :: t) := by
  have one : Blank [' '] := by simp [Blank]
  have line := Line.entry bare value blank_nil one one blank_nil
  rw [List.append_nil] at line
  exact line

theorem Statement.Line.header (key : String) (bare : Bare key) :
    (Statement.element key).Line ('[' :: '[' :: (key.toList ++ [']', ']'])) :=
  .element bare blank_nil blank_nil blank_nil blank_nil

/-- A text of such lines. After the last one there may be an end of line or none. -/
def TextOf (ss : List Statement) (text : List Char) : Prop :=
  ∃ ls, Lines ss ls ∧ text = List.intercalate ['\n'] ls

theorem exists_textOf {ss : List Statement} (each : ∀ s ∈ ss, ∃ l, s.Line l) :
    ∃ text, TextOf ss text := by
  have lines : ∃ ls, Lines ss ls := by
    induction ss with
    | nil => exact ⟨_, .nil⟩
    | cons s ss ih =>
      obtain ⟨l, first⟩ := each s List.mem_cons_self
      obtain ⟨ls, rest⟩ := ih fun s h => each s (List.mem_cons_of_mem _ h)
      exact ⟨_, .line first rest⟩
  obtain ⟨ls, lines⟩ := lines
  exact ⟨_, ls, lines, rfl⟩

/-! ## Blanks and ends of lines -/

/-- A text after blanks begins with a blank or as it would without them. -/
theorem Blank.head {b s : List Char} (hb : Blank b) {P : Char → Prop} (blank : P ' ' ∧ P '\t')
    (hs : ∀ c ∈ s.head?, P c) : ∀ c ∈ (b ++ s).head?, P c := by
  cases b with
  | nil => exact hs
  | cons c b =>
    intro d hd
    cases hd
    rcases hb c List.mem_cons_self with rfl | rfl
    · exact blank.1
    · exact blank.2

theorem Blank.skip {b s : List Char} (hb : Blank b) (hs : StopsAt isBlank s) :
    skipBlanks (b ++ s) = s :=
  dropWhile_piece (fun c h => by rcases hb c h with rfl | rfl <;> rfl) hs

/-- What follows a line, and the lines after it. -/
inductive LineEnd : List Char → List Char → Prop
  | last : LineEnd [] []
  | next (rest : List Char) : LineEnd ('\n' :: rest) rest

theorem LineEnd.head {tail rest : List Char} (ends : LineEnd tail rest) {P : Char → Prop}
    (newline : P '\n') : ∀ c ∈ tail.head?, P c := by
  cases ends with
  | last => nofun
  | next => simpa using newline

section Ends

variable {b tail rest : List Char} (hb : Blank b) (ends : LineEnd tail rest)
include hb ends

theorem endLine_blank : endLine (b ++ tail) = .ok rest := by
  cases ends with
  | last => rw [endLine, hb.skip (stopsAt_nil _)]
  | next =>
    rw [endLine, hb.skip (stopsAt_cons rfl _)]
    rfl

theorem closes_blank : Closes (b ++ tail) :=
  hb.head (by decide) (ends.head (by decide))

end Ends

/-! ## Keys -/

/-- A bare key is not empty, so the text begins with a character of it. -/
theorem Bare.head {key : String} (bare : Bare key) (s : List Char) :
    ∀ c ∈ (key.toList ++ s).head?, isBare c = true := by
  intro c hc
  obtain ⟨k, ks, chars⟩ := List.exists_cons_of_ne_nil bare.1
  rw [chars] at hc
  obtain rfl : k = c := Option.some.inj hc
  have first := bare.2 k (by rw [chars]; exact List.mem_cons_self)
  simpa [isBare, or_assoc] using first

theorem Bare.ne {key : String} (bare : Bare key) {c : Char} (hc : isBare c = false)
    {s t : List Char} : key.toList ++ s ≠ c :: t := by
  intro text
  have first := bare.head s c (by rw [text]; rfl)
  rw [hc] at first
  cases first

theorem Bare.stopsAt_isBlank {key : String} (bare : Bare key) (s : List Char) :
    StopsAt isBlank (key.toList ++ s) := by
  intro c hc
  have first := bare.head s c hc
  by_contra blank
  simp only [isBlank, Bool.not_eq_false, Bool.or_eq_true, decide_eq_true_eq] at blank
  rcases blank with rfl | rfl <;> cases first

theorem readKeyPart_bare {key : String} (bare : Bare key) {s : List Char}
    (hs : StopsAt isBare s) : readKeyPart (key.toList ++ s) = .ok (key, s) := by
  have all : ∀ c ∈ key.toList, isBare c = true := by
    simpa [isBare, or_assoc] using bare.2
  unfold readKeyPart
  split
  · next h => exact absurd h (bare.ne rfl)
  · next h => exact absurd h (bare.ne rfl)
  · rw [takeWhile_piece all hs, dropWhile_piece all hs]
    split
    · next h => exact absurd h bare.1
    · rw [String.ofList_toList]

theorem readKey_bare {key : String} (bare : Bare key) {b₁ b₂ s : List Char} {c : Char}
    (h₁ : Blank b₁) (h₂ : Blank b₂) (stop : isBlank c = false ∧ isBare c = false ∧ c ≠ '.') :
    readKey (b₁ ++ (key.toList ++ (b₂ ++ c :: s))) = .ok (([], key), c :: s) := by
  have ends : StopsAt isBare (b₂ ++ c :: s) := h₂.head (by decide) (stopsAt_cons stop.2.1 s)
  have single (n : Nat) : readMoreParts n [key] (c :: s) = .ok ([key], c :: s) := by
    cases n with
    | zero => rfl
    | succ n => simp [readMoreParts, stop.2.2]
  unfold readKey
  rw [h₁.skip (bare.stopsAt_isBlank _), readKeyPart_bare bare ends]
  simp only [bind, Except.bind]
  rw [h₂.skip (stopsAt_cons stop.1 _), single]
  rfl

/-! ## Lines -/

def Document.apply (d : Document) : Statement → Except Fault Document
  | .entry key v => d.assign [] key v
  | .element key => (d.change [] (openElement key)).map fun d => { d with current := [key] }

theorem Writes.stopsAt_isBlank {v : Value} {t : List Char} (h : Writes v t) (s : List Char) :
    StopsAt isBlank (t ++ s) := by
  cases h with
  | string spelled => exact stopsAt_cons rfl _
  | @integer n small =>
    obtain ⟨c, cs, text, digit⟩ := toString_eq_cons n
    rw [text]
    refine stopsAt_cons ?_ _
    by_contra blank
    simp only [isBlank, Bool.not_eq_false, Bool.or_eq_true, decide_eq_true_eq] at blank
    rcases blank with rfl | rfl <;> cases digit
  | noItems => exact stopsAt_cons rfl _

section Steps

variable {tail rest : List Char} (ends : LineEnd tail rest) (d : Document)
include ends

theorem step_entry {key : String} {v : Value} {t b₂ b₃ b₄ : List Char} (bare : Bare key)
    (value : Writes v t) (h₂ : Blank b₂) (h₃ : Blank b₃) (h₄ : Blank b₄) :
    d.step (key.toList ++ (b₂ ++ '=' :: (b₃ ++ (t ++ (b₄ ++ tail))))) =
      (d.assign [] key v).map fun d => (d, rest) := by
  have keyed : readKey (key.toList ++ (b₂ ++ '=' :: (b₃ ++ (t ++ (b₄ ++ tail))))) = _ :=
    readKey_bare bare blank_nil h₂ (by decide)
  have deep : nestingLimit - 1 ≠ 0 := by decide
  have read := readValue_writes value (closes_blank h₄ ends) deep
  unfold Document.step
  split
  · next h => exact absurd h (bare.ne rfl)
  · next h => exact absurd h (bare.ne rfl)
  · simp only [keyed, bind, Except.bind, readAssigned, h₃.skip (value.stopsAt_isBlank _), read,
      endLine_blank h₄ ends]
    cases d.assign [] key v <;> rfl

theorem step_element {key : String} {b₂ b₃ b₄ : List Char} (bare : Bare key) (h₂ : Blank b₂)
    (h₃ : Blank b₃) (h₄ : Blank b₄) :
    d.step ('[' :: '[' :: (b₂ ++ (key.toList ++ (b₃ ++ ']' :: ']' :: (b₄ ++ tail))))) =
      (d.apply (.element key)).map fun d => (d, rest) := by
  have keyed := readKey_bare bare (s := ']' :: (b₄ ++ tail)) h₂ h₃ (c := ']') (by decide)
  unfold Document.step
  simp only [keyed, bind, Except.bind, endLine_blank h₄ ends, Document.apply]
  cases d.change [] (openElement key) <;> rfl

end Steps

theorem read_statement {c : Char} {cs t : List Char} (skipped : skipBlanks cs = c :: t)
    (hc : c ≠ '#' ∧ c ≠ '\n' ∧ c ≠ '\r') (n : Nat) (d : Document) :
    d.read (n + 1) cs = (d.step (c :: t)).bind fun (d, cs) => d.read n cs := by
  rw [Document.read, skipped]
  split
  · next h => cases h
  · next h => exact absurd (List.cons.inj h).1 hc.1
  · next h => exact absurd (List.cons.inj h).1 hc.2.1
  · next h => exact absurd (List.cons.inj h).1 hc.2.2
  · rfl

/-- What a line says is done, and then the lines after it are read. -/
theorem read_line {s : Statement} {l tail rest : List Char} (h : s.Line l)
    (ends : LineEnd tail rest) (n : Nat) (d : Document) :
    d.read (n + 1) (l ++ tail) = (d.apply s).bind fun d => d.read n rest := by
  cases h with
  | @entry key v t b₁ b₂ b₃ b₄ bare value h₁ h₂ h₃ h₄ =>
    have step := step_entry ends d bare value h₂ h₃ h₄
    have skipped := h₁.skip (bare.stopsAt_isBlank (b₂ ++ '=' :: (b₃ ++ (t ++ (b₄ ++ tail)))))
    obtain ⟨c, cs, text⟩ := List.exists_cons_of_ne_nil (l := key.toList ++ _) fun h =>
      bare.1 (List.append_eq_nil_iff.mp h).1
    have other : c ≠ '#' ∧ c ≠ '\n' ∧ c ≠ '\r' := by
      refine ⟨?_, ?_, ?_⟩ <;> (rintro rfl; exact bare.ne rfl text)
    simp only [List.append_assoc, List.cons_append]
    rw [read_statement (skipped.trans text) other, ← text, step, Document.apply]
    cases d.assign [] key v <;> rfl
  | @element key b₁ b₂ b₃ b₄ bare h₁ h₂ h₃ h₄ =>
    have step := step_element ends d bare h₂ h₃ h₄
    simp only [List.append_assoc, List.cons_append]
    rw [read_statement (h₁.skip (stopsAt_cons rfl _)) (by decide), step]
    cases d.apply (.element key) <;> rfl

theorem read_empty {b tail rest : List Char} (hb : Blank b) (ends : LineEnd tail rest) (n : Nat)
    (d : Document) : d.read (n + 1) (b ++ tail) = d.read n rest := by
  cases ends with
  | last =>
    rw [Document.read, hb.skip (stopsAt_nil _)]
    cases n <;> rfl
  | next =>
    rw [Document.read, hb.skip (stopsAt_cons rfl _)]
    rfl

theorem intercalate_cons (l : List Char) (ls : List (List Char)) :
    ∃ tail, List.intercalate ['\n'] (l :: ls) = l ++ tail ∧
      LineEnd tail (List.intercalate ['\n'] ls) := by
  cases ls with
  | nil => exact ⟨[], by simp, .last⟩
  | cons m ls => exact ⟨_, by simp [List.intercalate_cons_cons], .next _⟩

theorem read_lines {ss : List Statement} {ls : List (List Char)} (h : Lines ss ls) {n : Nat}
    (enough : ls.length ≤ n) (d : Document) :
    d.read n (List.intercalate ['\n'] ls) = ss.foldlM Document.apply d := by
  induction h generalizing n d with
  | nil => cases n <;> rfl
  | @empty b ss ls blank rest ih =>
    obtain ⟨n, rfl⟩ := Nat.exists_eq_succ_of_ne_zero (Nat.ne_zero_of_lt enough)
    obtain ⟨tail, text, ends⟩ := intercalate_cons b ls
    rw [text, read_empty blank ends, ih (Nat.le_of_succ_le_succ enough)]
  | @line s l ss ls first rest ih =>
    obtain ⟨n, rfl⟩ := Nat.exists_eq_succ_of_ne_zero (Nat.ne_zero_of_lt enough)
    obtain ⟨tail, text, ends⟩ := intercalate_cons l ls
    rw [text, read_line first ends, List.foldlM_cons]
    simp only [ih (Nat.le_of_succ_le_succ enough)]
    rfl

theorem length_le_intercalate (ls : List (List Char)) :
    ls.length ≤ (List.intercalate ['\n'] ls).length + 1 := by
  induction ls with
  | nil => simp
  | cons l ls ih =>
    cases ls with
    | nil => simp
    | cons m ls =>
      rw [List.intercalate_cons_cons]
      simp only [List.length_append, List.length_cons, List.length_nil] at ih ⊢
      omega

/-- A mark of byte order is neither blank nor part of a bare key. -/
theorem Lines.head_ne {ss : List Statement} {ls : List (List Char)} (h : Lines ss ls) :
    ∀ c ∈ (List.intercalate ['\n'] ls).head?, c ≠ '\ufeff' := by
  cases h with
  | nil => nofun
  | @empty b ss ls hb rest =>
    obtain ⟨tail, text, ends⟩ := intercalate_cons b ls
    rw [text]
    exact hb.head (by decide) (ends.head (by decide))
  | @line s l ss ls first rest =>
    obtain ⟨tail, text, ends⟩ := intercalate_cons l ls
    rw [text]
    cases first with
    | @entry key v t b₁ b₂ b₃ b₄ bare value h₁ h₂ h₃ h₄ =>
      rw [List.append_assoc, List.append_assoc]
      refine h₁.head (by decide) ?_
      rintro c hc rfl
      cases bare.head _ _ hc
    | element bare h₁ h₂ h₃ h₄ =>
      rw [List.append_assoc]
      exact h₁.head (by decide) (by simp)

theorem parse_textOf {ss : List Statement} {text : List Char} (h : TextOf ss text) :
    parse text = (ss.foldlM Document.apply {}).map fun d => entryValues d.root := by
  obtain ⟨ls, lines, rfl⟩ := h
  have read := read_lines lines (length_le_intercalate ls) {}
  unfold parse
  split
  · next h => exact absurd rfl (lines.head_ne _ (by rw [h]; rfl))
  · simp only [read]
    cases ss.foldlM Document.apply {} <;> rfl

end Straggler.Toml
