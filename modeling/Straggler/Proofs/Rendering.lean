import Straggler.Json
import Straggler.Proofs.Delimited
import Straggler.Unicode.Hex

/-!
# A JSON text has one value

The text of a value, whatever follows it, determines the value and what follows, as long as a
number is not followed by a digit. An escaped character is read back by its backslash and letter,
a string ends at its first quote that is not escaped, and after each member of an array or object
the next character says whether another one comes. So no two values have the same text.
-/

namespace Straggler

set_option autoImplicit false

namespace Json

open Unicode (hexValue? charOfNat?)

/-! ## Strings -/

def unescape : List Char → Option (Char × List Char)
  | '\\' :: 'n' :: cs => some ('\n', cs)
  | '\\' :: 'r' :: cs => some ('\r', cs)
  | '\\' :: 't' :: cs => some ('\t', cs)
  | '\\' :: 'b' :: cs => some ('\x08', cs)
  | '\\' :: 'f' :: cs => some ('\x0c', cs)
  | '\\' :: 'u' :: '0' :: '0' :: high :: low :: cs => do
    let c ← charOfNat? ((← hexValue? high) * 16 + (← hexValue? low))
    return (c, cs)
  | '\\' :: c :: cs => some (c, cs)
  | c :: cs => some (c, cs)
  | [] => none

theorem hexValue?_hexDigit {n : Nat} (h : n < 16) : hexValue? (hexDigit n) = some n := by
  have all : ∀ m < 16, hexValue? (hexDigit m) = some m := by decide
  exact all n h

theorem unescape_escape (c : Char) (rest : List Char) :
    unescape (escape c ++ rest) = some (c, rest) := by
  unfold escape
  split_ifs with quote backslash newline carriage tab backspace feed control
  all_goals try subst_vars; rfl
  · have high := hexValue?_hexDigit (n := c.toNat / 16) (by omega)
    have low := hexValue?_hexDigit (n := c.toNat % 16) (by omega)
    have value : c.toNat / 16 * 16 + c.toNat % 16 = c.toNat := by omega
    simp [unescape, high, low, value, Unicode.charOfNat?_toNat]
  · simp [unescape, backslash]

/-- A quote in a string is never written as it is. -/
theorem escape_eq_cons (c : Char) : ∃ d cs, escape c = d :: cs ∧ d ≠ '"' := by
  unfold escape
  split_ifs with quote
  all_goals first | exact ⟨_, _, rfl, by decide⟩ | exact ⟨_, _, rfl, quote⟩

theorem escaped_unique {cs ds s t : List Char}
    (same : cs.flatMap escape ++ '"' :: s = ds.flatMap escape ++ '"' :: t) : cs = ds ∧ s = t := by
  induction cs generalizing ds with
  | nil =>
    cases ds with
    | nil => exact ⟨rfl, (List.cons.inj same).2⟩
    | cons d ds =>
      obtain ⟨e, es, he, ne⟩ := escape_eq_cons d
      simp [he, ne.symm] at same
  | cons c cs ih =>
    cases ds with
    | nil =>
      obtain ⟨e, es, he, ne⟩ := escape_eq_cons c
      simp [he, ne] at same
    | cons d ds =>
      simp only [List.flatMap_cons, List.append_assoc] at same
      have read := congrArg unescape same
      rw [unescape_escape, unescape_escape] at read
      obtain ⟨rfl, rest⟩ := Prod.mk.inj (Option.some.inj read)
      obtain ⟨rfl, tail⟩ := ih rest
      exact ⟨rfl, tail⟩

theorem quote_unique {a b : String} {s t : List Char} (same : quote a ++ s = quote b ++ t) :
    a = b ∧ s = t := by
  have inner : a.toList.flatMap escape ++ '"' :: s = b.toList.flatMap escape ++ '"' :: t := by
    simpa [quote] using same
  obtain ⟨text, rest⟩ := escaped_unique inner
  exact ⟨String.toList_inj.mp text, rest⟩

/-! ## Members between brackets -/

section Members

variable {α : Type} {write : α → List Char}

/-- The item can be told from its text, whatever other item the text might be of. -/
def Told (write : α → List Char) (a : α) : Prop :=
  ∀ (b : α) (s t : List Char), StopsAt Char.isDigit s → StopsAt Char.isDigit t →
    write a ++ s = write b ++ t → a = b ∧ s = t

theorem separate_cons (separator m : List Char) (ms : List (List Char)) :
    separate separator (m :: ms) = m ++ ms.flatMap (separator ++ ·) := by
  induction ms generalizing m with
  | nil => simp [separate]
  | cons n ms ih => simp [separate, ih]

/-- The members after the first one, each after a comma on a line of its own. -/
def further (write : α → List Char) (level : Nat) (as : List α) : List Char :=
  as.flatMap fun a => ',' :: (newline level ++ write a)

theorem further_stops (level : Nat) (as : List α) (s : List Char) :
    StopsAt Char.isDigit (further write level as ++ '\n' :: s) := by
  cases as with
  | nil => exact stopsAt_cons rfl s
  | cons a as => exact stopsAt_cons rfl _

/-- After a member comes a comma if there is another one, and the end of the line if not. -/
theorem further_unique {as bs : List α} {level : Nat} {s t : List Char}
    (told : ∀ a ∈ as, Told write a)
    (same : further write level as ++ '\n' :: s = further write level bs ++ '\n' :: t) :
    as = bs ∧ s = t := by
  induction as generalizing bs with
  | nil =>
    cases bs with
    | nil => exact ⟨rfl, (List.cons.inj same).2⟩
    | cons b bs => simp [further] at same
  | cons a as ih =>
    cases bs with
    | nil => simp [further] at same
    | cons b bs =>
      have rest : write a ++ (further write level as ++ '\n' :: s) =
          write b ++ (further write level bs ++ '\n' :: t) := by
        simpa [further] using same
      obtain ⟨rfl, others⟩ := told a List.mem_cons_self b _ _ (further_stops level as s)
        (further_stops level bs t) rest
      obtain ⟨rfl, after⟩ := ih (fun a h => told a (List.mem_cons_of_mem _ h)) others
      exact ⟨rfl, after⟩

theorem enclose_cons (opening closing : Char) (level : Nat) (a : α) (as : List α) :
    enclose opening closing level ((a :: as).map write) =
      opening :: (newline (level + 1) ++ (write a ++ (further write (level + 1) as ++
        '\n' :: (List.replicate (2 * level) ' ' ++ [closing])))) := by
  simp [enclose, separate_cons, further, newline, List.flatMap_map]

/-- Brackets with nothing between them close at once, and others at the end of their lines. -/
theorem enclose_unique {opening closing : Char} (notLine : closing ≠ '\n') {level : Nat}
    {as bs : List α} {s t : List Char} (told : ∀ a ∈ as, Told write a)
    (same : enclose opening closing level (as.map write) ++ s =
      enclose opening closing level (bs.map write) ++ t) : as = bs ∧ s = t := by
  cases as with
  | nil =>
    cases bs with
    | nil => simpa [enclose] using same
    | cons b bs =>
      rw [enclose_cons] at same
      simp [enclose, newline, notLine] at same
  | cons a as =>
    cases bs with
    | nil =>
      rw [enclose_cons] at same
      simp [enclose, newline, notLine.symm] at same
    | cons b bs =>
      rw [enclose_cons, enclose_cons] at same
      have inner : write a ++ (further write (level + 1) as ++
            '\n' :: (List.replicate (2 * level) ' ' ++ closing :: s)) =
          write b ++ (further write (level + 1) bs ++
            '\n' :: (List.replicate (2 * level) ' ' ++ closing :: t)) := by
        simpa using same
      obtain ⟨rfl, others⟩ := told a List.mem_cons_self b _ _ (further_stops _ as _)
        (further_stops _ bs _) inner
      obtain ⟨rfl, after⟩ := further_unique (fun a h => told a (List.mem_cons_of_mem _ h)) others
      exact ⟨rfl, by simpa using after⟩

end Members

/-! ## Values -/

theorem renderItems_eq_map (level : Nat) (items : List Json) :
    renderItems level items = items.map (render level) := by
  induction items with
  | nil => rfl
  | cons v vs ih => rw [renderItems, ih, List.map_cons]

theorem renderFields_eq_map (level : Nat) (fields : List (String × Json)) :
    renderFields level fields = fields.map (renderField level) := by
  induction fields with
  | nil => rfl
  | cons f fs ih => rw [renderFields, ih, List.map_cons]

/-- What holds of a value if it holds of its members holds of all values. -/
@[elab_as_elim]
theorem induction {P : Json → Prop} (null : P .null) (bool : ∀ b, P (.bool b))
    (number : ∀ n, P (.number n)) (string : ∀ s, P (.string s))
    (array : ∀ items : List Json, (∀ v ∈ items, P v) → P (.array items))
    (object : ∀ fields : List (String × Json), (∀ f ∈ fields, P f.2) → P (.object fields))
    (v : Json) : P v :=
  @Json.rec P (fun items => ∀ v ∈ items, P v) (fun fields => ∀ f ∈ fields, P f.2)
    (fun f => P f.2) null bool number string array object
    (fun _ h => nomatch h) (fun _ _ hv hvs => List.forall_mem_cons.mpr ⟨hv, hvs⟩)
    (fun _ h => nomatch h) (fun _ _ hf hfs => List.forall_mem_cons.mpr ⟨hf, hfs⟩)
    (fun _ _ hv => hv) v

inductive Kind
  | null
  | bool
  | number
  | string
  | array
  | object
  deriving DecidableEq

def kind : Json → Kind
  | null => .null
  | bool _ => .bool
  | number _ => .number
  | string _ => .string
  | array _ => .array
  | object _ => .object

def kindOf (c : Char) : Kind :=
  if c = 'n' then .null
  else if c = 't' || c = 'f' then .bool
  else if c = '"' then .string
  else if c = '[' then .array
  else if c = '{' then .object
  else .number

theorem kindOf_digit {c : Char} (h : c.isDigit = true) : kindOf c = .number := by
  have ne {d : Char} (hd : d.isDigit = false) : c ≠ d := by
    rintro rfl
    exact absurd h (by simp [hd])
  have letters : c ≠ 'n' ∧ c ≠ 't' ∧ c ≠ 'f' := ⟨ne rfl, ne rfl, ne rfl⟩
  have signs : c ≠ '"' ∧ c ≠ '[' ∧ c ≠ '{' := ⟨ne rfl, ne rfl, ne rfl⟩
  simp [kindOf, letters, signs]

theorem enclose_eq_cons (opening closing : Char) (level : Nat) (members : List (List Char)) :
    ∃ cs, enclose opening closing level members = opening :: cs := by
  rw [enclose]
  split_ifs
  · exact ⟨_, rfl⟩
  · exact ⟨_, rfl⟩

/-- The text of a value begins with a sign of its kind. -/
theorem render_eq_cons (level : Nat) (v : Json) :
    ∃ c cs, render level v = c :: cs ∧ kindOf c = v.kind := by
  cases v with
  | null => exact ⟨_, _, rfl, rfl⟩
  | bool b => cases b <;> exact ⟨_, _, rfl, rfl⟩
  | number n =>
    obtain ⟨c, cs, h, digit⟩ := toString_eq_cons n
    exact ⟨c, cs, by rw [render, h], kindOf_digit digit⟩
  | string s => exact ⟨_, _, rfl, rfl⟩
  | array items =>
    obtain ⟨cs, h⟩ := enclose_eq_cons '[' ']' level (renderItems (level + 1) items)
    exact ⟨_, cs, by rw [render, h], rfl⟩
  | object fields =>
    obtain ⟨cs, h⟩ := enclose_eq_cons '{' '}' level (renderFields (level + 1) fields)
    exact ⟨_, cs, by rw [render, h], rfl⟩

theorem kind_unique {level : Nat} {v w : Json} {s t : List Char}
    (same : render level v ++ s = render level w ++ t) : v.kind = w.kind := by
  obtain ⟨c, cs, hv, hc⟩ := render_eq_cons level v
  obtain ⟨d, ds, hw, hd⟩ := render_eq_cons level w
  rw [hv, hw] at same
  rw [← hc, ← hd, (List.cons.inj same).1]

theorem told_renderField {level : Nat} {f : String × Json} (told : Told (render level) f.2) :
    Told (renderField level) f := by
  rintro ⟨key, w⟩ s t hs ht same
  obtain ⟨key', v⟩ := f
  have texts : quote key' ++ (':' :: ' ' :: (render level v ++ s)) =
      quote key ++ (':' :: ' ' :: (render level w ++ t)) := by
    simpa [renderField] using same
  obtain ⟨rfl, values⟩ := quote_unique texts
  obtain ⟨rfl, rest⟩ := told w s t hs ht (List.cons.inj (List.cons.inj values).2).2
  exact ⟨rfl, rest⟩

/-- Every value can be told from its text. -/
theorem told_render (v : Json) (level : Nat) : Told (render level) v := by
  induction v using Json.induction generalizing level with
  | null =>
    intro w s t hs ht same
    cases w <;> cases kind_unique same
    exact ⟨rfl, by simpa [render] using same⟩
  | bool b =>
    intro w s t hs ht same
    cases w <;> cases kind_unique same
    rename_i b'
    cases b <;> cases b' <;> simp [render] at same ⊢
    · exact same
    · exact same
  | number n =>
    intro w s t hs ht same
    cases w <;> cases kind_unique same
    obtain ⟨rfl, rest⟩ := numeral_unique hs ht same
    exact ⟨rfl, rest⟩
  | string text =>
    intro w s t hs ht same
    cases w <;> cases kind_unique same
    obtain ⟨rfl, rest⟩ := quote_unique same
    exact ⟨rfl, rest⟩
  | array items ih =>
    intro w s t hs ht same
    cases w <;> cases kind_unique same
    rw [render, render, renderItems_eq_map, renderItems_eq_map] at same
    have told (v : Json) (hv : v ∈ items) := ih v hv (level + 1)
    obtain ⟨rfl, rest⟩ := enclose_unique (by decide) told same
    exact ⟨rfl, rest⟩
  | object fields ih =>
    intro w s t hs ht same
    cases w <;> cases kind_unique same
    rw [render, render, renderFields_eq_map, renderFields_eq_map] at same
    have told (f : String × Json) (hf : f ∈ fields) :=
      told_renderField (ih f hf (level + 1))
    obtain ⟨rfl, rest⟩ := enclose_unique (by decide) told same
    exact ⟨rfl, rest⟩

/-- No two values have the same text. -/
theorem pretty_injective : Function.Injective pretty := by
  intro v w same
  have texts : render 0 v ++ [] = render 0 w ++ [] := by
    rw [String.ofList_inj.mp same]
  have nothing : StopsAt Char.isDigit [] := stopsAt_nil _
  exact (told_render v 0 w [] [] nothing nothing texts).1

end Json

end Straggler
