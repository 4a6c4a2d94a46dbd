import Straggler.Proofs.Delimited
import Straggler.Report

/-!
# Reports can be told from their status

The status text is a list of remarks, one on each line. A command line may say anything, also what
another line might say, but it stands last on its line, and what stands before it says what the
remark is about. So the lines can be told from the text, the remarks from the lines, and the report
from the remarks, as far as it is shown: a process has one remark or two, and the first of them says
whether a second one follows.
-/

namespace Straggler

set_option autoImplicit false

/-- The text holds no end of a line. -/
def OneLine (text : String) : Prop :=
  '\n' ∉ text.toList

/-! ## Remarks -/

inductive Fate
  | warned (signal : String)
  | killed (signal : String)
  | gone
  | refused (reason : String)

namespace Fate

def text : Fate → String
  | warned signal => "signaled gracefully (" ++ signal ++ ")"
  | killed signal => "force-killed (" ++ signal ++ ")"
  | gone => "already gone"
  | refused reason => "could not be signaled: " ++ reason

theorem text_warned (signal : String) :
    (warned signal).text = "signaled gracefully (" ++ signal ++ ")" := rfl

theorem text_killed (signal : String) :
    (killed signal).text = "force-killed (" ++ signal ++ ")" := rfl

theorem text_gone : gone.text = "already gone" := rfl

theorem text_refused (reason : String) :
    (refused reason).text = "could not be signaled: " ++ reason := rfl

def words : Fate → String
  | warned signal => signal
  | killed signal => signal
  | gone => ""
  | refused reason => reason

theorem oneLine_text {f : Fate} (h : OneLine f.words) : OneLine f.text := by
  cases f <;> simp only [OneLine, words, text_warned, text_killed, text_gone, text_refused,
    String.toList_append] at h ⊢ <;> simp [h]

theorem text_injective {f g : Fate} (same : f.text.toList = g.text.toList) : f = g := by
  cases f <;> cases g <;>
    simp only [text_warned, text_killed, text_gone, text_refused, String.toList_append] at same <;>
    simp [String.toList_inj] at same ⊢
  all_goals exact same

end Fate

/-- What one line says. -/
inductive Remark
  | nothing
  | found (r : Record)
  | spared (n : Nat)
  | rehearsed
  | about (pid : Pid) (fate : Fate)

namespace Remark

def text : Remark → String
  | nothing => "no matching processes"
  | found r => "discovered pid " ++ (toString r.pid ++ (": " ++ r.commandLine))
  | spared n => "skipped " ++ (toString n ++ " protected pid(s)")
  | rehearsed => "dry run, no signals sent"
  | about pid fate => "pid " ++ (toString pid ++ (" " ++ fate.text))

theorem text_nothing : nothing.text = "no matching processes" := rfl

theorem text_found (r : Record) :
    (found r).text = "discovered pid " ++ (toString r.pid ++ (": " ++ r.commandLine)) := rfl

theorem text_spared (n : Nat) :
    (spared n).text = "skipped " ++ (toString n ++ " protected pid(s)") := rfl

theorem text_rehearsed : rehearsed.text = "dry run, no signals sent" := rfl

theorem text_about (pid : Pid) (fate : Fate) :
    (about pid fate).text = "pid " ++ (toString pid ++ (" " ++ fate.text)) := rfl

theorem text_injective {r r' : Remark} (same : r.text.toList = r'.text.toList) : r = r' := by
  cases r <;> cases r' <;>
    simp only [text_nothing, text_found, text_spared, text_rehearsed, text_about,
      String.toList_append] at same <;>
    simp [-Nat.toString_eq_repr] at same ⊢
  case found.found r r' =>
    obtain ⟨pid, rest⟩ := numeral_unique (stopsAt_cons rfl _) (stopsAt_cons rfl _) same
    have commandLine : r.commandLine = r'.commandLine := by simpa [String.toList_inj] using rest
    cases r
    cases r'
    rw [Record.mk.injEq]
    exact ⟨pid, commandLine⟩
  case spared.spared n n' =>
    have numerals : (toString n).toList ++ [] = (toString n').toList ++ [] := by rw [same]
    exact (numeral_unique (stopsAt_nil _) (stopsAt_nil _) numerals).1
  case about.about pid fate pid' fate' =>
    obtain ⟨rfl, rest⟩ := numeral_unique (stopsAt_cons rfl _) (stopsAt_cons rfl _) same
    exact ⟨rfl, Fate.text_injective (List.cons.inj rest).2⟩

def words : Remark → String
  | nothing => ""
  | found r => r.commandLine
  | spared _ => ""
  | rehearsed => ""
  | about _ fate => fate.words

theorem oneLine_numeral (n : Nat) : OneLine (toString n) := by
  intro h
  exact absurd (isDigit_of_mem_toString h) (by decide)

theorem oneLine_text {r : Remark} (h : OneLine r.words) : OneLine r.text := by
  cases r with
  | nothing => simp [OneLine, text_nothing]
  | found r =>
    have pid := oneLine_numeral r.pid
    simp only [OneLine, words, text_found, String.toList_append] at pid h ⊢
    simp [-Nat.toString_eq_repr, pid, h]
  | spared n =>
    have count := oneLine_numeral n
    simp only [OneLine, text_spared, String.toList_append] at count ⊢
    simp [-Nat.toString_eq_repr, count]
  | rehearsed => simp [OneLine, text_rehearsed]
  | about pid fate =>
    have number := oneLine_numeral pid
    have said : OneLine fate.text := Fate.oneLine_text h
    simp only [OneLine, text_about, String.toList_append] at number said ⊢
    simp [-Nat.toString_eq_repr, number, said]

def line (tag : String) (r : Remark) : String :=
  "[" ++ (tag ++ ("] " ++ r.text))

theorem line_injective {tag : String} {r r' : Remark}
    (same : (r.line tag).toList = (r'.line tag).toList) : r = r' := by
  apply text_injective
  simpa [line] using same

theorem oneLine_line {tag : String} {r : Remark} (htag : OneLine tag) (h : OneLine r.words) :
    OneLine (r.line tag) := by
  have text : OneLine r.text := oneLine_text h
  simp only [OneLine, line, String.toList_append] at htag text ⊢
  simp [htag, text]

end Remark

/-! ## The remarks of a report -/

def Outcome.fate (killSignal : String) : Outcome → Fate
  | terminated => .killed killSignal
  | alreadyGone => .gone
  | signalFailed reason => .refused reason

theorem Outcome.status_eq (killSignal : String) (o : Outcome) :
    o.status killSignal = (o.fate killSignal).text := by
  cases o <;> rfl

def PidReport.remarks (graceSignal killSignal : String) (r : PidReport) : List Remark :=
  (if r.gracefulSent then [.about r.pid (.warned graceSignal)] else [])
    ++ [.about r.pid (r.outcome.fate killSignal)]

def CategoryReport.spared (r : CategoryReport) : List Remark :=
  if r.protectedCount = 0 then [] else [.spared r.protectedCount]

def CategoryReport.endings (r : CategoryReport) : List Remark :=
  match r.termination with
  | none => [.rehearsed]
  | some t => t.pids.flatMap (·.remarks t.graceSignal t.killSignal)

def CategoryReport.remarks (r : CategoryReport) : List Remark :=
  if r.discovered.isEmpty then [.nothing]
  else
    r.discovered.map .found ++ (r.spared ++ r.endings)

/-! ## The text of the remarks -/

def remarkText (tag : String) (rs : List Remark) : List Char :=
  unlines (rs.map fun r => (r.line tag).toList)

theorem remarkText_append (tag : String) (rs ss : List Remark) :
    remarkText tag (rs ++ ss) = remarkText tag rs ++ remarkText tag ss := by
  rw [remarkText, List.map_append, unlines_append]
  rfl

theorem remarkText_map {α : Type} (tag : String) (f : α → Remark) (as : List α) :
    remarkText tag (as.map f) = as.flatMap fun a => remarkText tag [f a] := by
  rw [remarkText, List.map_map, unlines_map]
  rfl

theorem remarkText_flatMap {α : Type} (tag : String) (f : α → List Remark) (as : List α) :
    remarkText tag (as.flatMap f) = as.flatMap fun a => remarkText tag (f a) := by
  induction as with
  | nil => rfl
  | cons a as ih => rw [List.flatMap_cons, remarkText_append, ih, List.flatMap_cons]

theorem toList_statusLine {parts : List String} {line : String}
    (same : parts.flatMap String.toList = line.toList) :
    (statusLine parts).toList = unlines [line.toList] := by
  simp [statusLine, unlines, String.toList_join, same]

theorem Record.toList_status (tag : String) (r : Record) :
    (r.status tag).toList = remarkText tag [.found r] := by
  apply toList_statusLine
  simp [Remark.line, Remark.text_found]

theorem PidReport.toList_status (tag graceSignal killSignal : String) (r : PidReport) :
    (r.status tag graceSignal killSignal).toList =
      remarkText tag (r.remarks graceSignal killSignal) := by
  have warned : (statusLine ["[", tag, "] pid ", toString r.pid, " signaled gracefully (",
      graceSignal, ")"]).toList = remarkText tag [.about r.pid (.warned graceSignal)] := by
    apply toList_statusLine
    simp [Remark.line, Remark.text_about, Fate.text_warned]
  have ended : (statusLine (["[", tag, "] pid ", toString r.pid, " "]
      ++ [r.outcome.status killSignal])).toList =
      remarkText tag [.about r.pid (r.outcome.fate killSignal)] := by
    apply toList_statusLine
    simp [Remark.line, Remark.text_about, Outcome.status_eq]
  rw [status, remarks, String.toList_append, remarkText_append, ended]
  cases r.gracefulSent with
  | false => rfl
  | true => rw [if_pos rfl, if_pos rfl, warned]

theorem CategoryReport.toList_status (r : CategoryReport) :
    r.status.toList = remarkText r.category r.remarks := by
  have nothing : (statusLine ["[", r.category, "] no matching processes"]).toList =
      remarkText r.category [.nothing] := by
    apply toList_statusLine
    simp [Remark.line, Remark.text_nothing]
  have spared : (statusLine ["[", r.category, "] skipped ", toString r.protectedCount,
      " protected pid(s)"]).toList = remarkText r.category [.spared r.protectedCount] := by
    apply toList_statusLine
    simp [Remark.line, Remark.text_spared]
  have rehearsed : (statusLine ["[", r.category, "] dry run, no signals sent"]).toList =
      remarkText r.category [.rehearsed] := by
    apply toList_statusLine
    simp [Remark.line, Remark.text_rehearsed]
  have found : (String.join (r.discovered.map (·.status r.category))).toList =
      remarkText r.category (r.discovered.map .found) := by
    rw [remarkText_map]
    simp only [String.toList_join, List.flatMap_map, Record.toList_status]
  have ended : (match r.termination with
      | none => statusLine ["[", r.category, "] dry run, no signals sent"]
      | some t => String.join (t.pids.map fun (p : PidReport) =>
          p.status r.category t.graceSignal t.killSignal)).toList =
      remarkText r.category r.endings := by
    rw [endings]
    cases r.termination with
    | none => exact rehearsed
    | some t =>
      rw [remarkText_flatMap]
      simp only [String.toList_join, List.flatMap_map, PidReport.toList_status]
  rw [status, remarks, CategoryReport.spared]
  split_ifs with none skipped
  · exact nothing
  · rw [String.toList_append, String.toList_append, found, remarkText_append]
    simp only [String.toList_empty, List.append_nil, List.nil_append]
    exact congrArg (fun text : List Char => _ ++ text) ended
  · rw [String.toList_append, String.toList_append, found, spared, remarkText_append,
      remarkText_append, List.append_assoc]
    exact congrArg (fun text : List Char => _ ++ (_ ++ text)) ended

/-! ## Reports from remarks -/

def Remark.isFound : Remark → Bool
  | found _ => true
  | _ => false

def Remark.isSpared : Remark → Bool
  | spared _ => true
  | _ => false

/-- What is shown of the end of a process: its number, whether the graceful signal arrived, and
what became of it. -/
def PidReport.shown (r : PidReport) : Pid × Bool × Outcome :=
  (r.pid, r.gracefulSent, r.outcome)

theorem Outcome.fate_unique {k k' : String} {o o' : Outcome} (same : o.fate k = o'.fate k') :
    o = o' := by
  cases o <;> cases o' <;> simp [fate] at same ⊢
  exact same

theorem Outcome.fate_ne_warned (k signal : String) (o : Outcome) : o.fate k ≠ .warned signal := by
  cases o <;> simp [fate]

/-- The first remark on a process says whether there is another one. -/
theorem PidReport.remarks_unique {g g' k k' : String} {r r' : PidReport} {rest rest' : List Remark}
    (same : r.remarks g k ++ rest = r'.remarks g' k' ++ rest') :
    r.shown = r'.shown ∧ rest = rest' := by
  rw [shown, shown, Prod.mk.injEq, Prod.mk.injEq]
  rw [remarks, remarks] at same
  cases warned : r.gracefulSent <;> cases warned' : r'.gracefulSent <;>
    simp [warned, warned'] at same
  case false.false =>
    obtain ⟨⟨pid, fate⟩, others⟩ := same
    exact ⟨⟨pid, rfl, Outcome.fate_unique fate⟩, others⟩
  case false.true => exact absurd same.1.2 (Outcome.fate_ne_warned _ _ _)
  case true.false => exact absurd same.1.2.symm (Outcome.fate_ne_warned _ _ _)
  case true.true =>
    obtain ⟨_, ⟨pid, fate⟩, others⟩ := same
    exact ⟨⟨pid, rfl, Outcome.fate_unique fate⟩, others⟩

theorem PidReport.remarks_ne_nil (g k : String) (r : PidReport) : r.remarks g k ≠ [] := by
  simp [remarks]

theorem PidReport.about_of_mem_remarks {g k : String} {r : PidReport} {x : Remark}
    (h : x ∈ r.remarks g k) : ∃ fate, x = .about r.pid fate := by
  rcases List.mem_append.mp h with h | h
  · split at h
    · exact ⟨_, List.mem_singleton.mp h⟩
    · cases h
  · exact ⟨_, List.mem_singleton.mp h⟩

theorem TerminationReport.remarks_unique {g g' k k' : String} {rs rs' : List PidReport}
    (same : rs.flatMap (·.remarks g k) = rs'.flatMap (·.remarks g' k')) :
    rs.map (·.shown) = rs'.map (·.shown) := by
  induction rs generalizing rs' with
  | nil =>
    cases rs' with
    | nil => rfl
    | cons r' rs' => simp [PidReport.remarks_ne_nil] at same
  | cons r rs ih =>
    cases rs' with
    | nil => simp [PidReport.remarks_ne_nil] at same
    | cons r' rs' =>
      rw [List.flatMap_cons, List.flatMap_cons] at same
      obtain ⟨shown, others⟩ := PidReport.remarks_unique same
      rw [List.map_cons, List.map_cons, shown, ih others]

theorem TerminationReport.rehearsed_notMem (g k : String) (rs : List PidReport) :
    .rehearsed ∉ rs.flatMap (·.remarks g k) := by
  intro h
  obtain ⟨r, _, hr⟩ := List.mem_flatMap.mp h
  obtain ⟨fate, same⟩ := PidReport.about_of_mem_remarks hr
  cases same

def CategoryReport.ends (r : CategoryReport) : Option (List (Pid × Bool × Outcome)) :=
  r.termination.map fun t => t.pids.map (·.shown)

theorem CategoryReport.endings_unique {r r' : CategoryReport} (same : r.endings = r'.endings) :
    r.ends = r'.ends := by
  rw [endings, endings] at same
  rw [ends, ends]
  cases ended : r.termination <;> cases ended' : r'.termination
  all_goals simp only [ended, ended'] at same
  case none.none => rfl
  case none.some t' =>
    exact absurd (same ▸ List.mem_singleton_self _) (TerminationReport.rehearsed_notMem _ _ _)
  case some.none t =>
    exact absurd (same ▸ List.mem_singleton_self _) (TerminationReport.rehearsed_notMem _ _ _)
  case some.some t t' =>
    rw [Option.map_some, Option.map_some, TerminationReport.remarks_unique same]

theorem CategoryReport.sort_of_mem_endings {r : CategoryReport} {x : Remark} (h : x ∈ r.endings) :
    x.isFound = false ∧ x.isSpared = false := by
  rw [endings] at h
  cases ended : r.termination with
  | none =>
    simp only [ended, List.mem_singleton] at h
    subst h
    exact ⟨rfl, rfl⟩
  | some t =>
    simp only [ended] at h
    obtain ⟨p, _, hp⟩ := List.mem_flatMap.mp h
    obtain ⟨fate, rfl⟩ := PidReport.about_of_mem_remarks hp
    exact ⟨rfl, rfl⟩

theorem CategoryReport.isSpared_of_mem_spared {r : CategoryReport} {x : Remark}
    (h : x ∈ r.spared) : x.isSpared = true := by
  rw [spared] at h
  split at h
  · cases h
  · cases List.mem_singleton.mp h
    rfl

theorem CategoryReport.spared_unique {r r' : CategoryReport} (same : r.spared = r'.spared) :
    r.protectedCount = r'.protectedCount := by
  rw [spared, spared] at same
  split_ifs at same with none none'
  · rw [none, none']
  · simpa using same

/-- The remarks on what was found come first, and then the one on what was spared. -/
theorem CategoryReport.remarks_unique {r r' : CategoryReport} (same : r.remarks = r'.remarks) :
    r.discovered = r'.discovered ∧
      (r.discovered ≠ [] → r.protectedCount = r'.protectedCount ∧ r.ends = r'.ends) := by
  cases some : r.discovered with
  | nil =>
    cases some' : r'.discovered with
    | nil => exact ⟨rfl, fun ne => absurd rfl ne⟩
    | cons d' ds' => simp [remarks, some, some'] at same
  | cons d ds =>
    cases some' : r'.discovered with
    | nil => simp [remarks, some, some'] at same
    | cons d' ds' =>
      have pieces : (d :: ds).map Remark.found ++ (r.spared ++ r.endings) =
          (d' :: ds').map Remark.found ++ (r'.spared ++ r'.endings) := by
        rw [remarks, remarks, some, some'] at same
        exact same
      have isFound (as : List Record) : ∀ x ∈ as.map Remark.found, x.isFound = true := by
        intro x hx
        obtain ⟨a, _, rfl⟩ := List.mem_map.mp hx
        rfl
      have afterFound (r : CategoryReport) : StopsAt Remark.isFound (r.spared ++ r.endings) := by
        apply stopsAt_of_forall
        intro x hx
        rcases List.mem_append.mp hx with hx | hx
        · have spared := isSpared_of_mem_spared hx
          cases x <;> simp [Remark.isSpared, Remark.isFound] at spared ⊢
        · exact (sort_of_mem_endings hx).1
      have afterSpared (r : CategoryReport) : StopsAt Remark.isSpared r.endings :=
        stopsAt_of_forall fun x hx => (sort_of_mem_endings hx).2
      obtain ⟨found, others⟩ := piece_unique (isFound _) (isFound _) (afterFound r) (afterFound r')
        pieces
      obtain ⟨spared, endings⟩ := piece_unique (fun _ => isSpared_of_mem_spared)
        (fun _ => isSpared_of_mem_spared) (afterSpared r) (afterSpared r') others
      have injective : Function.Injective Remark.found := fun _ _ h => Remark.found.inj h
      exact ⟨injective.list_map found, fun _ => ⟨spared_unique spared, endings_unique endings⟩⟩

/-! ## Categories -/

/-- No string that the status shows holds the end of a line. -/
structure CategoryReport.Unbroken (r : CategoryReport) : Prop where
  category : OneLine r.category
  discovered : ∀ d ∈ r.discovered, OneLine d.commandLine
  signals : ∀ t ∈ r.termination, OneLine t.graceSignal ∧ OneLine t.killSignal
  reasons : ∀ t ∈ r.termination, ∀ p ∈ t.pids, ∀ reason,
    p.outcome = .signalFailed reason → OneLine reason

theorem oneLine_empty : OneLine "" := by
  simp [OneLine]

theorem Outcome.oneLine_fate {killSignal : String} {o : Outcome} (signal : OneLine killSignal)
    (reasons : ∀ reason, o = .signalFailed reason → OneLine reason) :
    OneLine (o.fate killSignal).words := by
  cases o with
  | terminated => exact signal
  | alreadyGone => exact oneLine_empty
  | signalFailed reason => exact reasons reason rfl

theorem CategoryReport.Unbroken.endings {r : CategoryReport} (h : r.Unbroken) :
    ∀ x ∈ r.endings, OneLine x.words := by
  intro x hx
  rw [CategoryReport.endings] at hx
  cases ended : r.termination with
  | none =>
    simp only [ended, List.mem_singleton] at hx
    subst hx
    exact oneLine_empty
  | some t =>
    simp only [ended] at hx
    obtain ⟨grace, kill⟩ := h.signals t ended
    obtain ⟨p, hp, hx⟩ := List.mem_flatMap.mp hx
    rcases List.mem_append.mp hx with hx | hx
    · split at hx
      · cases List.mem_singleton.mp hx
        exact grace
      · cases hx
    · cases List.mem_singleton.mp hx
      exact Outcome.oneLine_fate kill (h.reasons t ended p hp)

theorem CategoryReport.Unbroken.remarks {r : CategoryReport} (h : r.Unbroken) :
    ∀ x ∈ r.remarks, OneLine x.words := by
  intro x hx
  rw [CategoryReport.remarks] at hx
  split_ifs at hx
  · cases List.mem_singleton.mp hx
    exact oneLine_empty
  · rcases List.mem_append.mp hx with hx | hx
    · obtain ⟨d, hd, rfl⟩ := List.mem_map.mp hx
      exact h.discovered d hd
    · rcases List.mem_append.mp hx with hx | hx
      · have spared := isSpared_of_mem_spared hx
        cases x <;> simp [Remark.isSpared, Remark.words, oneLine_empty] at spared ⊢
      · exact h.endings x hx

/-- Remarks under one name can be told from their text. -/
theorem remarkText_unique {tag : String} {rs rs' : List Remark} (htag : OneLine tag)
    (h : ∀ x ∈ rs, OneLine x.words) (h' : ∀ x ∈ rs', OneLine x.words)
    (same : remarkText tag rs = remarkText tag rs') : rs = rs' := by
  have whole {rs : List Remark} (h : ∀ x ∈ rs, OneLine x.words) :
      ∀ l ∈ rs.map fun x => (x.line tag).toList, '\n' ∉ l := by
    intro l hl
    obtain ⟨x, hx, rfl⟩ := List.mem_map.mp hl
    exact Remark.oneLine_line htag (h x hx)
  have lines := unlines_unique (whole h) (whole h') same
  have injective : Function.Injective fun x : Remark => (x.line tag).toList :=
    fun _ _ => Remark.line_injective
  exact injective.list_map lines

theorem CategoryReport.status_unique {r r' : CategoryReport} (tag : r.category = r'.category)
    (h : r.Unbroken) (h' : r'.Unbroken) (same : r.status = r'.status) :
    r.discovered = r'.discovered ∧
      (r.discovered ≠ [] → r.protectedCount = r'.protectedCount ∧ r.ends = r'.ends) := by
  have text : remarkText r.category r.remarks = remarkText r.category r'.remarks := by
    rw [← toList_status, same, toList_status, tag]
  exact remarks_unique (remarkText_unique h.category h.remarks h'.remarks text)

end Straggler
