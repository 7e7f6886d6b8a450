import Mathlib.Data.List.Count
import Mathlib.Data.Prod.Lex
import Mathlib.Data.String.Basic
import Turnstile.Proofs.Metrics.Templates
import Turnstile.Proofs.Text.Digits

set_option autoImplicit false

/-! # What an exposition tells

Label values are written as they are, without escapes. That is safe: a method needs none where it
has no quote, backslash or line break, and the template of a path and the class of a status never
need any (`isPlain_pathTemplate`, `isPlain_statusClass`). So a sample can be read back, from its end
(`requestSample_inj`), a text can be cut into its lines again (`cutLines_joinLines_append`), and the
text of the counters tells exactly how often each series (`exposition_tells`) and each outcome was
counted (`countersText_tells`). -/

namespace Turnstile

/-! ## Label values -/

/-- A text that stands as a label value as it is: nothing in it would have to be escaped. -/
def IsPlain (s : String) : Prop := '"' ∉ s.toList ∧ '\\' ∉ s.toList ∧ '\n' ∉ s.toList

theorem isPlain_pathTemplate (path : String) : IsPlain (pathTemplate path) := by
  have quote : ¬('"' = '/' ∨ isLetter '"' ∨ '"' ∈ placeholder) := by decide +kernel
  have backslash : ¬('\\' = '/' ∨ isLetter '\\' ∨ '\\' ∈ placeholder) := by decide +kernel
  have lineBreak : ¬('\n' = '/' ∨ isLetter '\n' ∨ '\n' ∈ placeholder) := by decide +kernel
  exact ⟨fun hc => quote (mem_pathTemplate hc), fun hc => backslash (mem_pathTemplate hc),
    fun hc => lineBreak (mem_pathTemplate hc)⟩

/-- A status class is written with digits, a sign and the letter of its tens and units. -/
theorem mem_statusClass {status : Int} {c : Char} (hc : c ∈ (statusClass status).toList) :
    c.isDigit ∨ c = '-' ∨ c = 'x' := by
  have digits : ∀ n : Nat, c ∈ (toString n).toList → c.isDigit ∨ c = '-' ∨ c = 'x' :=
    fun n hc => .inl (isDigit_of_mem_toDigits (n := n) (by simpa using hc))
  rw [statusClass, String.toList_append, List.mem_append] at hc
  rcases hc with hc | hc
  · cases hq : status.fdiv 100 with
    | ofNat n =>
      rw [hq] at hc
      exact digits n hc
    | negSucc n =>
      have sign : toString (Int.negSucc n) = "-" ++ toString (n + 1) := rfl
      rw [hq, sign, String.toList_append, List.mem_append] at hc
      rcases hc with hc | hc
      · exact .inr (.inl (List.mem_singleton.1 hc))
      · exact digits (n + 1) hc
  · have tail : c ∈ List.replicate 2 'x' := hc
    exact .inr (.inr (List.eq_of_mem_replicate tail))

theorem isPlain_statusClass (status : Int) : IsPlain (statusClass status) := by
  have quote : ¬('"'.isDigit ∨ '"' = '-' ∨ '"' = 'x') := by decide
  have backslash : ¬('\\'.isDigit ∨ '\\' = '-' ∨ '\\' = 'x') := by decide
  have lineBreak : ¬('\n'.isDigit ∨ '\n' = '-' ∨ '\n' = 'x') := by decide
  exact ⟨fun hc => quote (mem_statusClass hc), fun hc => backslash (mem_statusClass hc),
    fun hc => lineBreak (mem_statusClass hc)⟩

theorem isPlain_name (o : AttemptOutcome) : IsPlain o.name := by
  unfold IsPlain
  cases o <;> decide

namespace RequestSeries

/-- The labels of a series stand as they are. -/
structure IsPlain (s : RequestSeries) : Prop where
  method : Turnstile.IsPlain s.method
  path : Turnstile.IsPlain s.path
  status : Turnstile.IsPlain s.status

/-- The labels of a series stand as they are, but for its method. -/
structure IsTemplate (s : RequestSeries) : Prop where
  path : Turnstile.IsPlain s.path
  status : Turnstile.IsPlain s.status

theorem IsPlain.isTemplate {s : RequestSeries} (plain : s.IsPlain) : s.IsTemplate :=
  ⟨plain.path, plain.status⟩

theorem isTemplate_of (method path : String) (status : Int) : (of method path status).IsTemplate :=
  ⟨isPlain_pathTemplate path, isPlain_statusClass status⟩

end RequestSeries

/-! ## Samples -/

/-- What comes before the first separator, and what after it, are determined by the whole. -/
theorem cut_inj {α : Type} [DecidableEq α] {sep : α} {xs ys rest rest' : List α} (before : sep ∉ xs)
    (before' : sep ∉ ys) (same : xs ++ sep :: rest = ys ++ sep :: rest') :
    xs = ys ∧ rest = rest' := by
  have parts := congrArg (List.splitOn sep) same
  rw [List.splitOn_append_cons_self_of_not_mem before,
    List.splitOn_append_cons_self_of_not_mem before'] at parts
  obtain rfl := (List.cons.inj parts).1
  exact ⟨rfl, (List.cons.inj (List.append_cancel_left same)).2⟩

/-- So are what comes before the last separator, and what after it. -/
theorem cut_last_inj {α : Type} [DecidableEq α] {sep : α} {xs ys rest rest' : List α}
    (after : sep ∉ rest) (after' : sep ∉ rest') (same : xs ++ sep :: rest = ys ++ sep :: rest') :
    xs = ys ∧ rest = rest' := by
  have turned := congrArg List.reverse same
  simp only [List.reverse_append, List.reverse_cons, List.append_assoc, List.singleton_append]
    at turned
  obtain ⟨last, first⟩ := cut_inj (by simpa using after) (by simpa using after') turned
  exact ⟨List.reverse_inj.1 first, List.reverse_inj.1 last⟩

namespace Metrics

theorem toList_requestSample (s : RequestSeries) (n : Nat) :
    (requestSample (s, n)).toList
      = (((("http_requests_total\x7bmethod=\"".toList ++ s.method.toList ++ "\",path=".toList)
        ++ '"' :: s.path.toList) ++ '"' :: ",status=".toList) ++ '"' :: s.status.toList)
        ++ '"' :: ("\x7d ".toList ++ Nat.toDigits 10 n) := by
  simp [requestSample, sample]

theorem toList_outcomeSample (name : String) (n : Nat) :
    (outcomeSample (name, n)).toList
      = "shared_secret_attempts_total\x7boutcome=\"".toList ++ (name.toList ++ '"'
        :: ("\x7d ".toList ++ Nat.toDigits 10 n)) := by
  simp [outcomeSample, sample]

/-- What comes last in a sample has no quote. -/
theorem quote_notMem_number (n : Nat) : '"' ∉ "\x7d ".toList ++ Nat.toDigits 10 n := by
  rw [List.mem_append]
  rintro (brace | digit)
  · exact absurd brace (by decide)
  · exact absurd (isDigit_of_mem_toDigits digit) (by decide)

/-- A sample of a series tells the series and the number, whatever the method: the number, the
    status and the path are read from the end. -/
theorem requestSample_inj {s s' : RequestSeries} {n n' : Nat} (template : s.IsTemplate)
    (template' : s'.IsTemplate) (same : requestSample (s, n) = requestSample (s', n')) :
    s = s' ∧ n = n' := by
  have chars := congrArg String.toList same
  have label : '"' ∉ ",status=".toList := by decide
  rw [toList_requestSample, toList_requestSample] at chars
  obtain ⟨chars, number⟩ := cut_last_inj (quote_notMem_number n) (quote_notMem_number n') chars
  obtain ⟨chars, status⟩ := cut_last_inj template.status.1 template'.status.1 chars
  obtain ⟨chars, -⟩ := cut_last_inj label label chars
  obtain ⟨chars, path⟩ := cut_last_inj template.path.1 template'.path.1 chars
  have method := List.append_cancel_left (List.append_cancel_right chars)
  have number := congrArg Json.natOfDigits (List.append_cancel_left number)
  rw [natOfDigits_toDigits, natOfDigits_toDigits] at number
  obtain ⟨m, p, c⟩ := s
  obtain ⟨m', p', c'⟩ := s'
  exact ⟨by simpa [String.toList_inj] using And.intro method (And.intro path status), number⟩

/-- A sample of an outcome tells the outcome and the number. -/
theorem outcomeSample_inj {name name' : String} {n n' : Nat} (plain : IsPlain name)
    (plain' : IsPlain name') (same : outcomeSample (name, n) = outcomeSample (name', n')) :
    name = name' ∧ n = n' := by
  have chars := congrArg String.toList same
  rw [toList_outcomeSample, toList_outcomeSample] at chars
  obtain ⟨name, chars⟩ := cut_inj plain.1 plain'.1 (List.append_cancel_left chars)
  have number := congrArg Json.natOfDigits (List.append_cancel_left chars)
  rw [natOfDigits_toDigits, natOfDigits_toDigits] at number
  exact ⟨String.toList_inj.1 name, number⟩

theorem break_notMem_toDigits (n : Nat) : '\n' ∉ Nat.toDigits 10 n :=
  fun hc => absurd (isDigit_of_mem_toDigits hc) (by decide)

/-- A sample of a series is one line. -/
theorem break_notMem_requestSample {s : RequestSeries} (template : s.IsTemplate)
    (method : '\n' ∉ s.method.toList) (n : Nat) : '\n' ∉ (requestSample (s, n)).toList := by
  rw [toList_requestSample]
  simp [method, template.path.2.2, template.status.2.2, break_notMem_toDigits]

/-- A sample of an outcome is one line. -/
theorem break_notMem_outcomeSample {name : String} (plain : IsPlain name) (n : Nat) :
    '\n' ∉ (outcomeSample (name, n)).toList := by
  rw [toList_outcomeSample]
  simp [plain.2.2, break_notMem_toDigits]

end Metrics

/-! ## Lines -/

/-- Lines as a text, each ended by a line break. -/
def joinLines (lines : List String) : String := String.join (lines.map (· ++ "\n"))

/-- The lines of a text: what stands between its line breaks, before the first and after the last.
    -/
def cutLines (text : String) : List String := (text.toList.splitOn '\n').map String.ofList

/-- Lines that come before a text are cut off it again. -/
theorem cutLines_joinLines_append {lines : List String} (text : String)
    (whole : ∀ line ∈ lines, '\n' ∉ line.toList) :
    cutLines (joinLines lines ++ text) = lines ++ cutLines text := by
  have cut : (joinLines lines ++ text).toList.splitOn '\n'
      = lines.map String.toList ++ text.toList.splitOn '\n' := by
    rw [joinLines, String.toList_append, String.toList_join]
    induction lines with
    | nil => rfl
    | cons line rest ih =>
      rw [List.forall_mem_cons] at whole
      rw [List.map_cons, List.flatMap_cons, String.toList_append, List.append_assoc,
        List.append_assoc]
      exact (List.splitOn_append_cons_self_of_not_mem whole.1 _).trans
        (congrArg (line.toList :: ·) (ih whole.2))
  rw [cutLines, cut]
  simp [cutLines]

/-- A text of lines is cut into them again. -/
theorem cutLines_joinLines {lines : List String} (whole : ∀ line ∈ lines, '\n' ∉ line.toList) :
    cutLines (joinLines lines) = lines ++ [""] := by
  simpa [cutLines] using cutLines_joinLines_append "" whole

/-- Lists whose items a function tells apart are equal where their images are. -/
theorem map_inj_of_mem {α β : Type} {f : α → β} {xs ys : List α}
    (apart : ∀ x ∈ xs, ∀ y ∈ ys, f x = f y → x = y) (same : xs.map f = ys.map f) : xs = ys := by
  induction xs generalizing ys with
  | nil => exact (List.map_eq_nil_iff.1 same.symm).symm
  | cons x rest ih =>
    cases ys with
    | nil => exact absurd same (List.cons_ne_nil _ _)
    | cons y more =>
      obtain ⟨head, tail⟩ := List.cons.inj same
      rw [apart x List.mem_cons_self y List.mem_cons_self head,
        ih (fun a ha b hb => apart a (.tail _ ha) b (.tail _ hb)) tail]

/-! ## The text of the counters -/

/-- The rank of a series: by method, then path, then status. -/
def seriesRank (s : RequestSeries) : String ×ₗ String ×ₗ String :=
  toLex (s.method, toLex (s.path, s.status))

theorem seriesRank_injective : Function.Injective seriesRank := by
  rintro ⟨m, p, c⟩ ⟨m', p', c'⟩ same
  simpa [seriesRank] using same

namespace Metrics

variable {m m' : Metrics}

theorem seriesLe_eq (a b : RequestSeries) :
    seriesLe a b = decide (seriesRank a ≤ seriesRank b) := by
  obtain ⟨m, p, c⟩ := a
  obtain ⟨m', p', c'⟩ := b
  rw [Bool.eq_iff_iff]
  simp only [seriesLe, seriesRank, decide_eq_true_eq, Prod.Lex.toLex_le_toLex]
  by_cases hm : m = m'
  · by_cases hp : p = p'
    · simp [hm, hp]
    · simp [hm, hp, lt_iff_le_and_ne]
  · simp [hm, lt_iff_le_and_ne]

theorem sortedRequests_eq (m : Metrics) : m.sortedRequests = m.requests.sorted seriesRank := by
  simp only [sortedRequests, seriesLe_eq, Tally.sorted]

theorem sortedOutcomes_eq (m : Metrics) : m.sortedOutcomes = m.outcomes.sorted id := rfl

/-- The request section and the outcome section, each with the empty line after it. -/
def countersText (m : Metrics) : String :=
  joinLines (m.requestLines ++ [""] ++ m.outcomeLines ++ [""])

theorem exposition_eq (m : Metrics) (now : Binary64) :
    m.exposition now = m.countersText ++ joinLines (m.uptimeLines now) := by
  simp [exposition, countersText, joinLines, String.ext_iff]

/-! ### Its requests -/

/-- The samples of series are of those that were counted, each with its number. -/
theorem mem_sortedRequests (exact : m.requests.IsExact) (s : RequestSeries) (n : Nat) :
    (s, n) ∈ m.sortedRequests ↔ 0 < n ∧ n = m.requests.count s := by
  rw [sortedRequests_eq, (Tally.perm_sorted _ _).mem_iff, exact.mem_iff]

/-- What holds of all series that were counted holds of those that have a sample. -/
theorem forall_sortedRequests (exact : m.requests.IsExact) {P : RequestSeries → Prop}
    (counted : ∀ s, 0 < m.requests.count s → P s) : ∀ entry ∈ m.sortedRequests, P entry.1 := by
  rintro ⟨s, n⟩ he
  obtain ⟨positive, rfl⟩ := (mem_sortedRequests exact s n).1 he
  exact counted s positive

/-- After its heading the request section has one sample for each series that was counted. -/
theorem mem_requestSamples (exact : m.requests.IsExact) (line : String) :
    line ∈ m.requestLines.drop 2
      ↔ ∃ s, 0 < m.requests.count s ∧ line = requestSample (s, m.requests.count s) := by
  have samples : m.requestLines.drop 2 = m.sortedRequests.map requestSample := rfl
  rw [samples, List.mem_map]
  constructor
  · rintro ⟨⟨s, n⟩, entry, rfl⟩
    obtain ⟨positive, rfl⟩ := (mem_sortedRequests exact s n).1 entry
    exact ⟨s, positive, rfl⟩
  · rintro ⟨s, positive, rfl⟩
    exact ⟨_, (mem_sortedRequests exact s _).2 ⟨positive, rfl⟩, rfl⟩

theorem nodup_requestSamples (exact : m.requests.IsExact)
    (templates : ∀ s, 0 < m.requests.count s → s.IsTemplate) : (m.requestLines.drop 2).Nodup := by
  have entries : m.sortedRequests.Nodup := by
    rw [sortedRequests_eq, (Tally.perm_sorted _ _).nodup_iff]
    exact exact.nodup
  have templates := forall_sortedRequests exact templates
  refine List.Nodup.map_on ?_ entries
  rintro ⟨s, n⟩ here ⟨s', n'⟩ there same
  obtain ⟨rfl, rfl⟩ := requestSample_inj (templates _ here) (templates _ there) same
  rfl

/-- A line of the request section is not empty, and is one line if the methods are. -/
theorem requestLines_whole (exact : m.requests.IsExact)
    (templates : ∀ s, 0 < m.requests.count s → s.IsTemplate)
    (methods : ∀ s, 0 < m.requests.count s → '\n' ∉ s.method.toList) :
    ∀ line ∈ m.requestLines, line ≠ "" ∧ '\n' ∉ line.toList := by
  intro line hl
  rw [requestLines, List.mem_append, List.mem_map] at hl
  rcases hl with heading | ⟨⟨s, n⟩, entry, rfl⟩
  · revert line
    decide
  · refine ⟨fun empty => ?_, break_notMem_requestSample
      (forall_sortedRequests exact templates _ entry)
      (forall_sortedRequests exact methods _ entry) n⟩
    have chars := toList_requestSample s n
    rw [empty] at chars
    exact absurd chars (by simp)

/-- What comes before the samples of requests. -/
def requestHeading : List String :=
  ["# HELP http_requests_total Total HTTP requests by method, path, status class.",
    "# TYPE http_requests_total counter"]

theorem requestLines_eq (m : Metrics) :
    m.requestLines = requestHeading ++ m.sortedRequests.map requestSample := rfl

/-- A text tells how often each series was counted: it begins with a heading, the samples and an
    empty line. There is one sample for each series that was counted, with how often it was, and
    none other. Where no method has a line break, each is a line of the text. -/
structure TellsRequests (text : String) (count : RequestSeries → Nat) (samples : List String) :
    Prop where
  begins : ∃ rest, text = joinLines (requestHeading ++ samples ++ [""]) ++ rest
  lines : (∀ s, 0 < count s → '\n' ∉ s.method.toList) →
    ∃ rest, cutLines text = requestHeading ++ samples ++ "" :: rest
  nodup : samples.Nodup
  mem_iff : ∀ line, line ∈ samples ↔ ∃ s, 0 < count s ∧ line = requestSample (s, count s)

/-- An exposition tells how often each series was counted. -/
theorem exposition_tells (exact : m.requests.IsExact)
    (templates : ∀ s, 0 < m.requests.count s → s.IsTemplate) (now : Binary64) :
    TellsRequests (m.exposition now) (fun s => m.requests.count s)
      (m.sortedRequests.map requestSample) := by
  let rest := joinLines (m.outcomeLines ++ [""] ++ m.uptimeLines now)
  have begins : m.exposition now
      = joinLines (requestHeading ++ m.sortedRequests.map requestSample ++ [""]) ++ rest := by
    simp [exposition, requestLines_eq, rest, joinLines, String.ext_iff]
  refine ⟨⟨rest, begins⟩, fun methods => ⟨cutLines rest, ?_⟩, nodup_requestSamples exact templates,
    mem_requestSamples exact⟩
  have whole : ∀ line ∈ m.requestLines ++ [""], '\n' ∉ line.toList :=
    List.forall_mem_append.2
      ⟨fun line hl => (requestLines_whole exact templates methods line hl).2, by decide⟩
  rw [begins, ← requestLines_eq, cutLines_joinLines_append rest whole, List.append_assoc]
  rfl

/-! ### The whole of it -/

/-- Counters with one entry for whatever was counted, under labels that stand as they are. -/
structure IsPlain (m : Metrics) : Prop where
  requests : m.requests.IsExact
  outcomes : m.outcomes.IsExact
  series : ∀ s, 0 < m.requests.count s → s.IsPlain
  names : ∀ name, 0 < m.outcomes.count name → Turnstile.IsPlain name

namespace IsPlain

theorem templates (plain : m.IsPlain) : ∀ s, 0 < m.requests.count s → s.IsTemplate :=
  fun s came => (plain.series s came).isTemplate

theorem mem_sortedOutcomes (plain : m.IsPlain) (name : String) (n : Nat) :
    (name, n) ∈ m.sortedOutcomes ↔ 0 < n ∧ n = m.outcomes.count name := by
  rw [sortedOutcomes_eq, (Tally.perm_sorted _ _).mem_iff, plain.outcomes.mem_iff]

theorem names_sorted (plain : m.IsPlain) {name : String} {n : Nat}
    (entry : (name, n) ∈ m.sortedOutcomes) : Turnstile.IsPlain name := by
  obtain ⟨positive, rfl⟩ := (plain.mem_sortedOutcomes name n).1 entry
  exact plain.names name positive

theorem requestLines_whole (plain : m.IsPlain) :
    ∀ line ∈ m.requestLines, line ≠ "" ∧ '\n' ∉ line.toList :=
  Metrics.requestLines_whole plain.requests plain.templates
    fun s came => (plain.series s came).method.2.2

/-- A line of the outcome section is one line. -/
theorem outcomeLines_whole (plain : m.IsPlain) :
    ∀ line ∈ m.outcomeLines, '\n' ∉ line.toList := by
  intro line hl
  rw [outcomeLines, List.mem_append, List.mem_map] at hl
  rcases hl with heading | ⟨⟨o, n⟩, entry, rfl⟩
  · revert line
    decide
  · exact break_notMem_outcomeSample (plain.names_sorted entry) n

/-- The two sections are cut into their lines again. -/
theorem cutLines_countersText (plain : m.IsPlain) :
    cutLines m.countersText = m.requestLines ++ [""] ++ m.outcomeLines ++ ["", ""] := by
  have whole : ∀ line ∈ m.requestLines ++ [""] ++ m.outcomeLines ++ [""], '\n' ∉ line.toList := by
    have empty : ∀ line ∈ [""], '\n' ∉ line.toList := by decide
    simp only [List.forall_mem_append]
    exact ⟨⟨⟨fun line hl => (plain.requestLines_whole line hl).2, empty⟩,
      plain.outcomeLines_whole⟩, empty⟩
  rw [countersText, cutLines_joinLines whole, List.append_assoc _ [""] [""]]
  rfl

/-- The text of the counters tells their entries. -/
theorem countersText_eq_iff (plain : m.IsPlain) (plain' : m'.IsPlain) :
    m.countersText = m'.countersText
      ↔ m.sortedRequests = m'.sortedRequests ∧ m.sortedOutcomes = m'.sortedOutcomes := by
  constructor
  · intro same
    have lines := congrArg cutLines same
    rw [plain.cutLines_countersText, plain'.cutLines_countersText] at lines
    have sections := List.append_cancel_right lines
    rw [List.append_assoc, List.append_assoc] at sections
    obtain ⟨requests, outcomes⟩ := cut_inj (fun he => (plain.requestLines_whole _ he).1 rfl)
      (fun he => (plain'.requestLines_whole _ he).1 rfl) sections
    constructor
    · refine map_inj_of_mem ?_ (List.append_cancel_left requests)
      rintro ⟨s, n⟩ he ⟨s', n'⟩ he' told
      obtain ⟨rfl, rfl⟩ := requestSample_inj
        (forall_sortedRequests plain.requests plain.templates _ he)
        (forall_sortedRequests plain'.requests plain'.templates _ he') told
      rfl
    · refine map_inj_of_mem ?_ (List.append_cancel_left outcomes)
      rintro ⟨o, n⟩ he ⟨o', n'⟩ he' told
      obtain ⟨rfl, rfl⟩ := outcomeSample_inj (plain.names_sorted he)
        (plain'.names_sorted he') told
      rfl
  · rintro ⟨requests, outcomes⟩
    rw [countersText, countersText, requestLines, requestLines, outcomeLines, outcomeLines,
      requests, outcomes]

/-- After its heading the outcome section has a sample for each outcome that was counted. -/
theorem mem_outcomeSamples (plain : m.IsPlain) (line : String) :
    line ∈ m.outcomeLines.drop 2
      ↔ ∃ name, 0 < m.outcomes.count name ∧ line = outcomeSample (name, m.outcomes.count name) := by
  have samples : m.outcomeLines.drop 2 = m.sortedOutcomes.map outcomeSample := rfl
  rw [samples, List.mem_map]
  constructor
  · rintro ⟨⟨name, n⟩, entry, rfl⟩
    obtain ⟨positive, rfl⟩ := (plain.mem_sortedOutcomes name n).1 entry
    exact ⟨name, positive, rfl⟩
  · rintro ⟨name, positive, rfl⟩
    exact ⟨_, (plain.mem_sortedOutcomes name _).2 ⟨positive, rfl⟩, rfl⟩

end IsPlain
end Metrics

/-! ## What was counted -/

/-- Something that is counted: a request that was answered, or how an attempt was handled. -/
inductive Counted where
  | request (method path : String) (status : Int)
  | outcome (outcome : AttemptOutcome)

namespace Counted

/-- The series that it counts for, if any. -/
def series? : Counted → Option RequestSeries
  | request method path status => some (.of method path status)
  | outcome _ => none

/-- The outcome that it counts for, if any. -/
def outcome? : Counted → Option AttemptOutcome
  | request .. => none
  | outcome o => some o

/-- The method, if any, stands as a label value as it is. -/
def IsPlain : Counted → Prop
  | request method _ _ => Turnstile.IsPlain method
  | outcome _ => True

end Counted

namespace Metrics

/-- Count one thing. -/
def note (m : Metrics) : Counted → Metrics
  | .request method path status => m.countRequest method path status
  | .outcome o => m.countOutcome o.name

/-- Count some things, one after the other. -/
def notes (m : Metrics) (cs : List Counted) : Metrics := cs.foldl note m

theorem notes_requests (m : Metrics) (cs : List Counted) :
    (m.notes cs).requests = m.requests.bumps (cs.filterMap Counted.series?) := by
  induction cs generalizing m with
  | nil => rfl
  | cons c rest ih => cases c <;> exact ih _

theorem notes_outcomes (m : Metrics) (cs : List Counted) :
    (m.notes cs).outcomes
      = m.outcomes.bumps ((cs.filterMap Counted.outcome?).map AttemptOutcome.name) := by
  induction cs generalizing m with
  | nil => rfl
  | cons c rest ih => cases c <;> exact ih _

theorem notes_startedAt (m : Metrics) (cs : List Counted) :
    (m.notes cs).startedAt = m.startedAt := by
  induction cs generalizing m with
  | nil => rfl
  | cons c rest ih => cases c <;> exact ih _

theorem count_requests (m : Metrics) (cs : List Counted) (s : RequestSeries) :
    (m.reset.notes cs).requests.count s = (cs.filterMap Counted.series?).count s := by
  rw [notes_requests, Tally.count_bumps]
  exact Nat.zero_add _

theorem outcomes_count (m : Metrics) (cs : List Counted) (name : String) :
    (m.reset.notes cs).outcomes.count name
      = ((cs.filterMap Counted.outcome?).map AttemptOutcome.name).count name := by
  rw [notes_outcomes, Tally.count_bumps]
  exact Nat.zero_add _

theorem count_outcomes (m : Metrics) (cs : List Counted) (o : AttemptOutcome) :
    (m.reset.notes cs).outcomes.count o.name = (cs.filterMap Counted.outcome?).count o := by
  rw [outcomes_count, List.count_map_of_injective _ _ AttemptOutcome.name_injective]

/-- Only outcomes are counted by their names. -/
theorem exists_name_of_count_pos {m : Metrics} {cs : List Counted} {name : String}
    (came : 0 < (m.reset.notes cs).outcomes.count name) : ∃ o : AttemptOutcome, name = o.name := by
  rw [outcomes_count, List.count_pos_iff, List.mem_map] at came
  obtain ⟨o, -, rfl⟩ := came
  exact ⟨o, rfl⟩

/-- After a reset the counters hold what was counted since, under labels that stand as they are. -/
theorem isPlain_notes {cs : List Counted} (plain : ∀ c ∈ cs, c.IsPlain) (m : Metrics) :
    (m.reset.notes cs).IsPlain where
  requests := by
    rw [notes_requests]
    exact Tally.IsExact.nil.bumps _
  outcomes := by
    rw [notes_outcomes]
    exact Tally.IsExact.nil.bumps _
  series := by
    intro s came
    rw [count_requests, List.count_pos_iff, List.mem_filterMap] at came
    obtain ⟨c, hc, counts⟩ := came
    cases c with
    | request method path status =>
      obtain rfl := Option.some.inj counts
      exact ⟨plain _ hc, isPlain_pathTemplate path, isPlain_statusClass status⟩
    | outcome o => cases counts
  names := by
    intro name came
    obtain ⟨o, rfl⟩ := exists_name_of_count_pos came
    exact isPlain_name o

/-- All names came equally often where all outcomes did. -/
theorem outcomes_count_eq_iff (m m' : Metrics) (cs cs' : List Counted) :
    (∀ name, (m.reset.notes cs).outcomes.count name = (m'.reset.notes cs').outcomes.count name)
      ↔ ∀ o, (cs.filterMap Counted.outcome?).count o
        = (cs'.filterMap Counted.outcome?).count o := by
  simp only [outcomes_count, ← List.perm_iff_count]
  exact List.map_perm_map_iff AttemptOutcome.name_injective

/-- **What an exposition tells.** From a reset on, requests whose methods have no quote, backslash
    or line break are counted, and outcomes of attempts. The two sections of the counters, which are
    all of the exposition but the uptime, are the same text for two courses of these exactly if each
    series and each outcome came equally often in both, and so in whatever order. The text falls
    into its lines, whatever the paths: after the headings there is one sample for each series that
    came, with how often it did, and no other. -/
theorem countersText_tells {cs cs' : List Counted} (plain : ∀ c ∈ cs, c.IsPlain)
    (plain' : ∀ c ∈ cs', c.IsPlain) (m m' : Metrics) :
    let now := m.reset.notes cs
    let now' := m'.reset.notes cs'
    (now.countersText = now'.countersText
        ↔ (∀ s, (cs.filterMap Counted.series?).count s = (cs'.filterMap Counted.series?).count s)
          ∧ ∀ o, (cs.filterMap Counted.outcome?).count o
            = (cs'.filterMap Counted.outcome?).count o)
      ∧ (cs.Perm cs' → now.countersText = now'.countersText)
      ∧ (∀ clock, now.exposition clock = now.countersText ++ joinLines (m.uptimeLines clock))
      ∧ cutLines now.countersText = now.requestLines ++ [""] ++ now.outcomeLines ++ ["", ""]
      ∧ (now.requestLines.drop 2).Nodup
      ∧ (∀ line, line ∈ now.requestLines.drop 2
        ↔ ∃ s, 0 < (cs.filterMap Counted.series?).count s
          ∧ line = requestSample (s, (cs.filterMap Counted.series?).count s))
      ∧ ∀ line, line ∈ now.outcomeLines.drop 2
        ↔ ∃ o, 0 < (cs.filterMap Counted.outcome?).count o
          ∧ line = outcomeSample (o.name, (cs.filterMap Counted.outcome?).count o) := by
  intro now now'
  have sound : now.IsPlain := isPlain_notes plain m
  have sound' : now'.IsPlain := isPlain_notes plain' m'
  have told : now.countersText = now'.countersText
      ↔ (∀ s, (cs.filterMap Counted.series?).count s = (cs'.filterMap Counted.series?).count s)
        ∧ ∀ o, (cs.filterMap Counted.outcome?).count o
          = (cs'.filterMap Counted.outcome?).count o := by
    rw [sound.countersText_eq_iff sound', sortedRequests_eq, sortedRequests_eq, sortedOutcomes_eq,
      sortedOutcomes_eq, sound.requests.sorted_eq_iff seriesRank_injective sound'.requests,
      sound.outcomes.sorted_eq_iff Function.injective_id sound'.outcomes, outcomes_count_eq_iff]
    simp only [now, now', count_requests]
  refine ⟨told, fun perm => ?_, fun clock => ?_, sound.cutLines_countersText,
    nodup_requestSamples sound.requests sound.templates, fun line => ?_, fun line => ?_⟩
  · rw [told]
    exact ⟨fun s => (perm.filterMap _).count_eq s, fun o => (perm.filterMap _).count_eq o⟩
  · rw [exposition_eq, uptimeLines, notes_startedAt]
    rfl
  · simp only [mem_requestSamples sound.requests, now, count_requests]
  · rw [sound.mem_outcomeSamples]
    constructor
    · rintro ⟨name, positive, rfl⟩
      obtain ⟨o, rfl⟩ := exists_name_of_count_pos positive
      rw [count_outcomes] at positive ⊢
      exact ⟨o, positive, rfl⟩
    · rintro ⟨o, positive, rfl⟩
      rw [← count_outcomes m] at positive ⊢
      exact ⟨o.name, positive, rfl⟩

/-- Requests and attempts, among them a request for a path that looks like the end of a sample and
    another sample after it. -/
def forgedPath : List Counted :=
  [.request "GET" "/ready" 200, .outcome .failOpen, .request "GET" "/x\"\x7d 9\nup\x7by=\"" 404,
    .request "GET" "/ready" 204]

/-- The request for the odd path has one sample of its own, under a placeholder, and the order in
    which things came does not show. -/
theorem countersText_tells_of_forgedPath :
    (({} : Metrics).reset.notes forgedPath).countersText
        = (({} : Metrics).reset.notes forgedPath.reverse).countersText
      ∧ "http_requests_total\x7bmethod=\"GET\",path=\"/\x7bid\x7d\",status=\"4xx\"\x7d 1"
        ∈ (({} : Metrics).reset.notes forgedPath).requestLines.drop 2
      ∧ (({} : Metrics).reset.notes forgedPath).countersText
        ≠ (({} : Metrics).reset.notes (forgedPath.take 2)).countersText := by
  have plain : ∀ c ∈ forgedPath, c.IsPlain := by
    simp [forgedPath, Counted.IsPlain, Turnstile.IsPlain]
  obtain ⟨-, order, -, -, -, samples, -⟩ := countersText_tells plain
    (fun c hc => plain c (List.mem_reverse.1 hc)) {} {}
  obtain ⟨differ, -⟩ := countersText_tells plain
    (fun c hc => plain c (List.mem_of_mem_take hc)) {} {}
  refine ⟨order (List.reverse_perm forgedPath).symm, ?_, fun same => ?_⟩
  · refine (samples _).2 ⟨⟨"GET", "/\x7bid\x7d", "4xx"⟩, ?_⟩
    decide +kernel
  · have numbers := (differ.1 same).1 ⟨"GET", "/ready", "2xx"⟩
    exact absurd numbers (by decide +kernel)

end Metrics

end Turnstile
