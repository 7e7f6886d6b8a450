import Mathlib.Data.List.Dedup
import Mathlib.Data.List.Perm.Subperm
import Turnstile.Proofs.Metrics.Tally

set_option autoImplicit false

/-! # Templates of paths

A path that is made of segments has the template that is made of theirs
(`pathTemplate_of_segments`). What is identified in a path is told from what is fixed by its
characters alone: the name of a world gives way to a placeholder unless it is of letters alone, and
then it stays. So requests about worlds are counted together but for those names
(`worlds_counted`). -/

namespace Turnstile

/-! ## Segments -/

/-- The characters of a path: each segment after a slash. -/
def slashed (segments : List (List Char)) : List Char := segments.flatMap ('/' :: ·)

/-- A segment as it stands between slashes. -/
def IsSegment (segment : List Char) : Prop := segment ≠ [] ∧ '/' ∉ segment

theorem slashed_cons (segment : List Char) (rest : List (List Char)) :
    slashed (segment :: rest) = '/' :: ['/'].intercalate (segment :: rest) := by
  induction rest generalizing segment with
  | nil => simp [slashed]
  | cons next rest ih =>
    have later : slashed (segment :: next :: rest) = '/' :: segment ++ slashed (next :: rest) := rfl
    rw [later, ih, List.intercalate_cons_cons]
    simp

/-- The slashes that enclose a path are trimmed, and no more where it is enclosed by others. -/
theorem trimSlashes_cons {c d : Char} {body more : List Char} (first : c ≠ '/') (last : d ≠ '/')
    (ends : c :: body = more ++ [d]) : trimSlashes ('/' :: c :: body) = c :: body := by
  have front : ('/' :: c :: body).dropWhile (· = '/') = c :: body := by simp [first]
  have back : (c :: body).reverse.dropWhile (· = '/') = (c :: body).reverse := by
    rw [ends, List.reverse_concat]
    simp [last]
  rw [trimSlashes, front, back, List.reverse_reverse]

/-- Segments between slashes end in a character of the last one. -/
theorem exists_intercalate_eq_concat {segment : List Char} {rest : List (List Char)}
    (each : ∀ s ∈ segment :: rest, IsSegment s) :
    ∃ more d, ['/'].intercalate (segment :: rest) = more ++ [d] ∧ d ≠ '/' := by
  induction rest generalizing segment with
  | nil =>
    obtain ⟨filled, plain⟩ := each segment (List.mem_singleton_self segment)
    obtain ⟨more, d, rfl⟩ := List.eq_nil_or_concat' segment |>.resolve_left filled
    refine ⟨more, d, List.intercalate_singleton, ?_⟩
    rintro rfl
    simp at plain
  | cons next rest ih =>
    obtain ⟨more, d, ends, last⟩ := ih fun s hs => each s (List.mem_cons_of_mem _ hs)
    refine ⟨segment ++ ['/'] ++ more, d, ?_, last⟩
    rw [List.intercalate_cons_cons, ends, List.append_assoc (segment ++ ['/'])]

/-- The template of a path that is made of segments is made of theirs. -/
theorem pathTemplate_of_segments {segment : List Char} {rest : List (List Char)}
    (each : ∀ s ∈ segment :: rest, IsSegment s) :
    pathTemplate (String.ofList (slashed (segment :: rest)))
      = String.ofList (slashed ((segment :: rest).map templateSegment)) := by
  obtain ⟨filled, plain⟩ := each segment List.mem_cons_self
  obtain ⟨c, more, rfl⟩ := List.exists_cons_of_ne_nil filled
  have first : c ≠ '/' := by
    rintro rfl
    simp at plain
  obtain ⟨before, d, ends, last⟩ := exists_intercalate_eq_concat each
  have body : ∃ body, ['/'].intercalate ((c :: more) :: rest) = c :: body := by
    cases rest with
    | nil => exact ⟨more, List.intercalate_singleton⟩
    | cons next rest => exact ⟨_, List.intercalate_cons_cons⟩
  obtain ⟨body, starts⟩ := body
  have trimmed : trimSlashes (slashed ((c :: more) :: rest))
      = ['/'].intercalate ((c :: more) :: rest) := by
    rw [slashed_cons, starts]
    exact trimSlashes_cons first last (starts ▸ ends)
  have parts : (['/'].intercalate ((c :: more) :: rest)).splitOn '/' = (c :: more) :: rest :=
    List.splitOn_intercalate '/' (fun s hs => (each s hs).2) (List.cons_ne_nil _ _)
  rw [pathTemplate, String.toList_ofList, trimmed]
  simp only [parts, slashed, List.flatMap_map]

/-- A template is written with slashes, letters and placeholders. -/
theorem mem_pathTemplate {path : String} {c : Char} (hc : c ∈ (pathTemplate path).toList) :
    c = '/' ∨ isLetter c ∨ c ∈ placeholder := by
  rw [pathTemplate, String.toList_ofList, List.mem_flatMap] at hc
  obtain ⟨segment, -, hc⟩ := hc
  rw [List.mem_cons, templateSegment] at hc
  rcases hc with slash | hc
  · exact .inl slash
  · split at hc
    · next letters => exact .inr (.inl (List.all_eq_true.1 letters.2 c hc))
    · exact .inr (.inr hc)

/-! ## Requests about worlds -/

/-- A name of a world that stands as one segment of a path. -/
structure WorldName where
  text : String
  nonempty : text ≠ ""
  oneSegment : '/' ∉ text.toList

namespace WorldName

/-- The name where it is of letters alone, and so stays in a template. -/
def lettered? (w : WorldName) : Option String :=
  if w.text.toList.all isLetter then some w.text else none

theorem isSegment (w : WorldName) : IsSegment w.text.toList :=
  ⟨fun empty => w.nonempty (String.toList_eq_nil_iff.1 empty), w.oneSegment⟩

/-- What stands in a template for the name. -/
theorem templateSegment_eq (w : WorldName) :
    String.ofList (templateSegment w.text.toList)
      = w.lettered?.getD (String.ofList placeholder) := by
  rw [templateSegment, lettered?]
  by_cases letters : w.text.toList.all isLetter
  · rw [if_pos ⟨w.isSegment.1, letters⟩, if_pos letters, String.ofList_toList, Option.getD_some]
  · rw [if_neg (fun both => letters both.2), if_neg letters, Option.getD_none]

end WorldName

/-- A request about a world, or to enter it. -/
structure WorldRequest where
  method : String
  world : WorldName
  enters : Bool
  status : Int

/-- What tells apart requests about worlds that are counted apart. -/
@[ext]
structure WorldSeries where
  method : String
  world? : Option String
  enters : Bool
  status : String
deriving DecidableEq, Repr

/-- What follows the world in a path. -/
def worldTail (enters : Bool) : String := if enters then "/enter" else ""

namespace WorldRequest

def path (r : WorldRequest) : String := "/worlds/" ++ r.world.text ++ worldTail r.enters

def series (r : WorldRequest) : WorldSeries :=
  ⟨r.method, r.world.lettered?, r.enters, statusClass r.status⟩

end WorldRequest

/-- The labels that requests are counted under. -/
def WorldSeries.labels (s : WorldSeries) : RequestSeries :=
  ⟨s.method, "/worlds/" ++ s.world?.getD (String.ofList placeholder) ++ worldTail s.enters,
    s.status⟩

/-- A request about a world is counted under its world where the name is of letters alone, and
    otherwise under the placeholder. -/
theorem WorldRequest.labels_eq (r : WorldRequest) :
    RequestSeries.of r.method r.path r.status = r.series.labels := by
  have worlds : IsSegment ['w', 'o', 'r', 'l', 'd', 's']
      ∧ templateSegment ['w', 'o', 'r', 'l', 'd', 's'] = ['w', 'o', 'r', 'l', 'd', 's'] :=
    ⟨by simp [IsSegment], by decide +kernel⟩
  have enter : IsSegment ['e', 'n', 't', 'e', 'r']
      ∧ templateSegment ['e', 'n', 't', 'e', 'r'] = ['e', 'n', 't', 'e', 'r'] :=
    ⟨by simp [IsSegment], by decide +kernel⟩
  have path : pathTemplate r.path
      = "/worlds/" ++ r.world.lettered?.getD (String.ofList placeholder) ++ worldTail r.enters := by
    rw [← r.world.templateSegment_eq, WorldRequest.path, worldTail]
    cases r.enters with
    | true =>
      have made : "/worlds/" ++ r.world.text ++ "/enter"
          = String.ofList (slashed ["worlds".toList, r.world.text.toList, "enter".toList]) := by
        simp [String.ext_iff, slashed]
      simp only [if_true, made]
      rw [pathTemplate_of_segments (by simp [worlds, enter, r.world.isSegment])]
      simp [String.ext_iff, slashed, worlds, enter]
    | false =>
      have made : "/worlds/" ++ r.world.text ++ ""
          = String.ofList (slashed ["worlds".toList, r.world.text.toList]) := by
        simp [String.ext_iff, slashed]
      simp only [Bool.false_eq_true, if_false, made]
      rw [pathTemplate_of_segments (by simp [worlds, r.world.isSegment])]
      simp [String.ext_iff, slashed, worlds]
  rw [RequestSeries.of, path]
  rfl

/-- What stands for a world in a template is a segment. -/
theorem WorldName.slash_notMem_label (w : WorldName) :
    '/' ∉ (w.lettered?.getD (String.ofList placeholder)).toList := by
  rw [lettered?]
  split
  · exact w.oneSegment
  · rw [Option.getD_none, String.toList_ofList]
    decide

/-- The placeholder is no name of letters alone. -/
theorem WorldName.lettered?_ne_placeholder (w : WorldName) :
    w.lettered? ≠ some (String.ofList placeholder) := by
  rw [lettered?]
  split
  · next letters =>
    intro same
    rw [Option.some.inj same, String.toList_ofList] at letters
    exact absurd letters (by decide +kernel)
  · exact nofun

/-- What stands for a world and what follows it are told apart by the slash between them. -/
theorem append_worldTail_inj {label label' : String} {enters enters' : Bool}
    (plain : '/' ∉ label.toList) (plain' : '/' ∉ label'.toList)
    (same : label ++ worldTail enters = label' ++ worldTail enters') :
    label = label' ∧ enters = enters' := by
  have slash : '/' ∈ (worldTail true).toList := by decide
  cases enters <;> cases enters'
  · exact ⟨by simpa [worldTail] using same, rfl⟩
  · have holds : '/' ∈ (label ++ worldTail false).toList := by
      rw [same, String.toList_append]
      exact List.mem_append_right _ slash
    exact absurd (by simpa [worldTail] using holds) plain
  · have holds : '/' ∈ (label' ++ worldTail false).toList := by
      rw [← same, String.toList_append]
      exact List.mem_append_right _ slash
    exact absurd (by simpa [worldTail] using holds) plain'
  · exact ⟨(String.append_left_inj _).1 same, rfl⟩

/-- Requests about worlds are counted together where their series tell the same. -/
theorem WorldRequest.labels_inj {r r' : WorldRequest} :
    r.series.labels = r'.series.labels ↔ r.series = r'.series := by
  refine ⟨fun same => ?_, congrArg _⟩
  obtain ⟨method, path, status⟩ := RequestSeries.mk.inj same
  rw [String.append_assoc, String.append_assoc, String.append_right_inj] at path
  obtain ⟨label, enters⟩ := append_worldTail_inj r.world.slash_notMem_label
    r'.world.slash_notMem_label path
  have world : r.world.lettered? = r'.world.lettered? := by
    have apart := r.world.lettered?_ne_placeholder
    have apart' := r'.world.lettered?_ne_placeholder
    revert label apart apart'
    generalize r.world.lettered? = text?
    generalize r'.world.lettered? = text?'
    cases text? <;> cases text?' <;> simp +contextual [eq_comm]
  exact WorldSeries.ext method world enters status

/-- Count requests about worlds. -/
def Metrics.countWorlds (m : Metrics) (requests : List WorldRequest) : Metrics :=
  requests.foldl (fun m r => m.countRequest r.method r.path r.status) m

theorem Metrics.countWorlds_requests (m : Metrics) (requests : List WorldRequest) :
    (m.countWorlds requests).requests
      = m.requests.bumps (requests.map fun r => r.series.labels) := by
  induction requests generalizing m with
  | nil => rfl
  | cons r rest ih =>
    refine (ih (m.countRequest r.method r.path r.status)).trans ?_
    rw [Metrics.countRequest, r.labels_eq]
    rfl

/-- **What is counted of worlds.** A request about a world counts for the series of its method, its
    route and the class of its status, with the placeholder for the world unless the name of that is
    of letters alone; then the series has the name, and no other world shares it. So however many
    requests for whatever worlds add at most one series for each method, route, class, and name of
    letters alone. -/
theorem worlds_counted (m : Metrics) (requests : List WorldRequest) :
    (∀ s, (m.countWorlds requests).requests.count s
        = m.requests.count s + requests.countP (·.series.labels = s))
      ∧ (∀ r r' : WorldRequest, r.series.labels = r'.series.labels ↔ r.series = r'.series)
      ∧ (m.countWorlds requests).requests.keys.length
        ≤ m.requests.keys.length + (requests.map WorldRequest.series).dedup.length := by
  refine ⟨fun s => ?_, fun r r' => WorldRequest.labels_inj, ?_⟩
  · rw [Metrics.countWorlds_requests, Tally.count_bumps, List.count, List.countP_map]
    rfl
  · obtain ⟨fresh, keys, nodup, came⟩ := Tally.keys_bumps
      (requests.map fun r => r.series.labels) m.requests
    have among : fresh ⊆ (requests.map WorldRequest.series).dedup.map WorldSeries.labels := by
      intro s hs
      obtain ⟨r, hr, rfl⟩ := List.mem_map.1 (came s hs).1
      exact List.mem_map_of_mem (List.mem_dedup.2 (List.mem_map_of_mem hr))
    have few := (nodup.subperm among).length_le
    rw [List.length_map] at few
    rw [Metrics.countWorlds_requests, keys, List.length_append]
    omega

/-- A name of letters alone stays in the labels of both routes. -/
theorem name_in_labels :
    RequestSeries.of "GET" "/worlds/x" 200 = ⟨"GET", "/worlds/x", "2xx"⟩
      ∧ RequestSeries.of "POST" "/worlds/x/enter" 200 = ⟨"POST", "/worlds/x/enter", "2xx"⟩ := by
  have x : WorldName.lettered? ⟨"x", by decide, by decide⟩ = some "x" := by decide +kernel
  have about := WorldRequest.labels_eq ⟨"GET", ⟨"x", by decide, by decide⟩, false, 200⟩
  have entered := WorldRequest.labels_eq ⟨"POST", ⟨"x", by decide, by decide⟩, true, 200⟩
  rw [WorldRequest.series, x] at about entered
  exact ⟨about.trans (by decide), entered.trans (by decide)⟩

end Turnstile
