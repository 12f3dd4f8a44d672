import Mathlib.Data.List.Forall2
import PodNetwork.Host.Local
import PodNetwork.Proofs.Text.Cuts

/-! What the report of an unsuccessful command has of its output.

A stream is read byte by byte. What is kept of it at any time is told by the bytes read so far: the
lines that have ended, of which the last ones are kept, and what follows the last newline. So no
line is lost but the oldest ones, and none is kept twice, wherever the stream ends. -/
namespace PodNetwork

namespace Host

def IsEnded (line : Bytes) : Prop := ∃ body, newline ∉ body ∧ line = body ++ [newline]

/-- Whether these are the lines of a stream: those that newlines end, and what is left behind the
last newline if there is anything. -/
def IsLines (stream : Bytes) (lines : List Bytes) : Prop :=
  ∃ ended rest, (∀ line ∈ ended, IsEnded line) ∧ newline ∉ rest ∧
    stream = ended.flatten ++ rest ∧ lines = ended ++ if rest = [] then [] else [rest]

/-- Whether this is the text of a line: what its bytes say, with a replacement for those that say
nothing, less the newlines and carriage returns at the end. -/
def IsText (line : Bytes) (text : String) : Prop :=
  ∃ ends, line.decodeLossy = text ++ ends ∧ (∀ c ∈ ends.toList, c = '\n' ∨ c = '\r') ∧
    ∀ c, text.toList.getLast? = some c → c ≠ '\n' ∧ c ≠ '\r'

/-- Whether this is the end of a stream: the texts of its last two hundred lines, or of all its
lines if they are fewer. -/
def IsTail (stream : Bytes) (kept : List String) : Prop :=
  ∃ lost lines, IsLines stream (lost ++ lines) ∧ List.Forall₂ IsText lines kept ∧
    kept.length = min (lost ++ lines).length 200

def isLineEnd (c : Char) : Bool := c == '\n' || c == '\r'

theorem isLineEnd_iff {c : Char} : isLineEnd c = true ↔ c = '\n' ∨ c = '\r' := by
  simp [isLineEnd]

theorem toList_lineText (line : Bytes) :
    (lineText line).toList = Text.dropLast isLineEnd line.decodeLossy.toList := by
  rw [Bytes.decodeLossy, String.toList_ofList]
  exact String.toList_ofList

theorem isText_lineText (line : Bytes) : IsText line (lineText line) := by
  obtain ⟨trail, split, trailing⟩ := Text.exists_dropLast isLineEnd line.decodeLossy.toList
  refine ⟨.ofList trail, ?_, ?_, ?_⟩
  · rw [← String.toList_inj, String.toList_append, toList_lineText, String.toList_ofList]
    exact split
  · intro c hc
    rw [String.toList_ofList] at hc
    exact isLineEnd_iff.mp (trailing c hc)
  · intro c hc
    rw [toList_lineText, Text.dropLast, List.getLast?_reverse] at hc
    have kept := List.head?_dropWhile_not isLineEnd line.decodeLossy.toList.reverse
    rw [hc] at kept
    simpa [isLineEnd] using kept

def lastLines (lines : List String) : List String := lines.drop (lines.length - tailLength)

theorem length_lastLines (lines : List String) :
    (lastLines lines).length = min lines.length tailLength := by
  simp [lastLines]
  omega

/-- One more line takes the place of the oldest one if there is no room for it. -/
theorem lastLines_append_singleton (lines : List String) (line : String) :
    lastLines (lines ++ [line]) =
      (if (lastLines lines).length = tailLength then (lastLines lines).drop 1
        else lastLines lines) ++ [line] := by
  rw [length_lastLines]
  unfold lastLines
  split
  · have long : lines.length + 1 - tailLength = lines.length - tailLength + 1 := by omega
    have within : lines.length - tailLength + 1 ≤ lines.length := by
      unfold tailLength at *
      omega
    rw [List.length_append, List.length_singleton, List.drop_drop, long,
      List.drop_append_of_le_length within]
  · have short : lines.length + 1 - tailLength = 0 := by omega
    have short' : lines.length - tailLength = 0 := by omega
    simp [short, short']

namespace Reading

/-- What a reading stands for: lines that have ended, the last of which are kept, and bytes behind
the last newline. -/
structure Holds (reading : Reading) (ended : List Bytes) (rest : Bytes) : Prop where
  ends : ∀ line ∈ ended, IsEnded line
  unended : newline ∉ rest
  line : reading.line = rest.reverse
  kept : reading.kept = lastLines (ended.map lineText)

variable {reading : Reading} {ended : List Bytes} {rest : Bytes}

theorem keep_eq {line : Bytes} (h : reading.kept = lastLines (ended.map lineText))
    (hline : reading.line = line.reverse) :
    reading.keep = { kept := lastLines ((ended ++ [line]).map lineText) } := by
  rw [List.map_append, List.map_singleton, lastLines_append_singleton, ← h, keep, hline,
    List.reverse_reverse]

/-- A byte ends the line under way or becomes its last one. -/
theorem Holds.next (h : reading.Holds ended rest) (b : UInt8) :
    ∃ ended' rest', (reading.next b).Holds ended' rest' ∧
      ended'.flatten ++ rest' = ended.flatten ++ rest ++ [b] := by
  have grown : b :: reading.line = (rest ++ [b]).reverse := by simp [h.line]
  by_cases hb : b = newline
  · have kept : reading.next b =
        { kept := lastLines ((ended ++ [rest ++ [b]]).map lineText) } := by
      rw [Reading.next, if_pos hb]
      exact keep_eq h.kept grown
    refine ⟨ended ++ [rest ++ [b]], [], ⟨?_, List.not_mem_nil, ?_, ?_⟩, by simp⟩
    · intro l hl
      rcases List.mem_append.mp hl with hl | hl
      · exact h.ends l hl
      · exact ⟨rest, h.unended, by rw [List.mem_singleton.mp hl, hb]⟩
    · rw [kept, List.reverse_nil]
    · rw [kept]
  · refine ⟨ended, rest ++ [b], ⟨h.ends, ?_, ?_, ?_⟩, by simp⟩
    · simp [h.unended, Ne.symm hb]
    · rw [Reading.next, if_neg hb, grown]
    · rw [Reading.next, if_neg hb, h.kept]

/-- Whatever is read, the reading stands for all of it. -/
theorem Holds.foldl (h : reading.Holds ended rest) (stream : Bytes) :
    ∃ ended' rest', (stream.foldl Reading.next reading).Holds ended' rest' ∧
      ended'.flatten ++ rest' = ended.flatten ++ rest ++ stream := by
  induction stream generalizing reading ended rest with
  | nil => exact ⟨ended, rest, h, by simp⟩
  | cons b stream ih =>
    obtain ⟨ended₁, rest₁, h₁, read₁⟩ := h.next b
    obtain ⟨ended₂, rest₂, h₂, read₂⟩ := ih h₁
    exact ⟨ended₂, rest₂, h₂, by rw [read₂, read₁]; simp⟩

theorem Holds.finish (h : reading.Holds ended rest) :
    IsTail (ended.flatten ++ rest) reading.finish := by
  let lines := ended ++ if rest = [] then [] else [rest]
  have finished : reading.finish = lastLines (lines.map lineText) := by
    by_cases hrest : rest = []
    · simp [Reading.finish, h.line, h.kept, lines, hrest]
    · have under : reading.line ≠ [] := by simpa [h.line] using hrest
      rw [Reading.finish, if_neg under, keep_eq h.kept h.line]
      simp [lines, hrest]
  refine ⟨lines.take (lines.length - tailLength), lines.drop (lines.length - tailLength),
    ?_, ?_, ?_⟩
  · rw [List.take_append_drop]
    exact ⟨ended, rest, h.ends, h.unended, rfl, rfl⟩
  · rw [finished, lastLines, List.length_map, ← List.map_drop, List.forall₂_map_right_iff,
      List.forall₂_same]
    exact fun line _ => isText_lineText line
  · rw [finished, length_lastLines, List.take_append_drop, List.length_map, tailLength]

end Reading

theorem isTail_streamTail (stream : Bytes) : IsTail stream (streamTail stream) := by
  have start : Reading.Holds {} [] [] := ⟨nofun, nofun, rfl, rfl⟩
  obtain ⟨ended, rest, h, read⟩ := start.foldl stream
  rw [List.flatten_nil, List.nil_append, List.nil_append] at read
  exact read ▸ h.finish

/-! ### There is only one end of a stream -/

theorem IsText.eq_lineText {line : Bytes} {text : String} (h : IsText line text) :
    text = lineText line := by
  obtain ⟨trail, same, trailing, last⟩ := h
  rw [← String.toList_inj, toList_lineText, same, String.toList_append,
    Text.dropLast_append fun c hc => isLineEnd_iff.mpr (trailing c hc)]
  rcases List.eq_nil_or_concat text.toList with empty | ⟨init, c, full⟩
  · rw [empty]
    rfl
  · rw [List.concat_eq_append] at full
    have other := last c (by simp [full])
    rw [full, Text.dropLast_append_singleton (by simpa [isLineEnd] using other)]

/-- The part of a list up to a first element tells that part and the rest apart. -/
theorem append_cons_inj {α : Type} [DecidableEq α] {x : α} {before other after later : List α}
    (hb : x ∉ before) (ho : x ∉ other) (same : before ++ x :: after = other ++ x :: later) :
    before = other ∧ after = later := by
  have place (before after : List α) (h : x ∉ before) :
      (before ++ x :: after).idxOf x = before.length := by
    rw [List.idxOf_append_of_notMem h, List.idxOf_cons_self, Nat.add_zero]
  have length : before.length = other.length := by
    rw [← place before after hb, ← place other later ho, same]
  obtain ⟨front, back⟩ := List.append_inj same length
  exact ⟨front, (List.cons.inj back).2⟩

theorem IsLines.unique {stream : Bytes} {lines others : List Bytes} (h : IsLines stream lines)
    (h' : IsLines stream others) : lines = others := by
  obtain ⟨ended, rest, hended, hrest, rfl, rfl⟩ := h
  obtain ⟨ended', rest', hended', hrest', same, rfl⟩ := h'
  -- The first line of either list is all that is up to the first newline.
  induction ended generalizing ended' with
  | nil =>
    cases ended' with
    | nil =>
      rw [List.flatten_nil, List.nil_append, List.nil_append] at same
      rw [same]
    | cons line later =>
      obtain ⟨body, -, rfl⟩ := hended' line List.mem_cons_self
      rw [List.flatten_nil, List.nil_append] at same
      simp [same] at hrest
  | cons line later ih =>
    obtain ⟨body, hbody, rfl⟩ := hended line List.mem_cons_self
    cases ended' with
    | nil =>
      rw [List.flatten_nil, List.nil_append] at same
      simp [← same] at hrest'
    | cons line' later' =>
      obtain ⟨body', hbody', rfl⟩ := hended' line' List.mem_cons_self
      simp only [List.flatten_cons, List.append_assoc, List.cons_append, List.nil_append] at same
      obtain ⟨rfl, behind⟩ := append_cons_inj hbody hbody' same
      have rest_eq := ih (fun l hl => hended l (List.mem_cons_of_mem _ hl)) later'
        (fun l hl => hended' l (List.mem_cons_of_mem _ hl)) behind
      rw [List.cons_append, List.cons_append, rest_eq]

theorem IsTail.unique {stream : Bytes} {kept other : List String} (h : IsTail stream kept)
    (h' : IsTail stream other) : kept = other := by
  obtain ⟨lost, lines, hlines, texts, length⟩ := h
  obtain ⟨lost', lines', hlines', texts', length'⟩ := h'
  have same := hlines.unique hlines'
  have counted : lines.length = lines'.length := by
    rw [texts.length_eq, texts'.length_eq, length, length', same]
  obtain ⟨-, rfl⟩ := List.append_inj' same counted
  clear hlines hlines' length length' same counted
  induction texts generalizing other with
  | nil =>
    cases texts'
    rfl
  | cons first _ ih =>
    cases texts' with
    | cons first' rest' => rw [first.eq_lineText, first'.eq_lineText, ih rest']

/-- The lines that are kept of a stream are its end. -/
theorem isTail_iff {stream : Bytes} {kept : List String} :
    IsTail stream kept ↔ kept = streamTail stream := by
  refine ⟨fun h => h.unique (isTail_streamTail stream), ?_⟩
  rintro rfl
  exact isTail_streamTail stream

end Host

namespace Local

/-- A long command as errors tell of it, with the directory that it is run in if that is not the
caller's. -/
def longLine (dir : Option String) (program : String) (args : List String) : String :=
  match dir with
  | none => commandLine program args
  | some dir => "(cd " ++ dir ++ ") " ++ commandLine program args

variable {σ : Type} {system : (c : SystemCall) → σ → c.Answer × σ} {s : σ} {dir : Option String}
  {program : String} {args : List String} {ending : Ending}

/-- A long command makes one request of the system, and its answer is the outcome. -/
theorem run_runCommand (session : Session) :
    (runCommand dir program args session).run (I := System) system s =
      let answered := system (.spawn program args dir none) s
      let line := longLine dir program args
      ((outcome line none (streamed line) answered.1, session), answered.2) := by
  cases dir <;> rfl

theorem streamed_of_failed (failed : ending.status.success = false) (line : String) :
    streamed line ending = .error (.command line (exitMessage ending.status)
      (Text.joinStrings "\n"
        (Host.streamTail ending.stdout ++ Host.streamTail ending.stderr))) := by
  rw [streamed, failed]
  rfl

/-- An unsuccessful long command is told of with the end of what it wrote: of its output first, and
then of its error messages. -/
theorem runCommand_tail
    (ended : (system (.spawn program args dir none) s).1 = .ok (some ending))
    (failed : ending.status.success = false) (session : Session) :
    ∃ out err, Host.IsTail ending.stdout out ∧ Host.IsTail ending.stderr err ∧
      ((runCommand dir program args session).run (I := System) system s).1 =
        (.error (.command (longLine dir program args) (exitMessage ending.status)
          (Text.joinStrings "\n" (out ++ err))), session) := by
  refine ⟨_, _, Host.isTail_iff.mpr rfl, Host.isTail_iff.mpr rfl, ?_⟩
  rw [run_runCommand]
  dsimp only
  rw [ended, ← streamed_of_failed failed]
  rfl

/-- A system on which every program ends in the same way. -/
def endingSystem (ending : Ending) (call : SystemCall) (s : Unit) : call.Answer × Unit :=
  match call with
  | .spawn .. => (.ok (some ending), s)
  | .isThere _ => (false, s)
  | .kindOf _ | .readFile _ | .writeFile .. | .makeDirectories _ | .removeFile _
  | .removeTree _ => (.error .notFound, s)
  | .print _ | .pause _ => ((), s)
  | .setting _ => (none, s)
  | .wire _ call => (call.unreached, s)

/-- The end of a program that wrote two hundred and one lines, with bytes among them that are no
text, and three more lines of error messages, the last of which nothing ends. -/
def longEnding : Ending where
  stdout := Bytes.ofString "first\r\n" ++ (List.replicate 199 [0x78, 0x0A]).flatten ++
    [0x61, 0xFF, 0xC3, 0x0D, 0x0D, 0x0A]
  stderr := Bytes.ofString "late\r\n\nrest"
  status := .exited 2

theorem runCommand_tail_longEnding :
    let out := List.replicate 199 "x" ++ ["a\uFFFD\uFFFD"]
    let err := ["late", "", "rest"]
    (endingSystem longEnding (.spawn "make" ["all"] (some "/work") none) ()).1 =
        .ok (some longEnding) ∧
      longEnding.status.success = false ∧
      Host.IsTail longEnding.stdout out ∧ Host.IsTail longEnding.stderr err ∧
      ((runCommand (some "/work") "make" ["all"] {}).run (I := System)
          (endingSystem longEnding) ()).1 =
        (.error (.command "(cd /work) make all" "exited with exit status: 2"
          (Text.joinStrings "\n" (out ++ err))), {}) := by
  intro out err
  have ended : (endingSystem longEnding (.spawn "make" ["all"] (some "/work") none) ()).1 =
      .ok (some longEnding) := rfl
  have failed : longEnding.status.success = false := rfl
  have hout : Host.IsTail longEnding.stdout out := Host.isTail_iff.mpr (by decide +kernel)
  have herr : Host.IsTail longEnding.stderr err := Host.isTail_iff.mpr (by decide +kernel)
  have line : longLine (some "/work") "make" ["all"] = "(cd /work) make all" := by decide +kernel
  have message : exitMessage longEnding.status = "exited with exit status: 2" := by
    decide +kernel
  obtain ⟨_, _, hout', herr', told⟩ := runCommand_tail ended failed {}
  rw [hout'.unique hout, herr'.unique herr, line, message] at told
  exact ⟨ended, failed, hout, herr, told⟩

end Local
end PodNetwork
