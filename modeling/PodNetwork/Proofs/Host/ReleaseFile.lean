import Mathlib.Data.List.Basic
import Mathlib.Data.List.Induction
import PodNetwork.Host.Basic
import PodNetwork.Proofs.Text.Cuts

/-! What the lines of an os-release file tell.

How such a file may be written is given by relations between what a line tells and its text, from
the words of a value up to the whole file. Reading undoes every way of writing: one line sets what
it tells and leaves the rest, so a whole file leaves for each field what the last of its lines
tells. -/
namespace PodNetwork.OsRelease

open Text

def isEdge (c : Char) : Bool := isBlank c || c == '"' || c == '\''

/-- Whether a text is a value as it stands: one line, and nothing to be taken off. -/
structure IsValue (value : List Char) : Prop where
  line : '\n' ∉ value
  first : ∀ x ∈ value.head?, isEdge x = false
  last : ∀ x ∈ value.getLast?, isEdge x = false

structure IsWord (word : List Char) : Prop where
  ne : word ≠ []
  solid : ∀ x ∈ word, isEdge x = false

/-- Whether a text holds nothing but blanks within a line. -/
def IsGap (gap : List Char) : Prop := ∀ x ∈ gap, isBlank x = true ∧ x ≠ '\n'

/-- Words in a row, with blanks between neighbours. -/
inductive Spaced : List (List Char) → List Char → Prop
  | nil : Spaced [] []
  | single {word : List Char} (hword : IsWord word) : Spaced [word] word
  | cons {word next gap text : List Char} {words : List (List Char)} (hword : IsWord word)
      (apart : gap ≠ []) (hgap : IsGap gap) (later : Spaced (next :: words) text) :
      Spaced (word :: next :: words) (word ++ (gap ++ text))

inductive Quoted (value : List Char) : List Char → Prop
  | bare : Quoted value value
  | double : Quoted value ('"' :: (value ++ ['"']))
  | single : Quoted value ('\'' :: (value ++ ['\'']))

/-- What a line tells. -/
inductive Entry where
  | id (value : List Char)
  | versionId (value : List Char)
  | idLike (words : List (List Char))
  /-- Nothing that is asked for. -/
  | foreign

def fieldKeys : List (List Char) := ["ID".toList, "VERSION_ID".toList, "ID_LIKE".toList]

/-- The texts that tell the value of a field. -/
inductive Field : Entry → List Char → Prop
  | id {value text : List Char} (plain : IsValue value) (quoted : Quoted value text) :
      Field (.id value) ("ID".toList ++ '=' :: text)
  | versionId {value text : List Char} (plain : IsValue value) (quoted : Quoted value text) :
      Field (.versionId value) ("VERSION_ID".toList ++ '=' :: text)
  | idLike {words : List (List Char)} {value text : List Char} (spaced : Spaced words value)
      (quoted : Quoted value text) : Field (.idLike words) ("ID_LIKE".toList ++ '=' :: text)

/-- The lines that tell something, and those that do not: ones that have no equals sign, or another
key in front of the first. -/
inductive Line : Entry → List Char → Prop
  | field {entry : Entry} {lead text trail : List Char} (hlead : IsGap lead) (htrail : IsGap trail)
      (told : Field entry text) : Line entry (lead ++ (text ++ trail))
  | foreign {text : List Char} (line : '\n' ∉ text)
      (other : ∀ key value, trim text = key ++ '=' :: value → '=' ∉ key → key ∉ fieldKeys) :
      Line .foreign text

/-- The files that tell some entries, one on a line. The last line may be without an ending. -/
inductive File : List Entry → List Char → Prop
  | nil : File [] []
  | last {entry : Entry} {text : List Char} (line : Line entry text) : File [entry] text
  | newline {entry : Entry} {entries : List Entry} {text rest : List Char}
      (line : Line entry text) (later : File entries rest) :
      File (entry :: entries) (text ++ '\n' :: rest)
  | carriageReturn {entry : Entry} {entries : List Entry} {text rest : List Char}
      (line : Line entry text) (later : File entries rest) :
      File (entry :: entries) (text ++ '\r' :: '\n' :: rest)

variable {value text gap : List Char} {entry : Entry}

theorem isBlank_of_isEdge {c : Char} (h : isEdge c = false) : isBlank c = false := by
  simp only [isEdge, Bool.or_eq_false_iff] at h
  exact h.1.1

theorem IsGap.blank (h : IsGap gap) : ∀ x ∈ gap, isBlank x = true := fun x hx => (h x hx).1

theorem IsGap.line (h : IsGap gap) : '\n' ∉ gap := fun hx => (h _ hx).2 rfl

/-- A value has nothing at its ends that belongs to a class of edge characters. -/
theorem IsValue.dropAround_eq (h : IsValue value) {p : Char → Bool}
    (hp : ∀ c, isEdge c = false → p c = false) : dropAround p value = value :=
  dropAround_eq_self (fun x hx => hp x (h.first x hx)) fun x hx => hp x (h.last x hx)

theorem dropAround_quotes {quote : Char} :
    dropAround (· == quote) (quote :: (value ++ [quote])) = dropAround (· == quote) value := by
  have single : ∀ x ∈ [quote], (x == quote) = true := by simp
  exact dropAround_append single single

theorem dropAround_between {quote : Char} {p : Char → Bool} (hq : p quote = false) :
    dropAround p (quote :: (value ++ [quote])) = quote :: (value ++ [quote]) := by
  apply dropAround_eq_self
  · simpa using hq
  · intro x hx
    rw [← List.cons_append, List.getLast?_concat, Option.mem_some_iff] at hx
    exact hx ▸ hq

/-- A value is found again whichever way it is written. -/
theorem unquote_quoted (h : IsValue value) (quoted : Quoted value text) : unquote text = value := by
  have double : dropAround (· == '"') value = value :=
    h.dropAround_eq fun c hc => by simp_all [isEdge]
  have single : dropAround (· == '\'') value = value :=
    h.dropAround_eq fun c hc => by simp_all [isEdge]
  unfold unquote trim
  cases quoted with
  | bare => rw [h.dropAround_eq fun c => isBlank_of_isEdge, double, single]
  | double => rw [dropAround_between rfl, dropAround_quotes, double, single]
  | single => rw [dropAround_between rfl, dropAround_between rfl, dropAround_quotes, single]

theorem Quoted.line (h : Quoted value text) (line : '\n' ∉ value) : '\n' ∉ text := by
  cases h <;> simpa using line

theorem Quoted.last (h : Quoted value text) (plain : IsValue value) :
    ∀ x ∈ text.getLast?, isBlank x = false := by
  intro x hx
  cases h with
  | bare => exact isBlank_of_isEdge (plain.last x hx)
  | double | single =>
    rw [← List.cons_append, List.getLast?_concat, Option.mem_some_iff] at hx
    exact hx ▸ rfl

theorem IsWord.blank {word : List Char} (h : IsWord word) : ∀ x ∈ word, isBlank x = false :=
  fun x hx => isBlank_of_isEdge (h.solid x hx)

theorem IsWord.isValue {word : List Char} (h : IsWord word) : IsValue word where
  line hx := absurd (h.blank _ hx) (by decide)
  first x hx := h.solid x (List.mem_of_head? hx)
  last x hx := h.solid x (List.mem_of_getLast? hx)

variable {words : List (List Char)}

theorem Spaced.ne {word : List Char} (h : Spaced (word :: words) text) : text ≠ [] := by
  cases h with
  | single hword => exact hword.ne
  | cons hword => exact List.append_ne_nil_of_left_ne_nil hword.ne _

theorem Spaced.isValue (h : Spaced words text) : IsValue text := by
  induction h with
  | nil => exact ⟨List.not_mem_nil, nofun, nofun⟩
  | single hword => exact hword.isValue
  | @cons word next gap text words hword apart hgap later ih =>
    refine ⟨?_, ?_, ?_⟩
    · simp only [List.mem_append, not_or]
      exact ⟨hword.isValue.line, hgap.line, ih.line⟩
    · rw [List.head?_append_of_ne_nil _ hword.ne]
      exact hword.isValue.first
    · rw [← List.append_assoc, List.getLast?_append_of_ne_nil _ later.ne]
      exact ih.last

theorem Spaced.words_eq (h : Spaced words text) : Text.words text = words := by
  induction h with
  | nil => rfl
  | single hword => exact words_of_solid hword.ne hword.blank
  | @cons word next gap text words hword apart hgap later ih =>
    obtain ⟨blank, gap, rfl⟩ := List.exists_cons_of_ne_nil apart
    obtain ⟨hblank, hrest⟩ := List.forall_mem_cons.mp hgap.blank
    rw [List.cons_append, words_append_cons hblank, words_of_solid hword.ne hword.blank,
      words_append_blanks hrest, ih]
    rfl

/-- What a line makes of what the lines before it told. -/
def Entry.set : Entry → OsRelease → OsRelease
  | .id value, release => { release with id := .ofList value }
  | .versionId value, release => { release with versionId := .ofList value }
  | .idLike words, release => { release with idLike := words.map String.ofList }
  | .foreign, release => release

theorem cutAt?_field {key lead trail : List Char} (hlead : IsGap lead) (htrail : IsGap trail)
    (hkey : startsSolid key = true) (clean : '=' ∉ key) (plain : IsValue value)
    (quoted : Quoted value text) :
    cutAt? '=' (trim (lead ++ ((key ++ '=' :: text) ++ trail))) = some (key, text) := by
  have ends : endsSolid (key ++ '=' :: text) = true := by
    rw [endsSolid, List.getLast?_append_of_ne_nil _ (List.cons_ne_nil _ _), List.getLast?_cons]
    cases h : text.getLast? with
    | none => rfl
    | some x => simp [quoted.last plain x h]
  have trimmed := (trim_eq_iff (startsSolid_append hkey ('=' :: text)) ends).mpr
    ⟨lead, trail, hlead.blank, htrail.blank, rfl⟩
  rw [trimmed, cutAt?_append_cons clean]

/-- A line sets what it tells. -/
theorem read_line (h : Line entry text) (release : OsRelease) :
    read release text = entry.set release := by
  cases h with
  | field hlead htrail told =>
    unfold read
    cases told with
    | id plain quoted =>
      rw [cutAt?_field hlead htrail (by decide) (by decide) plain quoted]
      simp only [unquote_quoted plain quoted, if_pos, Entry.set]
    | versionId plain quoted =>
      rw [cutAt?_field hlead htrail (by decide) (by decide) plain quoted]
      simp only [unquote_quoted plain quoted, Entry.set]
      exact if_neg (by decide)
    | idLike spaced quoted =>
      rw [cutAt?_field hlead htrail (by decide) (by decide) spaced.isValue quoted]
      simp only [unquote_quoted spaced.isValue quoted, spaced.words_eq, Entry.set]
      rw [if_neg (by decide), if_neg (by decide), if_pos trivial]
  | foreign line other =>
    unfold read
    split
    · rfl
    · next key value cut =>
      obtain ⟨split, clean⟩ := cutAt?_eq_some_iff.mp cut
      have unknown := other key value split clean
      simp only [fieldKeys, List.mem_cons, List.not_mem_nil, or_false, not_or] at unknown
      rw [if_neg unknown.1, if_neg unknown.2.1, if_neg unknown.2.2]
      rfl

theorem Line.line (h : Line entry text) : '\n' ∉ text := by
  cases h with
  | foreign line => exact line
  | field hlead htrail told =>
    have single : ∀ key ∈ fieldKeys, '\n' ∉ key := by decide
    simp only [List.mem_append, not_or]
    refine ⟨hlead.line, ?_, htrail.line⟩
    cases told with
    | id plain quoted | versionId plain quoted =>
      simpa [single] using quoted.line plain.line
    | idLike spaced quoted => simpa using quoted.line spaced.isValue.line

/-- Blanks at the end of a line make no difference. -/
theorem read_append {trail : List Char} (ht : ∀ x ∈ trail, isBlank x = true)
    (release : OsRelease) (line : List Char) :
    read release (line ++ trail) = read release line := by
  have same : trim ([] ++ (line ++ trail)) = trim line := dropAround_append nofun ht
  rw [List.nil_append] at same
  rw [read, same, read]

theorem isBlank_carriageReturn : ∀ x ∈ ['\r'], isBlank x = true := List.forall_mem_singleton.mpr rfl

theorem read_nil (release : OsRelease) : read release [] = release := rfl

/-- A file may as well be cut at its newlines alone: an empty rest tells nothing, and the carriage
return at the end of a line is a blank. -/
theorem parse_eq (content : String) :
    parse content = (segments (· == '\n') content.toList).foldl read {} := by
  have ended (release : OsRelease) (part : List Char) :
      read release (if part.getLast? = some '\r' then part.dropLast else part) =
        read release part := by
    split
    · next h =>
      have whole : part.dropLast ++ ['\r'] = part := List.dropLast_append_getLast? _ h
      rw [← read_append isBlank_carriageReturn, whole]
    · rfl
  obtain ⟨parts, rest, hparts⟩ :=
    (List.eq_nil_or_concat (segments (· == '\n') content.toList)).resolve_left
      (segments_ne_nil _ _)
  rw [List.concat_eq_append] at hparts
  unfold parse lines
  simp only [hparts, List.dropLast_concat, List.getLast?_concat]
  cases rest with
  | nil => simp [List.foldl_map, ended, read_nil]
  | cons c rest => simp [List.foldl_map, ended]

/-- A file leaves what its lines set in turn. -/
theorem foldl_read_file {entries : List Entry} (h : File entries text) (release : OsRelease) :
    (segments (· == '\n') text).foldl read release =
      entries.foldl (fun release entry => entry.set release) release := by
  have clean {entry : Entry} {text : List Char} (line : Line entry text) :
      ∀ x ∈ text, (x == '\n') = false := by
    intro x hx
    rw [beq_eq_false_iff_ne]
    rintro rfl
    exact line.line hx
  induction h generalizing release with
  | nil => rfl
  | last line =>
    rw [segments_of_none (clean line), List.foldl_cons, List.foldl_cons, read_line line]
    rfl
  | newline line later ih =>
    rw [segments_append_cons (clean line) rfl, List.foldl_cons, List.foldl_cons, read_line line, ih]
  | @carriageReturn entry entries text rest line later ih =>
    -- The cut at the newline leaves the carriage return on the line.
    have clean : ∀ x ∈ text ++ ['\r'], (x == '\n') = false := by
      intro x hx
      rcases List.mem_append.mp hx with hx | hx
      · exact clean line x hx
      · rw [List.mem_singleton.mp hx]
        rfl
    have cut : segments (· == '\n') ((text ++ ['\r']) ++ '\n' :: rest) =
        (text ++ ['\r']) :: segments (· == '\n') rest := segments_append_cons clean rfl
    rw [List.append_assoc, List.singleton_append] at cut
    rw [cut, List.foldl_cons, List.foldl_cons, read_append isBlank_carriageReturn,
      read_line line, ih]

def Entry.id? : Entry → Option String
  | .id value => some (.ofList value)
  | _ => none

def Entry.versionId? : Entry → Option String
  | .versionId value => some (.ofList value)
  | _ => none

def Entry.idLike? : Entry → Option (List String)
  | .idLike words => some (words.map String.ofList)
  | _ => none

def lastOf {α : Type} (tell : Entry → Option α) (entries : List Entry) : Option α :=
  (entries.filterMap tell).getLast?

theorem lastOf_append {α : Type} (tell : Entry → Option α) (entries : List Entry) (entry : Entry) :
    lastOf tell (entries ++ [entry]) = (tell entry).or (lastOf tell entries) := by
  unfold lastOf
  rw [List.filterMap_append, List.getLast?_append]
  cases h : tell entry <;> simp [h]

theorem foldl_set (entries : List Entry) :
    entries.foldl (fun release entry => entry.set release) {} =
      { id := (lastOf Entry.id? entries).getD ""
        versionId := (lastOf Entry.versionId? entries).getD ""
        idLike := (lastOf Entry.idLike? entries).getD [] } := by
  -- From the end: the last entry decides its own field, and no other.
  induction entries using List.reverseRecOn with
  | nil => rfl
  | append_singleton entries entry ih =>
    rw [List.foldl_append, ih]
    simp only [lastOf_append]
    cases entry <;> rfl

/-- Reading undoes writing: whatever the order of the lines, their endings, the quotes and the
blanks, and whatever stands in between, a file leaves the last that it tells of each field. -/
theorem parse_file {entries : List Entry} {content : String} (h : File entries content.toList) :
    parse content =
      { id := (lastOf Entry.id? entries).getD ""
        versionId := (lastOf Entry.versionId? entries).getD ""
        idLike := (lastOf Entry.idLike? entries).getD [] } := by
  rw [parse_eq, foldl_read_file h, foldl_set]

theorem Line.foreign_of_cutAt? (line : '\n' ∉ text)
    (h : ∀ cut ∈ cutAt? '=' (trim text), cut.1 ∉ fieldKeys) : Line .foreign text := by
  refine .foreign line fun key value split clean => ?_
  exact h (key, value) (cutAt?_eq_some_iff.mpr ⟨split, clean⟩)

/-- A file with a repeated key and with lines that look like fields. -/
def motley : String :=
  "# ID=none\n" ++ "VERSION=\"41 (Server)\"\r\n" ++ "\tID='first'  \n" ++ "ID=a=b\r\n" ++
    "ID =other\n" ++ "\n" ++ "VERSION_ID=\"41\"\n" ++ "ID_LIKE='rhel \t centos'"

def motleyEntries : List Entry :=
  [.foreign, .foreign, .id "first".toList, .id "a=b".toList, .foreign, .foreign,
    .versionId "41".toList, .idLike ["rhel".toList, "centos".toList]]

theorem parse_motley : File motleyEntries motley.toList ∧
    parse motley = ⟨"a=b", "41", ["rhel", "centos"]⟩ := by
  have word (text : String) (ne : text.toList ≠ [])
      (h : text.toList.all (fun x => !isEdge x) = true) : IsWord text.toList :=
    ⟨ne, fun x hx => by simpa using List.all_eq_true.mp h x hx⟩
  have blanks (text : String) (h : text.toList.all (fun x => isBlank x && x != '\n') = true) :
      IsGap text.toList := fun x hx => by simpa using List.all_eq_true.mp h x hx
  have none : IsGap [] := nofun
  have foreign (text : String) (line : '\n' ∉ text.toList)
      (h : ∀ cut ∈ cutAt? '=' (trim text.toList), cut.1 ∉ fieldKeys) : Line .foreign text.toList :=
    .foreign_of_cutAt? line h
  have words : Spaced ["rhel".toList, "centos".toList] "rhel \t centos".toList :=
    .cons (word "rhel" (by decide) (by decide)) (by decide) (blanks " \t " (by decide))
      (.single (word "centos" (by decide) (by decide)))
  have file : File motleyEntries motley.toList :=
    .newline (foreign "# ID=none" (by decide) (by decide)) <|
    .carriageReturn (foreign "VERSION=\"41 (Server)\"" (by decide) (by decide)) <|
    .newline (.field (blanks "\t" (by decide)) (blanks "  " (by decide))
      (.id (word "first" (by decide) (by decide)).isValue .single)) <|
    .carriageReturn (.field none none (.id (word "a=b" (by decide) (by decide)).isValue .bare)) <|
    .newline (foreign "ID =other" (by decide) (by decide)) <|
    .newline (foreign "" (by decide) (by decide)) <|
    .newline (.field none none
      (.versionId (word "41" (by decide) (by decide)).isValue .double)) <|
    .last (.field none none (.idLike words .single))
  exact ⟨file, (parse_file file).trans (by decide)⟩

end PodNetwork.OsRelease
