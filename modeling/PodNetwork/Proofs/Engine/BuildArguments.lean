import Mathlib.Data.List.Nodup
import Mathlib.Data.String.Basic
import PodNetwork.Engine.Basic
import PodNetwork.Proofs.Image.Providing
import PodNetwork.Proofs.Text.Cuts

/-! What the arguments of a build tell.

An option takes the argument behind it, whatever that looks like, and the options come in a fixed
order: the build arguments first, as many as there are, and the platform behind them. So the
arguments can be read back from the front, and what is read is all that they were made of. -/
namespace PodNetwork

namespace Labels

/-- Whether the keys of a map are in increasing order, each of them once. -/
def Sorted (labels : Labels) : Prop := (labels.map Prod.fst).Pairwise (· < ·)

variable {labels : Labels} {key : String}

theorem mem_keys_put {other value : String} (h : other ∈ (put key value labels).map Prod.fst) :
    other = key ∨ other ∈ labels.map Prod.fst := by
  induction labels with
  | nil => exact .inl (List.mem_singleton.mp h)
  | cons entry rest ih =>
    unfold put at h
    split at h
    · simpa using (List.mem_cons.mp h).imp_right (List.mem_cons_of_mem _)
    · split at h
      · simpa using h
      · rcases List.mem_cons.mp h with rfl | h
        · exact .inr List.mem_cons_self
        · exact (ih h).imp_right (List.mem_cons_of_mem _)

theorem Sorted.put (h : Sorted labels) (value : String) : Sorted (put key value labels) := by
  induction labels with
  | nil => exact List.pairwise_singleton _ _
  | cons entry rest ih =>
    obtain ⟨first, later⟩ := List.pairwise_cons.mp h
    unfold Labels.put
    split
    · next same => exact List.pairwise_cons.mpr ⟨same ▸ first, later⟩
    · split
      · next before =>
        refine List.pairwise_cons.mpr ⟨fun other hother => ?_, h⟩
        rcases List.mem_cons.mp hother with rfl | hother
        · exact before
        · exact before.trans (first other hother)
      · next other notBefore =>
        have behind : entry.1 < key := lt_of_le_of_ne (not_lt.mp notBefore) (Ne.symm other)
        refine List.pairwise_cons.mpr ⟨fun next hnext => ?_, ih later⟩
        rcases mem_keys_put hnext with rfl | hnext
        · exact behind
        · exact first next hnext

theorem ofEntries_eq (entries : List (String × String)) : ofEntries entries =
    entries.foldl (fun labels entry => Labels.put entry.1 entry.2 labels) [] := rfl

theorem sorted_ofEntries (entries : List (String × String)) : Sorted (ofEntries entries) := by
  have added (entries : List (String × String)) (labels : Labels) (h : Sorted labels) :
      Sorted (entries.foldl (fun labels entry => Labels.put entry.1 entry.2 labels) labels) := by
    induction entries generalizing labels with
    | nil => exact h
    | cons entry entries ih => exact ih _ (h.put entry.2)
  rw [ofEntries_eq]
  exact added entries [] List.Pairwise.nil

theorem mem_keys_ofEntries {entries : List (String × String)}
    (h : key ∈ (ofEntries entries).map Prod.fst) : key ∈ entries.map Prod.fst := by
  have added (entries : List (String × String)) (labels : Labels)
      (h : key ∈ (entries.foldl (fun labels entry => Labels.put entry.1 entry.2 labels)
        labels).map Prod.fst) : key ∈ entries.map Prod.fst ∨ key ∈ labels.map Prod.fst := by
    induction entries generalizing labels with
    | nil => exact .inr h
    | cons entry entries ih =>
      rcases ih _ h with h | h
      · exact .inl (List.mem_cons_of_mem _ h)
      · rcases mem_keys_put h with rfl | h
        · exact .inl List.mem_cons_self
        · exact .inr h
  rw [ofEntries_eq] at h
  simpa using added entries [] h

end Labels

namespace BuildOptions

def PlainKeys (options : BuildOptions) : Prop :=
  ∀ key ∈ options.buildArgs.map Prod.fst, '=' ∉ key.toList

def readPair? (text : String) : Option (String × String) :=
  (Text.cutAt? '=' text.toList).map fun (key, value) => (.ofList key, .ofList value)

/-- The build arguments at the front of some arguments, and the arguments behind them. -/
def readPairs? : List String → Option (Labels × List String)
  | "--build-arg" :: text :: rest => do
    let pair ← readPair? text
    let (pairs, rest) ← readPairs? rest
    return (pair :: pairs, rest)
  | rest => some ([], rest)

/-- What is to be built by some arguments. -/
def ofArguments? : List String → Option BuildOptions
  | "build" :: args => do
    let (buildArgs, rest) ← readPairs? args
    match rest with
    | "--platform" :: platform :: "-t" :: image :: "-f" :: dockerfile :: rest =>
      let contextDir ← rest.getLast?
      return { contextDir, dockerfile, image, platform, buildArgs, extraArgs := rest.dropLast }
    | _ => none
  | _ => none

theorem readPair?_eq_some_iff {text key value : String} :
    readPair? text = some (key, value) ↔ text = key ++ "=" ++ value ∧ '=' ∉ key.toList := by
  have letters : (key ++ "=" ++ value).toList = key.toList ++ '=' :: value.toList := by simp
  rw [← String.toList_inj, letters, ← Text.cutAt?_eq_some_iff, readPair?, Option.map_eq_some_iff]
  constructor
  · rintro ⟨⟨a, b⟩, cut, same⟩
    obtain ⟨rfl, rfl⟩ := Prod.mk.inj same
    simpa using cut
  · exact fun cut => ⟨_, cut, by simp⟩

def pairArguments (pairs : Labels) : List String :=
  pairs.flatMap fun (key, value) => ["--build-arg", key ++ "=" ++ value]

/-- Build arguments are read as long as there are any. -/
theorem readPairs?_eq_some_iff {args rest : List String} {pairs : Labels} :
    readPairs? args = some (pairs, rest) ↔ args = pairArguments pairs ++ rest ∧
      (∀ key ∈ pairs.map Prod.fst, '=' ∉ key.toList) ∧
      ∀ text behind, rest ≠ "--build-arg" :: text :: behind := by
  fun_induction readPairs? args generalizing pairs rest with
  | case1 text later ih =>
    simp only [Option.bind_eq_bind, Option.bind_eq_some_iff, Prod.exists, Option.pure_def,
      Option.some.injEq, Prod.mk.injEq, readPair?_eq_some_iff, ih]
    constructor
    · rintro ⟨key, value, ⟨rfl, plain⟩, pairs, rest, ⟨rfl, others, stop⟩, rfl, rfl⟩
      exact ⟨rfl, List.forall_mem_cons.mpr ⟨plain, others⟩, stop⟩
    · rintro ⟨same, plain, stop⟩
      cases pairs with
      | nil => exact absurd same.symm (stop text later)
      | cons pair pairs =>
        obtain ⟨first, others⟩ := List.forall_mem_cons.mp plain
        simp only [pairArguments, List.flatMap_cons, List.cons_append, List.nil_append,
          List.cons.injEq, true_and] at same
        exact ⟨pair.1, pair.2, ⟨same.1, first⟩, pairs, rest, ⟨same.2, others, stop⟩, rfl, rfl⟩
  | case2 args other =>
    simp only [Option.some.injEq, Prod.mk.injEq]
    constructor
    · rintro ⟨rfl, rfl⟩
      exact ⟨rfl, nofun, other⟩
    · rintro ⟨rfl, plain, stop⟩
      cases pairs with
      | nil => exact ⟨rfl, rfl⟩
      | cons pair pairs => exact absurd rfl (other _ _)

def fixedArguments (options : BuildOptions) : List String :=
  "--platform" :: options.platform :: "-t" :: options.image :: "-f" :: options.dockerfile ::
    (options.extraArgs ++ [options.contextDir])

theorem arguments_eq (options : BuildOptions) :
    options.arguments =
      "build" :: (pairArguments options.buildArgs ++ options.fixedArguments) := by
  simp [arguments, pairArguments, fixedArguments]

/-- The platform ends the build arguments, as the flag in front of it is none of theirs. -/
theorem readPairs?_arguments {options : BuildOptions} (plain : options.PlainKeys) :
    readPairs? (pairArguments options.buildArgs ++ options.fixedArguments) =
      some (options.buildArgs, options.fixedArguments) :=
  readPairs?_eq_some_iff.mpr ⟨rfl, plain, by simp [fixedArguments]⟩

/-- Reading accepts the arguments of builds and nothing else. -/
theorem ofArguments?_eq_some_iff {args : List String} {options : BuildOptions} :
    ofArguments? args = some options ↔ args = options.arguments ∧ options.PlainKeys := by
  rw [arguments_eq]
  unfold ofArguments?
  split
  · next args =>
    simp only [Option.bind_eq_bind, Option.bind_eq_some_iff, Prod.exists]
    constructor
    · rintro ⟨pairs, rest, read, h⟩
      obtain ⟨rfl, plain, -⟩ := readPairs?_eq_some_iff.mp read
      split at h
      · next platform image dockerfile rest =>
        obtain ⟨contextDir, last, h⟩ := Option.bind_eq_some_iff.mp h
        obtain rfl := Option.some.inj h
        refine ⟨?_, plain⟩
        rw [fixedArguments, List.dropLast_append_getLast? _ last]
      · cases h
    · rintro ⟨same, plain⟩
      obtain rfl := (List.cons.inj same).2
      refine ⟨_, _, readPairs?_arguments plain, ?_⟩
      simp [fixedArguments]
  · next other =>
    simp only [reduceCtorEq, false_iff, not_and]
    rintro rfl
    exact absurd rfl (other _)

def givenKeys (args : List String) : List String :=
  match readPairs? (args.drop 1) with
  | some (pairs, _) => pairs.map Prod.fst
  | none => []

theorem givenKeys_arguments {options : BuildOptions} (plain : options.PlainKeys) :
    givenKeys options.arguments = options.buildArgs.map Prod.fst := by
  rw [givenKeys, arguments_eq, List.drop_succ_cons, List.drop_zero, readPairs?_arguments plain]

/-- What the arguments of a build tell. -/
structure Faithful (options : BuildOptions) : Prop where
  /-- No other build has these arguments. -/
  told : ∀ other : BuildOptions, other.PlainKeys → options.arguments = other.arguments →
    options = other
  /-- The keys of the build arguments come in order, and each of them once. -/
  keys : (givenKeys options.arguments).Pairwise (· < ·)
  once : ∀ key, (givenKeys options.arguments).count key =
    if options.buildArgs.has key then 1 else 0
  context : options.arguments.getLast? = some options.contextDir

/-- Whatever the values look like, and whatever further arguments there are, the arguments of a
build tell all that it is made of. -/
theorem arguments_faithful {options : BuildOptions} (plain : options.PlainKeys)
    (sorted : options.buildArgs.Sorted) : Faithful options := by
  have read := ofArguments?_eq_some_iff.mpr ⟨rfl, plain⟩
  refine ⟨fun other plainOther same => ?_, ?_, fun key => ?_, ?_⟩
  · have readOther := ofArguments?_eq_some_iff.mpr ⟨same, plainOther⟩
    exact Option.some.inj (read.symm.trans readOther)
  · rw [givenKeys_arguments plain]
    exact sorted
  · have nodup : (options.buildArgs.map Prod.fst).Nodup := sorted.imp fun h => h.ne
    have has : options.buildArgs.has key = true ↔ key ∈ options.buildArgs.map Prod.fst := by
      simp [Labels.has]
    rw [givenKeys_arguments plain, nodup.count]
    simp only [has]
  · rw [arguments, List.getLast?_concat]

/-- The builds that a builder asks for give each argument once, under a key that has no equals
sign. -/
theorem plainKeys_of_options {builder : Image.Builder} {tree image : String}
    {inputs : Image.Inputs} {events : List (Procedure.Event Site)} {options : BuildOptions}
    (h : Routine.Runs (builder.options tree image inputs) events (.ok options)) :
    options.PlainKeys ∧ options.buildArgs.Sorted := by
  obtain ⟨_, same, -, -, given⟩ := Image.Builder.options_ok h
  obtain rfl := Except.ok.inj same
  unfold PlainKeys
  rw [given, Image.Inputs.buildArgs]
  refine ⟨fun key hkey => ?_, Labels.sorted_ofEntries _⟩
  replace hkey := Labels.mem_keys_ofEntries hkey
  generalize inputs.resolvedRef = ref at hkey
  cases ref with
  | none =>
    revert key
    simp only [List.map_cons, List.map_nil, List.append_nil]
    decide
  | some commit =>
    revert key
    simp only [List.map_append, List.map_cons, List.map_nil]
    decide

/-- Options in which everything looks like something else. -/
def disguised : BuildOptions where
  contextDir := "--build-arg"
  dockerfile := "-t"
  image := "-f"
  platform := "--build-arg"
  buildArgs := [("--platform", "A=1"), ("A", "--build-arg"), ("B", "")]
  extraArgs := ["--build-arg", "A=2", "--platform", "linux/arm64"]

theorem arguments_faithful_disguised :
    disguised.PlainKeys ∧ disguised.buildArgs.Sorted ∧ Faithful disguised := by
  have plain : disguised.PlainKeys := by
    unfold PlainKeys
    decide
  have sorted : disguised.buildArgs.Sorted := by
    unfold Labels.Sorted
    decide
  exact ⟨plain, sorted, arguments_faithful plain sorted⟩

end BuildOptions
end PodNetwork
