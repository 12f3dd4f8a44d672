import PodNetwork.Proofs.Image.Providing

/-! The key of an image stands for the inputs of its build.

The text that is hashed tells the inputs: they are lines, so none of them can run into the next one,
and a commit to compile from is never empty, so it differs from none. What else an engine is given
for a build is computed from the inputs. -/
namespace PodNetwork

namespace Text

/-- Joining lines loses nothing. -/
theorem joinStrings_newline_inj {parts others : List String} (hp : parts ≠ []) (ho : others ≠ [])
    (lp : ∀ part ∈ parts, '\n' ∉ part.toList) (lo : ∀ part ∈ others, '\n' ∉ part.toList) :
    joinStrings "\n" parts = joinStrings "\n" others ↔ parts = others := by
  refine ⟨fun h => ?_, congrArg _⟩
  have lines {parts : List String} (hne : parts ≠ []) (hl : ∀ part ∈ parts, '\n' ∉ part.toList) :
      segments (· == '\n') (joinStrings "\n" parts).toList = parts.map String.toList := by
    rw [joinStrings, String.toList_ofList]
    refine segments_joinWith (by simpa using hne) fun part hpart => ?_
    obtain ⟨s, hs, rfl⟩ := List.mem_map.mp hpart
    exact hl s hs
  have same : parts.map String.toList = others.map String.toList := by
    rw [← lines hp lp, ← lines ho lo, h]
  exact (List.map_inj_right fun _ _ => String.toList_inj.mp).mp same

end Text

namespace Image

open Routine
open Procedure (Event)

namespace Inputs

variable {inputs other : Inputs}

theorem argument_inj {origin other : OvnOrigin} :
    origin.argument = other.argument ↔ origin = other := by
  cases origin <;> cases other <;> decide

/-- The lines of the inputs tell them, if no ref was resolved to nothing. -/
theorem lines_inj (hi : inputs.resolvedRef ≠ some "") (ho : other.resolvedRef ≠ some "") :
    inputs.lines = other.lines ↔ inputs = other := by
  refine ⟨fun h => ?_, congrArg lines⟩
  obtain ⟨revision, arch, origin, resolved, hash⟩ := inputs
  obtain ⟨revision', arch', origin', resolved', hash'⟩ := other
  simp only [lines, List.cons.injEq, String.append_right_inj, argument_inj, and_true] at h
  obtain ⟨rfl, rfl, rfl, hresolved, rfl⟩ := h
  -- The line of the ref would be the same for no ref and for an empty commit.
  have same : resolved = resolved' := by
    cases resolved <;> cases resolved' <;> simp_all
  rw [same]

/-- Inputs as they are collected. -/
structure Regular (inputs : Inputs) : Prop where
  lines : ∀ line ∈ inputs.lines, '\n' ∉ line.toList
  resolved : inputs.resolvedRef ≠ some ""

theorem material_inj (hi : Regular inputs) (ho : Regular other) :
    inputs.material = other.material ↔ inputs = other := by
  have nonempty (inputs : Inputs) : inputs.lines ≠ [] := List.cons_ne_nil _ _
  rw [material, material, Text.joinStrings_newline_inj (nonempty _) (nonempty _) hi.lines ho.lines,
    lines_inj hi.resolved ho.resolved]

/-- Two inputs share a key if they are the same or their texts collide. -/
theorem cacheKey_eq_iff (hi : Regular inputs) (ho : Regular other) :
    inputs.cacheKey = other.cacheKey ↔ inputs = other ∨
      Sha256.Collide Sha256.shortLength (Bytes.ofString inputs.material)
        (Bytes.ofString other.material) := by
  rw [cacheKey, cacheKey, Sha256.short, Sha256.short, Sha256.hexPrefix_eq_iff, Bytes.ofString_inj,
    material_inj hi ho]

end Inputs

/-- Answers that are single lines: the commit of a tree, the name of a machine, and the ref that is
asked for. The commit that a listing of a remote repository tells always is one. -/
structure SingleLines (ref : Option String) (events : List (Event Site)) : Prop where
  head : ∀ tree head, HeadPrinted tree events head → '\n' ∉ (Text.trimmed head.stdout).toList
  machine : ∀ host : HostInfo, (⟨.host .hostInfo, .ok host⟩ : Event Site) ∈ events →
    '\n' ∉ host.architecture.name.toList
  ref : ∀ given ∈ ref, '\n' ∉ given.toList

theorem newline_notMem_platformName {arch : Architecture} (h : '\n' ∉ arch.name.toList) :
    '\n' ∉ arch.platformName.toList := by
  cases arch with
  | x86_64 => decide
  | aarch64 => decide
  | other name => exact h

theorem Gathered.regular {tree : String} {ref : Option String} {events : List (Event Site)}
    {inputs : Inputs} (h : Gathered tree ref events inputs) (single : SingleLines ref events) :
    inputs.Regular := by
  have revision : '\n' ∉ inputs.sourceRevision.toList := by
    rcases h.revision with unknown | ⟨part, hpart, told⟩
    · rw [unknown]
      decide
    · exact told.newline_notMem fun head hhead => single.head tree head (hpart hhead)
  have arch : '\n' ∉ inputs.targetArch.toList := by
    obtain ⟨host, hhost, harch⟩ := h.arch
    rw [harch]
    exact newline_notMem_platformName (single.machine host hhost)
  have resolved : '\n' ∉ (inputs.resolvedRef.getD "").toList ∧ inputs.resolvedRef ≠ some "" := by
    rcases h.resolved with none_given | ⟨given, hgiven, hne, output, hresolved⟩
    · rw [none_given]
      exact ⟨by decide, nofun⟩
    · rw [hresolved, Option.getD_some, ne_eq, Option.some.injEq]
      exact ⟨newline_notMem_listedCommit (single.ref given hgiven), listedCommit_ne_empty hne⟩
  have hash : '\n' ∉ inputs.dockerfileHash.toList := by
    obtain ⟨content, hcontent⟩ := h.dockerfile
    rw [hcontent]
    exact Sha256.newline_notMem_hexPrefix _ _
  have origin : '\n' ∉ inputs.origin.argument.toList := by cases inputs.origin <;> decide
  have behind {label text : String} (hl : '\n' ∉ label.toList) (ht : '\n' ∉ text.toList) :
      '\n' ∉ (label ++ text).toList := by
    rw [String.toList_append, List.mem_append, not_or]
    exact ⟨hl, ht⟩
  refine ⟨?_, resolved.2⟩
  simp only [Inputs.lines, List.forall_mem_cons]
  exact ⟨revision, behind (by decide) arch, behind (by decide) origin,
    behind (by decide) resolved.1, behind (by decide) hash, fun _ hm => absurd hm List.not_mem_nil⟩

namespace Builder

theorem Keyed.regular {builder : Builder} {image : String} {ref : Option String}
    {events : List (Event Site)} {result : Attempt Built} {inputs : Inputs}
    (h : Keyed builder image ref events result inputs) (single : SingleLines ref events) :
    inputs.Regular := by
  obtain ⟨ensuring, gathering, rest, rfl, _, hi, _⟩ := h
  obtain ⟨collecting, part, hg⟩ := gathers_of_runs hi
  have collected : collecting ⊆ ensuring ++ (gathering ++ rest) := fun e he => by simp [part he]
  refine (gathered_of_runs hg).regular ⟨?_, ?_, single.ref⟩
  · exact fun tree head hh => single.head tree head (collected hh)
  · exact fun host hh => single.machine host (collected hh)

/-- What an engine is given if the image of some inputs has to be built. -/
def WouldBuild (builder : Builder) (image : String) (inputs : Inputs) (options : BuildOptions) :
    Prop :=
  ∃ events, Runs (builder.options builder.tree.path (cachedName image inputs.cacheKey) inputs)
    events (.ok options)

/-- Runs whose keys are computed from the same text have the same inputs, and would have an engine
build for the same platform with the same arguments. So runs with different inputs have different
keys, but for a collision of their texts. -/
theorem inputs_eq_of_material_eq {builder other : Builder} {image otherImage : String}
    {ref otherRef : Option String} {events otherEvents : List (Event Site)}
    {result otherResult : Attempt Built} {inputs otherInputs : Inputs}
    (run : Keyed builder image ref events result inputs)
    (otherRun : Keyed other otherImage otherRef otherEvents otherResult otherInputs)
    (single : SingleLines ref events) (otherSingle : SingleLines otherRef otherEvents) :
    (inputs.material = otherInputs.material →
      inputs = otherInputs ∧
        ∀ options otherOptions, WouldBuild builder image inputs options →
          WouldBuild other otherImage otherInputs otherOptions →
            options.platform = otherOptions.platform ∧
              options.buildArgs = otherOptions.buildArgs) ∧
      (inputs ≠ otherInputs → inputs.cacheKey = otherInputs.cacheKey →
        Sha256.Collide Sha256.shortLength (Bytes.ofString inputs.material)
          (Bytes.ofString otherInputs.material)) := by
  have regular := run.regular single
  have otherRegular := otherRun.regular otherSingle
  constructor
  · intro same
    obtain rfl := (Inputs.material_inj regular otherRegular).mp same
    refine ⟨rfl, fun options otherOptions ⟨_, h⟩ ⟨_, h'⟩ => ?_⟩
    obtain ⟨_, heq, _, platform, arguments⟩ := options_ok h
    obtain ⟨_, heq', _, platform', arguments'⟩ := options_ok h'
    obtain rfl := Except.ok.inj heq
    obtain rfl := Except.ok.inj heq'
    exact ⟨platform.trans platform'.symm, arguments.trans arguments'.symm⟩
  · exact fun different same =>
      ((Inputs.cacheKey_eq_iff regular otherRegular).mp same).resolve_left different

theorem singleLines_of_siteAt {head : String} {arch : Architecture} {ref : Option String}
    {events : List (Event Site)} (h : ∀ e ∈ events, e.answer = siteAt head arch e.call)
    (line : '\n' ∉ (Text.trimmed head).toList) (machine : '\n' ∉ arch.name.toList)
    (given : ∀ given ∈ ref, '\n' ∉ given.toList) : SingleLines ref events := by
  refine ⟨fun tree printed hp => ?_, fun host hh => ?_, given⟩
  · have answered := Except.ok.inj (h _ hp)
    have asked : "rev-parse" ∈ ["-C", tree, "rev-parse", "HEAD"] := by simp
    rw [answered]
    dsimp only
    rw [if_pos asked]
    exact line
  · have answered := Except.ok.inj (h _ hh)
    rw [answered]
    exact machine

/-- Prebuilt packages and packages compiled from a ref, at one commit, have different keys. -/
theorem inputs_eq_of_material_eq_refs :
    let prebuilt : Inputs := ⟨"4f1c", "amd64", .prebuilt, none, Sha256.short []⟩
    let compiled : Inputs := ⟨"4f1c", "amd64", .fromSource, some "main", Sha256.short []⟩
    ∃ events otherEvents result otherResult,
      Keyed dockerBuilder "ovn:dev" none events result prebuilt ∧
        Keyed podmanBuilder "registry:5000/ovn" (some "main") otherEvents otherResult compiled ∧
        SingleLines none events ∧ SingleLines (some "main") otherEvents ∧
        prebuilt.material ≠ compiled.material := by
  intro prebuilt compiled
  obtain ⟨events, result, run, answered⟩ :=
    keyed_at (siteAt "4f1c\n" .x86_64) dockerBuilder "ovn:dev" none prebuilt (by decide +kernel)
      (by decide +kernel)
  obtain ⟨otherEvents, otherResult, otherRun, otherAnswered⟩ :=
    keyed_at (siteAt "4f1c\n" .x86_64) podmanBuilder "registry:5000/ovn" (some "main") compiled
      (by decide +kernel) (by decide +kernel)
  have line : '\n' ∉ (Text.trimmed "4f1c\n").toList := by decide +kernel
  have single := @singleLines_of_siteAt _ _ none _ answered line (by decide) nofun
  have otherSingle :=
    @singleLines_of_siteAt _ _ (some "main") _ otherAnswered line (by decide) (by simp)
  refine ⟨events, otherEvents, result, otherResult, run, otherRun, single, otherSingle, ?_⟩
  intro same
  have equal : prebuilt = compiled :=
    ((inputs_eq_of_material_eq run otherRun single otherSingle).1 same).1
  exact nomatch congrArg Inputs.origin equal

end Builder
end Image
end PodNetwork
