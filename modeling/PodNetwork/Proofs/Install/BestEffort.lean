import PodNetwork.Proofs.Install.Redeploying
import PodNetwork.Proofs.Procedure.Agreement

/-! Steps of an install that may fail without any effect on the rest of it.

The DNS of the cluster is patched first, and the pods are awaited almost at the end. Two installs
that are answered alike, but for the calls of these two steps, make the same other calls and end in
the same way. What went wrong in the two steps makes up the warnings. -/
namespace PodNetwork

open Routine
open Procedure (Event Alike keep keep_eq_nil only_call)

/-- The calls on whose answers the course of an install may depend. The others patch the DNS, list
pods, and let the time between two listings pass. -/
def SiteCall.isEssential : SiteCall → Bool
  | .cluster (.getConfigMap ..) | .cluster (.updateConfigMap ..) | .cluster (.listPods ..)
  | .pause _ => false
  | _ => true

/-- The calls that are essential or have a single answer. -/
def SiteCall.IsSteady (c : SiteCall) : Prop :=
  c.isEssential = true ∨ ∃ duration, c = .pause duration

def SiteCall.PatchesDns : SiteCall → Prop
  | .cluster (.getConfigMap ..) | .cluster (.updateConfigMap ..) => True
  | _ => False

theorem SiteCall.PatchesDns.not_isEssential {c : SiteCall} (h : c.PatchesDns) :
    c.isEssential = false := by
  unfold PatchesDns at h
  split at h
  · rfl
  · rfl
  · exact h.elim

theorem SiteCall.IsSteady.not_patchesDns {c : SiteCall} (h : c.IsSteady) : ¬c.PatchesDns := by
  intro patches
  rcases h with h | ⟨duration, rfl⟩
  · rw [patches.not_isEssential] at h
    cases h
  · exact patches

theorem SiteCall.IsSteady.ne_listPods {c : SiteCall} (h : c.IsSteady) (ns selector : String) :
    c ≠ .cluster (.listPods ns selector) := by
  rintro rfl
  rcases h with h | ⟨duration, h⟩ <;> cases h

theorem SiteCall.IsSteady.subsingleton {c : SiteCall} (h : c.IsSteady) :
    c.isEssential = true ∨ Subsingleton c.Answer := by
  rcases h with h | ⟨duration, rfl⟩
  · exact .inl h
  · exact .inr (inferInstanceAs (Subsingleton Unit))

theorem SiteCall.IsLocal.isSteady {c : SiteCall} (h : c.IsLocal) : c.IsSteady := by
  cases c with
  | cluster call => exact absurd rfl (h call)
  | pause duration => exact .inr ⟨duration, rfl⟩
  | _ => exact .inl rfl

namespace Site

/-- The events on whose answers the course of an install may depend. -/
def essentials (events : List (Event Site)) : List (Event Site) := keep SiteCall.isEssential events

@[simp] theorem essentials_append (events more : List (Event Site)) :
    essentials (events ++ more) = essentials events ++ essentials more := Procedure.keep_append

theorem essentials_eq_nil {events : List (Event Site)}
    (h : ∀ e ∈ events, SiteCall.isEssential e.call = false) : essentials events = [] :=
  keep_eq_nil h

end Site

theorem Manifest.Action.isEssential_call (dir : String) (action : Manifest.Action) :
    SiteCall.isEssential (action.call dir) = true := by
  cases action <;> rfl

namespace Install

open Readiness (Poll Waits)

/-- The ways in which the DNS of a cluster stays as it is: its Corefile could not be read, there was
none, or it could not be written. -/
inductive Unpatched (events : List (Event Site)) : Prop where
  | unread {e : Error}
      (answered : (⟨.cluster (.getConfigMap systemNamespace Corefile.configMap), .error e⟩ :
        Event Site) ∈ events)
  | missing {data : Labels}
      (answered : (⟨.cluster (.getConfigMap systemNamespace Corefile.configMap), .ok data⟩ :
        Event Site) ∈ events) (absent : data.get? Corefile.key = none)
  | unwritten {data : Labels} {e : Error}
      (answered : (⟨.cluster (.updateConfigMap systemNamespace Corefile.configMap data),
        .error e⟩ : Event Site) ∈ events)

/-- Whether no listing showed ready pods, so that a wait for them ends at its deadline. -/
def TimedOut (events : List (Event Site)) : Prop :=
  ∀ listing : Listing,
    (⟨.cluster (.listPods OvnKubernetes.ns ""), listing⟩ : Event Site) ∈ events →
      Readiness.isReady listing = false

section

variable {events more : List (Event Site)}

theorem Unpatched.mono (h : Unpatched events) (sub : events ⊆ more) : Unpatched more := by
  cases h with
  | unread answered => exact .unread (sub answered)
  | missing answered absent => exact .missing (sub answered) absent
  | unwritten answered => exact .unwritten (sub answered)

theorem unpatched_append : Unpatched (events ++ more) ↔ Unpatched events ∨ Unpatched more := by
  constructor
  · intro unpatched
    cases unpatched with
    | unread answered => exact (List.mem_append.mp answered).imp .unread .unread
    | missing answered absent =>
      exact (List.mem_append.mp answered).imp (.missing · absent) (.missing · absent)
    | unwritten answered => exact (List.mem_append.mp answered).imp .unwritten .unwritten
  · rintro (unpatched | unpatched)
    · exact unpatched.mono (List.subset_append_left events more)
    · exact unpatched.mono (List.subset_append_right events more)

theorem not_unpatched (h : ∀ e ∈ events, ¬SiteCall.PatchesDns e.call) : ¬Unpatched events := by
  intro unpatched
  cases unpatched with
  | unread answered => exact h _ answered trivial
  | missing answered => exact h _ answered trivial
  | unwritten answered => exact h _ answered trivial

theorem timedOut_append : TimedOut (events ++ more) ↔ TimedOut events ∧ TimedOut more := by
  simp only [TimedOut, List.mem_append]
  exact ⟨fun h => ⟨fun l hl => h l (.inl hl), fun l hl => h l (.inr hl)⟩,
    fun h l hl => hl.elim (h.1 l) (h.2 l)⟩

/-- Nothing is shown to be ready if no pods are listed. -/
theorem timedOut_of_unlisted
    (h : ∀ e ∈ events, e.call ≠ .cluster (.listPods OvnKubernetes.ns "")) : TimedOut events :=
  fun _ listed => absurd rfl (h _ listed)

end

section Patch

variable {policy : Corefile.Policy} {server : String} {events : List (Event Site)}
  {patched : Attempt Unit}

/-- A patch of the DNS fails softly, and only in one of the three ways. -/
theorem patch_cases (h : Runs (Corefile.patch policy server) events patched) :
    patched = .ok () ∧ ¬Unpatched events ∨
      ∃ message, patched = .error (.dnsUnpatched message) ∧ Unpatched events := by
  rcases runs_bind_iff.mp h with ⟨e, hread, rfl⟩ | ⟨reading, data, writing, rfl, hread, hwrite⟩
  · obtain ⟨inner, hcall, he⟩ := runs_mapError_iff.mp hread
    obtain rfl := Procedure.runs_call_iff.mp hcall
    cases inner with
    | ok data => cases he
    | error inner =>
      cases he
      exact .inr ⟨_, rfl, .unread List.mem_cons_self⟩
  obtain rfl := Procedure.runs_call_iff.mp (runs_mapError_ok_iff.mp hread)
  cases hkey : data.get? Corefile.key with
  | none =>
    rw [hkey] at hwrite
    obtain ⟨rfl, rfl⟩ := runs_throw_iff.mp hwrite
    exact .inr ⟨_, rfl, .missing (by simp) hkey⟩
  | some corefile =>
    rw [hkey] at hwrite
    obtain ⟨inner, hcall, rfl⟩ := runs_mapError_iff.mp hwrite
    obtain rfl := Procedure.runs_call_iff.mp hcall
    cases inner with
    | error inner => exact .inr ⟨_, rfl, .unwritten (List.mem_cons_of_mem _ List.mem_cons_self)⟩
    | ok =>
      refine .inl ⟨rfl, fun unpatched => ?_⟩
      cases unpatched with
      | unread answered => rcases List.mem_pair.mp answered with h | h <;> cases h
      | unwritten answered => rcases List.mem_pair.mp answered with h | h <;> cases h
      | missing answered absent =>
        rcases List.mem_pair.mp answered with h | h <;> cases h
        rw [hkey] at absent
        cases absent

theorem only_patch : Only SiteCall.PatchesDns (Corefile.patch policy server) := by
  refine Only.bind (Only.mapError (only_attempt (only_call trivial)) _) fun data => ?_
  split
  · exact only_throw
  · exact Only.mapError (only_attempt (only_call trivial)) _

/-- The calls of a patch are left out of account. -/
theorem essentials_patch (h : Runs (Corefile.patch policy server) events patched) :
    Site.essentials events = [] :=
  Site.essentials_eq_nil fun e he => (h.only only_patch e he).not_isEssential

/-- No pods are listed by a patch. -/
theorem timedOut_patch (h : Runs (Corefile.patch policy server) events patched) :
    TimedOut events := by
  apply timedOut_of_unlisted
  intro e he hc
  have patches : SiteCall.PatchesDns e.call := h.only only_patch e he
  rw [hc] at patches
  exact patches

end Patch

section Wait

variable {timeout now : Nat} {polls : List Poll} {ended : Attempt Unit}

theorem essentials_polls (polls : List Poll) :
    Site.essentials (polls.flatMap (Poll.events OvnKubernetes.ns "")) = [] := by
  apply Site.essentials_eq_nil
  intro e he
  obtain ⟨poll, -, he⟩ := List.mem_flatMap.mp he
  rcases List.mem_pair.mp he with rfl | rfl <;> rfl

/-- A wait fails exactly if it shows no ready pods. -/
theorem timedOut_polls (h : Waits OvnKubernetes.ns "" timeout now polls ended) :
    TimedOut (polls.flatMap (Poll.events OvnKubernetes.ns "")) ↔ ended ≠ .ok () := by
  rw [ne_eq, h.ok_iff]
  constructor
  · rintro unready ⟨poll, hpoll, shown⟩
    have listed : (⟨.cluster (.listPods OvnKubernetes.ns ""), poll.listing⟩ : Event Site) ∈
        polls.flatMap (Poll.events OvnKubernetes.ns "") :=
      List.mem_flatMap.mpr ⟨poll, hpoll, List.mem_cons_of_mem _ List.mem_cons_self⟩
    rw [unready _ listed] at shown
    cases shown
  · intro none_shown listing listed
    obtain ⟨poll, hpoll, he⟩ := List.mem_flatMap.mp listed
    have same : listing = poll.listing := by
      rcases List.mem_pair.mp he with h | h <;> cases h
      rfl
    rw [same]
    exact Bool.eq_false_iff.mpr fun shown => none_shown ⟨poll, hpoll, shown⟩

end Wait

namespace OvnInstaller

/-- The part of an install between the two steps that may fail. -/
def rollout (installer : OvnInstaller) (cluster : ClusterTarget) : Routine Unit := do
  let options := installer.options
  let tree ← installer.source.ensure
  let built ← installer.builder.buildOrReuse options.buildImage options.ovnGitRef
  installer.publishing built.image
  installer.render tree cluster
  Manifest.applyAll (manifestDir tree) (.ovnKubernetes options.ovsNode) cluster.name
    installer.roles

theorem install_eq_rollout (installer : OvnInstaller) (cluster : ClusterTarget) :
    installer.install cluster = (do
      let report : Report := { cluster := cluster.name, cni := .ovnKubernetes }
      let report ← softly report "coredns" <|
        Corefile.patch installer.policy installer.options.dnsServer
      installer.rollout cluster
      let report ← softly report "readiness" installer.waitReady
      Site.deleteDaemonset systemNamespace OvnKubernetes.kubeProxy
      return report) := by
  simp only [install_eq, prepare, provision, deploy, rollout, bind_assoc, pure_bind]

section

variable {installer : OvnInstaller} {cluster : ClusterTarget} {events others : List (Event Site)}
  {result other : Attempt Report}

theorem essential_of_applyAll {dir : String} {plan : Manifest.Plan} {roles : RoleAssignment}
    {result : Attempt Unit}
    (h : Runs (Manifest.applyAll dir plan cluster.name roles) events result) :
    ∀ e ∈ events, SiteCall.isEssential e.call = true := by
  obtain ⟨actions, -, follows⟩ := Manifest.keeps_applyAll.follows _ _ h
  intro e he
  obtain ⟨action, -, hcall⟩ :=
    List.mem_map.mp (follows.calls_prefix.subset (List.mem_map_of_mem he))
  rw [← hcall]
  exact action.isEssential_call dir

/-- No call of the middle part has its answer left out of account, if it has more than one. -/
theorem steady_of_rollout {ended : Attempt Unit}
    (h : Runs (installer.rollout cluster) events ended) :
    ∀ e ∈ events, SiteCall.IsSteady e.call := by
  let Steady (events : List (Event Site)) : Prop := ∀ e ∈ events, SiteCall.IsSteady e.call
  have append (before after : List (Event Site)) (hb : Steady before) (ha : Steady after) :
      Steady (before ++ after) := List.forall_mem_append.mpr ⟨hb, ha⟩
  have steady {α : Type} {routine : Routine α} (h : Only SiteCall.IsLocal routine) :
      Every Steady routine := h.every fun _ isLocal e he => (isLocal e he).isSteady
  have prepares {α : Type} {routine : Routine α} (h : Only SiteCall.IsPreparation routine) :
      Every Steady routine := steady (h.mono fun _ => SiteCall.IsPreparation.isLocal)
  have ensures : Every Steady installer.source.ensure :=
    prepares (installer.source.only_ensure.mono fun _ => SiteCall.IsErrand.isPreparation)
  suffices whole : Every Steady (installer.rollout cluster) from whole _ _ h
  refine Every.bind append ensures fun tree => ?_
  refine Every.bind append (prepares (installer.builder.only_buildOrReuse _ _)) fun built => ?_
  refine Every.bind append (prepares (installer.only_publishing _)) fun _ => ?_
  refine Every.bind append (steady (installer.only_render tree cluster)) fun _ => ?_
  exact fun _ _ h e he => .inl (essential_of_applyAll h e he)

/-- The middle parts of two installs that are answered alike are the same. -/
theorem rollout_eq {all othersAll : List (Event Site)} {ended otherEnded : Attempt Unit}
    (h : Runs (installer.rollout cluster) events ended)
    (h' : Runs (installer.rollout cluster) others otherEnded)
    (part : Site.essentials events <+: all) (part' : Site.essentials others <+: othersAll)
    (alike : Alike all othersAll) : events = others ∧ ended = otherEnded := by
  obtain ⟨more, rfl⟩ := part
  obtain ⟨moreOthers, rfl⟩ := part'
  exact h.eq_of_alike h' (fun e he => (steady_of_rollout h e he).subsingleton) alike

def installReport (cluster : ClusterTarget) (patched ended : Attempt Unit) : Report where
  cluster := cluster.name
  cni := .ovnKubernetes
  warnings := (warning? "coredns" patched).toList ++ (warning? "readiness" ended).toList

theorem soften_eq_of_patch {policy : Corefile.Policy} {server : String} {patched : Attempt Unit}
    (h : Runs (Corefile.patch policy server) events patched) (report : Report) :
    report.soften "coredns" patched = .ok { report with
      warnings := report.warnings ++ (warning? "coredns" patched).toList } := by
  rcases patch_cases h with ⟨rfl, -⟩ | ⟨message, rfl, -⟩
  · simp [Report.soften, warning?]
  · rfl

/-- The ways in which an install can go. -/
inductive Installation (installer : OvnInstaller) (cluster : ClusterTarget) :
    List (Event Site) → Attempt Report → Prop where
  | stopped {dns rolling : List (Event Site)} {patched : Attempt Unit} {e : Error}
      (patch : Runs (Corefile.patch installer.policy installer.options.dnsServer) dns patched)
      (rolled : Runs (installer.rollout cluster) rolling (.error e)) :
      Installation installer cluster (dns ++ rolling) (.error e)
  | finished {dns rolling : List (Event Site)} {patched ended : Attempt Unit}
      {polls : List Poll} (answer : Attempt Unit)
      (patch : Runs (Corefile.patch installer.policy installer.options.dnsServer) dns patched)
      (rolled : Runs (installer.rollout cluster) rolling (.ok ()))
      (awaited : Waits OvnKubernetes.ns "" installer.options.readinessTimeout 0 polls ended) :
      Installation installer cluster
        (dns ++ (rolling ++ (polls.flatMap (Poll.events OvnKubernetes.ns "") ++
          [⟨.cluster proxyRemoval, answer⟩])))
        (answer.map fun _ => installReport cluster patched ended)

/-- Neither of the two steps ever ends an install. -/
theorem installation_of_runs (positive : 0 < installer.options.pollInterval)
    (h : Runs (installer.install cluster) events result) :
    Installation installer cluster events result := by
  rw [install_eq_rollout] at h
  rcases runs_bind_iff.mp h with ⟨e, hd, -⟩ | ⟨dns, report, _, rfl, hd, h⟩ <;>
    obtain ⟨patched, patch, hreport⟩ := runs_softly_iff.mp hd <;>
    rw [soften_eq_of_patch patch] at hreport
  · cases hreport
  obtain rfl := Except.ok.inj hreport
  rcases runs_bind_iff.mp h with ⟨e, rolled, rfl⟩ | ⟨rolling, _, _, rfl, rolled, h⟩
  · exact .stopped patch rolled
  rcases runs_bind_iff.mp h with ⟨e, hw, -⟩ | ⟨waiting, report, _, rfl, hw, h⟩ <;>
    obtain ⟨ended, hwait, hreport⟩ := runs_softly_iff.mp hw <;>
    obtain ⟨polls, rfl, awaited⟩ := Readiness.waits_of_runs positive hwait <;>
    rw [soften_eq_of_waits awaited] at hreport
  · cases hreport
  obtain rfl := Except.ok.inj hreport
  rcases runs_bind_iff.mp h with ⟨e, hr, rfl⟩ | ⟨last, _, _, rfl, hr, hp⟩ <;>
    obtain rfl := Procedure.runs_call_iff.mp hr
  · exact .finished (.error e) patch rolled awaited
  · obtain ⟨rfl, rfl⟩ := runs_pure_iff.mp hp
    exact .finished (.ok ()) patch rolled awaited

/-- The report of an install tells apart what became of the two steps, and tells nothing else. -/
structure Reports (installer : OvnInstaller) (cluster : ClusterTarget)
    (events : List (Event Site)) (report : Report) : Prop where
  cluster_eq : report.cluster = cluster.name
  cni_eq : report.cni = .ovnKubernetes
  warnings_eq : ∃ dns readiness : Option Warning,
    report.warnings = dns.toList ++ readiness.toList ∧
    (dns.isSome = true ↔ Unpatched events) ∧
    (∀ w ∈ dns, ∃ message, w = ⟨"coredns", (Error.dnsUnpatched message).text⟩) ∧
    (readiness.isSome = true ↔ TimedOut events) ∧
    ∀ w ∈ readiness, w = ⟨"readiness",
      (Error.notReady OvnKubernetes.ns "" installer.options.readinessTimeout).text⟩

theorem reports_of_finished {dns rolling : List (Event Site)} {patched ended : Attempt Unit}
    {polls : List Poll} (answer : Attempt Unit)
    (patch : Runs (Corefile.patch installer.policy installer.options.dnsServer) dns patched)
    (rolled : Runs (installer.rollout cluster) rolling (.ok ()))
    (awaited : Waits OvnKubernetes.ns "" installer.options.readinessTimeout 0 polls ended) :
    Reports installer cluster (dns ++ (rolling ++ (polls.flatMap (Poll.events OvnKubernetes.ns "")
      ++ [⟨.cluster proxyRemoval, answer⟩]))) (installReport cluster patched ended) := by
  have steady := steady_of_rollout rolled
  have rolling_unpatched : ¬Unpatched rolling :=
    not_unpatched fun e he => (steady e he).not_patchesDns
  have polls_unpatched : ¬Unpatched (polls.flatMap (Poll.events OvnKubernetes.ns "")) := by
    refine not_unpatched fun e he patches => ?_
    obtain ⟨poll, -, he⟩ := List.mem_flatMap.mp he
    rcases List.mem_pair.mp he with rfl | rfl <;> exact patches
  have removal_unpatched : ¬Unpatched [⟨.cluster proxyRemoval, answer⟩] := by
    refine not_unpatched fun e he patches => ?_
    obtain rfl := List.mem_singleton.mp he
    exact patches
  have rolling_timedOut : TimedOut rolling :=
    timedOut_of_unlisted fun e he => (steady e he).ne_listPods OvnKubernetes.ns ""
  have removal_timedOut : TimedOut [⟨.cluster proxyRemoval, answer⟩] := by
    refine timedOut_of_unlisted fun e he hc => ?_
    obtain rfl := List.mem_singleton.mp he
    cases hc
  refine ⟨rfl, rfl, warning? "coredns" patched, warning? "readiness" ended, rfl, ?_, ?_, ?_, ?_⟩
  · simp only [unpatched_append, rolling_unpatched, polls_unpatched, removal_unpatched, or_false]
    rcases patch_cases patch with ⟨rfl, fine⟩ | ⟨message, rfl, unpatched⟩
    · simp [warning?, fine]
    · simp [warning?, unpatched]
  · intro w hw
    rcases patch_cases patch with ⟨rfl, -⟩ | ⟨message, rfl, -⟩
    · cases hw
    · exact ⟨message, (Option.some.inj hw).symm⟩
  · simp only [timedOut_append, timedOut_patch patch, rolling_timedOut, removal_timedOut,
      timedOut_polls awaited, true_and, and_true]
    cases ended <;> simp [warning?]
  · intro w hw
    cases ended with
    | ok => cases hw
    | error e =>
      obtain rfl := awaited.error_eq
      exact (Option.some.inj hw).symm

/-- What becomes of the DNS and of the wait for the pods makes no difference to an install. Two
installs that are answered alike in all other calls make the same other calls. Either both end with
the same error, or both succeed and have their warnings tell the difference. -/
theorem install_eq_of_alike (positive : 0 < installer.options.pollInterval)
    (h : Runs (installer.install cluster) events result)
    (h' : Runs (installer.install cluster) others other)
    (alike : Alike (Site.essentials events) (Site.essentials others)) :
    Site.essentials events = Site.essentials others ∧
      ((∃ e, result = .error e ∧ other = .error e) ∨
        ∃ report otherReport, result = .ok report ∧ other = .ok otherReport ∧
          Reports installer cluster events report ∧
          Reports installer cluster others otherReport) := by
  have removal_kept (answer : Attempt Unit) :
      Site.essentials [⟨.cluster proxyRemoval, answer⟩] = [⟨.cluster proxyRemoval, answer⟩] := rfl
  rcases installation_of_runs positive h with
    ⟨patch, rolled⟩ | ⟨answer, patch, rolled, awaited⟩ <;>
  rcases installation_of_runs positive h' with
    ⟨patch', rolled'⟩ | ⟨answer', patch', rolled', awaited'⟩ <;>
  simp only [Site.essentials_append, essentials_patch patch, essentials_patch patch',
    essentials_polls, removal_kept, List.nil_append] at alike ⊢
  · obtain ⟨rfl, hended⟩ :=
      rollout_eq rolled rolled' (List.prefix_refl _) (List.prefix_refl _) alike
    cases hended
    exact ⟨rfl, .inl ⟨_, rfl, rfl⟩⟩
  · obtain ⟨-, hended⟩ :=
      rollout_eq rolled rolled' (List.prefix_refl _) (List.prefix_append _ _) alike
    cases hended
  · obtain ⟨-, hended⟩ :=
      rollout_eq rolled rolled' (List.prefix_append _ _) (List.prefix_refl _) alike
    cases hended
  · obtain ⟨rfl, -⟩ :=
      rollout_eq rolled rolled' (List.prefix_append _ _) (List.prefix_append _ _) alike
    obtain rfl : answer = answer' := alike.drop.head_eq
    refine ⟨rfl, ?_⟩
    cases answer with
    | error e => exact .inl ⟨e, rfl, rfl⟩
    | ok =>
      exact .inr ⟨_, _, rfl, rfl, reports_of_finished _ patch rolled awaited,
        reports_of_finished _ patch' rolled' awaited'⟩

end

/-- A site that does not show its Corefile and at which no pods ever get ready. -/
def grudgingSite : (c : SiteCall) → c.Answer
  | .cluster (.getConfigMap ..) => .error (.api .connection)
  | .cluster (.listPods ..) => ⟨.ok [], 0⟩
  | c => Site.obliging c

theorem grudgingSite_eq {c : SiteCall} (h : c.isEssential = true) :
    grudgingSite c = Site.obliging c := by
  cases c with
  | cluster call =>
    cases call
    case getConfigMap => cases h
    case listPods => cases h
    all_goals rfl
  | _ => rfl

theorem install_eq_of_alike_grudging :
    let installer := { publishingInstaller with
      options := { publishingInstaller.options with readinessTimeout := 5, pollInterval := 2 } }
    let obliged := Procedure.recorded (I := Site) Site.obliging (installer.install alpha).run
    let grudged := Procedure.recorded (I := Site) grudgingSite (installer.install alpha).run
    (0 < installer.options.pollInterval ∧
      Alike (Site.essentials obliged.1) (Site.essentials grudged.1)) ∧
    (obliged.2.toOption = some ⟨"alpha", .ovnKubernetes, []⟩ ∧
      (grudged.2.toOption.map fun report => report.warnings.map Warning.step) =
        some ["coredns", "readiness"]) ∧
    Site.essentials obliged.1 = Site.essentials grudged.1 ∧
      ((∃ e, obliged.2 = .error e ∧ grudged.2 = .error e) ∨
        ∃ report otherReport, obliged.2 = .ok report ∧ grudged.2 = .ok otherReport ∧
          Reports installer alpha obliged.1 report ∧
          Reports installer alpha grudged.1 otherReport) := by
  intro installer obliged grudged
  have alike : Alike (Site.essentials obliged.1) (Site.essentials grudged.1) := by
    apply Procedure.alike_of_answers Site.obliging
    · intro e he
      exact Procedure.answer_of_mem_recorded e (List.mem_filter.mp he).1
    · intro e he
      obtain ⟨recorded, essential⟩ := List.mem_filter.mp he
      exact (Procedure.answer_of_mem_recorded e recorded).trans (grudgingSite_eq essential)
  exact ⟨⟨by decide, alike⟩, by decide +kernel, install_eq_of_alike (by decide)
    (Procedure.runs_recorded (I := Site) Site.obliging _)
    (Procedure.runs_recorded (I := Site) grudgingSite _) alike⟩

end OvnInstaller
end Install
end PodNetwork
