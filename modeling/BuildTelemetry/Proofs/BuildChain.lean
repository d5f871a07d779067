import Mathlib.Data.List.Induction
import BuildTelemetry.Exporter.Basic
import BuildTelemetry.Host.Snapshot
import BuildTelemetry.Proofs.Labels

/-!
# The chain of builds

A job puts its builds in order, and a loop reads them from the last one back to the first. It goes
on as long as there is a build before, and has no other end.

1. A stable sort by number (`StablySorted`, `stablySorted_mergeSort`).
2. The builds of a job are linked one after the other (`LinkedBuild.previous?_link`).
3. Where the loop stands after some steps (`JobSnapshot.loopAt`), and what a walk reads
   (`walk_job`).
4. A build keeps the number of the job that it was made for. The number leads to the job for as long
   as the job exists, listed or not, and nowhere then (`Build.leadsTo`).
5. The chain of a new job is complete and in order, it ends, and its builds lead to the job
   (`build_chain_complete`).
-/

namespace BuildTelemetry

/-! ## 1. The order -/

/-- A list put in the order of some numbers. Items of one number keep their order. -/
structure StablySorted {α : Type} (number : α → UInt64) (items sorted : List α) : Prop where
  perm : sorted.Perm items
  ordered : sorted.Pairwise fun a b => number a ≤ number b
  stable : ∀ n, sorted.filter (fun a => number a == n) = items.filter fun a => number a == n

theorem stablySorted_mergeSort {α : Type} (number : α → UInt64) (items : List α) :
    StablySorted number items (items.mergeSort fun a b => number a ≤ number b) := by
  have htrans (a b c : α) : decide (number a ≤ number b) → decide (number b ≤ number c) →
      decide (number a ≤ number c) := by
    simp only [decide_eq_true_eq]
    exact UInt64.le_trans
  have htotal (a b : α) : decide (number a ≤ number b) || decide (number b ≤ number a) := by
    simp only [Bool.or_eq_true, decide_eq_true_eq]
    exact UInt64.le_total ..
  have hperm := List.mergeSort_perm items fun a b => number a ≤ number b
  refine ⟨hperm, ?_, fun n => ?_⟩
  · simpa using List.pairwise_mergeSort htrans htotal items
  · -- the items of one number are in order as they stand, so sorting keeps them as they stand
    have hsame : (items.filter fun a => number a == n).Pairwise fun a b => number a ≤ number b := by
      refine List.pairwise_iff_forall_sublist.mpr fun {a b} hab => ?_
      have hof (c : α) (hc : c ∈ [a, b]) : number c = n :=
        beq_iff_eq.mp (List.mem_filter.mp (hab.subset hc)).2
      rw [hof a (by simp), hof b (by simp)]
      exact UInt64.le_refl n
    have hkept := List.sublist_mergeSort htrans htotal (by simpa using hsame)
      (List.filter_sublist (p := fun a => number a == n) (l := items))
    have hfiltered := hkept.filter fun a => number a == n
    simp only [List.filter_filter, Bool.and_self] at hfiltered
    exact (hfiltered.eq_of_length (hperm.filter _).length_eq.symm).symm

/-! ## 2. Linked builds -/

namespace LinkedBuild

variable (jobId : Nat) (runs : List Run)

theorem link_append_singleton (run : Run) :
    link jobId (runs ++ [run]) = push jobId (link jobId runs) run := List.foldl_append

/-- Linking makes the build of each run, in their order. -/
theorem map_build_link : (link jobId runs).map build = runs.map (·.build jobId) := by
  induction runs using List.reverseRecOn with
  | nil => rfl
  | append_singleton runs run ih =>
    rw [link_append_singleton, push, List.map_append, List.map_append, ih]
    cases (link jobId runs).getLast? <;> rfl

/-- The links of the last build lead to all the others. -/
theorem visited_getLast?_link :
    ((link jobId runs).getLast?.map visited).getD [] = ((link jobId runs).map build).reverse := by
  induction runs using List.reverseRecOn with
  | nil => rfl
  | append_singleton runs run ih =>
    rw [link_append_singleton, push, List.getLast?_concat, List.map_append, List.reverse_append,
      ← ih]
    cases (link jobId runs).getLast? <;> rfl

/-- From the newest build backwards each link leads to the next build, and the last one nowhere. -/
theorem previous?_link (k : Nat) :
    (link jobId runs).reverse[k]?.bind previous? = (link jobId runs).reverse[k + 1]? := by
  induction runs using List.reverseRecOn generalizing k with
  | nil => rfl
  | append_singleton runs run ih =>
    rw [link_append_singleton, push, List.reverse_append]
    cases k with
    | zero =>
      have hlast : (link jobId runs).reverse[0]? = (link jobId runs).getLast? := by
        rw [← List.head?_eq_getElem?, List.head?_reverse]
      rw [List.reverse_singleton, List.singleton_append, List.getElem?_cons_succ, hlast]
      cases (link jobId runs).getLast? <;> rfl
    | succ k => exact ih k

end LinkedBuild

/-! ## 3. The loop -/

/-- The build that the loop over the builds of a job looks at after some steps, none once the loop
has ended. -/
def JobSnapshot.loopAt (s : JobSnapshot) : Nat → Reading (Option LinkedBuild)
  | 0 => s.lastBuild
  | k + 1 => do
    match ← s.loopAt k with
    | none => return none
    | some b => b.previous

/-- Every step of the loop follows a link. -/
theorem loopAt_succ {s : JobSnapshot} {k : Nat} {current : Option LinkedBuild}
    (h : s.loopAt k = .ok current)
    (hcurrent : ∀ b ∈ current, BuildAccessor.previous ∉ b.build.failing) :
    s.loopAt (k + 1) = .ok (current.bind LinkedBuild.previous?) := by
  rw [JobSnapshot.loopAt, h]
  cases current with
  | none => rfl
  | some b => exact readThrough_of_not_mem (hcurrent b rfl) _

/-- A walk back from a build reads all builds that its links lead to. -/
theorem walkBack_older (b : LinkedBuild) (h : ∀ c ∈ b.visited, BuildAccessor.previous ∉ c.failing) :
    b.build.walkBack b.older = .ok b.visited := by
  induction b with
  | first b => exact Build.walkBack_of_none (readThrough_of_not_mem (h b List.mem_cons_self) _)
  | after b p ih =>
    obtain ⟨hb, hrest⟩ := List.forall_mem_cons.mp h
    have hread : b.previous (LinkedBuild.after b p).older = .ok (some (p.build, p.older)) := by
      refine (LinkedBuild.previous_build (.after b p)).trans ?_
      rw [LinkedBuild.previous, readThrough_of_not_mem hb]
      rfl
    refine (Build.walkBack_of_some hread).trans ?_
    rw [ih hrest]
    rfl

/-- A walk over a job reads all its builds. -/
theorem walk_job {s : JobSnapshot} (hlast : JobAccessor.lastBuild ∉ s.failing)
    (hprevious : ∀ b ∈ s.job.builds, BuildAccessor.previous ∉ b.failing) :
    s.job.walk = .ok s.job.builds.reverse := by
  have hread : s.job.lastBuild = .ok (s.last?.map fun b => (b.build, b.older)) := by
    rw [JobSnapshot.lastBuild_job, JobSnapshot.lastBuild, readThrough_of_not_mem hlast]
    rfl
  have hbuilds : s.job.builds.reverse = (s.last?.map LinkedBuild.visited).getD [] :=
    s.newestFirst_job
  rw [Job.walk, hread, hbuilds]
  cases hlink : s.last? with
  | none => rfl
  | some b =>
    refine walkBack_older b fun c hc => hprevious c (List.mem_reverse.mp ?_)
    rw [hbuilds, hlink]
    exact hc

/-! ## 4. The job of a build -/

/-- A change to the jobs of the host. -/
inductive HostChange where
  | added (id : Nat) (job : Job)
  | removed (id : Nat)
  | unlisted (id : Nat)

/-- Neither comes a job under the number, nor does the one that has it go. -/
def HostChange.Keeps (id : Nat) : HostChange → Prop
  | .added other _ => other ≠ id
  | .removed other => other ≠ id
  | .unlisted _ => True

/-- No job comes under the number. -/
def HostChange.LeavesFree (id : Nat) : HostChange → Prop
  | .added other _ => other ≠ id
  | .removed _ => True
  | .unlisted _ => True

namespace Host

def change (h : Host) : HostChange → Host
  | .added id job => h.addJob id job
  | .removed id => h.removeJob id
  | .unlisted id => h.unlistJob id

def changeAll (h : Host) (changes : List HostChange) : Host := changes.foldl change h

/-- The first job of a number among some jobs without those of another. -/
theorem find?_filter_ne (hosted : List HostedJob) (other id : Nat) :
    (hosted.filter fun x => x.id != other).find? (fun x => x.id == id) =
      if other = id then none else hosted.find? fun x => x.id == id := by
  rw [List.find?_filter]
  split
  · next hsame =>
    simp [hsame]
  · next hother =>
    congr 1
    funext x
    by_cases hx : x.id = id
    · simp [hx, Ne.symm hother]
    · simp [hx]

/-- The first job of a number among those of another. -/
theorem find?_filter_eq (hosted : List HostedJob) (other id : Nat) :
    (hosted.filter fun x => x.id == other).find? (fun x => x.id == id) =
      if other = id then hosted.find? (fun x => x.id == id) else none := by
  rw [List.find?_filter]
  split
  · next hsame =>
    simp [hsame, beq_eq_decide]
  · next hother =>
    refine List.find?_eq_none.mpr fun x _ hx => hother ?_
    simp only [beq_iff_eq, decide_eq_true_eq] at hx
    exact hx.1.symm.trans hx.2

/-- A job is found among those that are listed, else among the others. -/
theorem job?_eq (h : Host) (id : Nat) :
    h.job? id = ((h.hosted.find? fun x => x.id == id).or
      (h.unlisted.find? fun x => x.id == id)).map HostedJob.job := by
  rw [job?, existing, List.find?_append]

theorem job?_addJob {h : Host} {id : Nat} (hfree : h.job? id = none) (j : Job) :
    (h.addJob id j).job? id = some j := by
  rw [job?_eq, Option.map_eq_none_iff, Option.or_eq_none_iff] at hfree
  simp [job?_eq, addJob, List.find?_append, hfree.1]

theorem job?_addJob_of_ne (h : Host) {other id : Nat} (hne : other ≠ id) (j : Job) :
    (h.addJob other j).job? id = h.job? id := by
  simp [job?_eq, addJob, List.find?_append, hne]

theorem job?_removeJob (h : Host) (other id : Nat) :
    (h.removeJob other).job? id = if other = id then none else h.job? id := by
  rw [job?_eq, job?_eq, removeJob, find?_filter_ne, find?_filter_ne]
  split <;> rfl

/-- A job exists whether or not it is listed. -/
theorem job?_unlistJob (h : Host) (other id : Nat) :
    (h.unlistJob other).job? id = h.job? id := by
  rw [job?_eq, job?_eq, unlistJob, List.find?_append, find?_filter_ne, find?_filter_eq]
  split <;> simp

theorem job?_change (h : Host) {change : HostChange} {id : Nat} (hkeeps : change.Keeps id) :
    (h.change change).job? id = h.job? id := by
  cases change with
  | added other job => exact h.job?_addJob_of_ne hkeeps job
  | removed other => exact (h.job?_removeJob other id).trans (if_neg hkeeps)
  | unlisted other => exact h.job?_unlistJob other id

/-- A number leads to its job for as long as the job exists. -/
theorem job?_changeAll {h : Host} {id : Nat} {j : Job} (hjob : h.job? id = some j)
    {changes : List HostChange} (hchanges : ∀ change ∈ changes, change.Keeps id) :
    (h.changeAll changes).job? id = some j := by
  induction changes generalizing h with
  | nil => exact hjob
  | cons change changes ih =>
    obtain ⟨hfirst, hrest⟩ := List.forall_mem_cons.mp hchanges
    exact ih ((h.job?_change hfirst).trans hjob) hrest

theorem job?_change_of_free {h : Host} {id : Nat} (hfree : h.job? id = none)
    {change : HostChange} (hchange : change.LeavesFree id) : (h.change change).job? id = none := by
  cases change with
  | added other job => exact (h.job?_addJob_of_ne hchange job).trans hfree
  | removed other =>
    rw [Host.change, job?_removeJob, hfree, ite_self]
  | unlisted other => exact (h.job?_unlistJob other id).trans hfree

/-- A number leads nowhere once its job is gone. -/
theorem job?_changeAll_of_free {h : Host} {id : Nat} (hfree : h.job? id = none)
    {changes : List HostChange} (hchanges : ∀ change ∈ changes, change.LeavesFree id) :
    (h.changeAll changes).job? id = none := by
  induction changes generalizing h with
  | nil => exact hfree
  | cons change changes ih =>
    obtain ⟨hfirst, hrest⟩ := List.forall_mem_cons.mp hchanges
    exact ih (job?_change_of_free hfree hfirst) hrest

end Host

/-- A build leads to the job of a number from when the job is there until it is gone, and nowhere
then. The job may be listed or not, and the host may change in any other way before and after. -/
structure Build.LeadsTo (b : Build) (id : Nat) (j : Job) : Prop where
  alive : ∀ (h : Host) (changes : List HostChange), h.job? id = none →
    (∀ change ∈ changes, change.Keeps id) →
      (((h.addJob id j).changeAll changes).completion b).parent = .ok (some j)
  dropped : ∀ (h : Host) (changes : List HostChange), (∀ change ∈ changes, change.LeavesFree id) →
    (((h.removeJob id).changeAll changes).completion b).parent = .ok none

/-- A build leads to the job that it was made for. -/
theorem Build.leadsTo {b : Build} {id : Nat} (hjobId : b.jobId = id)
    (hparent : BuildAccessor.parent ∉ b.failing) (j : Job) : b.LeadsTo id j := by
  have hread (h : Host) : (h.completion b).parent = .ok (h.job? id) :=
    hjobId ▸ readThrough_of_not_mem hparent _
  constructor
  · intro h changes hfree hchanges
    rw [hread, Host.job?_changeAll (Host.job?_addJob hfree j) hchanges]
  · intro h changes hchanges
    rw [hread, Host.job?_changeAll_of_free ((h.job?_removeJob id id).trans (if_pos rfl)) hchanges]

/-! ## 5. The chain of a new job -/

namespace JobSnapshot

variable (id : Nat) (info : JobInfo) (runs : List Run) (failing : List JobAccessor)

/-- The builds of a new job are made for it, from its runs in the order of their numbers. -/
theorem map_build_new :
    (new id info runs failing).builds.map (·.build) =
      (runs.mergeSort fun a b => a.info.number ≤ b.info.number).map (·.build id) :=
  LinkedBuild.map_build_link id _

/-- A build of a new job is one of its runs, made for the job. -/
theorem exists_run_of_mem_new {b : LinkedBuild} (hb : b ∈ (new id info runs failing).builds) :
    ∃ run ∈ runs, b.build = run.build id := by
  have hbuild := List.mem_map_of_mem (f := (·.build)) hb
  rw [map_build_new] at hbuild
  obtain ⟨run, hrun, heq⟩ := List.mem_map.mp hbuild
  exact ⟨run, (List.mergeSort_perm _ _).mem_iff.mp hrun, heq.symm⟩

/-- The attributes of the builds of a new job are those of its runs in order. -/
theorem stablySorted_new :
    StablySorted BuildInfo.number (runs.map Run.info)
      ((new id info runs failing).builds.map (·.build.info)) := by
  have hinfos : (new id info runs failing).builds.map (·.build.info) =
      (runs.map Run.info).mergeSort fun a b => a.number ≤ b.number := by
    have hsort := List.map_mergeSort (f := Run.info) (l := runs)
      (r := fun a b => a.info.number ≤ b.info.number) (s := fun a b => a.number ≤ b.number)
      fun _ _ _ _ => rfl
    have hbuilds := congrArg (List.map Build.info) (map_build_new id info runs failing)
    rw [List.map_map, List.map_map] at hbuilds
    exact hbuilds.trans hsort
  exact hinfos ▸ stablySorted_mergeSort ..

/-- The links of a new job lead to all its builds. -/
theorem builds_job_new :
    (new id info runs failing).job.builds = (new id info runs failing).builds.map (·.build) := by
  have hvisited := LinkedBuild.visited_getLast?_link id
    (runs.mergeSort fun a b => a.info.number ≤ b.info.number)
  exact (congrArg List.reverse hvisited).trans (List.reverse_reverse _)

/-- The loop over a new job visits its builds one by one, from the last one back to the first. -/
theorem loopAt_new (hlast : JobAccessor.lastBuild ∉ failing)
    (hprevious : ∀ run ∈ runs, BuildAccessor.previous ∉ run.failing) (k : Nat) :
    (new id info runs failing).loopAt k = .ok (new id info runs failing).builds.reverse[k]? := by
  induction k with
  | zero =>
    rw [← List.head?_eq_getElem?, List.head?_reverse]
    exact readThrough_of_not_mem hlast _
  | succ k ih =>
    refine (loopAt_succ ih fun b hb => ?_).trans (congrArg _ (LinkedBuild.previous?_link id _ k))
    obtain ⟨run, hrun, hbuild⟩ := exists_run_of_mem_new id info runs failing
      (List.mem_reverse.mp (List.mem_of_getElem? hb))
    rw [hbuild]
    exact hprevious run hrun

end JobSnapshot

/-- The chain of a job that is made under a number from the attributes of its builds: the builds are
in order, the loop over the job visits each of them, from the last one back to the first, and ends,
they lead to the job, and they are found by number. -/
structure JobSnapshot.Chains (s : JobSnapshot) (id : Nat) (runs : List BuildInfo) : Prop where
  sorted : StablySorted BuildInfo.number runs (s.builds.map (·.build.info))
  counted : s.job.buildCount = .ok runs.length
  visits : ∀ k, s.loopAt k = .ok s.builds.reverse[k]?
  ends : ∀ k, s.loopAt k = .ok none ↔ runs.length ≤ k
  read : s.job.builds = s.builds.map (·.build)
  walked : s.job.walk = .ok s.job.builds.reverse
  parents : ∀ b ∈ s.builds, b.build.LeadsTo id s.job
  found : ∀ n b, s.build? n = some b ↔ b.build.info.number = n ∧
    ∃ before behind, s.builds = before ++ b :: behind ∧ ∀ c ∈ before, c.build.info.number ≠ n
  missing : ∀ n, s.build? n = none ↔ ∀ run ∈ runs, run.number ≠ n

/-- Builds with any attributes, in any order and with any numbers twice, make a job whose chain is
complete, in order and finite, and whose builds lead to it. -/
theorem build_chain_complete (id : Nat) (info : JobInfo) (runs : List BuildInfo) :
    (JobSnapshot.new id info (runs.map (⟨·, []⟩)) []).Chains id runs := by
  generalize hgiven : runs.map (⟨·, []⟩ : BuildInfo → Run) = given
  have hinfos : given.map Run.info = runs := by
    rw [← hgiven, List.map_map]
    exact List.map_id _
  have hhealthy : ∀ run ∈ given, run.failing = [] := by
    intro run hrun
    rw [← hgiven] at hrun
    obtain ⟨attributes, -, rfl⟩ := List.mem_map.mp hrun
    rfl
  let s := JobSnapshot.new id info given []
  have hmade (b : LinkedBuild) (hb : b ∈ s.builds) : b.build.failing = [] ∧ b.build.jobId = id := by
    obtain ⟨run, hrun, hbuild⟩ := JobSnapshot.exists_run_of_mem_new id info given [] hb
    rw [hbuild]
    exact ⟨hhealthy run hrun, rfl⟩
  have hsorted : StablySorted BuildInfo.number runs (s.builds.map (·.build.info)) :=
    hinfos ▸ JobSnapshot.stablySorted_new id info given []
  have hlength : s.builds.length = runs.length := by
    rw [← hsorted.perm.length_eq, List.length_map]
  have hread : s.job.builds = s.builds.map (·.build) := JobSnapshot.builds_job_new id info given []
  have hvisits := JobSnapshot.loopAt_new id info given [] List.not_mem_nil
    fun run hrun => hhealthy run hrun ▸ List.not_mem_nil
  exact {
    sorted := hsorted
    counted := by
      rw [← hlength, ← List.length_map (·.build), ← hread]
      rfl
    visits := hvisits
    ends := fun k => by
      rw [hvisits, Except.ok.injEq, List.getElem?_eq_none_iff, List.length_reverse]
      exact iff_of_eq (congrArg (· ≤ k) hlength)
    read := hread
    walked := walk_job List.not_mem_nil fun b hb => by
      rw [hread] at hb
      obtain ⟨linked, hmem, rfl⟩ := List.mem_map.mp hb
      exact (hmade linked hmem).1 ▸ List.not_mem_nil
    parents := fun b hb => by
      obtain ⟨hfailing, hjobId⟩ := hmade b hb
      exact Build.leadsTo hjobId (hfailing ▸ List.not_mem_nil) s.job
    found := fun n b => by
      rw [JobSnapshot.build?, List.find?_eq_some_iff_append]
      simp
    missing := fun n => by
      have hnone : s.build? n = none ↔ ∀ b ∈ s.builds, ¬b.build.info.number == n :=
        List.find?_eq_none
      rw [hnone]
      simp [← hsorted.perm.mem_iff] }

end BuildTelemetry
